import Warden.Proofs.FlagGroups
import Warden.Proofs.ShedLadder

/-!
The launch parameters of every attempt in closed form. On a well-formed flag list the flags of an
attempt are whole groups of the given ones, chosen by their names, and its daemons are the given
ones without the first few of those that may be given up. The steps of the shed ladder are these
daemon lists, as many of them as leave one daemon running.
-/

namespace Warden.LaunchPlan

open CommandLine (Setting)
open Daemon (sheddable without)
open Flags (Group Extends spell)

/-- The daemons of an attempt. Between the first and the last reduced attempt each one runs with one
daemon fewer than the one before, as long as there is one that may be given up. -/
def scheduledDaemons (daemons order : List String) (attempt : Nat) : List String :=
  if 2 ≤ attempt ∧ attempt ≤ daemons.length then
    let steps := min (sheddable daemons order).length (daemons.length - 1)
    without daemons ((sheddable daemons order).take (min (attempt - 1) steps))
  else daemons

/-- The flags of an attempt: all but the daemon list and the supervisor switch in front of the
reduced attempts and behind them, the configuration alone in these. -/
def scheduledGroups (groups : List Group) (count attempt : Nat) : List Group :=
  groups.filter fun group =>
    if attempt = 0 ∨ count + 1 < attempt then
      group.name ≠ Setting.daemons.name ∧ group.name ≠ Setting.supervisor.name
    else group.name = Setting.config.name

/-- No flag has a name that goes on after one of those that the launcher looks for. -/
def Unextended (groups : List Group) : Prop :=
  ∀ group ∈ groups, ∀ setting ∈ [Setting.config, .supervisor, .daemons],
    ¬Extends group.name setting.name

section Flags

variable {groups : List Group}

theorem forSetting_eq {group : Group} (setting : Setting)
    (ends : ¬Extends group.name setting.name) :
    forSetting setting group.flag = decide (group.name = setting.name) := by
  have plain : '=' ∉ setting.name.toList := by cases setting <;> decide
  rw [Bool.eq_iff_iff, decide_eq_true_iff]
  exact group.names_iff plain ends

theorem baseFlags_spell (unextended : Unextended groups) (daemons order : List String) :
    (make (spell groups) daemons order).baseFlags = spell (groups.filter fun group =>
      group.name ≠ Setting.daemons.name ∧ group.name ≠ Setting.supervisor.name) := by
  rw [baseFlags, make, Flags.remove_spell, Flags.remove_spell, List.filter_filter]
  congr 1
  apply List.filter_congr
  intro group member
  have ends := unextended group member
  rw [forSetting_eq .supervisor (ends _ (by simp)), forSetting_eq .daemons (ends _ (by simp)),
    Bool.eq_iff_iff]
  simp [and_comm]

theorem configFlags_spell (unextended : Unextended groups) (daemons order : List String) :
    (make (spell groups) daemons order).configFlags =
      spell (groups.filter fun group => group.name = Setting.config.name) := by
  rw [configFlags, baseFlags_spell unextended, Flags.remove_spell, List.filter_filter]
  congr 1
  apply List.filter_congr
  intro group member
  have others : Setting.config.name ≠ Setting.daemons.name ∧
      Setting.config.name ≠ Setting.supervisor.name := by decide
  rw [forSetting_eq .config (unextended group member _ (by simp))]
  by_cases named : group.name = Setting.config.name <;> simp [named, others]

theorem flagsAt_spell (unextended : Unextended groups) (daemons order : List String)
    (attempt : Nat) :
    (make (spell groups) daemons order).flagsAt attempt =
      spell (scheduledGroups groups daemons.length attempt) := by
  have length : (make (spell groups) daemons order).daemons.length = daemons.length := rfl
  rw [flagsAt, length, scheduledGroups]
  split
  next reduced =>
    have inside : ¬(attempt = 0 ∨ daemons.length + 1 < attempt) := by omega
    simp only [inside, if_false]
    exact configFlags_spell unextended daemons order
  next full =>
    have outside : attempt = 0 ∨ daemons.length + 1 < attempt := by omega
    simp only [outside, if_true]
    exact baseFlags_spell unextended daemons order

end Flags

section Daemons

variable {daemons : List String} (distinct : daemons.Nodup) (inhabited : daemons ≠ [])
  (flags order : List String)
include distinct inhabited

theorem ladderStep_eq (index : Nat) :
    (make flags daemons order).ladderStep index =
      without daemons ((sheddable daemons order).take
        (min (index + 1) (min (sheddable daemons order).length (daemons.length - 1)))) := by
  let steps := min (sheddable daemons order).length (daemons.length - 1)
  have ladder : (make flags daemons order).ladder = (List.range steps).map fun index =>
      without daemons ((sheddable daemons order).take (index + 1)) :=
    Daemon.shedLadder_eq distinct inhabited order
  rw [ladderStep, ladder, List.length_map, List.length_range]
  change _ = without daemons ((sheddable daemons order).take (min (index + 1) steps))
  rcases Nat.eq_zero_or_pos steps with none | some
  · rw [none]
    simp [make, Daemon.without_nil]
  · have below : min index (steps - 1) < steps := by omega
    have last : min index (steps - 1) + 1 = min (index + 1) steps := by omega
    rw [List.getElem?_map, List.getElem?_range below]
    simp [last]

theorem daemonsAt_eq (attempt : Nat) :
    (make flags daemons order).daemonsAt attempt = scheduledDaemons daemons order attempt := by
  have all : (make flags daemons order).daemons = daemons := rfl
  rw [daemonsAt, scheduledDaemons, all]
  split
  next reduced =>
    have step : attempt - 2 + 1 = attempt - 1 := by omega
    rw [ladderStep_eq distinct inhabited, step]
  next => rfl

end Daemons

/-- The schedule of the launch parameters. Behind the last step all daemons are back, and after that
come the parameters of the first attempt, for good. -/
theorem resolve_scheduled {groups : List Group} {daemons : List String}
    (unextended : Unextended groups) (distinct : daemons.Nodup) (inhabited : daemons ≠ [])
    (order : List String) (attempt : Nat) :
    let plan := make (spell groups) daemons order
    let running := scheduledDaemons daemons order attempt
    plan.resolve attempt =
      ⟨spell (scheduledGroups groups daemons.length attempt) ++
        ["-supervisor=false", "-daemons", ",".intercalate running], running⟩ ∧
      plan.resolve (daemons.length + 1) = plan.resolve 1 ∧
      (daemons.length + 1 < attempt → plan.resolve attempt = plan.resolve 0) := by
  intro plan running
  have flags (attempt : Nat) := flagsAt_spell unextended daemons order attempt
  have named (attempt : Nat) := daemonsAt_eq distinct inhabited (spell groups) order attempt
  refine ⟨?_, ?_, ?_⟩
  · simp only [plan, resolve, flags, named]
    rfl
  · have reduced : scheduledGroups groups daemons.length (daemons.length + 1) =
        scheduledGroups groups daemons.length 1 := by
      simp [scheduledGroups]
    have all : scheduledDaemons daemons order (daemons.length + 1) =
        scheduledDaemons daemons order 1 := by
      have beyond : ¬daemons.length + 1 ≤ daemons.length := by omega
      simp [scheduledDaemons, beyond]
    simp only [plan, resolve, flags, named, reduced, all]
  · intro late
    have kept : scheduledGroups groups daemons.length attempt =
        scheduledGroups groups daemons.length 0 := by
      simp [scheduledGroups, late]
    have all : scheduledDaemons daemons order attempt = scheduledDaemons daemons order 0 := by
      have beyond : ¬(2 ≤ attempt ∧ attempt ≤ daemons.length) := by omega
      simp [scheduledDaemons, beyond]
    simp only [plan, resolve, flags, named, kept, all]

theorem resolve_scheduled_last_step :
    let groups : List Group :=
      [⟨"-config", some "warden.json", rfl, fun _ same => Option.some.inj same ▸ rfl,
          Bool.noConfusion⟩,
        ⟨"-supervisor=true", none, rfl, fun _ same => (Option.not_mem_none _ same).elim,
          fun _ => rfl⟩,
        ⟨"-maxworkers", some "8", rfl, fun _ same => Option.some.inj same ▸ rfl,
          Bool.noConfusion⟩]
    let daemons := ["maintenance", "dnsd", "autounlock"]
    (Unextended groups ∧ daemons.Nodup ∧ daemons ≠ []) ∧
      (make (spell groups) daemons ["maintenance", "sockd", "maintenance", "dnsd"]).resolve 3 =
        ⟨["-config", "warden.json", "-supervisor=false", "-daemons", "autounlock"],
          ["autounlock"]⟩ := by
  intro groups daemons
  have unextended : Unextended groups := by
    simp only [Unextended, groups, List.forall_mem_cons, Extends]
    decide
  have distinct : daemons.Nodup := by decide
  have inhabited : daemons ≠ [] := by decide
  refine ⟨⟨unextended, distinct, inhabited⟩, ?_⟩
  rw [(resolve_scheduled unextended distinct inhabited _ 3).1]
  rfl

end Warden.LaunchPlan
