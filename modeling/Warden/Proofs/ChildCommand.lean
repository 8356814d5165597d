import Warden.Proofs.CommandLine.Phrases
import Warden.Proofs.DaemonLists
import Warden.Proofs.FlagRemoval

/-!
The command line that a child is launched with. Whatever flags the launcher itself was given, those
of a child end in the switch that turns its supervisor off and in its daemon list, and no flag in
front of them can take these from it.
-/

namespace Warden

theorem Flags.isFlag_of_names {token name : String} (named : Flags.names token name = true) :
    Flags.isFlag token = true := by
  simp only [Flags.names, List.isPrefixOf_iff_prefix] at named
  obtain ⟨rest, whole⟩ := named
  simp [Flags.isFlag, ← whole]

namespace LaunchPlan

open CommandLine (Setting Reading isValue)

def switchedOff : String := Setting.supervisor.flag ++ "=false"

def closing (daemons : List String) : List String :=
  [switchedOff, Setting.daemons.flag, Daemon.joinNames daemons]

theorem resolve_flags (plan : LaunchPlan) (attempt : Nat) :
    (plan.resolve attempt).flags = plan.flagsAt attempt ++ closing (plan.daemonsAt attempt) :=
  rfl

theorem names_baseFlags (flags daemons order : List String) :
    ∀ token ∈ (make flags daemons order).baseFlags,
      Flags.names token Setting.supervisor.name = false ∧
        Flags.names token Setting.daemons.name = false := by
  intro token member
  obtain ⟨earlier, noSwitch⟩ := Flags.mem_of_mem_removeFrom _ _ _ token member
  obtain ⟨_, noList⟩ := Flags.mem_of_mem_removeFrom _ _ _ token earlier
  constructor
  · cases named : Flags.names token Setting.supervisor.name with
    | false => rfl
    | true => exact named.symm.trans (noSwitch (Flags.isFlag_of_names named))
  · cases named : Flags.names token Setting.daemons.name with
    | false => rfl
    | true => exact named.symm.trans (noList (Flags.isFlag_of_names named))

theorem names_flagsAt (flags daemons order : List String) (attempt : Nat) :
    ∀ token ∈ (make flags daemons order).flagsAt attempt,
      Flags.names token Setting.supervisor.name = false ∧
        Flags.names token Setting.daemons.name = false := by
  intro token member
  unfold flagsAt at member
  split at member
  · exact names_baseFlags flags daemons order token
      (Flags.mem_of_mem_removeFrom _ _ _ token member).1
  · exact names_baseFlags flags daemons order token member

theorem classify_switchedOff :
    CommandLine.classify switchedOff = .setting .supervisor (some "false") := by decide

theorem classify_daemonsFlag :
    CommandLine.classify Setting.daemons.flag = .setting .daemons none := by decide

theorem phrases_closing {daemons : List String} :
    CommandLine.phrases (closing daemons) = ⟨switchedOff, none⟩ ::
      if isValue (Daemon.joinNames daemons) then
        [⟨Setting.daemons.flag, some (Daemon.joinNames daemons)⟩]
      else [⟨Setting.daemons.flag, none⟩, ⟨Daemon.joinNames daemons, none⟩] := by
  have joined : CommandLine.awaits switchedOff = false := by decide
  have waits : CommandLine.awaits Setting.daemons.flag = true := by decide
  simp [closing, CommandLine.phrases, joined, waits]

theorem follow_closing {reading final : Reading} {daemons : List String} :
    reading.follow (CommandLine.phrases (closing daemons)) = some final ↔
      isValue (Daemon.joinNames daemons) = true ∧
        { reading with
          supervisor := false
          daemons := some (Daemon.joinNames daemons) } = final := by
  have switched : reading.heed ⟨switchedOff, none⟩ = some { reading with supervisor := false } := by
    rw [CommandLine.heed_joined classify_switchedOff]
    rfl
  rw [phrases_closing, CommandLine.follow_cons]
  simp only [switched, Option.some.injEq, exists_eq_left']
  split
  next value =>
    rw [CommandLine.follow_cons, CommandLine.heed_taken classify_daemonsFlag]
    simp [value, Reading.assign, Except.toOption, Reading.follow]
  next noValue =>
    rw [CommandLine.follow_cons, CommandLine.heed_bare classify_daemonsFlag]
    simp [noValue, Reading.settle, Except.toOption]

theorem read_resolve {plan : LaunchPlan} {attempt : Nat} {options : CommandLine.Options} :
    CommandLine.read (plan.resolve attempt).flags = .ok options ↔
      isValue (Daemon.joinNames (plan.daemonsAt attempt)) = true ∧
        ∃ front, Reading.follow {} (CommandLine.phrases (plan.flagsAt attempt)) = some front ∧
          options = ⟨front.config, false,
            Daemon.splitNames (Daemon.joinNames (plan.daemonsAt attempt)), front.maxWorkers⟩ := by
  have starts : ∀ token ∈ (closing (plan.daemonsAt attempt)).head?, isValue token = false := by
    rintro token ⟨⟩
    decide
  rw [CommandLine.read_eq_ok, resolve_flags, CommandLine.phrases_append starts]
  simp only [CommandLine.follow_append, follow_closing]
  constructor
  · rintro ⟨_, text, ⟨front, followed, value, rfl⟩, ⟨⟩, rfl⟩
    exact ⟨value, front, followed, rfl⟩
  · rintro ⟨value, front, followed, rfl⟩
    exact ⟨_, _, ⟨front, followed, value, rfl⟩, rfl, rfl⟩

/-- Whatever flags the launcher was given and whatever the attempt, its child runs no supervisor,
and runs the daemons of the attempt if it understands its command line at all. -/
theorem child_runs_resolved_daemons {daemons : List String} (listable : Daemon.Listable daemons)
    (flags order : List String) (attempt : Nat) :
    let child := (make flags daemons order).resolve attempt
    ∃ front, child.flags = front ++
        ["-supervisor=false", "-daemons", Daemon.joinNames child.daemons] ∧
      (∀ token ∈ front, ¬"-supervisor".toList <+: token.toList ∧
        ¬"-daemons".toList <+: token.toList) ∧
      ∀ options, CommandLine.read child.flags = .ok options →
        options.supervisor = false ∧ options.daemons = child.daemons := by
  intro child
  refine ⟨(make flags daemons order).flagsAt attempt, rfl, ?_, ?_⟩
  · intro token member
    obtain ⟨noSwitch, noList⟩ := names_flagsAt flags daemons order attempt token member
    rw [Flags.names, ← Bool.not_eq_true, List.isPrefixOf_iff_prefix] at noSwitch noList
    exact ⟨noSwitch, noList⟩
  · intro options accepted
    obtain ⟨-, front, -, rfl⟩ := read_resolve.mp accepted
    have part := daemonsAt_sublist flags daemons order attempt
    exact ⟨rfl, Daemon.splitNames_joinNames (listable.of_sublist part)⟩

theorem child_runs_resolved_daemons_dangling :
    let child (flags : List String) :=
      (make flags ["dnsd", "httpd"] Daemon.shedOrder).resolve 0
    let dangling := child ["-s", "no", "-daemons", "dnsd,httpd", "-config"]
    let whole := child ["-config", "cfg.json", "-supervisor", "-daemons=dnsd,httpd"]
    Daemon.Listable ["dnsd", "httpd"] ∧
      (∃ front, dangling.flags = front ++
          ["-supervisor=false", "-daemons", Daemon.joinNames dangling.daemons] ∧
        (∀ token ∈ front, ¬"-supervisor".toList <+: token.toList ∧
          ¬"-daemons".toList <+: token.toList) ∧
        ∀ options, CommandLine.read dangling.flags = .ok options →
          options.supervisor = false ∧ options.daemons = dangling.daemons) ∧
      ∃ options, CommandLine.read whole.flags = .ok options ∧ options.supervisor = false ∧
        options.daemons = ["dnsd", "httpd"] := by
  intro child dangling whole
  have listable : Daemon.Listable ["dnsd", "httpd"] :=
    ⟨by decide, by decide, by decide +kernel, by decide⟩
  obtain ⟨_, _, _, runs⟩ := child_runs_resolved_daemons listable
    ["-config", "cfg.json", "-supervisor", "-daemons=dnsd,httpd"] Daemon.shedOrder 0
  have accepted : CommandLine.read whole.flags =
      .ok ⟨some "cfg.json", false, ["dnsd", "httpd"], some 0⟩ := rfl
  exact ⟨listable, child_runs_resolved_daemons listable _ _ _, _, accepted, runs _ accepted⟩

end LaunchPlan

end Warden
