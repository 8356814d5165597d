import Warden.Proofs.CommandLine.Naming
import Warden.Proofs.FlagAlgebra
import Warden.LaunchPlan

/-!
Flags by name. A removal is told which flags to take by the beginnings of their names, so it takes
the flags of a name, and with them those of every name that goes on after it. Where there are no
such flags, it is the name that decides, and the launches of the main program get what they should.
-/

namespace Warden

namespace Flags

/-- Whether a token is the flag of a name, alone or joined to a value. -/
def IsFlagOf (name token : String) : Prop :=
  token = "-" ++ name ∨ ("-" ++ name ++ "=").toList <+: token.toList

instance (name token : String) : Decidable (IsFlagOf name token) :=
  inferInstanceAs (Decidable (_ ∨ _))

theorem takeWhile_eq_name_iff {name rest : List Char} (plain : '=' ∉ name) :
    rest.takeWhile (· != '=') = name ↔ rest = name ∨ name ++ ['='] <+: rest := by
  have unequal : ∀ character ∈ name, (character != '=') = true := by
    intro character member
    simpa using fun same : character = '=' => plain (same ▸ member)
  constructor
  · intro stops
    have parts := List.takeWhile_append_dropWhile (p := (· != '=')) (l := rest)
    have ends := List.head?_dropWhile_not (· != '=') rest
    rw [stops] at parts
    cases after : rest.dropWhile (· != '=') with
    | nil =>
        rw [after, List.append_nil] at parts
        exact .inl parts.symm
    | cons sign value =>
        rw [after] at ends parts
        obtain rfl : sign = '=' := by simpa using ends
        exact .inr ⟨value, by rw [← parts]; simp⟩
  · rintro (rfl | ⟨value, rfl⟩)
    · have taken : (rest ++ []).takeWhile (· != '=') = rest ++ [].takeWhile (· != '=') :=
        List.takeWhile_append_of_pos unequal
      simpa using taken
    · rw [List.append_assoc, List.takeWhile_append_of_pos unequal]
      simp

theorem Group.isFlagOf_iff (group : Group) {name : String} (plain : '=' ∉ name.toList) :
    IsFlagOf name group.flag ↔ group.name = name := by
  have alone : ("-" ++ name).toList = '-' :: name.toList := by simp
  have joined : ("-" ++ name ++ "=").toList = '-' :: (name.toList ++ ['=']) := by simp
  rw [Group.name, ← String.toList_inj, String.toList_ofList, takeWhile_eq_name_iff plain, IsFlagOf,
    ← String.toList_inj, alone, joined, group.flag_eq]
  simp [List.cons_prefix_cons]

theorem Group.taken_for_iff (group : Group) {name : String} (plain : '=' ∉ name.toList) :
    (names group.flag name = true ∧ ¬IsFlagOf name group.flag) ↔ Extends group.name name := by
  rw [group.names_iff_prefix plain, group.isFlagOf_iff plain, Extends]

theorem Group.names_of_isFlagOf (group : Group) {name : String} (plain : '=' ∉ name.toList)
    (flag : IsFlagOf name group.flag) : names group.flag name = true := by
  obtain rfl := (group.isFlagOf_iff plain).mp flag
  exact (group.names_iff_prefix plain).mpr List.prefix_rfl

theorem Group.judged_by_name_iff (group : Group) {name : String} (plain : '=' ∉ name.toList) :
    names group.flag name = decide (IsFlagOf name group.flag) ↔ ¬Extends group.name name := by
  rw [← group.taken_for_iff plain]
  by_cases flag : IsFlagOf name group.flag
  · simp [flag, group.names_of_isFlagOf plain flag]
  · simp [flag]

theorem flags_spell (groups : List Group) :
    (spell groups).filter isFlag = groups.map Group.flag := by
  induction groups with
  | nil => rfl
  | cons group groups ih =>
      have values : group.value.toList.filter isFlag = [] := by
        rw [List.filter_eq_nil_iff]
        intro text member
        simp [group.plain text (Option.mem_toList.mp member)]
      rw [spell_cons, List.filter_cons_of_pos group.flagged, List.filter_append, values, ih]
      rfl

theorem mem_spell_flag_iff {groups : List Group} {token : String} :
    token ∈ spell groups ∧ isFlag token = true ↔ ∃ group ∈ groups, group.flag = token := by
  rw [← List.mem_filter, flags_spell, List.mem_map]

theorem spell_filter_eq_iff (groups : List Group) (keeps other : String → Bool) :
    spell (groups.filter fun group => keeps group.flag) =
        spell (groups.filter fun group => other group.flag) ↔
      ∀ group ∈ groups, keeps group.flag = other group.flag := by
  constructor
  · intro same group member
    have kept (choice : String → Bool) : group.flag ∈
        (spell (groups.filter fun group => choice group.flag)).filter isFlag ↔
          choice group.flag = true := by
      rw [flags_spell, List.mem_map]
      constructor
      · rintro ⟨chosen, found, flag⟩
        rw [← flag]
        exact (List.mem_filter.mp found).2
      · intro chosen
        exact ⟨group, List.mem_filter.mpr ⟨member, chosen⟩, rfl⟩
    rw [Bool.eq_iff_iff, ← kept keeps, ← kept other, same]
  · intro agree
    rw [List.filter_congr agree]

theorem remove_by_name_iff (groups : List Group) {name : String} (plain : '=' ∉ name.toList) :
    remove (names · name) (spell groups) =
        spell (groups.filter fun group => ¬IsFlagOf name group.flag) ↔
      ∀ group ∈ groups, ¬Extends group.name name := by
  rw [remove_spell, spell_filter_eq_iff groups (fun token => !names token name)
    fun token => decide ¬IsFlagOf name token]
  apply forall₂_congr
  intro group _
  rw [← group.judged_by_name_iff plain, decide_not, Bool.not_inj_iff]

theorem remove_other_names_iff (groups : List Group) {name : String} (plain : '=' ∉ name.toList) :
    remove (fun token => !names token name) (spell groups) =
        spell (groups.filter fun group => IsFlagOf name group.flag) ↔
      ∀ group ∈ groups, ¬Extends group.name name := by
  rw [remove_spell, spell_filter_eq_iff groups (fun token => !!names token name)
    fun token => decide (IsFlagOf name token)]
  apply forall₂_congr
  intro group _
  rw [← group.judged_by_name_iff plain, Bool.not_not]

end Flags

namespace LaunchPlan

open CommandLine (Setting)
open Flags (Group Extends IsFlagOf isFlag names remove spell)

theorem configFlags_spell_names (groups : List Group) (daemons order : List String) :
    (make (spell groups) daemons order).configFlags =
      spell (groups.filter fun group => forSetting .config group.flag) := by
  rw [configFlags, baseFlags, make, Flags.remove_spell, Flags.remove_spell, Flags.remove_spell,
    List.filter_filter, List.filter_filter]
  congr 1
  apply List.filter_congr
  intro group _
  cases wanted : forSetting .config group.flag with
  | false => simp
  | true =>
      have other (setting : Setting) (different : setting ≠ .config) :
          forSetting setting group.flag = false := by
        cases also : forSetting setting group.flag with
        | false => rfl
        | true => exact absurd (CommandLine.eq_of_both_names wanted also) different
      simp [other .supervisor (by simp), other .daemons (by simp)]

theorem flagsAt_reduced {plan : LaunchPlan} {attempt : Nat}
    (reduced : 1 ≤ attempt ∧ attempt ≤ plan.daemons.length + 1) :
    plan.flagsAt attempt = plan.configFlags := by
  rw [flagsAt, if_pos reduced]

theorem only_config_left_iff (groups : List Group) (daemons order : List String) :
    (∀ token ∈ (make (spell groups) daemons order).configFlags,
        isFlag token = true → IsFlagOf "config" token) ↔
      ∀ group ∈ groups, ¬Extends group.name "config" := by
  rw [configFlags_spell_names]
  have plain : '=' ∉ "config".toList := by decide
  constructor
  · intro alone group member extended
    obtain ⟨taken, unnamed⟩ := (group.taken_for_iff plain).mpr extended
    have chosen : group ∈ groups.filter fun group => forSetting .config group.flag :=
      List.mem_filter.mpr ⟨member, taken⟩
    obtain ⟨left, flag⟩ := Flags.mem_spell_flag_iff.mpr ⟨group, chosen, rfl⟩
    exact unnamed (alone _ left flag)
  · intro ends token left flag
    obtain ⟨group, chosen, rfl⟩ := Flags.mem_spell_flag_iff.mp ⟨left, flag⟩
    obtain ⟨member, taken⟩ := List.mem_filter.mp chosen
    apply Classical.byContradiction
    intro unnamed
    exact ends group member ((group.taken_for_iff plain).mp ⟨taken, unnamed⟩)

/-- Flags are selected by their names exactly where no name goes on after the one that is asked for.
Then a removal takes just the flags of the name, and its opposite leaves just these. A plan takes
the daemon list out of the flags that it is made from and nothing else, and in a reduced attempt
the child is given none of these flags but the configuration. -/
theorem selects_by_name_iff (groups : List Group) {name : String} (plain : '=' ∉ name.toList)
    (daemons order : List String) :
    let line := spell groups
    let plan := make line daemons order
    (remove (names · name) line =
          spell (groups.filter fun group => ¬IsFlagOf name group.flag) ↔
        ∀ group ∈ groups, ¬Extends group.name name) ∧
      (remove (fun token => !names token name) line =
          spell (groups.filter fun group => IsFlagOf name group.flag) ↔
        ∀ group ∈ groups, ¬Extends group.name name) ∧
      (plan.flags = spell (groups.filter fun group => ¬IsFlagOf "daemons" group.flag) ↔
        ∀ group ∈ groups, ¬Extends group.name "daemons") ∧
      ∀ attempt, 1 ≤ attempt ∧ attempt ≤ daemons.length + 1 →
        ∃ front, (plan.resolve attempt).flags = front ++
            ["-supervisor=false", "-daemons", ",".intercalate (plan.resolve attempt).daemons] ∧
          ((∀ token ∈ front, isFlag token = true → IsFlagOf "config" token) ↔
            ∀ group ∈ groups, ¬Extends group.name "config") := by
  intro line plan
  refine ⟨Flags.remove_by_name_iff groups plain, Flags.remove_other_names_iff groups plain, ?_, ?_⟩
  · exact Flags.remove_by_name_iff groups (by decide)
  · intro attempt reduced
    refine ⟨plan.flagsAt attempt, rfl, ?_⟩
    rw [flagsAt_reduced reduced]
    exact only_config_left_iff groups daemons order

theorem selects_by_name_without_extension :
    let groups : List Group :=
      [⟨"-config=warden.json", none, rfl, fun _ same => (Option.not_mem_none _ same).elim,
          fun _ => rfl⟩,
        ⟨"-maxworkers", some "8", rfl, fun _ same => Option.some.inj same ▸ rfl,
          Bool.noConfusion⟩,
        ⟨"-con", some "x", rfl, fun _ same => Option.some.inj same ▸ rfl, Bool.noConfusion⟩]
    '=' ∉ "config".toList ∧ (∀ group ∈ groups, ¬Extends group.name "config") ∧
      remove (names · "config") (spell groups) = ["-maxworkers", "8", "-con", "x"] ∧
      remove (fun token => !names token "config") (spell groups) = ["-config=warden.json"] := by
  intro groups
  have plain : '=' ∉ "config".toList := by decide
  have ends : ∀ group ∈ groups, ¬Extends group.name "config" := by
    simp only [groups, List.forall_mem_cons, Extends]
    decide
  obtain ⟨taken, kept, _⟩ := selects_by_name_iff groups plain ["httpd"] Daemon.shedOrder
  refine ⟨plain, ends, ?_, ?_⟩
  · rw [taken.mpr ends]
    decide
  · rw [kept.mpr ends]
    decide

/-- A flag whose name goes on after that of the configuration passes for it, and one whose name goes
on after that of the daemon list goes with it. -/
theorem not_selects_by_name_extended :
    let extended : Group :=
      ⟨"-configdir", some "/etc/warden", rfl, fun _ same => Option.some.inj same ▸ rfl,
        Bool.noConfusion⟩
    let listed : Group :=
      ⟨"-daemonset", some "edge", rfl, fun _ same => Option.some.inj same ▸ rfl, Bool.noConfusion⟩
    let plan := make (spell [extended, listed]) ["httpd"] Daemon.shedOrder
    ¬IsFlagOf "config" extended.flag ∧
      remove (names · "config") (spell [extended]) = [] ∧
      remove (fun token => !names token "config") (spell [extended]) =
        ["-configdir", "/etc/warden"] ∧
      (plan.resolve 1).flags =
        ["-configdir", "/etc/warden", "-supervisor=false", "-daemons", "httpd"] ∧
      ¬IsFlagOf "daemons" listed.flag ∧ plan.flags = ["-configdir", "/etc/warden"] := by
  decide

end LaunchPlan

end Warden
