import Warden.Proofs.FlagGroups
import Warden.Proofs.FlagRemoval

/-!
The laws of removal. On a well-formed list a removal is a selection of groups, so two of them come
to one, in either order. A list is well formed if each of its values has a flag in front of it that
waits for one, which can be seen token by token. Of the laws, two hold on any list: a removal keeps
the order of what it leaves, and it leaves the flags that do not meet its condition.
-/

namespace Warden.Flags

def isWellFormedFrom : Bool → List String → Bool
  | _, [] => true
  | expecting, token :: rest =>
      if isFlag token then isWellFormedFrom (!isJoined token) rest
      else expecting && isWellFormedFrom false rest

def isWellFormed (tokens : List String) : Bool :=
  isWellFormedFrom false tokens

theorem isWellFormedFrom_spell (expecting : Bool) (groups : List Group) :
    isWellFormedFrom expecting (spell groups) = true := by
  induction groups generalizing expecting with
  | nil => rfl
  | cons group groups ih =>
      rw [spell_cons, isWellFormedFrom, if_pos group.flagged]
      cases value : group.value with
      | none => exact ih _
      | some text =>
          have plain : isFlag text = false := group.plain text value
          simpa [isWellFormedFrom, plain, Group.apart value] using ih false

theorem spelled_of_isWellFormedFrom {expecting : Bool} {tokens : List String}
    (checked : isWellFormedFrom expecting tokens = true) :
    ∃ (value : Option String) (groups : List Group), value.toList ++ spell groups = tokens ∧
      (∀ text ∈ value, isFlag text = false) ∧ (expecting = false → value = none) := by
  induction tokens generalizing expecting with
  | nil => exact ⟨none, [], rfl, by simp, fun _ => rfl⟩
  | cons token rest ih =>
      rw [isWellFormedFrom] at checked
      split at checked
      next flag =>
        obtain ⟨value, groups, rfl, plain, joined⟩ := ih checked
        let group : Group := ⟨token, value, flag, plain, fun joins => joined (by simp [joins])⟩
        exact ⟨none, group :: groups, spell_cons group groups, by simp, fun _ => rfl⟩
      next plain =>
        obtain ⟨expected, later⟩ := Bool.and_eq_true_iff.mp checked
        obtain ⟨value, groups, rfl, _, alone⟩ := ih later
        obtain rfl : value = none := alone rfl
        refine ⟨some token, groups, rfl, by simpa using plain, ?_⟩
        exact fun unexpected => by simp [unexpected] at expected

theorem isWellFormed_iff {tokens : List String} :
    isWellFormed tokens = true ↔ ∃ groups, spell groups = tokens := by
  constructor
  · intro checked
    obtain ⟨value, groups, rfl, _, alone⟩ := spelled_of_isWellFormedFrom checked
    obtain rfl : value = none := alone rfl
    exact ⟨groups, rfl⟩
  · rintro ⟨groups, rfl⟩
    exact isWellFormedFrom_spell false groups

example : isWellFormed ["-config", "warden.json", "-supervisor=false", "-daemons", "httpd"] := by
  decide

theorem remove_remove (condition other : String → Bool) (groups : List Group) :
    remove condition (remove other (spell groups)) =
      remove (fun token => condition token || other token) (spell groups) := by
  simp only [remove_spell, List.filter_filter, Bool.not_or]

/-- A removal of flags is a selection of groups. What is left of a well-formed list is well formed,
two removals are one removal of what either of them takes, their order makes no difference, and a
second one of the same flags takes nothing. From any list a removal takes tokens without moving the
others, and of its flags just those that meet the condition. -/
theorem remove_selects_groups (condition other : String → Bool) (groups : List Group)
    (tokens : List String) :
    let line := spell groups
    remove condition line = spell (groups.filter fun group => !condition group.flag) ∧
      isWellFormed (remove condition line) = true ∧
      remove condition (remove other line) =
        remove (fun token => condition token || other token) line ∧
      remove condition (remove other line) = remove other (remove condition line) ∧
      remove condition (remove condition line) = remove condition line ∧
      (remove condition tokens).Sublist tokens ∧
      (remove condition tokens).filter isFlag =
        (tokens.filter isFlag).filter fun token => !condition token := by
  intro line
  have selected := remove_spell condition groups
  refine ⟨selected, ?_, remove_remove condition other groups, ?_, ?_,
    removeFrom_sublist condition false tokens, flags_removeFrom condition false tokens⟩
  · exact isWellFormed_iff.mpr ⟨_, selected.symm⟩
  · simp only [line, remove_remove, Bool.or_comm]
  · simp only [line, remove_remove, Bool.or_self]

end Warden.Flags
