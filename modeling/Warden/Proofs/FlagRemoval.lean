import Warden.Flags

/-!
What the removal of flags leaves. The flags that stay are exactly those that do not meet the
condition, and a list may be cut in front of any flag and its parts treated one by one.
-/

namespace Warden.Flags

variable (condition : String → Bool)

theorem removeFrom_sublist (keeping : Bool) (tokens : List String) :
    (removeFrom condition keeping tokens).Sublist tokens := by
  induction tokens generalizing keeping with
  | nil => exact .slnil
  | cons token rest ih =>
      rw [removeFrom]
      split
      · split
        · exact (ih _).cons token
        · exact (ih _).cons_cons token
      · split
        · exact (ih _).cons_cons token
        · exact (ih _).cons token

theorem flags_removeFrom (keeping : Bool) (tokens : List String) :
    (removeFrom condition keeping tokens).filter isFlag =
      (tokens.filter isFlag).filter fun token => !condition token := by
  induction tokens generalizing keeping with
  | nil => rfl
  | cons token rest ih =>
      rw [removeFrom]
      split
      next flag =>
        rw [List.filter_cons_of_pos flag]
        split
        next met => rw [List.filter_cons_of_neg (by simp [met]), ih]
        next unmet =>
          rw [List.filter_cons_of_pos flag, List.filter_cons_of_pos (by simpa using unmet), ih]
      next value =>
        rw [List.filter_cons_of_neg value]
        split
        · rw [List.filter_cons_of_neg value, ih]
        · rw [ih]

theorem mem_of_mem_removeFrom (keeping : Bool) (tokens : List String) :
    ∀ token ∈ removeFrom condition keeping tokens,
      token ∈ tokens ∧ (isFlag token = true → condition token = false) := by
  intro token member
  refine ⟨(removeFrom_sublist condition keeping tokens).subset member, fun flag => ?_⟩
  have kept := List.mem_filter.mpr ⟨member, flag⟩
  rw [flags_removeFrom] at kept
  simpa using (List.mem_filter.mp kept).2

theorem removeFrom_flags {tokens : List String} (flags : ∀ token ∈ tokens, isFlag token = true)
    (keeping : Bool) :
    removeFrom condition keeping tokens = tokens.filter fun token => !condition token := by
  have all : tokens.filter isFlag = tokens := List.filter_eq_self.mpr flags
  have kept : (removeFrom condition keeping tokens).filter isFlag =
      removeFrom condition keeping tokens :=
    List.filter_eq_self.mpr fun token member =>
      flags token ((removeFrom_sublist condition keeping tokens).subset member)
  rw [← kept, flags_removeFrom, all]

theorem removeFrom_append (keeping : Bool) (front back : List String)
    (starts : ∀ token ∈ back.head?, isFlag token = true) :
    removeFrom condition keeping (front ++ back) =
      removeFrom condition keeping front ++ remove condition back := by
  induction front generalizing keeping with
  | nil =>
      cases back with
      | nil => rfl
      | cons token rest =>
          have flag : isFlag token = true := starts token rfl
          simp [remove, removeFrom, flag]
  | cons token rest ih =>
      simp only [List.cons_append, removeFrom, ih]
      split
      · split <;> rfl
      · split <;> rfl

end Warden.Flags
