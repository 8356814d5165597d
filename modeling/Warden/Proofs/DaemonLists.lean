import Mathlib.Data.List.Basic
import Warden.LaunchPlan

/-!
Lists of daemon names on their way through the command line and down the shed ladder. A list of
proper names is read back from its written form, and every step of the ladder is such a list again.
-/

namespace Warden.Daemon

/-- Lists that a command line can carry: distinct names that are neither blank nor padded and that
hold no comma. -/
structure Listable (names : List String) : Prop where
  distinct : names.Nodup
  filled : ∀ name ∈ names, name ≠ ""
  stripped : ∀ name ∈ names, Text.strip name = name
  commaFree : ∀ name ∈ names, ',' ∉ name.toList

theorem Listable.of_sublist {names part : List String} (listable : Listable names)
    (sub : part.Sublist names) : Listable part where
  distinct := sub.nodup listable.distinct
  filled := fun name member => listable.filled name (sub.subset member)
  stripped := fun name member => listable.stripped name (sub.subset member)
  commaFree := fun name member => listable.commaFree name (sub.subset member)

theorem eraseDups_of_nodup {names : List String} (distinct : names.Nodup) :
    names.eraseDups = names := by
  induction names with
  | nil => rfl
  | cons name rest ih =>
      obtain ⟨fresh, later⟩ := List.nodup_cons.mp distinct
      have kept : rest.filter (fun other => !other == name) = rest := by
        rw [List.filter_eq_self]
        intro other member
        have different : other ≠ name := fun same => fresh (same ▸ member)
        simpa using different
      rw [List.eraseDups_cons, kept, ih later]

theorem idxOf_lt_of_filter (keeps : String → Bool) {names : List String} {earlier later : String}
    (kept : keeps earlier = true) (also : keeps later = true)
    (before : (names.filter keeps).idxOf earlier < (names.filter keeps).idxOf later) :
    names.idxOf earlier < names.idxOf later := by
  induction names with
  | nil => simp at before
  | cons name rest ih =>
      cases chosen : keeps name with
      | true =>
          rw [List.filter_cons_of_pos chosen, List.idxOf_cons, List.idxOf_cons] at before
          rw [List.idxOf_cons, List.idxOf_cons]
          cases first : name == earlier <;> cases second : name == later <;>
            simp only [first, second, cond_true, cond_false] at before ⊢ <;> omega
      | false =>
          rw [List.filter_cons_of_neg (by simp [chosen])] at before
          have different : name ≠ earlier := by
            rintro rfl
            simp [kept] at chosen
          have other : name ≠ later := by
            rintro rfl
            simp [also] at chosen
          rw [List.idxOf_cons_ne _ different, List.idxOf_cons_ne _ other]
          exact Nat.succ_lt_succ (ih before)

theorem ordered_eraseDups (names : List String) :
    names.eraseDups.Pairwise fun earlier later => names.idxOf earlier < names.idxOf later := by
  induction length : names.length using Nat.strongRecOn generalizing names with
  | ind count ih =>
      cases names with
      | nil => simp
      | cons name rest =>
          have shorter := List.length_filter_le (fun other => !other == name) rest
          simp only [List.length_cons] at length
          have ordered := ih _ (by omega) (rest.filter fun other => !other == name) rfl
          have others : ∀ other ∈ (rest.filter fun other => !other == name).eraseDups,
              (!other == name) = true :=
            fun other member => (List.mem_filter.mp (List.mem_eraseDups.mp member)).2
          rw [List.eraseDups_cons, List.pairwise_cons]
          constructor
          · intro other member
            have different : name ≠ other := by
              rintro rfl
              simpa using others name member
            rw [List.idxOf_cons_self, List.idxOf_cons_ne _ different]
            exact Nat.succ_pos _
          · refine ordered.imp_of_mem ?_
            intro earlier later first second before
            refine idxOf_lt_of_filter (!· == name) (others _ first) (others _ second) ?_
            rwa [List.filter_cons_of_neg (by simp)]

theorem nodup_eraseDups (names : List String) : names.eraseDups.Nodup := by
  refine (ordered_eraseDups names).imp ?_
  rintro name _ before rfl
  exact Nat.lt_irrefl _ before

theorem commaPieces_joinNames {names : List String} (inhabited : names ≠ [])
    (commaFree : ∀ name ∈ names, ',' ∉ name.toList) :
    Text.commaPieces (joinNames names) = names := by
  have pieces : (joinNames names).toList.splitOn ',' = names.map String.toList := by
    rw [joinNames, String.toList_intercalate]
    exact List.splitOn_intercalate ',' (by simpa using commaFree) (by simpa using inhabited)
  rw [Text.commaPieces, pieces, List.map_map]
  simp

theorem splitNames_joinNames {names : List String} (listable : Listable names) :
    splitNames (joinNames names) = names := by
  by_cases empty : names = []
  · subst empty
    rfl
  · have stripped : names.map Text.strip = names :=
      (List.map_congr_left listable.stripped).trans (by simp)
    have filled : names.filter (fun name => !name.isEmpty) = names := by
      rw [List.filter_eq_self]
      intro name member
      simpa using listable.filled name member
    rw [splitNames, commaPieces_joinNames empty listable.commaFree, stripped, filled,
      eraseDups_of_nodup listable.distinct]

theorem splitNames_nodup (text : String) : (splitNames text).Nodup :=
  nodup_eraseDups _

theorem ne_empty_of_mem_splitNames {text name : String} (member : name ∈ splitNames text) :
    name ≠ "" := by
  simp only [splitNames, List.mem_eraseDups, List.mem_filter] at member
  simpa using member.2

theorem isFlag_joinNames {names : List String} (inhabited : names ≠ [])
    (filled : ∀ name ∈ names, name ≠ "")
    (undashed : ∀ name ∈ names.head?, Flags.isFlag name = false) :
    Flags.isFlag (joinNames names) = false := by
  cases names with
  | nil => exact absurd rfl inhabited
  | cons name rest =>
      have plain := undashed name rfl
      obtain ⟨first, more, letters⟩ : ∃ first more, name.toList = first :: more :=
        List.exists_cons_of_ne_nil (by simpa using filled name (by simp))
      have begins : ∃ tail, (joinNames (name :: rest)).toList = first :: tail := by
        rw [joinNames, String.toList_intercalate, List.map_cons, letters]
        cases rest.map String.toList with
        | nil => exact ⟨more, by simp [List.intercalate]⟩
        | cons next others => exact ⟨_, by simp [List.intercalate]; rfl⟩
      obtain ⟨tail, whole⟩ := begins
      simpa [Flags.isFlag, whole, letters] using plain

theorem shedLadder_sublist (remaining order : List String) :
    ∀ step ∈ shedLadder remaining order, step.Sublist remaining := by
  induction order generalizing remaining with
  | nil => simp [shedLadder]
  | cons candidate order ih =>
      intro step member
      simp only [shedLadder] at member
      split at member
      · cases member
      split at member
      · rcases List.mem_cons.mp member with rfl | later
        · exact List.filter_sublist
        · exact (ih _ step later).trans List.filter_sublist
      · exact ih remaining step member

theorem shedLadder_ne_nil {remaining : List String} (distinct : remaining.Nodup)
    (order : List String) : ∀ step ∈ shedLadder remaining order, step ≠ [] := by
  induction order generalizing remaining with
  | nil => simp [shedLadder]
  | cons candidate order ih =>
      intro step member
      simp only [shedLadder] at member
      split at member
      · cases member
      next several =>
        split at member
        next running =>
          rcases List.mem_cons.mp member with rfl | later
          · intro empty
            have all : ∀ name ∈ remaining, name = candidate := by
              simpa using List.filter_eq_nil_iff.mp empty
            match remaining with
            | [] => cases running
            | [_] => exact several rfl
            | first :: second :: _ =>
                have same : first = second :=
                  (all first (by simp)).trans (all second (by simp)).symm
                simp [same] at distinct
          · exact ih (List.filter_sublist.nodup distinct) step later
        next => exact ih distinct step member

end Warden.Daemon

namespace Warden.LaunchPlan

theorem daemonsAt_cases (plan : LaunchPlan) (attempt : Nat) :
    plan.daemonsAt attempt ∈ plan.ladder ∨ plan.daemonsAt attempt = plan.daemons := by
  unfold daemonsAt
  split
  · unfold ladderStep
    cases found : plan.ladder[min (attempt - 2) (plan.ladder.length - 1)]? with
    | none => exact .inr rfl
    | some step => exact .inl (List.mem_of_getElem? found)
  · exact .inr rfl

variable (flags daemons order : List String) (attempt : Nat)

theorem daemonsAt_sublist : ((make flags daemons order).daemonsAt attempt).Sublist daemons := by
  rcases daemonsAt_cases (make flags daemons order) attempt with step | all
  · exact Daemon.shedLadder_sublist daemons order _ step
  · rw [all]
    exact List.Sublist.refl _

theorem daemonsAt_ne_nil (inhabited : daemons ≠ []) (distinct : daemons.Nodup) :
    (make flags daemons order).daemonsAt attempt ≠ [] := by
  rcases daemonsAt_cases (make flags daemons order) attempt with step | all
  · exact Daemon.shedLadder_ne_nil distinct order _ step
  · rw [all]
    exact inhabited

end Warden.LaunchPlan
