import Warden.Flags

/-!
Well-formed flag lists: groups of a flag and at most one value that belongs to it. On such a list a
removal takes out whole groups and leaves the others as they are. A flag is told by a prefix of its
name, so a name that goes on after the wanted one is taken for it.
-/

namespace Warden.Flags

/-- A flag with the value that stands after it. A flag that holds an equals sign has none. -/
structure Group where
  flag : String
  value : Option String
  flagged : isFlag flag = true
  plain : ∀ text ∈ value, isFlag text = false
  joined : isJoined flag = true → value = none

def Group.tokens (group : Group) : List String :=
  group.flag :: group.value.toList

def spell (groups : List Group) : List String :=
  groups.flatMap Group.tokens

def Group.name (group : Group) : String :=
  String.ofList ((group.flag.toList.drop 1).takeWhile (· != '='))

def Extends (name shorter : String) : Prop :=
  shorter.toList <+: name.toList ∧ name ≠ shorter

theorem spell_cons (group : Group) (groups : List Group) :
    spell (group :: groups) = group.flag :: (group.value.toList ++ spell groups) := by
  simp [spell, Group.tokens]

theorem Group.apart {group : Group} {text : String} (value : group.value = some text) :
    isJoined group.flag = false := by
  cases joined : isJoined group.flag with
  | false => rfl
  | true => cases value.symm.trans (group.joined joined)

theorem removeFrom_spell (condition : String → Bool) (keeping : Bool) (groups : List Group) :
    removeFrom condition keeping (spell groups) =
      spell (groups.filter fun group => !condition group.flag) := by
  induction groups generalizing keeping with
  | nil => rfl
  | cons group groups ih =>
      have flagged := group.flagged
      rw [spell_cons, removeFrom, if_pos flagged]
      cases chosen : condition group.flag with
      | true =>
          rw [if_pos rfl, List.filter_cons_of_neg (by simp [chosen])]
          cases value : group.value with
          | none => exact ih _
          | some text =>
              have plain : isFlag text = false := group.plain text value
              simpa [removeFrom, Group.apart value, plain] using ih false
      | false =>
          rw [if_neg (by simp), List.filter_cons_of_pos (by simp [chosen]), spell_cons]
          cases value : group.value with
          | none => simpa using ih true
          | some text =>
              have plain : isFlag text = false := group.plain text value
              simpa [removeFrom, plain] using ih true

theorem remove_spell (condition : String → Bool) (groups : List Group) :
    remove condition (spell groups) = spell (groups.filter fun group => !condition group.flag) :=
  removeFrom_spell condition false groups

theorem Group.flag_eq (group : Group) :
    group.flag.toList = '-' :: group.flag.toList.drop 1 := by
  have flagged := group.flagged
  cases characters : group.flag.toList with
  | nil => simp [isFlag, characters] at flagged
  | cons first rest =>
      obtain rfl : first = '-' := by simpa [isFlag, characters] using flagged
      rfl

theorem Group.names_iff_prefix (group : Group) {name : String} (plain : '=' ∉ name.toList) :
    names group.flag name = true ↔ name.toList <+: group.name.toList := by
  rw [names, List.isPrefixOf_iff_prefix, group.flag_eq, List.cons_prefix_cons, Group.name,
    String.toList_ofList]
  constructor
  · rintro ⟨-, rest, whole⟩
    have inside : ∀ character ∈ name.toList, (character != '=') = true := by
      intro character member
      simpa using fun same : character = '=' => plain (same ▸ member)
    rw [← whole, List.takeWhile_append_of_pos inside]
    exact List.prefix_append _ _
  · intro begins
    exact ⟨rfl, begins.trans (List.takeWhile_prefix _)⟩

theorem Group.names_iff (group : Group) {name : String} (plain : '=' ∉ name.toList)
    (ends : ¬Extends group.name name) : names group.flag name = true ↔ group.name = name := by
  rw [group.names_iff_prefix plain]
  constructor
  · intro begins
    exact Classical.byContradiction fun different => ends ⟨begins, different⟩
  · rintro rfl
    exact List.prefix_rfl

end Warden.Flags
