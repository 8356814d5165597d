import Warden.CommandLine.Reader
import Warden.Flags

/-!
What the tokens that set something look like, and which of the flag names they begin with.
-/

namespace Warden.CommandLine

variable {token : String} {setting : Setting}

theorem named?_setting {flag : String} {joined other : Option String}
    (named : named? flag joined = some (.setting setting other)) :
    flag = setting.flag ∧ other = joined := by
  unfold named? at named
  split at named
  · cases named
  split at named
  · cases named
  obtain ⟨found, member, same⟩ := Option.map_eq_some_iff.mp named
  cases same
  have matched := List.find?_some member
  exact ⟨(beq_iff_eq.mp matched).symm, rfl⟩

theorem abbreviated?_setting {name : List Char} {joined : Option String}
    (short : abbreviated? name = some (.setting setting joined)) :
    name ≠ [] ∧ name <+: setting.name.toList ∧ joined = none := by
  unfold abbreviated? at short
  split at short
  · cases short
  · cases short
  · cases short
  next blank _ _ =>
    obtain ⟨found, member, same⟩ := Option.map_eq_some_iff.mp short
    cases same
    have matched := List.find?_some member
    exact ⟨blank, List.isPrefixOf_iff_prefix.mp matched, rfl⟩

theorem joinedParts?_eq_some {characters : List Char} {flag text : String}
    (parts : joinedParts? characters = some (flag, text)) :
    characters = flag.toList ++ '=' :: text.toList := by
  unfold joinedParts? at parts
  split at parts
  · cases parts
  next mark value rest =>
    cases parts
    have stops := List.head?_dropWhile_not (· != '=') characters
    rw [rest] at stops
    have sign : mark = '=' := by simpa using stops
    subst sign
    rw [String.toList_ofList, String.toList_ofList, ← rest, List.takeWhile_append_dropWhile]

theorem classify_setting {joined : Option String}
    (kind : classify token = .setting setting joined) :
    (∃ name, name ≠ [] ∧ name <+: setting.name.toList ∧ token.toList = '-' :: name ∧
      joined = none) ∨
    ∃ text, token.toList = '-' :: setting.name.toList ++ '=' :: text.toList ∧
      joined = some text := by
  have filled : setting.name.toList ≠ [] := by cases setting <;> decide
  unfold classify at kind
  split at kind
  · cases kind
  next rest _ whole =>
    simp only [Option.orElse_eq_orElse, Option.orElse_eq_or] at kind
    split at kind
    next meaning found =>
      subst kind
      rcases Option.or_eq_some_iff.mp found with full | ⟨_, short⟩
      · rcases Option.or_eq_some_iff.mp full with apart | ⟨_, parted⟩
        · obtain ⟨rfl, rfl⟩ := named?_setting apart
          exact .inl ⟨_, filled, List.prefix_refl _, by simp [Setting.flag], rfl⟩
        · obtain ⟨⟨flag, text⟩, parts, named⟩ := Option.bind_eq_some_iff.mp parted
          obtain ⟨rfl, rfl⟩ := named?_setting named
          exact .inr ⟨text, by simpa [Setting.flag] using joinedParts?_eq_some parts, rfl⟩
      · obtain ⟨blank, cut, rfl⟩ := abbreviated?_setting short
        exact .inl ⟨rest, blank, cut, whole, rfl⟩
    · split at kind <;> cases kind
  · cases kind

theorem Setting.eq_of_initial {other : Setting}
    (same : other.name.toList.head? = setting.name.toList.head?) : other = setting := by
  cases other <;> cases setting <;> first | rfl | exact absurd same (by decide)

theorem initial_of_names (named : Flags.names token setting.name = true) :
    token.toList.tail.head? = setting.name.toList.head? := by
  rw [Flags.names, List.isPrefixOf_iff_prefix] at named
  obtain ⟨rest, whole⟩ := named
  rw [← whole]
  cases setting <;> rfl

theorem initial_of_classify {joined : Option String}
    (kind : classify token = .setting setting joined) :
    token.toList.tail.head? = setting.name.toList.head? := by
  rcases classify_setting kind with ⟨name, filled, ⟨rest, cut⟩, whole, _⟩ | ⟨text, whole, _⟩
  · obtain ⟨first, more, rfl⟩ := List.exists_cons_of_ne_nil filled
    rw [whole, ← cut]
    rfl
  · rw [whole]
    cases setting <;> rfl

theorem eq_of_names {joined : Option String} {other : Setting}
    (kind : classify token = .setting setting joined)
    (named : Flags.names token other.name = true) : other = setting :=
  Setting.eq_of_initial ((initial_of_names named).symm.trans (initial_of_classify kind))

theorem eq_of_both_names {other : Setting} (named : Flags.names token setting.name = true)
    (also : Flags.names token other.name = true) : other = setting :=
  Setting.eq_of_initial ((initial_of_names also).symm.trans (initial_of_names named))

theorem isFlag_of_classify {joined : Option String}
    (kind : classify token = .setting setting joined) : Flags.isFlag token = true := by
  rcases classify_setting kind with ⟨name, _, _, whole, _⟩ | ⟨text, whole, _⟩
  · simp [Flags.isFlag, whole]
  · simp [Flags.isFlag, whole]

theorem isJoined_of_apart (kind : classify token = .setting setting none) :
    Flags.isJoined token = false := by
  rcases classify_setting kind with ⟨name, _, cut, whole, _⟩ | ⟨text, _, impossible⟩
  · have plain : '=' ∉ setting.name.toList := by cases setting <;> decide
    have absent : '=' ∉ name := fun member => plain (cut.subset member)
    simp [Flags.isJoined, whole, absent]
  · cases impossible

theorem classify_of_isValue (value : isValue token = true) : classify token = .value := by
  simp only [isValue, Bool.and_eq_true, beq_iff_eq] at value
  exact value.2

theorem isValue_of_classify {joined : Option String}
    (kind : classify token = .setting setting joined) : isValue token = false := by
  simp [isValue, kind]

theorem isValue_of_not_isFlag (plain : Flags.isFlag token = false) : isValue token = true := by
  have plainHead : token.toList.head? ≠ some '-' := by simpa [Flags.isFlag] using plain
  have notSeparator : token ≠ separator := by
    rintro rfl
    exact plainHead rfl
  have value : classify token = .value := by
    unfold classify
    split
    · rfl
    next whole => exact absurd (by rw [whole]; rfl) plainHead
    · rfl
  simp [isValue, notSeparator, value]

end Warden.CommandLine

namespace Warden

theorem Text.trim_append {dropped : Char → Bool} {front : List Char}
    (stays : ∀ character ∈ front, dropped character = false) (rest : List Char) :
    ∃ tail, Text.trim dropped (front ++ rest) = front ++ tail := by
  have kept {characters : List Char} (undropped : ∀ character ∈ characters,
      dropped character = false) : characters.dropWhile dropped = characters := by
    cases characters with
    | nil => rfl
    | cons first more => simp [undropped first (by simp)]
  cases front with
  | nil => exact ⟨_, rfl⟩
  | cons first more =>
      have begins : (first :: more ++ rest).dropWhile dropped = first :: more ++ rest := by
        simp [stays first (by simp)]
      have ends : (first :: more).reverse.dropWhile dropped = (first :: more).reverse :=
        kept fun character member => stays character (List.mem_reverse.mp member)
      rw [Text.trim, begins, List.reverse_append, List.dropWhile_append]
      split
      · rw [ends, List.reverse_reverse]
        exact ⟨[], by simp⟩
      · rw [List.reverse_append, List.reverse_reverse]
        exact ⟨_, rfl⟩

theorem Switch.read?_dashed {text : String} (dashed : Flags.isFlag text = true) :
    Switch.read? text = none := by
  obtain ⟨rest, whole⟩ : ∃ rest, text.toList = ['-'] ++ rest := by
    simpa [Flags.isFlag, List.head?_eq_some_iff] using dashed
  have unblank : ∀ character ∈ ['-'], Text.isBlank character = false :=
    List.forall_mem_singleton.mpr (by decide)
  obtain ⟨tail, trimmed⟩ := Text.trim_append unblank rest
  have begins : (Text.lowered (Text.strip text)).toList.head? = some '-' := by
    rw [Text.strip, whole, trimmed, Text.lowered, String.toList_ofList, String.toList_ofList]
    rfl
  have wordless : ∀ word ∈ onWords ++ offWords, word.toList.head? ≠ some '-' := by decide
  have other : Text.lowered (Text.strip text) ∉ onWords ++ offWords :=
    fun member => wordless _ member begins
  simp only [List.mem_append, not_or] at other
  simp [Switch.read?, other.1, other.2]

theorem Numeral.readWhole_named {text : String} {setting : CommandLine.Setting}
    (named : Flags.names text setting.name = true) :
    readWhole text = .error (.notWhole text) := by
  obtain ⟨letter, more, name, unblank, basic, digitless, unscored⟩ : ∃ letter more,
      setting.name.toList = letter :: more ∧ Text.isNumeralBlank letter = false ∧
        basicForm letter = letter ∧ letter.isDigit = false ∧ letter ≠ '_' := by
    cases setting <;>
      exact ⟨_, _, rfl, by decide, by decide +kernel, by decide, by decide⟩
  rw [Flags.names, List.isPrefixOf_iff_prefix, name] at named
  obtain ⟨rest, whole⟩ := named
  have front : ∀ character ∈ ['-', letter], Text.isNumeralBlank character = false := by
    simp only [List.mem_cons, List.not_mem_nil, or_false, forall_eq_or_imp, forall_eq]
    exact ⟨by decide, unblank⟩
  obtain ⟨tail, trimmed⟩ := Text.trim_append front (more ++ rest)
  have dash : basicForm '-' = '-' := by decide +kernel
  have characters : body text = '-' :: letter :: tail.map basicForm := by
    have split : text.toList = ['-', letter] ++ (more ++ rest) := by simp [← whole]
    rw [body, split, trimmed, List.map_append, List.map_cons, List.map_cons, dash, basic]
    rfl
  simp [readWhole, characters, splitSign, digitless, unscored]

end Warden
