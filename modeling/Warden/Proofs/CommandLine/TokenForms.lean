import Mathlib.Data.List.Infix
import Warden.Proofs.CommandLine.Naming

/-!
What tokens look like. An option is the flag of a setting, which may be cut short where nothing is
joined to it. A value is any token without a dash, the dash alone, a negative number, or a token
with a space that is no option. Help aside, the reader takes tokens for options and values exactly
by these looks.
-/

namespace Warden.CommandLine

def Cuts (setting : Setting) (token : String) : Prop :=
  ∃ name, name ≠ [] ∧ name <+: setting.name.toList ∧ token.toList = '-' :: name

def Setting.joined (setting : Setting) (text : String) : String :=
  setting.flag ++ "=" ++ text

def IsOption (token : String) : Prop :=
  ∃ setting, Cuts setting token ∨ ∃ text, token = setting.joined text

def AreDigits (characters : List Char) : Prop :=
  ∀ character ∈ characters, (Text.digitValue? character).isSome = true

def IsUnsigned (characters : List Char) : Prop :=
  (characters ≠ [] ∧ AreDigits characters) ∨
    ∃ integral fraction, characters = integral ++ '.' :: fraction ∧ AreDigits integral ∧
      fraction ≠ [] ∧ AreDigits fraction

def IsNegative (token : String) : Prop :=
  ∃ unsigned ending, token.toList = '-' :: (unsigned ++ ending) ∧ IsUnsigned unsigned ∧
    (ending = [] ∨ ending = ['\n'])

def IsValue (token : String) : Prop :=
  token.toList.head? ≠ some '-' ∨ token = "-" ∨ IsNegative token ∨
    (' ' ∈ token.toList ∧ ¬IsOption token)

def AsksForHelp (token : String) : Prop :=
  "-h".toList <+: token.toList ∨ "--h".toList <+: token.toList

section Numbers

theorem isDigits_iff {characters : List Char} :
    isDigits characters = true ↔ characters ≠ [] ∧ AreDigits characters := by
  simp [isDigits, AreDigits]

theorem not_digit_point : (Text.digitValue? '.').isSome = false := by decide +kernel

theorem AreDigits.takeWhile_point {integral : List Char} (digits : AreDigits integral)
    (rest : List Char) :
    (integral ++ rest).takeWhile (· != '.') = integral ++ rest.takeWhile (· != '.') ∧
      (integral ++ rest).dropWhile (· != '.') = rest.dropWhile (· != '.') := by
  have pointless : ∀ character ∈ integral, (character != '.') = true := by
    intro character member
    rw [bne_iff_ne]
    rintro rfl
    have digit := digits _ member
    rw [not_digit_point] at digit
    cases digit
  exact ⟨List.takeWhile_append_of_pos pointless, List.dropWhile_append_of_pos pointless⟩

def isUnsigned (characters : List Char) : Bool :=
  match characters.dropWhile (· != '.') with
  | [] => isDigits (characters.takeWhile (· != '.'))
  | _ :: fraction =>
      ((characters.takeWhile (· != '.')).isEmpty || isDigits (characters.takeWhile (· != '.'))) &&
        isDigits fraction

theorem isUnsigned_iff {characters : List Char} :
    isUnsigned characters = true ↔ IsUnsigned characters := by
  constructor
  · intro checked
    have parts := List.takeWhile_append_dropWhile (p := (· != '.')) (l := characters)
    have ends := List.head?_dropWhile_not (· != '.') characters
    unfold isUnsigned at checked
    split at checked
    next rest =>
      rw [rest, List.append_nil] at parts
      rw [parts, isDigits_iff] at checked
      exact .inl checked
    next point fraction rest =>
      rw [rest] at parts ends
      obtain rfl : point = '.' := by simpa using ends
      simp only [Bool.and_eq_true, Bool.or_eq_true, List.isEmpty_iff, isDigits_iff] at checked
      refine .inr ⟨_, fraction, parts.symm, ?_, checked.2.1, checked.2.2⟩
      rcases checked.1 with empty | digits
      · simp [empty, AreDigits]
      · exact digits.2
  · rintro (⟨filled, digits⟩ | ⟨integral, fraction, rfl, digits, filled, others⟩)
    · obtain ⟨taken, rest⟩ := digits.takeWhile_point []
      rw [List.append_nil] at taken rest
      simp [isUnsigned, taken, rest, isDigits_iff, filled, digits]
    · obtain ⟨taken, rest⟩ := digits.takeWhile_point ('.' :: fraction)
      have integralFits : integral.isEmpty = true ∨ isDigits integral = true := by
        cases integral with
        | nil => exact .inl rfl
        | cons first more => exact .inr (isDigits_iff.mpr ⟨by simp, digits⟩)
      have fractionFits : isDigits fraction = true := isDigits_iff.mpr ⟨filled, others⟩
      simpa [isUnsigned, taken, rest, fractionFits] using integralFits

theorem IsUnsigned.digit_or_point {characters : List Char} (number : IsUnsigned characters) :
    ∀ character ∈ characters, (Text.digitValue? character).isSome = true ∨ character = '.' := by
  intro character member
  rcases number with ⟨_, digits⟩ | ⟨integral, fraction, rfl, digits, _, others⟩
  · exact .inl (digits character member)
  · rcases List.mem_append.mp member with front | back
    · exact .inl (digits character front)
    · rcases List.mem_cons.mp back with point | later
      · exact .inr point
      · exact .inl (others character later)

theorem IsUnsigned.ne_nil {characters : List Char} (number : IsUnsigned characters) :
    characters ≠ [] := by
  rcases number with ⟨filled, _⟩ | ⟨integral, fraction, rfl, _⟩
  · exact filled
  · simp

theorem IsUnsigned.getLast?_ne_feed {characters : List Char} (number : IsUnsigned characters) :
    characters.getLast? ≠ some '\n' := by
  intro last
  have neither : (Text.digitValue? '\n').isSome = false := by decide +kernel
  rcases number.digit_or_point '\n' (List.mem_of_getLast? last) with digit | point
  · rw [neither] at digit
    cases digit
  · cases point

theorem isNegativeNumber_iff {token : String} {rest : List Char}
    (whole : token.toList = '-' :: rest) : isNegativeNumber rest = true ↔ IsNegative token := by
  change isUnsigned (if rest.getLast? == some '\n' then rest.dropLast else rest) = true ↔ _
  rw [isUnsigned_iff, IsNegative, whole]
  constructor
  · intro number
    split at number
    next feed =>
      obtain ⟨unsigned, rfl⟩ := List.getLast?_eq_some_iff.mp (beq_iff_eq.mp feed)
      rw [List.dropLast_concat] at number
      exact ⟨unsigned, ['\n'], rfl, number, .inr rfl⟩
    next => exact ⟨rest, [], by simp, number, .inl rfl⟩
  · rintro ⟨unsigned, ending, same, number, rfl | rfl⟩
    · obtain rfl : rest = unsigned := by simpa using same
      simpa [number.getLast?_ne_feed] using number
    · obtain rfl : rest = unsigned ++ ['\n'] := by simpa using same
      simpa using number

end Numbers

section Options

variable {token : String} {setting : Setting}

theorem not_mem_name (setting : Setting) : '=' ∉ setting.name.toList := by
  cases setting <;> decide

theorem toList_joined (setting : Setting) (text : String) :
    (setting.joined text).toList = '-' :: (setting.name.toList ++ '=' :: text.toList) := by
  simp [Setting.joined, Setting.flag]

theorem classify_apart_iff : classify token = .setting setting none ↔ Cuts setting token := by
  constructor
  · intro kind
    rcases classify_setting kind with ⟨name, filled, cut, whole, _⟩ | ⟨_, _, impossible⟩
    · exact ⟨name, filled, cut, whole⟩
    · cases impossible
  · rintro ⟨name, filled, cut, whole⟩
    have each : ∀ name ∈ setting.name.toList.inits, name ≠ [] →
        classify (String.ofList ('-' :: name)) = .setting setting none := by
      cases setting <;> decide
    rw [← String.ofList_toList (s := token), whole]
    exact each name ((List.mem_inits _ _).mpr cut) filled

theorem named?_of_sign {flag : String} (sign : '=' ∈ flag.toList) : named? flag none = none := by
  have other (text : String) (plain : '=' ∉ text.toList) : (flag == text) = false := by
    rw [beq_eq_false_iff_ne]
    rintro rfl
    exact plain sign
  have unset (setting : Setting) : (setting.flag == flag) = false := by
    rw [BEq.comm]
    exact other setting.flag (by cases setting <;> decide)
  simp [named?, other helpShort (by decide), other helpLong (by decide), settings, unset]

theorem classify_joined_iff {text : String} :
    classify token = .setting setting (some text) ↔ token = setting.joined text := by
  constructor
  · intro kind
    rcases classify_setting kind with ⟨_, _, _, _, impossible⟩ | ⟨other, whole, same⟩
    · cases impossible
    · obtain rfl := Option.some.inj same
      rw [← String.toList_inj, whole, toList_joined]
      rfl
  · rintro rfl
    have whole := toList_joined setting text
    have sign : '=' ∈ (setting.joined text).toList := by simp [whole]
    have before : ∀ character ∈ '-' :: setting.name.toList, (character != '=') = true := by
      intro character member
      rw [bne_iff_ne]
      rintro rfl
      simp [not_mem_name setting] at member
    have parts : joinedParts? (setting.joined text).toList = some (setting.flag, text) := by
      rw [joinedParts?, whole, ← List.cons_append, List.dropWhile_append_of_pos before,
        List.takeWhile_append_of_pos before]
      simp [Setting.flag]
    have found : named? setting.flag (some text) = some (.setting setting (some text)) := by
      cases setting <;> rfl
    unfold classify
    split
    next impossible => simp [whole] at impossible
    next rest _ _ =>
      simp only [Option.orElse_eq_orElse, Option.orElse_eq_or]
      rw [named?_of_sign sign, parts, Option.bind_some]
      simp only [found, Option.none_or, Option.some_or]
    next impossible => exact absurd whole (impossible _)

theorem isOption_iff :
    IsOption token ↔ ∃ setting joined, classify token = .setting setting joined := by
  simp only [IsOption, ← classify_apart_iff, ← classify_joined_iff]
  constructor
  · rintro ⟨setting, apart | ⟨text, joined⟩⟩
    · exact ⟨setting, none, apart⟩
    · exact ⟨setting, some text, joined⟩
  · rintro ⟨setting, _ | text, kind⟩
    · exact ⟨setting, .inl kind⟩
    · exact ⟨setting, .inr ⟨text, kind⟩⟩

end Options

section Values

variable {token : String}

theorem named?_cases {flag : String} {joined : Option String} {meaning : Token}
    (named : named? flag joined = some meaning) :
    (meaning = .help false joined ∧ flag = helpShort) ∨
      (meaning = .help true joined ∧ flag = helpLong) ∨
      ∃ setting, meaning = .setting setting joined := by
  unfold named? at named
  split at named
  next short => exact .inl ⟨(Option.some.inj named).symm, by simpa using short⟩
  split at named
  next long => exact .inr (.inl ⟨(Option.some.inj named).symm, by simpa using long⟩)
  next =>
    obtain ⟨setting, _, same⟩ := Option.map_eq_some_iff.mp named
    exact .inr (.inr ⟨setting, same.symm⟩)

theorem abbreviated?_cases {name : List Char} {meaning : Token}
    (short : abbreviated? name = some meaning) :
    (∃ attached joined, name = 'h' :: attached ∧ meaning = .help false joined) ∨
      ∃ setting, meaning = .setting setting none := by
  unfold abbreviated? at short
  split at short
  · cases short
  · cases short
  next attached =>
    exact .inl ⟨attached, _, rfl, (Option.some.inj short).symm⟩
  next =>
    obtain ⟨setting, _, same⟩ := Option.map_eq_some_iff.mp short
    exact .inr ⟨setting, same.symm⟩

theorem classify_cases {rest : List Char} (whole : token.toList = '-' :: rest)
    (filled : rest ≠ []) :
    (∃ setting joined, classify token = .setting setting joined) ∨
      (AsksForHelp token ∧ ∃ long joined, classify token = .help long joined) ∨
      classify token = if isNegativeNumber rest || rest.contains ' ' then .value else .unknown := by
  have asks (flag : String) (help : flag = helpShort ∨ flag = helpLong)
      (begins : flag.toList <+: token.toList) : AsksForHelp token := by
    rcases help with rfl | rfl
    · exact .inl begins
    · exact .inr (List.IsPrefix.trans (by decide) begins)
  have attached {joined : Option String} {flag : String} {meaning : Token}
      (begins : flag.toList <+: token.toList) (named : named? flag joined = some meaning) :
      (∃ setting joined, meaning = .setting setting joined) ∨
        (AsksForHelp token ∧ ∃ long joined, meaning = .help long joined) := by
    rcases named?_cases named with ⟨same, short⟩ | ⟨same, long⟩ | ⟨setting, same⟩
    · exact .inr ⟨asks flag (.inl short) begins, _, _, same⟩
    · exact .inr ⟨asks flag (.inr long) begins, _, _, same⟩
    · exact .inl ⟨setting, _, same⟩
  unfold classify
  split
  next impossible =>
    rw [whole] at impossible
    exact absurd (List.cons.inj impossible).2 filled
  next others _ same =>
    obtain rfl : rest = others := (List.cons.inj (whole.symm.trans same)).2
    simp only [Option.orElse_eq_orElse, Option.orElse_eq_or]
    split
    next meaning found =>
      rw [← or_assoc]
      refine .inl ?_
      rcases Option.or_eq_some_iff.mp found with full | ⟨_, short⟩
      · rcases Option.or_eq_some_iff.mp full with apart | ⟨_, parted⟩
        · exact attached List.prefix_rfl apart
        · obtain ⟨⟨flag, text⟩, parts, named⟩ := Option.bind_eq_some_iff.mp parted
          exact attached ⟨_, (joinedParts?_eq_some parts).symm⟩ named
      · rcases abbreviated?_cases short with ⟨more, joined, rfl, asked⟩ | ⟨setting, asked⟩
        · exact .inr ⟨.inl ⟨more, whole.symm⟩, _, _, asked⟩
        · exact .inl ⟨setting, _, asked⟩
    next => exact .inr (.inr rfl)
  next impossible => exact absurd whole (impossible _)

theorem asksForHelp_of_classify {long : Bool} {joined : Option String}
    (kind : classify token = .help long joined) : AsksForHelp token := by
  by_cases dashed : ∃ rest, token.toList = '-' :: rest ∧ rest ≠ []
  · obtain ⟨rest, whole, filled⟩ := dashed
    rcases classify_cases whole filled with ⟨_, _, other⟩ | ⟨help, _⟩ | other
    · rw [other] at kind
      cases kind
    · exact help
    · rw [other] at kind
      split at kind <;> cases kind
  · unfold classify at kind
    split at kind
    · cases kind
    next blank whole => exact absurd ⟨_, whole, blank⟩ dashed
    · cases kind

theorem IsNegative.not_isOption (negative : IsNegative token) : ¬IsOption token := by
  intro option
  obtain ⟨setting, joined, kind⟩ := isOption_iff.mp option
  obtain ⟨unsigned, ending, whole, number, _⟩ := negative
  obtain ⟨first, more, rfl⟩ := List.exists_cons_of_ne_nil number.ne_nil
  have initial := initial_of_classify kind
  rw [whole, List.tail_cons, List.cons_append, List.head?_cons] at initial
  have letter : (Text.digitValue? first).isSome = false ∧ first ≠ '.' := by
    cases setting <;> cases initial <;> exact ⟨by decide +kernel, by decide⟩
  rcases number.digit_or_point first List.mem_cons_self with digit | point
  · rw [letter.1] at digit
    cases digit
  · exact letter.2 point

theorem classify_value_iff (helpless : ¬AsksForHelp token) :
    classify token = .value ↔ IsValue token := by
  by_cases dashed : token.toList.head? = some '-'
  · obtain ⟨rest, whole⟩ := List.head?_eq_some_iff.mp dashed
    by_cases filled : rest = []
    · have dash : token = "-" := by
        rw [← String.toList_inj, whole, filled]
        rfl
      subst dash
      exact iff_of_true rfl (.inr (.inl rfl))
    · have longer : token ≠ "-" := by
        rintro rfl
        exact filled (List.cons.inj whole).2.symm
      have space : ' ' ∈ token.toList ↔ ' ' ∈ rest := by simp [whole]
      rcases classify_cases whole filled with ⟨setting, joined, kind⟩ | ⟨help, _⟩ | kind
      · have option : IsOption token := isOption_iff.mpr ⟨setting, joined, kind⟩
        have positive : ¬IsNegative token := fun negative => negative.not_isOption option
        simp [IsValue, kind, dashed, longer, positive, option]
      · exact absurd help helpless
      · have unoptional : ¬IsOption token := by
          intro option
          obtain ⟨setting, joined, same⟩ := isOption_iff.mp option
          rw [kind] at same
          split at same <;> cases same
        rw [kind, IsValue, ← isNegativeNumber_iff whole, space]
        cases isNegativeNumber rest <;> simp [dashed, longer, unoptional]
  · have plain : Flags.isFlag token = false := by simpa [Flags.isFlag] using dashed
    exact iff_of_true (classify_of_isValue (isValue_of_not_isFlag plain)) (.inl dashed)

end Values

end Warden.CommandLine
