import Mathlib.Data.List.TakeDrop
import Mathlib.Data.List.TakeWhile
import Warden.AddressHeader.Printer
import Warden.Proofs.Utf8Reading

/-!
Address headers that are read back as they are written. A plain address has a local part and a
domain, both of them of atoms with points between them, and holds nothing that the readers give a
meaning to. A list of plain addresses is a header that says just what is written in it.
-/

namespace Warden.AddressHeader

open Text

/-- A character without a meaning in an address header. The question mark belongs to the marks of an
encoded word. -/
def isPlain (character : Char) : Bool :=
  !isSpecial character && !isBlank character && character != '?'

def isDotAtom (text : List Symbol) : Bool :=
  (text.splitOn (.character '.')).all fun atom => !atom.isEmpty && atom.all (·.fits isPlain)

def isPlainAddress (address : String) : Bool :=
  match (written address).splitOn (.character '@') with
  | [localPart, domain] => isDotAtom localPart && isDotAtom domain
  | _ => false

theorem fits_eq_false_of_isPlain {kind : Char → Bool} {symbol : Symbol}
    (apart : ∀ character, kind character = true → isPlain character = false)
    (plain : symbol.fits isPlain = true) : symbol.fits kind = false := by
  cases symbol with
  | character value =>
      cases fits : kind value with
      | false => exact fits
      | true =>
          rw [show Symbol.fits isPlain (.character value) = _ from apart value fits] at plain
          cases plain
  | raw byte => rfl
  | half unit => rfl

theorem isBlank_of_isFold {character : Char} (fold : isFold character = true) :
    isBlank character = true := by
  simp only [isFold, Bool.or_eq_true, beq_iff_eq] at fold
  obtain rfl | rfl := fold <;> rfl

theorem not_isPlain_of_isSpecial (character : Char) (special : isSpecial character = true) :
    isPlain character = false := by
  simp [isPlain, special]

theorem not_isPlain_of_isBlank (character : Char) (blank : isBlank character = true) :
    isPlain character = false := by
  simp [isPlain, blank]

theorem not_isPlain_of_endsAtom (character : Char) (ends : endsAtom character = true) :
    isPlain character = false := by
  rcases Bool.or_eq_true_iff.mp ends with special | fold
  · exact not_isPlain_of_isSpecial character special
  · exact not_isPlain_of_isBlank character (isBlank_of_isFold fold)

theorem not_isPlain_of_endsPhrase (character : Char) (ends : endsPhrase character = true) :
    isPlain character = false :=
  not_isPlain_of_isSpecial character (Bool.and_eq_true_iff.mp ends).1

theorem not_isPlain_of_eq {mark : Char} (meaningful : isPlain mark = false) (character : Char)
    (same : (character == mark) = true) : isPlain character = false := by
  rwa [beq_iff_eq.mp same]

def Closes (rest : List Symbol) : Prop :=
  rest = [] ∨ (∃ behind, rest = .character '@' :: behind) ∨ ∃ behind, rest = .character ',' :: behind

def AreAtomic (text : List Symbol) : Prop :=
  ∀ symbol ∈ text, symbol.fits isPlain = true ∨ symbol = .character '.'

def StartsPlain (text : List Symbol) : Prop :=
  ∃ first rest, text = first :: rest ∧ first.fits isPlain = true

variable {text rest before : List Symbol}

theorem areAtomic_of_isDotAtom (dotAtom : isDotAtom text = true) : AreAtomic text := by
  intro symbol member
  have whole : [Symbol.character '.'].intercalate (text.splitOn (.character '.')) = text :=
    List.intercalate_splitOn _
  rw [← whole] at member
  simp only [isDotAtom, List.all_eq_true, Bool.and_eq_true] at dotAtom
  generalize text.splitOn (.character '.') = atoms at member dotAtom
  induction atoms with
  | nil => cases member
  | cons atom others ih =>
      obtain ⟨⟨_, plain⟩, later⟩ := List.forall_mem_cons.mp dotAtom
      cases others with
      | nil => exact .inl (plain symbol (by simpa using member))
      | cons second more =>
          rw [List.intercalate_cons_cons, List.append_assoc, List.mem_append] at member
          rcases member with here | there
          · exact .inl (plain symbol here)
          · rcases List.mem_append.mp there with point | after
            · exact .inr (List.mem_singleton.mp point)
            · exact ih after later

theorem startsPlain_of_isDotAtom (dotAtom : isDotAtom text = true) : StartsPlain text := by
  have whole : [Symbol.character '.'].intercalate (text.splitOn (.character '.')) = text :=
    List.intercalate_splitOn _
  simp only [isDotAtom, List.all_eq_true, Bool.and_eq_true] at dotAtom
  cases split : text.splitOn (.character '.') with
  | nil => exact absurd split (List.splitOn_ne_nil _ _)
  | cons atom others =>
      rw [split] at whole dotAtom
      obtain ⟨some, plain⟩ := dotAtom atom List.mem_cons_self
      cases atom with
      | nil => cases some
      | cons first inner =>
          obtain ⟨tail, same⟩ : ∃ tail, text = first :: tail := by
            rw [← whole]
            cases others with
            | nil => exact ⟨inner, by simp⟩
            | cons second more => exact ⟨_, by rw [List.intercalate_cons_cons]; rfl⟩
          exact ⟨first, tail, same, plain first List.mem_cons_self⟩

/-! Scanning -/

theorem span_append {kind : Symbol → Bool} (inside : ∀ symbol ∈ text, kind symbol = true)
    (outside : ∀ symbol ∈ rest.head?, kind symbol = false) :
    (text ++ rest).span kind = (text, rest) := by
  rw [List.span_eq_takeWhile_dropWhile, List.takeWhile_append_of_pos inside,
    List.dropWhile_append_of_pos inside]
  cases rest with
  | nil => simp
  | cons symbol behind => simp [outside symbol rfl]

theorem StartsPlain.starts_eq_false {kind : Char → Bool} (plain : StartsPlain text)
    (apart : ∀ character, kind character = true → isPlain character = false)
    (rest : List Symbol) : starts kind (text ++ rest) = false := by
  obtain ⟨first, inner, rfl, fits⟩ := plain
  exact fits_eq_false_of_isPlain apart fits

def isGapMark (character : Char) : Bool :=
  isBlank character || character == '('

theorem not_isPlain_of_isGapMark (character : Char) (mark : isGapMark character = true) :
    isPlain character = false := by
  rcases Bool.or_eq_true_iff.mp mark with blank | opening
  · exact not_isPlain_of_isBlank character blank
  · obtain rfl := beq_iff_eq.mp opening
    rfl

theorem gapFrom_of_closed (closed : starts isGapMark text = false) (blank : Bool) :
    gapFrom (.between blank) text = ([], text) := by
  cases text with
  | nil => rfl
  | cons first inner =>
      have unblank : first.fits isBlank = false := by
        cases first <;> simp_all [starts, Symbol.fits, Symbol.character?, isGapMark]
      have unfolded : first.fits isFold = false := by
        cases first with
        | character value =>
            cases fold : isFold value with
            | false => exact fold
            | true =>
                rw [show Symbol.fits isBlank (.character value) = _ from isBlank_of_isFold fold]
                  at unblank
                cases unblank
        | raw byte => rfl
        | half unit => rfl
      have open_ : first ≠ .character '(' := by
        rintro rfl
        cases closed
      simp [gapFrom, Place.next?, unblank, unfolded, open_]

/-- The gap in front of an address: none, or the blank behind a comma. -/
def IsLead (lead : List Symbol) : Prop :=
  lead = [] ∨ lead = [.character ' ']

theorem StartsPlain.gap_eq (plain : StartsPlain text) (lead : IsLead before)
    (rest : List Symbol) : gap (before ++ (text ++ rest)) = (before, text ++ rest) := by
  have closed (blank : Bool) : gapFrom (.between blank) (text ++ rest) = ([], text ++ rest) :=
    gapFrom_of_closed (plain.starts_eq_false not_isPlain_of_isGapMark rest) blank
  obtain rfl | rfl := lead
  · exact closed false
  · have blank : Place.next? (.between false) (.character ' ') =
        some ([.character ' '], .between true) := rfl
    simp [gap, gapFrom, blank, closed]

theorem Closes.starts_eq_false {kind : Char → Bool} (closes : Closes rest)
    (at_ : kind '@' = false) (comma : kind ',' = false) : starts kind rest = false := by
  obtain rfl | ⟨behind, rfl⟩ | ⟨behind, rfl⟩ := closes
  · rfl
  · exact at_
  · exact comma

theorem Closes.gap_eq (closes : Closes rest) : gap rest = ([], rest) :=
  gapFrom_of_closed (closes.starts_eq_false rfl rfl) false

theorem AreAtomic.span_eq (atomic : AreAtomic text) (closes : Closes rest) :
    (text ++ rest).span (fun symbol => !symbol.fits endsDotAtom) = (text, rest) := by
  refine span_append (fun symbol member => ?_) (fun symbol head => ?_)
  · rcases atomic symbol member with plain | rfl
    · rw [fits_eq_false_of_isPlain (fun character ends => ?_) plain]
      · rfl
      · exact not_isPlain_of_endsAtom character (Bool.and_eq_true_iff.mp ends).1
    · rfl
  · obtain rfl | ⟨behind, rfl⟩ | ⟨behind, rfl⟩ := closes <;> cases head <;> rfl

theorem AreAtomic.not_opensWord (atomic : AreAtomic text) (closes : Closes rest) :
    HeaderPart.opensWord (text ++ rest) = false := by
  have other (symbol : Symbol) (member : symbol ∈ text) : symbol ≠ .character '?' := by
    rintro rfl
    rcases atomic _ member with plain | point
    · cases plain
    · cases point
  cases text with
  | nil => obtain rfl | ⟨behind, rfl⟩ | ⟨behind, rfl⟩ := closes <;> rfl
  | cons first inner =>
      cases inner with
      | nil =>
          obtain rfl | ⟨behind, rfl⟩ | ⟨behind, rfl⟩ := closes <;>
            simp [HeaderPart.opensWord]
      | cons second more =>
          have apart := other second (by simp)
          simp only [List.cons_append]
          unfold HeaderPart.opensWord
          split
          · simp_all
          · rfl

theorem read?_eq_none (closed : HeaderPart.opensWord text = false) :
    EncodedWord.read? text = none := by
  unfold EncodedWord.read?
  split
  · cases closed
  · rfl

theorem dotAtom?_eq (dotAtom : isDotAtom text = true) (closes : Closes rest) :
    dotAtom? (text ++ rest) = some (.atom text, rest) := by
  have atomic := areAtomic_of_isDotAtom dotAtom
  have inhabited : (text.splitOn (.character '.')).any List.isEmpty = false := by
    simp only [isDotAtom, List.all_eq_true, Bool.and_eq_true] at dotAtom
    rw [List.any_eq_false]
    intro atom member
    simpa using (dotAtom atom member).1
  rw [dotAtom?, encodedOr, read?_eq_none (atomic.not_opensWord closes), dotAtomText?,
    atomic.span_eq closes]
  simp [inhabited]

/-! Phrases -/

theorem manyM_of_none {m : Type → Type} [Monad m] [LawfulMonad m] {α : Type}
    {step : List Symbol → m (Option (α × List Symbol))} (stops : step text = pure none) :
    manyM step text = pure ([], text) := by
  rw [manyM, stops, pure_bind]

theorem manyM_of_some {m : Type → Type} [Monad m] [LawfulMonad m] {α : Type}
    {step : List Symbol → m (Option (α × List Symbol))} {item : α}
    (takes : step text = pure (some (item, rest))) (shorter : rest.length < text.length) :
    manyM step text = (fun more => (item :: more.1, more.2)) <$> manyM step rest := by
  rw [manyM, takes, pure_bind]
  simp [shorter]

theorem many_of_none {α : Type} {step : List Symbol → Option (α × List Symbol)}
    (stops : step text = none) : many step text = ([], text) := by
  rw [many, manyM_of_none (congrArg pure stops)]
  rfl

theorem many_of_some {α : Type} {step : List Symbol → Option (α × List Symbol)} {item : α}
    (takes : step text = some (item, rest)) (shorter : rest.length < text.length) :
    many step text = (item :: (many step rest).1, (many step rest).2) := by
  rw [many, manyM_of_some (congrArg pure takes) shorter]
  rfl

theorem IsLead.starts_eq_false {kind : Char → Bool} (lead : IsLead before)
    (plain : StartsPlain text) (apart : ∀ character, kind character = true → isPlain character = false)
    (blank : kind ' ' = false) (rest : List Symbol) :
    starts kind (before ++ (text ++ rest)) = false := by
  obtain rfl | rfl := lead
  · exact plain.starts_eq_false apart rest
  · exact blank

theorem AreAtomic.gap_eq (atomic : AreAtomic text) (closes : Closes rest) :
    gap (text ++ rest) = ([], text ++ rest) := by
  cases text with
  | nil => exact closes.gap_eq
  | cons first others =>
      refine gapFrom_of_closed ?_ false
      rcases atomic first List.mem_cons_self with plain | rfl
      · exact fits_eq_false_of_isPlain not_isPlain_of_isGapMark plain
      · rfl

theorem core?_of_not_quote (unquoted : starts (· == '"') text = false) : core? text = atom? text := by
  unfold core?
  split
  · cases unquoted
  · rfl

theorem core?_of_plain (plain : StartsPlain text) (atomic : AreAtomic text) (closes : Closes rest) :
    ∃ atom more, core? (text ++ rest) = some (.atom atom, more ++ rest) ∧ AreAtomic more ∧
      more.length < text.length := by
  let inAtom := fun symbol : Symbol => !symbol.fits endsAtom
  have split : (text ++ rest).span inAtom =
      (text.takeWhile inAtom, text.dropWhile inAtom ++ rest) := by
    conv_lhs => rw [← List.takeWhile_append_dropWhile (p := inAtom) (l := text), List.append_assoc]
    refine span_append (fun symbol member => List.mem_takeWhile_imp member) fun symbol head => ?_
    cases dropped : text.dropWhile inAtom with
    | nil =>
        rw [dropped] at head
        obtain rfl | ⟨behind, rfl⟩ | ⟨behind, rfl⟩ := closes <;> cases head <;> rfl
    | cons first others =>
        rw [dropped] at head
        have kept := List.head?_dropWhile_not inAtom text
        rw [dropped] at kept
        obtain rfl := Option.some.inj head
        simpa using kept
  have unquoted : starts (· == '"') (text ++ rest) = false :=
    plain.starts_eq_false (not_isPlain_of_eq rfl) rest
  obtain ⟨first, others, rfl, fits⟩ := plain
  have inside : inAtom first = true := by
    simp [inAtom, fits_eq_false_of_isPlain not_isPlain_of_endsAtom fits]
  refine ⟨(first :: others).takeWhile inAtom, (first :: others).dropWhile inAtom, ?_, ?_, ?_⟩
  · rw [core?_of_not_quote unquoted, atom?, encodedOr,
      read?_eq_none (atomic.not_opensWord closes), atomText?, split]
    simp [inside]
  · exact fun symbol member => atomic symbol ((List.dropWhile_suffix _).subset member)
  · rw [List.dropWhile_cons_of_pos inside]
    exact Nat.lt_succ_of_le (List.dropWhile_suffix _).length_le

theorem phraseItem?_of_plain (plain : StartsPlain text) (atomic : AreAtomic text)
    (lead : IsLead before) (closes : Closes rest) :
    ∃ word more, phraseItem? (before ++ (text ++ rest)) = some (.word word, more ++ rest) ∧
      AreAtomic more ∧ more.length < text.length := by
  obtain ⟨atom, more, read, atomic', shorter⟩ := core?_of_plain plain atomic closes
  have taken : wordOf? core? (before ++ (text ++ rest)) =
      some (⟨before, .atom atom, []⟩, more ++ rest) := by
    simp only [wordOf?, plain.gap_eq lead, read, Option.map_some, atomic'.gap_eq closes]
  have going : starts endsPhrase (before ++ (text ++ rest)) = false :=
    lead.starts_eq_false plain not_isPlain_of_endsPhrase rfl rest
  have pointless : starts (· == '.') (before ++ (text ++ rest)) = false :=
    lead.starts_eq_false plain (not_isPlain_of_eq rfl) rfl rest
  have present : (before ++ (text ++ rest)).isEmpty = false := by
    obtain ⟨first, others, rfl, fits⟩ := plain
    simp
  refine ⟨⟨before, .atom atom, []⟩, more, ?_, atomic', shorter⟩
  simp [phraseItem?, present, going, pointless, taken]

theorem phrase_of_atomic (atomic : AreAtomic text) (closes : Closes rest)
    (ends : starts endsPhrase rest = true) : (phrase (text ++ rest)).2 = rest := by
  have stops : phraseItem? rest = none := by simp [phraseItem?, ends]
  generalize size : text.length = bound
  induction bound using Nat.strongRecOn generalizing text with
  | ind bound ih =>
  cases text with
  | nil =>
    rw [List.nil_append, phrase, many_of_none stops]
  | cons first others =>
      rcases atomic first List.mem_cons_self with plain | rfl
      · obtain ⟨word, more, taken, inner, shorter⟩ :=
          phraseItem?_of_plain ⟨first, others, rfl, plain⟩ atomic (.inl rfl) closes
        rw [List.nil_append] at taken
        rw [phrase, many_of_some taken (by simp only [List.length_append]; omega)]
        exact ih more.length (size ▸ shorter) inner rfl
      · have taken : phraseItem? (.character '.' :: (others ++ rest)) =
            some (.point, others ++ rest) := rfl
        rw [phrase, List.cons_append, many_of_some taken (by simp)]
        exact ih others.length (by simp [← size])
          (fun symbol member => atomic symbol (.tail _ member)) rfl

theorem phrase_of_plain (plain : StartsPlain text) (atomic : AreAtomic text)
    (lead : IsLead before) (closes : Closes rest) (ends : starts endsPhrase rest = true) :
    (phrase (before ++ (text ++ rest))).2 = rest := by
  obtain ⟨word, more, taken, inner, shorter⟩ := phraseItem?_of_plain plain atomic lead closes
  rw [phrase, many_of_some taken (by simp only [List.length_append]; omega)]
  exact phrase_of_atomic inner closes ends

/-! Mailboxes -/

variable {name : List Symbol}

theorem closes_at (rest : List Symbol) : Closes (.character '@' :: rest) :=
  .inr (.inl ⟨rest, rfl⟩)

def EndsEntry (rest : List Symbol) : Prop :=
  rest = [] ∨ ∃ behind, rest = .character ',' :: behind

theorem EndsEntry.closes (ends : EndsEntry rest) : Closes rest :=
  ends.imp_right .inr

theorem localPart_of_dotAtom (dotAtom : isDotAtom text = true) (lead : IsLead before)
    (rest : List Symbol) :
    localPart (before ++ (text ++ .character '@' :: rest)) =
      .ok (.plain (.atom text), .character '@' :: rest) := by
  have present : (before ++ (text ++ Symbol.character '@' :: rest)).isEmpty = false := by simp
  have halts : goesOn (.character '@' :: rest) = false := rfl
  simp [localPart, present, (startsPlain_of_isDotAtom dotAtom).gap_eq lead,
    dotAtom?_eq dotAtom (closes_at rest), (closes_at rest).gap_eq, halts]

theorem domain_of_dotAtom (dotAtom : isDotAtom text = true) (ends : EndsEntry rest) :
    domain (text ++ rest) = .ok (some text, rest) := by
  have plain := startsPlain_of_isDotAtom dotAtom
  have atomic := areAtomic_of_isDotAtom dotAtom
  have unblank : (text.filter fun symbol => !symbol.fits isBlank) = text := by
    rw [List.filter_eq_self]
    intro symbol member
    rcases atomic symbol member with fits | rfl
    · rw [fits_eq_false_of_isPlain not_isPlain_of_isBlank fits]
      rfl
    · rfl
  have behind : skipGap rest = rest := congrArg Prod.snd ends.closes.gap_eq
  have alone : many domainPart? rest = ([], rest) :=
    many_of_none (by obtain rfl | ⟨behind, rfl⟩ := ends <;> rfl)
  have parts : domainParts (text ++ rest) = .ok (some text, rest) := by
    have whole : starts (· == '@') rest = false := by
      obtain rfl | ⟨behind, rfl⟩ := ends <;> rfl
    have pointless : starts (· == '.') rest = false := ends.closes.starts_eq_false rfl rfl
    simp [domainParts, dotAtom?_eq dotAtom ends.closes, behind, whole, alone, pointless,
      Core.meaning]
  have inner : skipGap (text ++ rest) = text ++ rest :=
    congrArg Prod.snd (plain.gap_eq (.inl rfl) rest)
  have present : (text ++ rest).isEmpty = false := by
    obtain ⟨first, others, rfl, fits⟩ := plain
    rfl
  have unbracketed : starts (· == '[') (text ++ rest) = false :=
    plain.starts_eq_false (not_isPlain_of_eq rfl) rest
  simp only [domain, present, inner, Bool.false_eq_true, if_false]
  split
  next bracketed =>
    rw [bracketed] at unbracketed
    cases unbracketed
  next => simp [parts, unblank]

variable {front back : List Symbol}

theorem spec_of_dotAtoms (first : isDotAtom front = true) (second : isDotAtom back = true)
    (lead : IsLead before) (ends : EndsEntry rest) :
    spec (before ++ (front ++ .character '@' :: (back ++ rest))) =
      .ok (⟨.plain (.atom front), back⟩, rest) := by
  simp only [spec, localPart_of_dotAtom first lead, domain_of_dotAtom second ends, bind,
    Except.bind]
  rfl

theorem namedMailbox_of_dotAtom (dotAtom : isDotAtom text = true) (lead : IsLead before)
    (rest : List Symbol) :
    namedMailbox (before ++ (text ++ .character '@' :: rest)) = .error .mismatch := by
  have plain := startsPlain_of_isDotAtom dotAtom
  have inner : (phrase (text ++ .character '@' :: rest)).2 = .character '@' :: rest :=
    phrase_of_atomic (areAtomic_of_isDotAtom dotAtom) (closes_at rest) rfl
  have unbracketed : starts (· == '<') (text ++ .character '@' :: rest) = false :=
    plain.starts_eq_false (not_isPlain_of_eq rfl) _
  have going : starts endsPhrase (text ++ .character '@' :: rest) = false :=
    plain.starts_eq_false not_isPlain_of_endsPhrase _
  have pointless : starts (· == '.') (text ++ .character '@' :: rest) = false :=
    plain.starts_eq_false (not_isPlain_of_eq rfl) _
  have unbraced : angle (.character '@' :: rest) = .error .mismatch := rfl
  simp [namedMailbox, plain.gap_eq lead, unbracketed, going, pointless, inner, unbraced]

theorem group_of_dotAtom (dotAtom : isDotAtom text = true) (lead : IsLead before)
    (rest : List Symbol) :
    group (before ++ (text ++ .character '@' :: rest)) = .error .mismatch := by
  have named : (phrase (before ++ (text ++ .character '@' :: rest))).2 = .character '@' :: rest :=
    phrase_of_plain (startsPlain_of_isDotAtom dotAtom) (areAtomic_of_isDotAtom dotAtom) lead
      (closes_at rest) rfl
  unfold group
  cases read : phrase (before ++ (text ++ .character '@' :: rest)) with
  | mk name behind =>
      rw [read] at named
      dsimp only at named
      subst named
      rfl

/-! Headers -/

def plainEntry (front back : List Symbol) : Entry :=
  .mailbox ⟨[], some ⟨.plain (.atom front), back⟩⟩

theorem entry_of_dotAtoms (first : isDotAtom front = true) (second : isDotAtom back = true)
    (lead : IsLead before) (ends : EndsEntry rest) :
    orElse group singleMailbox (before ++ (front ++ .character '@' :: (back ++ rest))) =
      .ok (plainEntry front back, rest) := by
  simp only [orElse, group_of_dotAtom first lead, singleMailbox, mailbox,
    namedMailbox_of_dotAtom first lead, bareMailbox, spec_of_dotAtoms first second lead ends, bind,
    Except.bind]
  rfl

theorem entryOrEnd_of_dotAtoms (first : isDotAtom front = true) (second : isDotAtom back = true)
    (lead : IsLead before) (ends : EndsEntry rest) :
    entryOrEnd (before ++ (front ++ .character '@' :: (back ++ rest))) =
      .ok (some (some (plainEntry front back), rest.tail)) := by
  have present :
      (before ++ (front ++ .character '@' :: (back ++ rest))).isEmpty = false := by simp
  have closed : (rest.isEmpty || starts (· == ',') rest) = true := by
    obtain rfl | ⟨behind, rfl⟩ := ends <;> rfl
  have dropped : (if starts (· == ',') rest then rest.tail else rest) = rest.tail := by
    obtain rfl | ⟨behind, rfl⟩ := ends <;> rfl
  simp only [entryOrEnd, present, element, entry_of_dotAtoms first second lead ends, closed, bind,
    Except.bind]
  simp [dropped, pure, Except.pure]

theorem AreAtomic.any_eq_false {kind : Char → Bool} (atomic : AreAtomic text)
    (apart : ∀ character, kind character = true → isPlain character = false)
    (point : kind '.' = false) : text.any (·.fits kind) = false := by
  rw [List.any_eq_false]
  intro symbol member
  rcases atomic symbol member with plain | rfl
  · rw [fits_eq_false_of_isPlain apart plain]
    exact Bool.false_ne_true
  · change ¬kind '.' = true
    rw [point]
    exact Bool.false_ne_true

theorem not_isPlain_of_isMailLineEnd (character : Char) (ends : isMailLineEnd character = true) :
    isPlain character = false := by
  simp only [isMailLineEnd, Bool.or_eq_true, beq_iff_eq] at ends
  obtain rfl | rfl := ends <;> rfl

theorem text_of_dotAtoms (first : isDotAtom front = true) (second : isDotAtom back = true) :
    (plainEntry front back).text = .ok (front ++ .character '@' :: back) := by
  have before := areAtomic_of_isDotAtom first
  have behind := areAtomic_of_isDotAtom second
  have unquoted : quotedIf endsDotAtom front = front := by
    have none : front.any (·.fits endsDotAtom) = false := before.any_eq_false
      (fun character ends => not_isPlain_of_endsAtom character (Bool.and_eq_true_iff.mp ends).1) rfl
    simp [quotedIf, none]
  have whole : (front ++ back).any (·.fits isMailLineEnd) = false := by
    rw [List.any_append, before.any_eq_false not_isPlain_of_isMailLineEnd rfl,
      behind.any_eq_false not_isPlain_of_isMailLineEnd rfl]
    rfl
  have present : back.isEmpty = false := by
    obtain ⟨first, others, rfl, _⟩ := startsPlain_of_isDotAtom second
    rfl
  have spec : mailboxText [] front back = front ++ .character '@' :: back := by
    simp [mailboxText, specText, unquoted, present]
  simp only [plainEntry, Entry.text, Mailbox.text, nameText, Option.map_some, Option.elim_some,
    LocalPart.text, Core.isHollow, Core.meaning, Option.getD_some, pure, Except.pure, bind,
    Except.bind, Bool.false_eq_true, if_false, List.nil_append, whole, spec]

theorem exists_of_isPlainAddress {address : String} (plain : isPlainAddress address = true) :
    ∃ front back, isDotAtom front = true ∧ isDotAtom back = true ∧
      written address = front ++ .character '@' :: back := by
  have whole : [Symbol.character '@'].intercalate ((written address).splitOn (.character '@')) =
      written address := List.intercalate_splitOn _
  unfold isPlainAddress at plain
  split at plain
  next front back split =>
    rw [split] at whole
    obtain ⟨first, second⟩ := Bool.and_eq_true_iff.mp plain
    exact ⟨front, back, first, second, by simpa using whole.symm⟩
  next => cases plain

def further (addresses : List String) : List Symbol :=
  addresses.flatMap fun address => .character ',' :: .character ' ' :: written address

theorem listed_cons (first : String) (others : List String) :
    listed ((first :: others).map written) = written first ++ further others := by
  induction others generalizing first with
  | nil => simp [listed, further]
  | cons second more ih =>
      rw [List.map_cons, List.map_cons, listed, List.intercalate_cons_cons, ← List.map_cons,
        ← listed, ih, List.append_assoc]
      rfl

theorem written_intercalate (addresses : List String) :
    written (", ".intercalate addresses) = listed (addresses.map written) := by
  cases addresses with
  | nil => rfl
  | cons first others =>
      induction others generalizing first with
      | nil => simp [listed]
      | cons second more ih =>
          rw [String.intercalate_cons_cons, List.map_cons, List.map_cons, listed,
            List.intercalate_cons_cons, ← List.map_cons, ← listed, ← ih]
          simp [written]

theorem manyM_entryOrEnd_nil : manyM entryOrEnd [] = .ok ([], []) :=
  manyM_of_none rfl

theorem manyM_of_plain {address : String} (plain : isPlainAddress address = true)
    (lead : IsLead before) (ends : EndsEntry rest) :
    ∃ entry, entry.text = .ok (written address) ∧
      manyM entryOrEnd (before ++ (written address ++ rest)) =
        (fun more => (some entry :: more.1, more.2)) <$> manyM entryOrEnd rest.tail := by
  obtain ⟨front, back, first, second, parts⟩ := exists_of_isPlainAddress plain
  refine ⟨plainEntry front back, ?_, ?_⟩
  · rw [text_of_dotAtoms first second, parts]
  · rw [parts, List.append_assoc, List.cons_append]
    refine manyM_of_some (entryOrEnd_of_dotAtoms first second lead ends) ?_
    simp only [List.length_append, List.length_cons, List.length_tail]
    omega

theorem entries_of_plain {first : String} {others : List String}
    (plain : ∀ address ∈ first :: others, isPlainAddress address = true) (lead : IsLead before) :
    ∃ found, manyM entryOrEnd (before ++ (written first ++ further others)) = .ok (found, []) ∧
      (found.filterMap id).mapM Entry.text = .ok ((first :: others).map written) := by
  induction others generalizing first before with
  | nil =>
      obtain ⟨entry, text, read⟩ := manyM_of_plain (plain first (by simp)) lead (.inl rfl)
      refine ⟨[some entry], ?_, ?_⟩
      · rw [further, List.flatMap_nil, read, List.tail_nil, manyM_entryOrEnd_nil]
        rfl
      · change [entry].mapM Entry.text = _
        simp only [List.mapM_cons, List.mapM_nil, text, bind, Except.bind]
        rfl
  | cons second more ih =>
      obtain ⟨entry, text, read⟩ :=
        manyM_of_plain (plain first (by simp)) lead (.inr ⟨_, rfl⟩ : EndsEntry (further (second :: more)))
      obtain ⟨found, rest, texts⟩ :=
        ih (fun address member => plain address (.tail _ member)) (.inr rfl)
      refine ⟨some entry :: found, ?_, ?_⟩
      · rw [read, show (further (second :: more)).tail =
          [.character ' '] ++ (written second ++ further more) from rfl, rest]
        rfl
      · change (entry :: found.filterMap id).mapM Entry.text = _
        simp only [List.mapM_cons, text, texts, bind, Except.bind]
        rfl

/-- A header of plain addresses is read back as it is written. -/
theorem decoded_of_plain {addresses : List String}
    (plain : ∀ address ∈ addresses, isPlainAddress address = true) :
    decoded (", ".intercalate addresses) = .ok (written (", ".intercalate addresses)) := by
  cases addresses with
  | nil =>
      change decoded "" = .ok []
      simp only [decoded, entries, show written "" = [] from rfl, manyM_entryOrEnd_nil, bind,
        Except.bind]
      rfl
  | cons first others =>
      obtain ⟨found, read, texts⟩ := entries_of_plain plain (.inl rfl)
      rw [List.nil_append, ← listed_cons, ← written_intercalate] at read
      simp only [decoded, entries, read, texts, bind, Except.bind, pure, Except.pure]
      rw [written_intercalate]

theorem text_written (text : String) : Symbol.text (written text) = .ok text := by
  have whole (place : Nat) (characters : List Char) :
      Symbol.halves? place (characters.map .character) = none := by
    induction characters generalizing place with
    | nil => rfl
    | cons first rest ih => exact ih (place + 1)
  have bytes : (written text).flatMap Symbol.utf8 = Utf8.encode text := by
    rw [written, List.flatMap_map]
    rfl
  have units := Utf8.units_encode text []
  rw [List.append_nil] at units
  rw [Symbol.text, written, whole, ← written, bytes, Utf8.decodeReplacing, units, List.map_append,
    List.map_map]
  exact congrArg Except.ok (by simp [Function.comp_def, Utf8.units, Utf8.unitsFrom])

theorem any_of_isPlainAddress {kind : Char → Bool} {address : String}
    (plain : isPlainAddress address = true)
    (apart : ∀ character, kind character = true → isPlain character = false)
    (point : kind '.' = false) (at_ : kind '@' = false) : address.toList.any kind = false := by
  obtain ⟨front, back, first, second, parts⟩ := exists_of_isPlainAddress plain
  have same : (written address).any (·.fits kind) = address.toList.any kind := by
    rw [written, List.any_map]
    rfl
  rw [← same, parts, List.any_append, List.any_cons,
    (areAtomic_of_isDotAtom first).any_eq_false apart point,
    (areAtomic_of_isDotAtom second).any_eq_false apart point]
  change (false || (kind '@' || false)) = false
  rw [at_]
  rfl

end Warden.AddressHeader
