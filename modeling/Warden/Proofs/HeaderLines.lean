import Warden.Proofs.PlainAddresses
import Warden.Report.MailClient

/-!
When a mail can be composed. Its header lines must not be broken, which a line end breaks only if
something stands behind it, and the encoded words of its subject have to be readable.
-/

namespace Warden.Text

def holdsLineEnd (text : String) : Bool :=
  text.toList.any isTextLineEnd

theorem holdsLineEnd_append (front back : String) :
    holdsLineEnd (front ++ back) = (holdsLineEnd front || holdsLineEnd back) := by
  simp [holdsLineEnd]

theorem isBlank_of_isTextLineEnd {character : Char} (ends : isTextLineEnd character = true) :
    isBlank character = true := by
  simp only [isTextLineEnd, isBlank, Bool.or_eq_true, Bool.and_eq_true, decide_eq_true_eq,
    beq_iff_eq] at ends ⊢
  omega

theorem linesFrom_ne_nil (ends : Char → Bool) (current characters : List Char)
    (something : current ≠ [] ∨ characters ≠ []) : linesFrom ends current characters ≠ [] := by
  fun_induction linesFrom ends current characters with
  | case1 empty => simp_all
  | case2 => simp
  | case3 => simp
  | case4 => simp
  | case5 character rest current _ _ ih => exact ih (.inl (List.cons_ne_nil _ _))

/-- Characters with a line end inside: there is something behind it, and it is not just the line
feed that belongs to it. -/
def BreakInside (ends : Char → Bool) (characters : List Char) : Prop :=
  ∃ front character back, characters = front ++ character :: back ∧ ends character = true ∧
    back ≠ [] ∧ ¬(character = '\r' ∧ back = ['\n'])

theorem breakInside_cons {ends : Char → Bool} {character : Char} {rest : List Char}
    (going : ends character = false) :
    BreakInside ends (character :: rest) ↔ BreakInside ends rest := by
  constructor
  · rintro ⟨front, found, back, split, ended, inside⟩
    cases front with
    | nil =>
        obtain ⟨rfl, -⟩ := List.cons.inj split
        rw [going] at ended
        cases ended
    | cons first front => exact ⟨front, found, back, (List.cons.inj split).2, ended, inside⟩
  · rintro ⟨front, found, back, rfl, inside⟩
    exact ⟨character :: front, found, back, rfl, inside⟩

theorem linesFrom_iff {ends : Char → Bool} (current characters : List Char)
    (returns : ends '\r' = true) :
    1 < (linesFrom ends current characters).length ↔ BreakInside ends characters := by
  have more (rest : List Char) : 0 < (linesFrom ends [] rest).length ↔ rest ≠ [] := by
    rw [List.length_pos_iff]
    constructor
    · rintro some rfl
      exact some rfl
    · exact fun some => linesFrom_ne_nil ends [] rest (.inr some)
  fun_induction linesFrom ends current characters with
  | case1 => simp [BreakInside]
  | case2 => simp [BreakInside]
  | case3 current rest ih =>
      rw [List.length_cons, Nat.lt_add_left_iff_pos, more]
      constructor
      · exact fun some => ⟨[], '\r', '\n' :: rest, rfl, returns, by simp, by simp [some]⟩
      · rintro ⟨front, character, back, split, _, some, alone⟩ rfl
        match front with
        | [] => exact alone (by simpa using (List.cons.inj split).imp Eq.symm Eq.symm)
        | [_] => exact some (List.cons.inj (List.cons.inj split).2).2.symm
        | _ :: _ :: _ => simp at split
  | case4 current character rest single ended ih =>
      rw [List.length_cons, Nat.lt_add_left_iff_pos, more]
      constructor
      · refine fun some => ⟨[], character, rest, rfl, ended, some, ?_⟩
        rintro ⟨rfl, rfl⟩
        exact single [] rfl rfl
      · rintro ⟨front, character, back, split, _, some, _⟩ rfl
        cases front with
        | nil => exact some (List.cons.inj split).2.symm
        | cons first front => simp at split
  | case5 current character rest _ going ih =>
      exact ih.trans (breakInside_cons (by simpa using going)).symm

def IsBroken (text : String) : Prop :=
  BreakInside isTextLineEnd text.toList

theorem isMultiline_iff {text : String} : isMultiline text = true ↔ IsBroken text := by
  rw [isMultiline, decide_eq_true_iff]
  exact linesFrom_iff [] text.toList rfl

instance (text : String) : Decidable (IsBroken text) :=
  decidable_of_iff _ isMultiline_iff

theorem isMultiline_of_unbroken {text : String} (unbroken : holdsLineEnd text = false) :
    isMultiline text = false := by
  rw [← Bool.not_eq_true, isMultiline_iff]
  rintro ⟨front, character, back, split, ended, _⟩
  rw [holdsLineEnd, List.any_eq_false] at unbroken
  exact unbroken character (by rw [split]; simp) ended

theorem isMultiline_append {front back : String} (unbroken : holdsLineEnd front = false)
    (closed : ∀ last ∈ back.toList.getLast?, isBlank last = false) :
    isMultiline (front ++ back) = holdsLineEnd back := by
  have whole : holdsLineEnd (front ++ back) = holdsLineEnd back := by
    rw [holdsLineEnd_append, unbroken, Bool.false_or]
  cases broken : holdsLineEnd back with
  | false =>
      rw [broken] at whole
      exact isMultiline_of_unbroken whole
  | true =>
      obtain ⟨character, member, ended⟩ := List.any_eq_true.mp broken
      obtain ⟨before, after, split⟩ := List.append_of_mem member
      rw [isMultiline_iff]
      refine ⟨front.toList ++ before, character, after, by simp [split], ended, ?_⟩
      have last (other : Char) (final : (character :: after).getLast? = some other) :
          isTextLineEnd other = false := by
        have unblank := closed other (by rw [split, List.getLast?_append, final]; rfl)
        cases ending : isTextLineEnd other with
        | false => rfl
        | true =>
            rw [isBlank_of_isTextLineEnd ending] at unblank
            cases unblank
      constructor
      · rintro rfl
        rw [last character rfl] at ended
        cases ended
      · rintro ⟨rfl, rfl⟩
        cases last '\n' rfl

theorem getLast?_strip (text : String) :
    ∀ last ∈ (strip text).toList.getLast?, isBlank last = false := by
  intro last member
  simp only [strip, trim, String.toList_ofList, List.getLast?_reverse, Option.mem_def] at member
  have kept := List.head?_dropWhile_not isBlank (text.toList.dropWhile isBlank).reverse
  rw [member] at kept
  simpa using kept

end Warden.Text

namespace Warden.MailClient

variable {client : MailClient} {subject body : String} {recipients : List String}

theorem holdsLineEnd_receivers
    (unbroken : ∀ recipient ∈ recipients, Text.holdsLineEnd recipient = false) :
    Text.holdsLineEnd (", ".intercalate recipients) = false := by
  induction recipients with
  | nil => rfl
  | cons first rest ih =>
      obtain ⟨whole, later⟩ := List.forall_mem_cons.mp unbroken
      cases rest with
      | nil => simpa using whole
      | cons second others =>
          rw [String.intercalate_cons_cons, Text.holdsLineEnd_append, Text.holdsLineEnd_append,
            whole, ih later]
          rfl

theorem headerLine_eq_error {read : String → Except Problem String} {text : String}
    {problem : Problem} : headerLine read text = .error problem ↔
      Text.IsBroken text ∧ problem = .brokenHeader ∨
        ¬Text.IsBroken text ∧ read text = .error problem := by
  rw [headerLine, ← Text.isMultiline_iff]
  cases Text.isMultiline text <;> simp [eq_comm]

theorem headerLine_isOk (read : String → Except Problem String) (text : String) :
    (headerLine read text).isOk = (!Text.isMultiline text && (read text).isOk) := by
  rw [headerLine]
  cases Text.isMultiline text <;> rfl

theorem titleText_isOk (text : String) : (titleText text).isOk = (Text.decodedHeader text).isOk := by
  rw [titleText]
  cases Text.decodedHeader text <;> rfl

theorem compose_nil (client : MailClient) (subject body : Option String) :
    client.compose subject body [] = .error .noRecipients := rfl

theorem compose_of_somebody (client : MailClient) (subject body : Option String)
    (somebody : recipients ≠ []) :
    client.compose subject body recipients =
      (headerLine titleText (subject.getD "")).bind fun title =>
        (headerLine addressText (client.sender.getD nothing)).bind fun sender =>
          (headerLine addressText (", ".intercalate recipients)).bind fun receivers =>
            match body with
            | none => .error .noBody
            | some words => .ok ⟨title, sender, receivers, Text.mailBody words⟩ := by
  have present : recipients.isEmpty = false := by simpa using somebody
  simp only [compose, present]
  rfl

theorem compose_eq_ok {subject : Option String} {mail : Mail} :
    client.compose subject (some body) recipients = .ok mail ↔
      recipients ≠ [] ∧ headerLine titleText (subject.getD "") = .ok mail.subject ∧
        headerLine addressText (client.sender.getD nothing) = .ok mail.sender ∧
        headerLine addressText (", ".intercalate recipients) = .ok mail.recipients ∧
        mail.body = Text.mailBody body := by
  obtain ⟨title, sender, receivers, words⟩ := mail
  by_cases nobody : recipients = []
  · simp [nobody, compose_nil]
  rw [compose_of_somebody client subject (some body) nobody]
  cases headerLine titleText (subject.getD "") with
  | error problem => simp [Except.bind]
  | ok decoded =>
      cases headerLine addressText (client.sender.getD nothing) with
      | error problem => simp [Except.bind]
      | ok origin =>
          cases headerLine addressText (", ".intercalate recipients) <;>
            simp [Except.bind, nobody, eq_comm]

theorem compose_isOk (client : MailClient) (subject body : String) (somebody : recipients ≠ []) :
    (client.compose (some subject) (some body) recipients).isOk =
      ((headerLine titleText subject).isOk &&
        (headerLine addressText (client.sender.getD nothing)).isOk &&
        (headerLine addressText (", ".intercalate recipients)).isOk) := by
  rw [compose_of_somebody client (some subject) (some body) somebody, Option.getD_some]
  cases headerLine titleText subject with
  | error problem => rfl
  | ok decoded =>
      cases headerLine addressText (client.sender.getD nothing) with
      | error problem => rfl
      | ok origin => cases headerLine addressText (", ".intercalate recipients) <;> rfl

theorem addressLine_of_plain
    (plain : ∀ recipient ∈ recipients, AddressHeader.isPlainAddress recipient = true) :
    headerLine addressText (", ".intercalate recipients) = .ok (", ".intercalate recipients) := by
  have unbroken (recipient : String) (member : recipient ∈ recipients) :
      Text.holdsLineEnd recipient = false :=
    AddressHeader.any_of_isPlainAddress (plain recipient member)
      (fun character ends =>
        AddressHeader.not_isPlain_of_isBlank character (Text.isBlank_of_isTextLineEnd ends)) rfl rfl
  rw [headerLine, Text.isMultiline_of_unbroken (holdsLineEnd_receivers unbroken), addressText,
    AddressHeader.decoded_of_plain plain]
  simp only [Except.mapError, bind, Except.bind, AddressHeader.text_written]
  rfl

end Warden.MailClient
