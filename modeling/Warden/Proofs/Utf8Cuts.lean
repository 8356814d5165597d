import Mathlib.Data.List.DropRight
import Warden.Proofs.Utf8Reading

/-!
Encoded texts that are cut. A cut at the end takes the last characters away, and the one that it
goes through with them as long as gaps are skipped. A cut at the front leaves a gap for each byte
of the character that it goes through. Either way what is read is as much of the text as there is
room for.
-/

namespace Warden.Text

/-- The longest of some texts that a number of bytes has room for. -/
structure Longest (candidate : String → Prop) (room : Nat) (part : String) : Prop where
  isCandidate : candidate part
  fits : part.utf8ByteSize ≤ room
  longest : ∀ other, candidate other → other.utf8ByteSize ≤ room → other.length ≤ part.length

namespace Utf8

section Size

def size (characters : List Char) : Nat :=
  (characters.flatMap String.utf8EncodeChar).length

theorem size_append (front back : List Char) : size (front ++ back) = size front + size back := by
  simp [size]

theorem size_cons (character : Char) (characters : List Char) :
    size (character :: characters) =
      (String.utf8EncodeChar character).length + size characters := by
  simp [size]

theorem size_toList (text : String) : size text.toList = text.utf8ByteSize := by
  have bytes := congrArg List.length (encode_eq_toUTF8 text)
  simpa [encode, size] using bytes

theorem utf8ByteSize_ofList (characters : List Char) :
    (String.ofList characters).utf8ByteSize = size characters := by
  rw [← size_toList, String.toList_ofList]

theorem size_reverse (characters : List Char) : size characters.reverse = size characters := by
  induction characters with
  | nil => rfl
  | cons character rest ih =>
      rw [List.reverse_cons, size_append, size_cons, ih, size_cons]
      simp only [size, List.flatMap_nil, List.length_nil]
      omega

theorem size_le_of_prefix {front whole : List Char} (cut : front <+: whole) :
    size front ≤ size whole := by
  obtain ⟨back, rfl⟩ := cut
  rw [size_append]
  omega

end Size

section Longest

variable {whole part : List Char} {room : Nat}

theorem length_le_of_prefix {other : List Char} (within : part <+: whole)
    (full : ∀ next, part ++ [next] <+: whole → room < size (part ++ [next]))
    (cut : other <+: whole) (fits : size other ≤ room) : other.length ≤ part.length := by
  apply Classical.byContradiction
  intro longer
  obtain ⟨more, rfl⟩ := List.prefix_of_prefix_length_le within cut (by omega)
  cases more with
  | nil => simp at longer
  | cons next rest =>
      have step : part ++ [next] <+: part ++ next :: rest := ⟨rest, by simp⟩
      have bigger := full next (step.trans cut)
      have smaller := size_le_of_prefix step
      omega

theorem longest_of_prefix (within : part <+: whole) (fits : size part ≤ room)
    (full : ∀ next, part ++ [next] <+: whole → room < size (part ++ [next])) :
    Longest (·.toList <+: whole) room (String.ofList part) := by
  refine ⟨by rwa [String.toList_ofList], by rwa [utf8ByteSize_ofList], ?_⟩
  intro other cut small
  rw [← size_toList] at small
  rw [← String.length_toList, String.length_ofList]
  exact length_le_of_prefix within full cut small

theorem longest_of_suffix (within : part <:+ whole) (fits : size part ≤ room)
    (full : ∀ last, last :: part <:+ whole → room < size (last :: part)) :
    Longest (·.toList <:+ whole) room (String.ofList part) := by
  have reversed : ∀ next, part.reverse ++ [next] <+: whole.reverse →
      room < size (part.reverse ++ [next]) := by
    intro next more
    rw [← List.reverse_cons, List.reverse_prefix] at more
    rw [← List.reverse_cons, size_reverse]
    exact full next more
  refine ⟨by rwa [String.toList_ofList], by rwa [utf8ByteSize_ofList], ?_⟩
  intro other cut small
  rw [← size_toList, ← size_reverse] at small
  rw [← String.length_toList, String.length_ofList]
  simpa using length_le_of_prefix (List.reverse_prefix.mpr within) reversed
    (List.reverse_prefix.mpr cut) small

end Longest

section Reading

theorem unitsFrom_append (state : Option Pending) (front : List UInt8) :
    ∃ read pending, ∀ back, unitsFrom state (front ++ back) = read ++ unitsFrom pending back := by
  induction front generalizing state with
  | nil => exact ⟨[], state, fun _ => rfl⟩
  | cons byte rest ih =>
      obtain ⟨read, pending, reads⟩ := ih (advance state byte).pending
      refine ⟨(advance state byte).units ++ read, pending, ?_⟩
      intro back
      rw [List.cons_append, unitsFrom, reads, List.append_assoc]

theorem start_moves (byte : UInt8) : (start byte).units ≠ [] ∨ (start byte).pending.isSome := by
  unfold start
  split
  · simp
  · split <;> simp

theorem advance_moves (state : Option Pending) (byte : UInt8) :
    (advance state byte).units ≠ [] ∨ (advance state byte).pending.isSome := by
  unfold advance
  split
  · exact start_moves byte
  · split
    · dsimp only
      split <;> simp
    · simp

theorem unitsFrom_ne_nil {state : Option Pending} {bytes : List UInt8}
    (given : state.isSome ∨ bytes ≠ []) : unitsFrom state bytes ≠ [] := by
  induction bytes generalizing state with
  | nil =>
      have waits : state.isSome = true := by simpa using given
      simp [unitsFrom, waits]
  | cons byte rest ih =>
      rw [unitsFrom]
      intro silent
      obtain ⟨nothing, later⟩ := List.append_eq_nil_iff.mp silent
      rcases advance_moves state byte with read | waits
      · exact read nothing
      · exact ih (.inl waits) later

variable {character : Char} {front back : List UInt8}

theorem units_begun (cut : String.utf8EncodeChar character = front ++ back) (missing : back ≠ []) :
    (units front).filterMap id = [] := by
  obtain ⟨read, pending, reads⟩ := unitsFrom_append none front
  have whole := unitsFrom_char character []
  rw [List.append_nil, cut, reads] at whole
  have more : unitsFrom pending back ≠ [] := unitsFrom_ne_nil (.inr missing)
  have unread : read = [] := by
    cases read with
    | nil => rfl
    | cons unit others =>
        have rest : others ++ unitsFrom pending back = [] := (List.cons.inj whole).2
        exact absurd (List.append_eq_nil_iff.mp rest).2 more
  have begun := reads []
  rw [List.append_nil, unread, List.nil_append] at begun
  rw [units, begun, unitsFrom]
  split <;> rfl

theorem start_inner {digit : Nat} (small : digit < 64) :
    start (UInt8.ofNat (digit + 128)) = ⟨[none], none⟩ := by
  have each : ∀ digit : Fin 64, start (UInt8.ofNat (digit.val + 128)) = ⟨[none], none⟩ := by
    decide
  exact each ⟨digit, small⟩

def IsInner (byte : UInt8) : Prop :=
  ∃ digit < 64, byte = UInt8.ofNat (digit + 128)

theorem utf8EncodeChar_eq (character : Char) :
    ∃ first inner, String.utf8EncodeChar character = first :: inner ∧ inner.length ≤ 3 ∧
      ∀ byte ∈ inner, IsInner byte := by
  have digit (code : Nat) : IsInner (UInt8.ofNat (code % 64 + 128)) :=
    ⟨code % 64, by omega, rfl⟩
  unfold String.utf8EncodeChar
  dsimp only
  split
  · exact ⟨_, [], rfl, by simp, by simp⟩
  split
  · exact ⟨_, [_], rfl, by simp, by simp only [List.forall_mem_singleton, digit]⟩
  split
  · refine ⟨_, [_, _], rfl, by simp, ?_⟩
    simp only [List.forall_mem_cons, digit, List.not_mem_nil, false_implies, implies_true, and_self]
  · refine ⟨_, [_, _, _], rfl, by simp, ?_⟩
    simp only [List.forall_mem_cons, digit, List.not_mem_nil, false_implies, implies_true, and_self]

theorem unitsFrom_inner {inner : List UInt8} (alone : ∀ byte ∈ inner, IsInner byte)
    (rest : List UInt8) :
    unitsFrom none (inner ++ rest) = List.replicate inner.length none ++ unitsFrom none rest := by
  induction inner with
  | nil => rfl
  | cons byte inner ih =>
      obtain ⟨⟨digit, small, rfl⟩, later⟩ := List.forall_mem_cons.mp alone
      rw [List.cons_append, unitsFrom, advance, start_inner small, ih later]
      rfl

end Reading

section Cutting

theorem units_take (room : Nat) (characters : List Char) :
    ∃ part, part <+: characters ∧ size part ≤ room ∧
      (∀ next, part ++ [next] <+: characters → room < size (part ++ [next])) ∧
      (units ((characters.flatMap String.utf8EncodeChar).take room)).filterMap id = part := by
  induction characters generalizing room with
  | nil => exact ⟨[], List.nil_prefix, Nat.zero_le room, by simp, by simp [units, unitsFrom]⟩
  | cons character rest ih =>
      rw [List.flatMap_cons]
      by_cases fits : (String.utf8EncodeChar character).length ≤ room
      · obtain ⟨part, within, small, full, read⟩ :=
          ih (room - (String.utf8EncodeChar character).length)
        refine ⟨character :: part, ?_, ?_, ?_, ?_⟩
        · exact List.cons_prefix_cons.mpr ⟨rfl, within⟩
        · rw [size_cons]
          omega
        · intro next more
          have bigger := full next (List.cons_prefix_cons.mp more).2
          rw [List.cons_append, size_cons]
          omega
        · rw [List.take_append, List.take_of_length_le fits, units, unitsFrom_char]
          exact congrArg (character :: ·) read
      · have cut := (List.take_append_drop room (String.utf8EncodeChar character)).symm
        have missing : (String.utf8EncodeChar character).drop room ≠ [] := by
          rw [ne_eq, List.drop_eq_nil_iff]
          exact fits
        refine ⟨[], List.nil_prefix, Nat.zero_le room, ?_, ?_⟩
        · intro next more
          obtain ⟨rfl, _⟩ := List.cons_prefix_cons.mp more
          rw [List.nil_append, size_cons]
          omega
        · rw [List.take_append_of_le_length (by omega)]
          exact units_begun cut missing

theorem rtake_append (count : Nat) (front back : List UInt8) :
    (front ++ back).rtake count = front.rtake (count - back.length) ++ back.rtake count := by
  have behind : front.length + back.length - count - front.length = back.length - count := by omega
  have ahead : front.drop (front.length + back.length - count) =
      front.drop (front.length - (count - back.length)) := by
    by_cases within : count ≤ back.length
    · rw [Nat.sub_eq_zero_of_le within, Nat.sub_zero, List.drop_length, List.drop_eq_nil_iff]
      omega
    · congr 1
      omega
  rw [List.rtake, List.rtake, List.rtake, List.drop_append, List.length_append, behind, ahead]

theorem units_broken {character : Char} {count : Nat}
    (broken : count < (String.utf8EncodeChar character).length) (rest : List UInt8) :
    count ≤ 3 ∧ unitsFrom none ((String.utf8EncodeChar character).rtake count ++ rest) =
      List.replicate count none ++ unitsFrom none rest := by
  obtain ⟨first, inner, encoded, short, alone⟩ := utf8EncodeChar_eq character
  rw [encoded, List.length_cons] at broken
  have left : (first :: inner).rtake count = inner.rtake count := by
    rw [List.rtake, List.rtake, List.length_cons, List.drop_cons (by omega)]
    congr 1
    omega
  have length : (inner.rtake count).length = count := by
    rw [List.rtake, List.length_drop]
    omega
  have leftAlone : ∀ byte ∈ inner.rtake count, IsInner byte :=
    fun byte member => alone byte (List.mem_of_mem_drop member)
  rw [encoded, left, unitsFrom_inner leftAlone, length]
  exact ⟨by omega, rfl⟩

/-- The last bytes of a text give a gap for each byte of a character that begins in front of them,
and then the characters that are whole. -/
theorem units_rtake {count : Nat} {characters : List Char} (within : count ≤ size characters) :
    ∃ lost part, part <:+ characters ∧ lost + size part = count ∧ lost ≤ 3 ∧
      (∀ last, last :: part <:+ characters → count < size (last :: part)) ∧
      units ((characters.flatMap String.utf8EncodeChar).rtake count) =
        List.replicate lost none ++ part.map some := by
  induction characters with
  | nil =>
      obtain rfl : count = 0 := by simpa [size] using within
      exact ⟨0, [], List.nil_suffix, rfl, by omega, by simp, by simp [units, unitsFrom]⟩
  | cons character rest ih =>
      have width := size_cons character rest
      have unending (part : List Char) (last : Char) : ¬last :: part <:+ part := by
        intro more
        have longer := more.length_le
        rw [List.length_cons] at longer
        omega
      rw [List.flatMap_cons, rtake_append]
      change ∃ lost part, _ ∧ _ ∧ _ ∧ _ ∧ units (List.rtake _ (count - size rest) ++ _) = _
      by_cases later : count ≤ size rest
      · obtain ⟨lost, part, within, sum, few, full, read⟩ := ih later
        refine ⟨lost, part, within.trans (List.suffix_cons _ _), sum, few, ?_, ?_⟩
        · intro last more
          rcases List.suffix_cons_iff.mp more with whole | inside
          · rw [whole]
            have filled := character.utf8Size_pos
            rw [← String.length_utf8EncodeChar] at filled
            omega
          · exact full last inside
        · rw [Nat.sub_eq_zero_of_le later, List.rtake_zero, List.nil_append]
          exact read
      · have kept : (rest.flatMap String.utf8EncodeChar).rtake count =
            rest.flatMap String.utf8EncodeChar := by
          have all : (rest.flatMap String.utf8EncodeChar).length - count = 0 :=
            Nat.sub_eq_zero_of_le (Nat.le_of_not_le later)
          rw [List.rtake, all, List.drop_zero]
        have behind : units (rest.flatMap String.utf8EncodeChar) = rest.map some := by
          simpa [encode, units, unitsFrom] using units_encode (String.ofList rest) []
        rw [kept, units]
        by_cases whole : count = size (character :: rest)
        · have all : (String.utf8EncodeChar character).rtake (count - size rest) =
              String.utf8EncodeChar character := by
            rw [List.rtake, Nat.sub_eq_zero_of_le (by omega), List.drop_zero]
          refine ⟨0, character :: rest, List.suffix_rfl, by omega, by omega, ?_, ?_⟩
          · exact fun last more => absurd more (unending _ last)
          · rw [all, unitsFrom_char]
            exact congrArg (some character :: ·) behind
        · have broken : count - size rest < (String.utf8EncodeChar character).length := by omega
          obtain ⟨few, read⟩ := units_broken broken (rest.flatMap String.utf8EncodeChar)
          refine ⟨count - size rest, rest, List.suffix_cons _ _, by omega, few, ?_, ?_⟩
          · intro last more
            rcases List.suffix_cons_iff.mp more with same | inside
            · rw [same]
              omega
            · exact absurd inside (unending _ last)
          · rw [read]
            exact congrArg (List.replicate (count - size rest) none ++ ·) behind

variable (room : Nat) (text : String)

theorem decodeSkipping_take :
    Longest (·.toList <+: text.toList) room (decodeSkipping ((encode text).take room)) := by
  obtain ⟨part, within, fits, full, read⟩ := units_take room text.toList
  have reads : decodeSkipping ((encode text).take room) = String.ofList part :=
    congrArg String.ofList read
  rw [reads]
  exact longest_of_prefix within fits full

theorem decodeReplacing_rtake :
    ∃ lost part, decodeReplacing ((encode text).rtake room) =
        String.ofList (List.replicate lost '\uFFFD') ++ part ∧
      Longest (·.toList <:+ text.toList) (min room text.utf8ByteSize) part ∧
      lost + part.utf8ByteSize = min room text.utf8ByteSize ∧ lost ≤ 3 := by
  have capped : (encode text).rtake room = (encode text).rtake (min room text.utf8ByteSize) := by
    have length : (encode text).length = text.utf8ByteSize := size_toList text
    rw [List.rtake, List.rtake, length]
    congr 1
    omega
  have within : min room text.utf8ByteSize ≤ size text.toList := by
    rw [size_toList]
    omega
  obtain ⟨lost, part, tail, sum, few, full, read⟩ := units_rtake within
  have reads : (units ((encode text).rtake room)).map (fun unit => unit.getD '\uFFFD') =
      List.replicate lost '\uFFFD' ++ part := by
    rw [capped, encode, read, List.map_append, List.map_replicate, List.map_map]
    exact congrArg _ (List.map_id part)
  refine ⟨lost, String.ofList part, ?_, longest_of_suffix tail (by omega) full, ?_, few⟩
  · rw [decodeReplacing, reads, String.ofList_append]
  · rw [utf8ByteSize_ofList, sum]

end Cutting

end Utf8

end Warden.Text
