import Warden.Text.Utf8

/-!
UTF-8 read back. A character leaves the reader just as it came to it, whatever stands behind it, so
every encoded text is read back as it was. A line feed is the only character whose encoding holds
the byte of a line feed.
-/

namespace Warden.Text.Utf8

theorem toNat_byte (code : Nat) (small : code < 256) : (UInt8.ofNat code).toNat = code := by
  rw [UInt8.toNat_ofNat']
  omega

theorem start_one {code : Nat} (upper : code < 128) :
    start (UInt8.ofNat code) = ⟨[some (Char.ofNat code)], none⟩ := by
  have byte := toNat_byte code (by omega)
  have single : UInt8.ofNat code < 0x80 := by
    rw [UInt8.lt_iff_toNat_lt, byte]
    exact upper
  simp only [start, single, if_true, byte]

theorem start_two {high : Nat} (lower : 2 ≤ high) (upper : high < 32) :
    start (UInt8.ofNat (high + 192)) = ⟨[], some ⟨high, 1, 0x80, 0xBF⟩⟩ := by
  have each : ∀ high : Fin 32, 2 ≤ high.val →
      start (UInt8.ofNat (high.val + 192)) = ⟨[], some ⟨high, 1, 0x80, 0xBF⟩⟩ := by decide
  exact each ⟨high, upper⟩ lower

theorem start_three {high : Nat} (upper : high < 16) :
    start (UInt8.ofNat (high + 224)) = ⟨[], some ⟨high, 2, if high = 0 then 0xA0 else 0x80,
      if high = 13 then 0x9F else 0xBF⟩⟩ := by
  have each : ∀ high : Fin 16, start (UInt8.ofNat (high.val + 224)) =
      ⟨[], some ⟨high, 2, if high.val = 0 then 0xA0 else 0x80,
        if high.val = 13 then 0x9F else 0xBF⟩⟩ := by decide
  exact each ⟨high, upper⟩

theorem start_four {high : Nat} (upper : high < 5) :
    start (UInt8.ofNat (high + 240)) = ⟨[], some ⟨high, 3, if high = 0 then 0x90 else 0x80,
      if high = 4 then 0x8F else 0xBF⟩⟩ := by
  have each : ∀ high : Fin 5, start (UInt8.ofNat (high.val + 240)) =
      ⟨[], some ⟨high, 3, if high.val = 0 then 0x90 else 0x80,
        if high.val = 4 then 0x8F else 0xBF⟩⟩ := by decide
  exact each ⟨high, upper⟩

/-- A digit is what a byte behind the first one adds. The range of such a byte is that of the whole
digits except in the second byte of a character. -/
def Pending.Takes (pending : Pending) (digit : Nat) : Prop :=
  digit < 64 ∧ pending.low.toNat ≤ digit + 128 ∧ digit + 128 ≤ pending.high.toNat

theorem Pending.takes_plain {code missing digit : Nat} (small : digit < 64) :
    (⟨code, missing, 0x80, 0xBF⟩ : Pending).Takes digit := by
  refine ⟨small, ?_, ?_⟩
  · change 0x80 ≤ digit + 128
    omega
  · change digit + 128 ≤ 0xBF
    omega

theorem advance_next {pending : Pending} {digit : Nat} (takes : pending.Takes digit) :
    advance (some pending) (UInt8.ofNat (digit + 128)) =
      if pending.missing ≤ 1 then ⟨[some (Char.ofNat (pending.code * 64 + digit))], none⟩
      else ⟨[], some ⟨pending.code * 64 + digit, pending.missing - 1, 0x80, 0xBF⟩⟩ := by
  obtain ⟨small, lower, upper⟩ := takes
  have byte := toNat_byte (digit + 128) (by omega)
  have inside : (decide (pending.low ≤ UInt8.ofNat (digit + 128)) &&
      decide (UInt8.ofNat (digit + 128) ≤ pending.high)) = true := by
    simp only [UInt8.le_iff_toNat_le, byte, lower, upper, decide_true, Bool.and_self]
  simp only [advance, inside, if_true, byte, Nat.add_sub_cancel]

theorem unitsFrom_last {code digit : Nat} {low high : UInt8} (rest : List UInt8)
    (takes : (⟨code, 1, low, high⟩ : Pending).Takes digit) :
    unitsFrom (some ⟨code, 1, low, high⟩) (UInt8.ofNat (digit + 128) :: rest) =
      some (Char.ofNat (code * 64 + digit)) :: unitsFrom none rest := by
  rw [unitsFrom, advance_next takes]
  rfl

theorem unitsFrom_middle {code missing digit : Nat} {low high : UInt8} (rest : List UInt8)
    (takes : (⟨code, missing + 2, low, high⟩ : Pending).Takes digit) :
    unitsFrom (some ⟨code, missing + 2, low, high⟩) (UInt8.ofNat (digit + 128) :: rest) =
      unitsFrom (some ⟨code * 64 + digit, missing + 1, 0x80, 0xBF⟩) rest := by
  rw [unitsFrom, advance_next takes]
  rfl

theorem unitsFrom_char (character : Char) (rest : List UInt8) :
    unitsFrom none (String.utf8EncodeChar character ++ rest) =
      some character :: unitsFrom none rest := by
  obtain ⟨code, same⟩ : ∃ code, character.val.toNat = code := ⟨_, rfl⟩
  have valid : code < 0xD800 ∨ 0xDFFF < code ∧ code < 0x110000 := same ▸ character.valid
  have whole : Char.ofNat code = character := same ▸ Char.ofNat_toNat character
  have first (byte : UInt8) (rest : List UInt8) : unitsFrom none (byte :: rest) =
      (start byte).units ++ unitsFrom (start byte).pending rest := rfl
  simp only [String.utf8EncodeChar, same]
  split
  next one =>
    rw [List.singleton_append, first, start_one (by omega), whole]
    rfl
  split
  next two =>
    have high : code / 64 % 32 = code / 64 := by omega
    have sum : code / 64 * 64 + code % 64 = code := by omega
    rw [high, List.cons_append, first, start_two (by omega) (by omega)]
    simp only [List.nil_append, List.singleton_append]
    rw [unitsFrom_last _ (Pending.takes_plain (by omega)), sum, whole]
  split
  next three =>
    have high : code / 4096 % 16 = code / 4096 := by omega
    have sum : (code / 4096 * 64 + code / 64 % 64) * 64 + code % 64 = code := by omega
    rw [high, List.cons_append, first, start_three (by omega)]
    simp only [List.nil_append, List.cons_append]
    rw [unitsFrom_middle, unitsFrom_last _ (Pending.takes_plain (by omega)), sum, whole]
    refine ⟨by omega, ?_, ?_⟩
    · by_cases zero : code / 4096 = 0
      · simp [zero]
        omega
      · simp [zero]
    · by_cases hole : code / 4096 = 13 <;> simp [hole] <;> omega
  next =>
    have high : code / 262144 % 8 = code / 262144 := by omega
    have sum : ((code / 262144 * 64 + code / 4096 % 64) * 64 + code / 64 % 64) * 64 + code % 64 =
        code := by omega
    rw [high, List.cons_append, first, start_four (by omega)]
    simp only [List.nil_append, List.cons_append]
    rw [unitsFrom_middle, unitsFrom_middle _ (Pending.takes_plain (by omega)),
      unitsFrom_last _ (Pending.takes_plain (by omega)), sum, whole]
    refine ⟨by omega, ?_, ?_⟩
    · by_cases zero : code / 262144 = 0
      · simp [zero]
        omega
      · simp [zero]
    · by_cases top : code / 262144 = 4 <;> simp [top] <;> omega

theorem units_encode (text : String) (rest : List UInt8) :
    units (encode text ++ rest) = text.toList.map some ++ units rest := by
  rw [encode, units, units]
  induction text.toList with
  | nil => rfl
  | cons character characters ih =>
      rw [List.flatMap_cons, List.append_assoc, unitsFrom_char, ih]
      rfl

theorem decode?_encode (text : String) : decode? (encode text) = some text := by
  have read : units (encode text) = text.toList.map some := by
    simpa [units, unitsFrom] using units_encode text []
  have all : (text.toList.map some).mapM id = some text.toList := by
    rw [List.mapM_map]
    exact List.mapM_pure.trans (by simp)
  rw [decode?, read, all]
  simp

theorem encode_append (front back : String) :
    encode (front ++ back) = encode front ++ encode back := by
  simp [encode]

theorem encode_eq_toUTF8 (text : String) : encode text = text.toUTF8.data.toList := by
  rw [encode, String.toUTF8, ← String.utf8Encode_toList, List.utf8Encode, List.data_toByteArray,
    List.toList_toArray]

theorem feed_ne {code : Nat} (byte : code < 256) (other : code ≠ 10) :
    ¬(0x0A : UInt8) = UInt8.ofNat code := by
  intro same
  have value := congrArg UInt8.toNat same
  rw [toNat_byte code byte] at value
  exact other value.symm

theorem feed_not_mem_utf8EncodeChar {character : Char} (other : character ≠ '\n') :
    (0x0A : UInt8) ∉ String.utf8EncodeChar character := by
  obtain ⟨code, same⟩ : ∃ code, character.val.toNat = code := ⟨_, rfl⟩
  have whole : Char.ofNat code = character := same ▸ Char.ofNat_toNat character
  simp only [String.utf8EncodeChar, same]
  split
  next one =>
    have different : code ≠ 10 := fun ten => other (whole ▸ ten ▸ rfl)
    simpa only [List.mem_singleton] using feed_ne (by omega) different
  split
  next two =>
    simp only [List.mem_cons, List.not_mem_nil, or_false, not_or]
    exact ⟨feed_ne (by omega) (by omega), feed_ne (by omega) (by omega)⟩
  split
  next three =>
    simp only [List.mem_cons, List.not_mem_nil, or_false, not_or]
    exact ⟨feed_ne (by omega) (by omega), feed_ne (by omega) (by omega),
      feed_ne (by omega) (by omega)⟩
  next =>
    simp only [List.mem_cons, List.not_mem_nil, or_false, not_or]
    exact ⟨feed_ne (by omega) (by omega), feed_ne (by omega) (by omega),
      feed_ne (by omega) (by omega), feed_ne (by omega) (by omega)⟩

end Warden.Text.Utf8
