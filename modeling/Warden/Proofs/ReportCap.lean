import Warden.Proofs.OwnReport
import Warden.Proofs.Utf8Cuts

/-!
What a report may look like. It is the beginning of the cleaned text, as much of it as the limit
has room for, so it ends between two characters, and a limit on top of another one is the smaller of
them. What goes out by mail is such a report.
-/

namespace Warden

namespace Text

theorem Longest.unique {whole part other : String} {room : Nat}
    (first : Longest (·.toList <+: whole.toList) room part)
    (second : Longest (·.toList <+: whole.toList) room other) : part = other := by
  have length : part.toList.length = other.toList.length :=
    Nat.le_antisymm (second.longest part first.isCandidate first.fits)
      (first.longest other second.isCandidate second.fits)
  have begins := List.prefix_of_prefix_length_le first.isCandidate second.isCandidate length.le
  exact String.toList_inj.mp (begins.eq_of_length length)

theorem Longest.trans {whole part other : String} {room limit : Nat}
    (first : Longest (·.toList <+: whole.toList) room part)
    (second : Longest (·.toList <+: part.toList) limit other) :
    Longest (·.toList <+: whole.toList) (min room limit) other := by
  have smaller : other.utf8ByteSize ≤ part.utf8ByteSize := by
    rw [← Utf8.size_toList, ← Utf8.size_toList]
    exact Utf8.size_le_of_prefix second.isCandidate
  refine ⟨second.isCandidate.trans first.isCandidate, ?_, ?_⟩
  · have fits := first.fits
    have cut := second.fits
    omega
  · intro text within fits
    have shorter := first.longest text within (by omega)
    have inside := List.prefix_of_prefix_length_le within first.isCandidate shorter
    exact second.longest text inside (by omega)

end Text

namespace FailureReport

/-- A text of printable characters, line feeds and tabs. -/
def Presentable (text : String) : Prop :=
  ∀ character ∈ text.toList,
    Text.isPrintable character = true ∨ character = '\n' ∨ character = '\t'

theorem presentable_clean (text : String) : Presentable (clean text) := by
  intro character member
  rw [clean, String.toList_ofList] at member
  obtain ⟨given, _, rfl⟩ := List.mem_map.mp member
  unfold cleanCharacter
  split
  next allowed => simpa [or_assoc] using allowed
  next => exact .inl Text.isPrintable_space

theorem clean_of_presentable {text : String} (presentable : Presentable text) :
    clean text = text := by
  have kept : text.toList.map cleanCharacter = text.toList := by
    refine (List.map_congr_left fun character member => ?_).trans (List.map_id _)
    have allowed := presentable character member
    simp [cleanCharacter, or_assoc, allowed]
  rw [clean, kept, String.ofList_toList]

theorem lint_longest (text : String) (limit : Nat) :
    Text.Longest (·.toList <+: (clean text).toList) limit (lint text limit) := by
  have length : (Text.Utf8.encode (clean text)).length = (clean text).utf8ByteSize :=
    Text.Utf8.size_toList (clean text)
  unfold lint
  dsimp only
  split
  next short =>
    refine ⟨List.prefix_rfl, by omega, ?_⟩
    intro other within _
    exact within.length_le
  next long =>
    have positive : ¬(limit : Int) < 0 := by omega
    rw [keptBytes, if_neg positive, Int.toNat_natCast]
    exact Text.Utf8.decodeSkipping_take limit (clean text)

theorem presentable_lint (text : String) (limit : Nat) : Presentable (lint text limit) := by
  intro character member
  exact presentable_clean text character ((lint_longest text limit).isCandidate.subset member)

theorem lint_lint (text : String) (limit other : Nat) :
    lint (lint text limit) other = lint text (min limit other : Nat) := by
  have second := lint_longest (lint text limit) other
  rw [clean_of_presentable (presentable_lint text limit)] at second
  exact ((lint_longest text limit).trans second).unique (lint_longest text (min limit other))

end FailureReport

end Warden
