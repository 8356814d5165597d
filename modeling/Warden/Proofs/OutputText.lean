import Warden.Proofs.OutputHistory
import Warden.Proofs.Utf8Cuts

/-!
The text of a byte log. A log that is given the bytes of a text shows the end of it, as much as
there is room for, with a replacement character for each byte of a character that lost its
beginning. How the bytes were cut into writes does not matter.
-/

namespace Warden.ByteLog

theorem text_of_history {log : ByteLog} {capacity : Nat} {destination : Option Destination}
    (made : make? capacity destination = some log)
    (forwards : ∀ place ∈ destination, place.Tolerable) {operations : List Operation}
    (expected : ∀ operation ∈ operations, operation.Tolerable) :
    (log.operateAll operations).1.text =
      Text.Utf8.decodeReplacing ((history operations).rtake capacity) := by
  obtain ⟨fits, tolerable⟩ := sound_of_make? made forwards
  rw [text, (operateAll_eq fits tolerable expected).1, retained_extend_of_make? made]

theorem history_writes (writes : List (List UInt8)) :
    history (writes.map Operation.write) = writes.flatten := by
  rw [history, List.flatMap_map]
  exact List.flatMap_id

/-- The text of a log that was given a text, in whatever pieces: the end of that text behind a
replacement character for each byte in front of it, and there are at most three of these. -/
theorem text_of_writes {capacity : Nat} (positive : 1 ≤ capacity)
    {destination : Option Destination} (forwards : ∀ place ∈ destination, place.Tolerable)
    {text : String} {writes : List (List UInt8)}
    (cut : writes.flatten = text.toUTF8.data.toList) :
    ∃ log, make? capacity destination = some log ∧
      ∃ lost shown, (log.operateAll (writes.map .write)).1.text =
          String.ofList (List.replicate lost '\uFFFD') ++ shown ∧
        Text.Longest (·.toList <:+ text.toList) (min capacity text.utf8ByteSize) shown ∧
        lost + shown.utf8ByteSize = min capacity text.utf8ByteSize ∧ lost ≤ 3 := by
  obtain ⟨log, made⟩ := make?_eq_some positive destination
  have expected : ∀ operation ∈ writes.map Operation.write, operation.Tolerable := by
    intro operation member
    obtain ⟨bytes, _, rfl⟩ := List.mem_map.mp member
    trivial
  refine ⟨log, made, ?_⟩
  rw [text_of_history made forwards expected, history_writes, cut, ← Text.Utf8.encode_eq_toUTF8]
  exact Text.Utf8.decodeReplacing_rtake capacity text

theorem text_of_writes_broken :
    let place : Destination := { failure := some (.write, ⟨.badValue, "closed file"⟩) }
    let writes : List (List UInt8) := [[0x6E, 0xC3], [], [0xA9, 0xE2, 0x82], [0xAC]]
    1 ≤ 4 ∧ place.Tolerable ∧ writes.flatten = "né€".toUTF8.data.toList ∧
      ∃ log, make? 4 (some place) = some log ∧
        ∃ lost shown, (log.operateAll (writes.map .write)).1.text =
            String.ofList (List.replicate lost '\uFFFD') ++ shown ∧
          Text.Longest (·.toList <:+ "né€".toList) 4 shown ∧
          lost + shown.utf8ByteSize = 4 ∧ lost ≤ 3 := by
  intro place writes
  have forwards : ∀ other ∈ some place, other.Tolerable := by
    rintro other ⟨⟩ stage fault ⟨⟩
    rfl
  have cut : writes.flatten = "né€".toUTF8.data.toList := by decide
  exact ⟨by decide, forwards place rfl, cut, text_of_writes (by decide) forwards cut⟩

example : (make? 4 none).map (fun log =>
    (log.operateAll [.write [0x6E, 0xC3], .write [0xA9, 0xE2, 0x82], .write [0xAC]]).1.text) =
      some "\uFFFD€" := by decide

end Warden.ByteLog
