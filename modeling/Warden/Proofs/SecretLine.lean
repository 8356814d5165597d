import Mathlib.Data.List.DropRight
import Warden.Launcher
import Warden.Proofs.Launching
import Warden.Proofs.Utf8Reading

/-!
The secret as a line. The launcher writes it with a line feed after it, and the main program reads
one line and cuts the line ends from it. What arrives is the first line of the secret without the
carriage returns at its end, so a secret that is one line arrives as it is.
-/

namespace Warden

namespace Secret

/-- The first line of a secret, without the carriage returns at its end. -/
def firstLine (secret : String) : String :=
  String.ofList ((secret.toList.takeWhile (!· == '\n')).rdropWhile (· == '\r'))

theorem feed_not_mem_takeWhile (stream : List Char) :
    '\n' ∉ stream.takeWhile (!· == '\n') := by
  intro member
  simpa using List.mem_takeWhile_imp member

theorem dropWhile_congr {α : Type} {keep drop : α → Bool} {items : List α}
    (same : ∀ item ∈ items, keep item = drop item) :
    items.dropWhile keep = items.dropWhile drop := by
  induction items with
  | nil => rfl
  | cons item items ih =>
      have rest := ih fun other member => same other (List.mem_cons_of_mem _ member)
      rw [List.dropWhile_cons, List.dropWhile_cons, same item List.mem_cons_self, rest]

theorem trimEnd_takeWhile (stream : List Char) :
    trimEnd (stream.takeWhile (!· == '\n')) =
      String.ofList ((stream.takeWhile (!· == '\n')).rdropWhile (· == '\r')) := by
  have carriages : (stream.takeWhile (!· == '\n')).reverse.dropWhile isLineEnd =
      (stream.takeWhile (!· == '\n')).reverse.dropWhile (· == '\r') := by
    apply dropWhile_congr
    intro character member
    have inside : character ≠ '\n' := fun feed =>
      feed_not_mem_takeWhile stream (List.mem_reverse.mp (feed ▸ member))
    simp [isLineEnd, inside]
  rw [trimEnd, carriages, List.rdropWhile]

theorem firstLine_eq_self_iff {secret : String} :
    firstLine secret = secret ↔ '\n' ∉ secret.toList ∧ secret.toList.getLast? ≠ some '\r' := by
  rw [firstLine, ← String.toList_inj, String.toList_ofList]
  constructor
  · intro kept
    have trimmed := (List.rdropWhile_prefix (· == '\r')
      (secret.toList.takeWhile (!· == '\n'))).sublist
    rw [kept] at trimmed
    have line : secret.toList.takeWhile (!· == '\n') = secret.toList :=
      (List.takeWhile_prefix (!· == '\n')).sublist.antisymm trimmed
    rw [line] at kept
    refine ⟨line ▸ feed_not_mem_takeWhile secret.toList, ?_⟩
    intro ending
    obtain ⟨inhabited, carriage⟩ := List.mem_getLast?_eq_getLast ending
    exact List.rdropWhile_eq_self_iff.mp kept inhabited (by rw [← carriage]; rfl)
  · rintro ⟨single, ending⟩
    have line : secret.toList.takeWhile (!· == '\n') = secret.toList := by
      rw [List.takeWhile_eq_self_iff]
      intro character member
      simpa using fun feed : character = '\n' => single (feed ▸ member)
    rw [line, List.rdropWhile_eq_self_iff]
    intro inhabited carriage
    exact ending (by rw [List.getLast?_eq_some_getLast inhabited, beq_iff_eq.mp carriage])

theorem ofText_eq (stream : List Char) :
    (ofText stream).1 = firstLine (String.ofList stream) := by
  rw [firstLine, String.toList_ofList]
  exact trimEnd_takeWhile stream

theorem firstLine_idem (secret : String) : firstLine (firstLine secret) = firstLine secret := by
  let line := secret.toList.takeWhile (!· == '\n')
  have read : (firstLine secret).toList = line.rdropWhile (· == '\r') := String.toList_ofList
  rw [firstLine_eq_self_iff, read]
  constructor
  · intro member
    exact feed_not_mem_takeWhile _ ((List.rdropWhile_prefix (· == '\r') line).subset member)
  · intro ending
    obtain ⟨inhabited, carriage⟩ := List.mem_getLast?_eq_getLast ending
    exact List.rdropWhile_last_not (· == '\r') line inhabited (by rw [← carriage]; rfl)

theorem firstLine_written (secret : String) : firstLine (secret ++ "\n") = firstLine secret := by
  have line : (secret ++ "\n").toList.takeWhile (!· == '\n') =
      secret.toList.takeWhile (!· == '\n') := by
    rw [String.toList_append, List.takeWhile_append]
    split
    next all =>
      have whole := (List.takeWhile_prefix (!· == '\n') (l := secret.toList)).eq_of_length all
      simp [whole]
    next => rfl
  rw [firstLine, line, firstLine]

theorem takeWhile_feed (characters : List Char) (rest : List UInt8) :
    (characters.flatMap String.utf8EncodeChar ++ 0x0A :: rest).takeWhile (!· == 0x0A) =
      (characters.takeWhile (!· == '\n')).flatMap String.utf8EncodeChar := by
  induction characters with
  | nil => rfl
  | cons character characters ih =>
      by_cases feed : character = '\n'
      · subst feed
        rfl
      · have inside : ∀ byte ∈ String.utf8EncodeChar character, (!byte == 0x0A) = true := by
          intro byte member
          simpa using fun same : byte = 0x0A =>
            Text.Utf8.feed_not_mem_utf8EncodeChar feed (same ▸ member)
        rw [List.flatMap_cons, List.append_assoc, List.takeWhile_append_of_pos inside, ih,
          List.takeWhile_cons_of_pos (by simpa using feed), List.flatMap_cons]

theorem ofBytes_handOver (secret : String) :
    (ofBytes (handOver secret)).1 = some (firstLine secret) := by
  have line : (handOver secret).takeWhile (!· == 0x0A) =
      Text.Utf8.encode (String.ofList (secret.toList.takeWhile (!· == '\n'))) := by
    rw [handOver, Text.Utf8.encode, takeWhile_feed, Text.Utf8.encode, String.toList_ofList]
  simp only [ofBytes, cutLine, line, Text.Utf8.decode?_encode, Option.map_some,
    String.toList_ofList, trimEnd_takeWhile, firstLine]

theorem decode?_handOver (secret : String) :
    Text.Utf8.decode? (handOver secret) = some (secret ++ "\n") := by
  have written : handOver secret = Text.Utf8.encode (secret ++ "\n") := by
    rw [Text.Utf8.encode_append]
    rfl
  rw [written, Text.Utf8.decode?_encode]

theorem handOver_eq (secret : String) :
    handOver secret = secret.toUTF8.data.toList ++ [0x0A] := by
  rw [handOver, Text.Utf8.encode_eq_toUTF8]

end Secret

namespace Launcher

theorem obtainSecret_input {settings : Settings} {surroundings : Surroundings}
    (unset : settings.secret.isEmpty = true) (piped : surroundings.isTerminal = false) :
    obtainSecret settings surroundings =
      ([.readInput], Secret.firstLine (String.ofList surroundings.input)) := by
  simp [obtainSecret, unset, piped, Secret.ofText_eq]

/-- The hand-over. Whatever secret the launcher obtains, a child is written that secret in UTF-8 and
a line feed, and nothing else, and reads its first line, from the bytes as well as from their text.
This is the secret itself just if it is one line that no carriage return ends, and a secret that came
from the input always is. -/
theorem secret_arrives (settings : Settings) (surroundings : Surroundings) (child : Child)
    (command : List String) :
    let secret := (obtainSecret settings surroundings).2
    let bytes := secret.toUTF8.data.toList ++ [0x0A]
    ((Launch.started child).perform command secret).events.filterMap Event.handedOver? = [bytes] ∧
      (Secret.ofBytes bytes).1 = some (Secret.firstLine secret) ∧
      (∃ text, Text.Utf8.decode? bytes = some text ∧
        (Secret.ofText text.toList).1 = Secret.firstLine secret) ∧
      (Secret.firstLine secret = secret ↔
        '\n' ∉ secret.toList ∧ secret.toList.getLast? ≠ some '\r') ∧
      (settings.secret.isEmpty ∧ surroundings.isTerminal = false →
        Secret.firstLine secret = secret) := by
  intro secret bytes
  have written : Secret.handOver secret = bytes := Secret.handOver_eq secret
  refine ⟨?_, ?_, ?_, Secret.firstLine_eq_self_iff, ?_⟩
  · rw [Launch.handedOver?_perform, written]
  · rw [← written, Secret.ofBytes_handOver]
  · refine ⟨secret ++ "\n", by rw [← written, Secret.decode?_handOver], ?_⟩
    rw [Secret.ofText_eq, String.ofList_toList, Secret.firstLine_written]
  · rintro ⟨unset, piped⟩
    simp only [secret, obtainSecret_input unset piped, Secret.firstLine_idem]

def Mutilates (text : String) : Prop :=
  ∃ settings,
    Settings.read (fun name => if name = "LAUNCHGUARD_SECRET" then some text else none) =
        .ok settings ∧
      ∀ surroundings, (obtainSecret settings surroundings).2 = text ∧
        (Secret.ofBytes (text.toUTF8.data.toList ++ [0x0A])).1 ≠ some text ∧
        (Secret.ofText (text ++ "\n").toList).1 ≠ text

/-- The environment may hold a secret of two lines, or one that ends in a carriage return. -/
theorem not_secret_arrives_whole : Mutilates "one\ntwo" ∧ Mutilates "s3cret\r" := by
  constructor
  · exact ⟨_, rfl, fun surroundings => ⟨rfl, by decide, by decide⟩⟩
  · exact ⟨_, rfl, fun surroundings => ⟨rfl, by decide, by decide⟩⟩

end Launcher

end Warden
