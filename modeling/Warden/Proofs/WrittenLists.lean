import Mathlib.Data.List.DropRight
import Warden.Proofs.ChildCommand
import Warden.Proofs.CommandLine.Naming

/-!
Daemon lists in writing. Splitting a text at its commas keeps every trimmed entry that is not blank,
once and where it first stands, and a list of such names is read back as it is. A launch hands its
list on apart from the flag, so a child reads it back just if the text looks like a value.
-/

namespace Warden

namespace Text

theorem trim_sublist (dropped : Char → Bool) (characters : List Char) :
    (trim dropped characters).Sublist characters :=
  (List.rdropWhile_prefix dropped _).sublist.trans (List.dropWhile_suffix dropped).sublist

theorem trim_trim (dropped : Char → Bool) (characters : List Char) :
    trim dropped (trim dropped characters) = trim dropped characters := by
  have front : (trim dropped characters).dropWhile dropped = trim dropped characters := by
    obtain ⟨rest, whole⟩ : trim dropped characters <+: characters.dropWhile dropped :=
      List.rdropWhile_prefix dropped _
    cases trimmed : trim dropped characters with
    | nil => rfl
    | cons first more =>
        have stays := List.head?_dropWhile_not dropped characters
        rw [← whole, trimmed] at stays
        exact List.dropWhile_cons_of_neg (by simpa using stays)
  calc trim dropped (trim dropped characters)
      = ((trim dropped characters).dropWhile dropped).rdropWhile dropped := rfl
    _ = (trim dropped characters).rdropWhile dropped := by rw [front]
    _ = trim dropped characters := List.rdropWhile_idempotent dropped _

theorem strip_strip (text : String) : strip (strip text) = strip text := by
  simp only [strip, String.toList_ofList, trim_trim]

theorem not_mem_of_mem_splitOn {mark : Char} {characters piece : List Char}
    (member : piece ∈ characters.splitOn mark) : mark ∉ piece := by
  induction characters generalizing piece with
  | nil =>
      rw [List.mem_singleton.mp member]
      simp
  | cons first rest ih =>
      rw [List.splitOn_eq_splitOnP, List.splitOnP_cons_eq_if_modifyHead,
        ← List.splitOn_eq_splitOnP] at member
      split at member
      · rcases List.mem_cons.mp member with rfl | later
        · simp
        · exact ih later
      next plain =>
        cases split : rest.splitOn mark with
        | nil => simp [split] at member
        | cons next others =>
            rw [split, List.modifyHead_cons] at member
            rcases List.mem_cons.mp member with rfl | later
            · have different : mark ≠ first := by
                rintro rfl
                simp at plain
              simpa [different] using ih (split ▸ List.mem_cons_self)
            · exact ih (split ▸ List.mem_cons_of_mem _ later)

end Text

namespace Daemon

structure ArePieces (text : String) (pieces : List String) : Prop where
  inhabited : pieces ≠ []
  commaFree : ∀ piece ∈ pieces, ',' ∉ piece.toList
  joined : joinNames pieces = text

/-- A selection of all entries that are not blank, each of them once and in the order in which they
first stand. -/
structure SelectsFirst (entries names : List String) : Prop where
  listed : ∀ name, name ∈ names ↔ name ∈ entries ∧ name ≠ ""
  ordered : names.Pairwise fun earlier later => entries.idxOf earlier < entries.idxOf later

theorem arePieces_commaPieces (text : String) : ArePieces text (Text.commaPieces text) where
  inhabited := by simp [Text.commaPieces, List.splitOn_ne_nil]
  commaFree := by
    intro piece member
    obtain ⟨characters, split, rfl⟩ := List.mem_map.mp member
    rw [String.toList_ofList]
    exact Text.not_mem_of_mem_splitOn split
  joined := by
    rw [← String.toList_inj, joinNames, String.toList_intercalate, Text.commaPieces, List.map_map]
    simp

theorem splitNames_selectsFirst (text : String) :
    SelectsFirst ((Text.commaPieces text).map Text.strip) (splitNames text) where
  listed := by
    intro name
    simp [splitNames, List.mem_eraseDups]
  ordered := by
    refine (ordered_eraseDups _).imp_of_mem ?_
    intro earlier later first second before
    simp only [List.mem_eraseDups, List.mem_filter] at first second
    exact idxOf_lt_of_filter _ first.2 second.2 before

theorem splitNames_listable (text : String) : Listable (splitNames text) := by
  have trimmed : ∀ name ∈ splitNames text, ∃ piece ∈ Text.commaPieces text,
      Text.strip piece = name := by
    intro name member
    exact List.mem_map.mp ((splitNames_selectsFirst text).listed name |>.mp member).1
  refine ⟨splitNames_nodup text, fun _ => ne_empty_of_mem_splitNames, ?_, ?_⟩
  · intro name member
    obtain ⟨piece, _, rfl⟩ := trimmed name member
    exact Text.strip_strip piece
  · intro name member
    obtain ⟨piece, between, rfl⟩ := trimmed name member
    rw [Text.strip, String.toList_ofList]
    exact fun comma => (arePieces_commaPieces text).commaFree piece between
      ((Text.trim_sublist _ _).subset comma)

end Daemon

namespace CommandLine

theorem names_of_joined {token text : String} {setting : Setting}
    (kind : classify token = .setting setting (some text)) :
    Flags.names token setting.name = true := by
  rcases classify_setting kind with ⟨_, _, _, _, impossible⟩ | ⟨_, whole, _⟩
  · cases impossible
  · simp [Flags.names, whole]

theorem Reading.isSome_daemons_follow {reading final : Reading} {said : List Phrase}
    (listed : reading.daemons.isSome)
    (unnamed : ∀ phrase ∈ said, Flags.names phrase.opening Setting.daemons.name = false)
    (followed : reading.follow said = some final) : final.daemons.isSome := by
  induction said generalizing reading with
  | nil =>
      cases followed
      exact listed
  | cons phrase rest ih =>
      obtain ⟨first, later⟩ := List.forall_mem_cons.mp unnamed
      obtain ⟨next, heeded, going⟩ := follow_cons.mp followed
      obtain ⟨setting, value, meaning, assigned⟩ := heed_eq_some.mp heeded
      obtain ⟨_, rfl⟩ := Reading.assign_eq_ok.mp assigned
      refine ih ?_ later going
      cases setting with
      | daemons =>
          unfold Phrase.meaning? at meaning
          split at meaning
          next kind _ =>
            cases meaning
            rw [names_of_joined kind] at first
            cases first
          · cases meaning
            rfl
          · cases meaning
          · cases meaning
      | _ => exact listed

theorem opening_mem_tokens {tokens : List String} {phrase : Phrase}
    (member : phrase ∈ phrases tokens) : phrase.opening ∈ tokens := by
  rw [← tokens_phrases tokens]
  exact List.mem_flatMap.mpr ⟨phrase, member, List.mem_cons_self⟩

end CommandLine

namespace LaunchPlan

open CommandLine (Phrase Reading Setting isValue phrases)

variable (flags daemons order : List String) (attempt : Nat)

theorem read_flagsAt :
    let front := (make flags daemons order).flagsAt attempt
    (∃ options, CommandLine.read front = .ok options) ↔
      ∃ reading, Reading.follow {} (phrases front) = some reading := by
  intro front
  constructor
  · rintro ⟨options, accepted⟩
    obtain ⟨reading, _, followed, _⟩ := CommandLine.read_eq_ok.mp accepted
    exact ⟨reading, followed⟩
  · rintro ⟨reading, followed⟩
    have unnamed : ∀ phrase ∈ phrases front,
        Flags.names phrase.opening Setting.daemons.name = false := fun phrase said =>
      (names_flagsAt flags daemons order attempt _ (CommandLine.opening_mem_tokens said)).2
    obtain ⟨text, listed⟩ := Option.isSome_iff_exists.mp
      (Reading.isSome_daemons_follow rfl unnamed followed)
    exact ⟨_, CommandLine.read_eq_ok.mpr ⟨reading, text, followed, listed, rfl⟩⟩

theorem isValue_joinNames {names : List String} (filled : ∀ name ∈ names, name ≠ "")
    (undashed : ∀ name ∈ names.head?, Flags.isFlag name = false) :
    isValue (Daemon.joinNames names) = true := by
  by_cases empty : names = []
  · subst empty
    rfl
  · exact CommandLine.isValue_of_not_isFlag (Daemon.isFlag_joinNames empty filled undashed)

/-- Splitting a text gives a list that can be written, of its entries in their order, and a list that
can be written is split into itself. A child that understands its command line reads its own list
back from it, and it does understand it just if it does so with the flags in front and the written
list looks like a value, as it does unless its first name begins with a dash. -/
theorem carries_daemons_iff (text : String) {names : List String}
    (listable : Daemon.Listable names) (flags order : List String) (attempt : Nat) :
    let plan := make flags names order
    let child := plan.resolve attempt
    (Daemon.Listable (Daemon.splitNames text) ∧
      (∃ pieces, Daemon.ArePieces text pieces ∧
        Daemon.SelectsFirst (pieces.map Text.strip) (Daemon.splitNames text)) ∧
      Daemon.splitNames (Daemon.joinNames (Daemon.splitNames text)) = Daemon.splitNames text) ∧
    Daemon.splitNames (Daemon.joinNames names) = names ∧
    (child.daemons.Sublist names ∧
      Daemon.splitNames (Daemon.joinNames child.daemons) = child.daemons ∧
      child.flags = plan.flagsAt attempt ++
        ["-supervisor=false", "-daemons", Daemon.joinNames child.daemons]) ∧
    (∀ options, CommandLine.read child.flags = .ok options →
      options.daemons = child.daemons) ∧
    ((∃ options, CommandLine.read child.flags = .ok options) ↔
      (∃ options, CommandLine.read (plan.flagsAt attempt) = .ok options) ∧
        isValue (Daemon.joinNames child.daemons) = true) ∧
    ((∀ name ∈ child.daemons.head?, Flags.isFlag name = false) →
      isValue (Daemon.joinNames child.daemons) = true) := by
  intro plan child
  have part : child.daemons.Sublist names := daemonsAt_sublist flags names order attempt
  have proper := listable.of_sublist part
  have back := Daemon.splitNames_joinNames proper
  have split := Daemon.splitNames_listable text
  refine ⟨⟨split, ⟨Text.commaPieces text, ?_, ?_⟩, ?_⟩, ?_, ⟨part, back, rfl⟩, ?_, ?_, ?_⟩
  · exact Daemon.arePieces_commaPieces text
  · exact Daemon.splitNames_selectsFirst text
  · exact Daemon.splitNames_joinNames split
  · exact Daemon.splitNames_joinNames listable
  · intro options accepted
    obtain ⟨_, front, _, rfl⟩ := read_resolve.mp accepted
    exact back
  · have ahead := read_flagsAt flags names order attempt
    constructor
    · rintro ⟨options, accepted⟩
      obtain ⟨value, front, followed, _⟩ := read_resolve.mp accepted
      exact ⟨ahead.mpr ⟨front, followed⟩, value⟩
    · rintro ⟨understood, value⟩
      obtain ⟨front, followed⟩ := ahead.mp understood
      exact ⟨_, read_resolve.mpr ⟨value, front, followed, rfl⟩⟩
  · exact isValue_joinNames proper.filled

theorem carries_daemons_shed :
    let names := ["dnsd", "snmpd", "my chat"]
    let child := (make ["-config", "cfg.json"] names Daemon.shedOrder).resolve 3
    Daemon.Listable names ∧ Daemon.Listable (Daemon.splitNames "dnsd,, my chat ,dnsd") ∧
      child.daemons = ["my chat"] ∧
      ∃ options, CommandLine.read child.flags = .ok options ∧ options.daemons = ["my chat"] := by
  intro names child
  have listable : Daemon.Listable names :=
    ⟨by decide, by decide, by decide +kernel, by decide⟩
  have shed : child.daemons = ["my chat"] := by decide
  obtain ⟨⟨split, _⟩, _, _, same, understood, undashed⟩ := carries_daemons_iff
    "dnsd,, my chat ,dnsd" listable ["-config", "cfg.json"] Daemon.shedOrder 3
  obtain ⟨options, accepted⟩ := understood.mpr
    ⟨⟨⟨some "cfg.json", true, [], some 0⟩, rfl⟩, undashed (by decide)⟩
  exact ⟨listable, split, shed, options, accepted, (same options accepted).trans shed⟩

/-- A name may begin with a dash. As soon as it is the first one left, it stands behind its flag as
a flag of its own, and the child refuses its command line, although it would take the list joined
to the flag. -/
theorem not_carries_dashed_daemon :
    let plan := make ["-daemons", "httpd,-x"] ["httpd", "-x"] Daemon.shedOrder
    let child := plan.resolve 2
    Daemon.Listable plan.daemons ∧
      CommandLine.read ["-daemons", "httpd,-x"] = .ok ⟨some "", true, plan.daemons, some 0⟩ ∧
      CommandLine.read (plan.resolve 0).flags = .ok ⟨some "", false, plan.daemons, some 0⟩ ∧
      child.daemons = ["-x"] ∧ child.flags = ["-supervisor=false", "-daemons", "-x"] ∧
      CommandLine.read child.flags = .error (.refused (.missingValue .daemons)) ∧
      CommandLine.read ["-supervisor=false", "-daemons=-x"] =
        .ok ⟨some "", false, ["-x"], some 0⟩ := by
  intro plan child
  have dashed : isValue "-x" = false := by decide +kernel
  have refused : CommandLine.read child.flags = .error (.refused (.missingValue .daemons)) := by
    let switched : Reading := { supervisor := false }
    calc CommandLine.read child.flags
        = (CommandLine.readFrom switched (some .daemons) ["-x"]).bind Reading.finish := rfl
      _ = .error (.refused (.missingValue .daemons)) := by
          simp [CommandLine.readFrom, dashed, Reading.settle, Except.bind]
  have whole : (plan.resolve 0).flags = ["-supervisor=false", "-daemons", "httpd,-x"] := by decide
  refine ⟨⟨by decide, by decide, by decide +kernel, by decide⟩, rfl, ?_, rfl, rfl, refused, rfl⟩
  rw [whole]
  rfl

end LaunchPlan

end Warden
