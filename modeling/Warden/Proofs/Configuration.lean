import Warden.Proofs.ChildCommand
import Warden.Proofs.CommandLine.Remnants

/-!
The configuration of a child. A launch chooses among the tokens that the launcher was given, while
the child reads phrases, and the two agree only as long as no flag is cut short and no value looks
like a flag. What is left of the phrases tells exactly whether a child understands its command line
and finds the configuration of the launcher there.
-/

namespace Warden

namespace LaunchPlan

open CommandLine

def isReduced (count attempt : Nat) : Bool :=
  decide (1 ≤ attempt ∧ attempt ≤ count + 1)

def choosesAt (count attempt : Nat) (token : String) : Bool :=
  !forSetting .daemons token && !forSetting .supervisor token &&
    (forSetting .config token || !isReduced count attempt)

def remnantsAt (flags : List String) (count attempt : Nat) : List Remnant :=
  (phrases flags).map (Phrase.cut (choosesAt count attempt))

def configuration (said : List Phrase) : Option String :=
  (given .config said).getLast?.getD (some "")

theorem flagsAt_remnants {flags daemons : List String}
    (sound : ∀ phrase ∈ phrases flags, phrase.Sound) (order : List String) (attempt : Nat) :
    (make flags daemons order).flagsAt attempt =
      (remnantsAt flags daemons.length attempt).flatMap Remnant.tokens := by
  have base : (make flags daemons order).baseFlags =
      ((phrases flags).map (Phrase.cut fun token =>
        (true && !forSetting .daemons token) && !forSetting .supervisor token)).flatMap
          Remnant.tokens := by
    rw [← remove_cuts sound, ← remove_cuts sound, tokens_cut_all, tokens_phrases]
    rfl
  unfold flagsAt
  split
  next reduced =>
    have known : isReduced daemons.length attempt = true := decide_eq_true reduced
    have chooses : choosesAt daemons.length attempt = fun token =>
        ((true && !forSetting .daemons token) && !forSetting .supervisor token) &&
          !(!forSetting .config token) := by
      funext token
      simp [choosesAt, known]
    rw [configFlags, base, remove_cuts sound, remnantsAt, chooses]
  next unreduced =>
    have known : isReduced daemons.length attempt = false := decide_eq_false unreduced
    have chooses : choosesAt daemons.length attempt = fun token =>
        (true && !forSetting .daemons token) && !forSetting .supervisor token := by
      funext token
      simp [choosesAt, known]
    rw [base, remnantsAt, chooses]

section Choice

variable {count attempt : Nat} {token : String} {setting : Setting}

theorem named_of_not_chosen (dropped : choosesAt count attempt token = false)
    (unreduced : isReduced count attempt = false) :
    forSetting .daemons token = true ∨ forSetting .supervisor token = true := by
  cases listed : forSetting .daemons token with
  | true => exact .inl rfl
  | false => exact .inr (by simpa [choosesAt, unreduced, listed] using dropped)

theorem setting_of_not_chosen {joined : Option String}
    (kind : classify token = .setting setting joined)
    (dropped : choosesAt count attempt token = false)
    (unreduced : isReduced count attempt = false) : setting = .daemons ∨ setting = .supervisor := by
  rcases named_of_not_chosen dropped unreduced with listed | switched
  · exact .inl (eq_of_names kind listed).symm
  · exact .inr (eq_of_names kind switched).symm

theorem setting_of_chosen {joined : Option String} (kind : classify token = .setting setting joined)
    (chosen : choosesAt count attempt token = true) (reduced : isReduced count attempt = true) :
    setting = .config := by
  simp only [choosesAt, reduced, Bool.not_true, Bool.or_false, Bool.and_eq_true] at chosen
  exact (eq_of_names kind chosen.2).symm

theorem chosen_of_config (named : forSetting .config token = true) :
    choosesAt count attempt token = true := by
  have unnamed : ∀ other : Setting, other ≠ .config → forSetting other token = false := by
    intro other different
    cases also : forSetting other token with
    | false => rfl
    | true => exact absurd (eq_of_both_names named also) different
  simp [choosesAt, named, unnamed .daemons (by simp), unnamed .supervisor (by simp)]

theorem lenient_of_parted {text : String} (kind : classify token = .setting setting none)
    (heeded : Phrase.Heeded ⟨token, some text⟩) (dashed : Flags.isFlag text = true)
    (chosen : choosesAt count attempt token = true)
    (dropped : choosesAt count attempt text = false) : Lenient token := by
  obtain ⟨next, taken⟩ := heeded {}
  rw [heed_taken kind] at taken
  cases setting with
  | config => exact .inl kind
  | daemons => exact .inr kind
  | supervisor => simp [Reading.assign, Switch.read?_dashed dashed, Except.toOption] at taken
  | maxWorkers =>
      cases known : isReduced count attempt with
      | true => cases setting_of_chosen kind chosen known
      | false =>
          rcases named_of_not_chosen dropped known with listed | switched
          · simp [Reading.assign, Numeral.readWhole_named listed, Except.toOption] at taken
          · simp [Reading.assign, Numeral.readWhole_named switched, Except.toOption] at taken

end Choice

theorem sensible_remnantsAt {flags : List String} (sound : ∀ phrase ∈ phrases flags, phrase.Sound)
    (heeded : ∀ phrase ∈ phrases flags, phrase.Heeded) (count attempt : Nat) :
    ∀ remnant ∈ remnantsAt flags count attempt, remnant.Sensible := by
  intro remnant member
  obtain ⟨⟨opening, value⟩, said, rfl⟩ := List.mem_map.mp member
  have sense := sound _ said
  rcases cut_cases (choosesAt count attempt) ⟨opening, value⟩ with ⟨_, whole⟩ | ⟨_, gone⟩ |
    ⟨text, rfl, dashed, ⟨chosen, dropped, parted⟩ | ⟨_, _, parted⟩⟩
  · rw [whole]
    exact .whole sense
  · rw [gone]
    exact .nothing
  · rw [parted]
    cases sense with
    | apart kind _ => exact .flag (lenient_of_parted kind (heeded _ said) dashed chosen dropped)
  · rw [parted]
    cases sense with
    | apart _ looks => exact .value looks dashed

theorem given_whole_cut {phrase : Phrase} (sound : phrase.Sound) (heeded : phrase.Heeded)
    (count attempt : Nat) :
    given .maxWorkers (phrase.cut (choosesAt count attempt)).whole?.toList =
      if isReduced count attempt then [] else given .maxWorkers [phrase] := by
  obtain ⟨opening, value⟩ := phrase
  obtain ⟨setting, joined, _, kind, meaning⟩ := sound.about
  have unasked (other : setting ≠ .maxWorkers) : given .maxWorkers [⟨opening, value⟩] = [] := by
    rw [given_cons meaning, if_neg other]
    rfl
  cases known : isReduced count attempt with
  | true =>
      rcases cut_cases (choosesAt count attempt) ⟨opening, value⟩ with ⟨chosen, whole⟩ | ⟨_, gone⟩ |
        ⟨_, _, _, ⟨_, _, parted⟩ | ⟨_, _, parted⟩⟩
      · obtain rfl := setting_of_chosen kind chosen known
        rw [whole]
        exact unasked (by simp)
      · rw [gone]
        rfl
      · rw [parted]
        rfl
      · rw [parted]
        rfl
  | false =>
      have dropped (out : choosesAt count attempt opening = false) :
          given .maxWorkers [⟨opening, value⟩] = [] := by
        rcases setting_of_not_chosen kind out known with rfl | rfl
        · exact unasked (by simp)
        · exact unasked (by simp)
      rcases cut_cases (choosesAt count attempt) ⟨opening, value⟩ with ⟨_, whole⟩ | ⟨out, gone⟩ |
        ⟨text, rfl, dashed, ⟨chosen, out, parted⟩ | ⟨out, _, parted⟩⟩
      · rw [whole]
        rfl
      · rw [gone]
        exact (dropped out).symm
      · rw [parted]
        cases sound with
        | apart apart _ =>
            rcases lenient_of_parted apart heeded dashed chosen out with lenient | lenient
            · cases lenient.symm.trans kind
              exact (unasked (by simp)).symm
            · cases lenient.symm.trans kind
              exact (unasked (by simp)).symm
      · rw [parted]
        exact (dropped out).symm

theorem given_whole_remnantsAt {flags : List String}
    (sound : ∀ phrase ∈ phrases flags, phrase.Sound)
    (heeded : ∀ phrase ∈ phrases flags, phrase.Heeded) (count attempt : Nat) :
    given .maxWorkers ((remnantsAt flags count attempt).filterMap Remnant.whole?) =
      if isReduced count attempt then [] else given .maxWorkers (phrases flags) := by
  rw [remnantsAt]
  generalize phrases flags = said at sound heeded
  induction said with
  | nil => simp [given]
  | cons phrase rest ih =>
      obtain ⟨first, later⟩ := List.forall_mem_cons.mp sound
      obtain ⟨here, there⟩ := List.forall_mem_cons.mp heeded
      have split : ((phrase :: rest).map (Phrase.cut (choosesAt count attempt))).filterMap
          Remnant.whole? = (phrase.cut (choosesAt count attempt)).whole?.toList ++
            (rest.map (Phrase.cut (choosesAt count attempt))).filterMap Remnant.whole? := by
        cases whole : (phrase.cut (choosesAt count attempt)).whole? <;>
          simp [whole]
      rw [split, given_append, given_whole_cut first here, ih later there,
        given_split .maxWorkers phrase rest]
      split <;> rfl

theorem sound_of_follow {flags : List String} {final : Reading}
    (followed : Reading.follow {} (phrases flags) = some final) :
    ∀ phrase ∈ phrases flags, phrase.Sound := by
  intro phrase said
  obtain ⟨next, heeded⟩ := heeded_of_follow followed phrase said {}
  obtain ⟨setting, value, meaning, _⟩ := heed_eq_some.mp heeded
  exact sound_of_mem_phrases said (by simp [meaning])

theorem isValue_joinNames_daemonsAt {text : String} (inhabited : Daemon.splitNames text ≠ [])
    (undashed : ∀ name ∈ Daemon.splitNames text, Flags.isFlag name = false)
    (flags order : List String) (attempt : Nat) :
    isValue (Daemon.joinNames
      ((make flags (Daemon.splitNames text) order).daemonsAt attempt)) = true := by
  have part := daemonsAt_sublist flags (Daemon.splitNames text) order attempt
  apply isValue_of_not_isFlag
  apply Daemon.isFlag_joinNames
  · exact daemonsAt_ne_nil _ _ order attempt inhabited (Daemon.splitNames_nodup text)
  · exact fun name member => Daemon.ne_empty_of_mem_splitNames (part.subset member)
  · exact fun name first => undashed name (part.subset (List.mem_of_mem_head? first))

theorem read_resolve_remnants {flags : List String} {options : Options}
    (accepted : read flags = .ok options) (inhabited : options.daemons ≠ [])
    (undashed : ∀ name ∈ options.daemons, Flags.isFlag name = false) (order : List String)
    (attempt : Nat) (child : Options) :
    let plan := make flags options.daemons order
    read (plan.resolve attempt).flags = .ok child ↔
      ∃ kept, rejoin none (remnantsAt flags options.daemons.length attempt) = some kept ∧
        child = ⟨configuration kept, false,
          Daemon.splitNames (Daemon.joinNames (plan.daemonsAt attempt)),
          if isReduced options.daemons.length attempt then some 0 else options.maxWorkers⟩ := by
  intro plan
  obtain ⟨whole, text, followed, _, rfl⟩ := read_eq_ok.mp accepted
  have heeded := heeded_of_follow followed
  have sound := sound_of_follow followed
  have sensible := sensible_remnantsAt sound heeded (Daemon.splitNames text).length attempt
  have value := isValue_joinNames_daemonsAt inhabited undashed flags order attempt
  have reads : Reading.follow {} (phrases (plan.flagsAt attempt)) =
      (rejoin none (remnantsAt flags (Daemon.splitNames text).length attempt)).bind
        fun kept => Reading.follow {} kept := by
    have alone : ∀ token ∈ ([] : List String).head?, isValue token = false := by simp
    rw [flagsAt_remnants sound]
    simpa [phrases] using follow_rejoin sensible alone none (by simp) {}
  have outcome {kept : List Phrase} {front : Reading}
      (joined : rejoin none (remnantsAt flags (Daemon.splitNames text).length attempt) = some kept)
      (following : Reading.follow {} kept = some front) :
      front.config = configuration kept ∧ front.maxWorkers =
        if isReduced (Daemon.splitNames text).length attempt then some 0 else whole.maxWorkers := by
    refine ⟨Reading.config_follow following, ?_⟩
    rw [Reading.maxWorkers_follow following, given_rejoin sensible (by simp) joined,
      given_whole_remnantsAt sound heeded, Reading.maxWorkers_follow followed]
    split <;> rfl
  rw [read_resolve]
  constructor
  · rintro ⟨_, front, going, rfl⟩
    rw [reads] at going
    obtain ⟨kept, joined, following⟩ := Option.bind_eq_some_iff.mp going
    obtain ⟨config, maxWorkers⟩ := outcome joined following
    exact ⟨kept, joined, by rw [config, maxWorkers]⟩
  · rintro ⟨kept, joined, rfl⟩
    have keptHeeded : ∀ phrase ∈ kept, phrase.Heeded :=
      heeded_rejoin sensible (fun phrase member => heeded phrase (mem_of_whole_mem_cuts member))
        (by simp) joined
    obtain ⟨front, following⟩ := follow_of_heeded keptHeeded {}
    obtain ⟨config, maxWorkers⟩ := outcome joined following
    refine ⟨value, front, ?_, by rw [config, maxWorkers]⟩
    rw [reads, joined]
    exact following

/-- Exactly when a child starts and has the configuration of its launcher, and with it the count of
workers that its attempt allows: if what the attempt leaves of the phrases joins to phrases that
still give that configuration last. -/
theorem keeps_configuration_iff {flags : List String} {options : Options}
    (accepted : read flags = .ok options) (inhabited : options.daemons ≠ [])
    (undashed : ∀ name ∈ options.daemons, Flags.isFlag name = false) (order : List String)
    (attempt : Nat) :
    (∃ child, read ((make flags options.daemons order).resolve attempt).flags = .ok child ∧
      child.config = options.config ∧
      child.maxWorkers = if 1 ≤ attempt ∧ attempt ≤ options.daemons.length + 1 then some 0
        else options.maxWorkers) ↔
    (rejoin none (remnantsAt flags options.daemons.length attempt)).map configuration =
      some options.config := by
  have reads := read_resolve_remnants accepted inhabited undashed order attempt
  constructor
  · rintro ⟨child, understood, same, _⟩
    obtain ⟨kept, joined, rfl⟩ := (reads child).mp understood
    rw [joined]
    exact congrArg some same
  · intro condition
    obtain ⟨kept, joined, same⟩ := Option.map_eq_some_iff.mp condition
    exact ⟨_, (reads _).mpr ⟨kept, joined, rfl⟩, same, by simp [isReduced]⟩

theorem keeps_configuration_spelled_out :
    let flags := ["-config", "cfg.json", "-daemons", "dnsd,httpd"]
    let options : Options := ⟨some "cfg.json", true, ["dnsd", "httpd"], some 0⟩
    read flags = .ok options ∧ options.daemons ≠ [] ∧
      (∀ name ∈ options.daemons, Flags.isFlag name = false) ∧
      ∃ child, read ((make flags options.daemons Daemon.shedOrder).resolve 2).flags = .ok child ∧
        child.config = options.config ∧ child.maxWorkers = some 0 := by
  intro flags options
  have accepted : read flags = .ok options := rfl
  have inhabited : options.daemons ≠ [] := by decide
  have undashed : ∀ name ∈ options.daemons, Flags.isFlag name = false := by decide
  have kept := keeps_configuration_iff accepted inhabited undashed Daemon.shedOrder 2
  exact ⟨accepted, inhabited, undashed, kept.mpr rfl⟩

/-- A configuration flag that is cut short goes with all the others, and the child takes the empty
configuration for its own. -/
theorem not_keeps_configuration_cut_short :
    let flags := ["-conf", "cfg.json", "-daemons", "httpd"]
    let options : Options := ⟨some "cfg.json", true, ["httpd"], some 0⟩
    let child := (make flags options.daemons Daemon.shedOrder).resolve 1
    read flags = .ok options ∧ read child.flags = .ok ⟨some "", false, ["httpd"], some 0⟩ ∧
      ¬∃ understood, read child.flags = .ok understood ∧ understood.config = options.config := by
  have reads : read ((make ["-conf", "cfg.json", "-daemons", "httpd"] ["httpd"]
      Daemon.shedOrder).resolve 1).flags = .ok ⟨some "", false, ["httpd"], some 0⟩ := rfl
  refine ⟨rfl, reads, ?_⟩
  rintro ⟨understood, same, config⟩
  cases reads.symm.trans same
  exact absurd config (by decide)

example : read ((make ["-config", "-", "-daemons", "httpd"] ["httpd"]
    Daemon.shedOrder).resolve 1).flags = .error (.refused (.missingValue .config)) := rfl

theorem child_keeps_plain_configuration {flags : List String} {options : Options}
    (accepted : read flags = .ok options) (inhabited : options.daemons ≠ [])
    (undashed : ∀ name ∈ options.daemons, Flags.isFlag name = false)
    (plain : ∀ phrase ∈ phrases flags, ∀ text ∈ phrase.value, Flags.isFlag text = false)
    (spelled : ∀ phrase ∈ phrases flags, ∀ value, phrase.meaning? = some (.config, value) →
      forSetting .config phrase.opening = true)
    (order : List String) (attempt : Nat) :
    ∃ child, read ((make flags options.daemons order).resolve attempt).flags = .ok child ∧
      child.config = options.config := by
  have reads := read_resolve_remnants accepted inhabited undashed order attempt
  have joined := rejoin_plain plain (choosesAt options.daemons.length attempt)
  refine ⟨_, (reads _).mpr ⟨_, joined, rfl⟩, ?_⟩
  have stays : ∀ phrase ∈ phrases flags, ∀ value, phrase.meaning? = some (.config, value) →
      choosesAt options.daemons.length attempt phrase.opening = true :=
    fun phrase member value meaning => chosen_of_config (spelled phrase member value meaning)
  obtain ⟨whole, text, followed, _, rfl⟩ := read_eq_ok.mp accepted
  rw [Reading.config_follow followed]
  exact congrArg (fun values => values.getLast?.getD (some "")) (given_filter stays)

end LaunchPlan

end Warden
