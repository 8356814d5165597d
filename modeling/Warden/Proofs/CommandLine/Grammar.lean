import Mathlib.Data.List.Forall2
import Warden.CommandLine.Usage
import Warden.Proofs.CommandLine.Phrases
import Warden.Proofs.CommandLine.TokenForms

/-!
The grammar of the command line. Its units are an option with its value joined to it, an option
followed by a value, and the supervisor switch where no value follows. The reader accepts just what
splits into units whose texts can be read, and gives each setting the text of its last unit. All
else it refuses, unless somebody asks for help.
-/

namespace Warden.CommandLine

/-- The units of a command line, and of each the setting and its text. Only the bare supervisor
switch comes without a text. -/
inductive Units : List String → List (Setting × Option String) → Prop
  | nothing : Units [] []
  | joined {setting text rest said} : Units rest said →
      Units (setting.joined text :: rest) ((setting, some text) :: said)
  | taken {setting opening text rest said} : Cuts setting opening → IsValue text →
      Units rest said → Units (opening :: text :: rest) ((setting, some text) :: said)
  | bare {opening rest said} : Cuts .supervisor opening → (∀ next ∈ rest.head?, IsOption next) →
      Units rest said → Units (opening :: rest) ((.supervisor, none) :: said)

def lastSaid (setting : Setting) (said : List (Setting × Option String)) :
    Option (Option String) :=
  said.reverse.lookup setting

/-- Each setting from its last unit. Without one it has its default, and the switch is on when it
is bare, too. -/
def optionsOf (said : List (Setting × Option String)) : Options where
  config := match lastSaid .config said with
    | some (some text) => some text
    | _ => some ""
  supervisor := match lastSaid .supervisor said with
    | some (some text) => Switch.read? text == some true
    | _ => true
  daemons := match lastSaid .daemons said with
    | some (some text) => Daemon.splitNames text
    | _ => []
  maxWorkers := match lastSaid .maxWorkers said with
    | some (some text) => (Numeral.readWhole text).toOption
    | _ => some 0

structure Ordinary (token : String) : Prop where
  apart : token ≠ separator
  unjoined : ∀ setting : Setting, token ≠ setting.joined separator
  helpless : ¬AsksForHelp token

section Units

variable {opening text : String} {setting : Setting} {rest : List String}

theorem isValue_iff (ordinary : Ordinary text) : isValue text = true ↔ IsValue text := by
  rw [isValue, Bool.and_eq_true, bne_iff_ne, beq_iff_eq, classify_value_iff ordinary.helpless]
  exact and_iff_right ordinary.apart

theorem IsOption.not_isValue {token : String} (option : IsOption token) :
    isValue token = false := by
  obtain ⟨_, _, kind⟩ := isOption_iff.mp option
  exact isValue_of_classify kind

theorem joinedValue_of_ordinary (ordinary : Ordinary (setting.joined text)) :
    joinedValue text = some text := by
  have other : text ≠ separator := by
    rintro rfl
    exact ordinary.unjoined setting rfl
  simp [joinedValue, other]

theorem Units.head_isOption {tokens : List String} {said : List (Setting × Option String)}
    (units : Units tokens said) : ∀ token ∈ tokens.head?, IsOption token := by
  intro token first
  cases units with
  | nothing => cases first
  | @joined setting text =>
      cases first
      exact ⟨setting, .inr ⟨text, rfl⟩⟩
  | taken cut _ _ =>
      cases first
      exact ⟨_, .inl cut⟩
  | bare cut _ _ =>
      cases first
      exact ⟨_, .inl cut⟩

theorem units_opening {unit : Setting × Option String} {said : List (Setting × Option String)}
    (ordinary : Ordinary opening) (meaning : Phrase.meaning? ⟨opening, none⟩ = some unit)
    (units : Units rest said) : Units (opening :: rest) (unit :: said) := by
  unfold Phrase.meaning? at meaning
  split at meaning
  next setting text kind _ =>
    obtain rfl := classify_joined_iff.mp kind
    rw [joinedValue_of_ordinary ordinary] at meaning
    cases meaning
    exact .joined units
  next impossible => cases impossible
  next kind _ =>
    cases meaning
    exact .bare (classify_apart_iff.mp kind) units.head_isOption units
  next => cases meaning

theorem units_iff {tokens : List String} {said : List (Setting × Option String)}
    (ordinary : ∀ token ∈ tokens, Ordinary token) :
    Units tokens said ↔
      List.Forall₂ (fun phrase unit => phrase.meaning? = some unit) (phrases tokens) said := by
  constructor
  · intro units
    induction units with
    | nothing => exact .nil
    | @joined setting text rest said _ ih =>
        obtain ⟨first, later⟩ := List.forall_mem_cons.mp ordinary
        have kind := classify_joined_iff.mpr (rfl : setting.joined text = _)
        rw [phrases_opening (by simp [awaits, kind])]
        refine .cons ?_ (ih later)
        simp [Phrase.meaning?, kind, joinedValue_of_ordinary first]
    | @taken setting opening text rest said cut value _ ih =>
        obtain ⟨_, second, later⟩ := by simpa using ordinary
        have kind := classify_apart_iff.mpr cut
        rw [phrases_taken (awaits_eq_true.mpr ⟨_, kind⟩) ((isValue_iff second).mpr value)]
        refine .cons ?_ (ih later)
        simp [Phrase.meaning?, kind]
    | @bare opening rest said cut next _ ih =>
        obtain ⟨_, later⟩ := List.forall_mem_cons.mp ordinary
        have kind := classify_apart_iff.mpr cut
        rw [phrases_opening fun _ token first => (next token first).not_isValue]
        refine .cons ?_ (ih later)
        simp [Phrase.meaning?, kind]
  · intro meanings
    fun_induction phrases tokens generalizing said with
    | case1 =>
        cases meanings
        exact .nothing
    | case2 opening =>
        cases meanings with
        | cons meaning none =>
            cases none
            exact units_opening (ordinary opening List.mem_cons_self) meaning .nothing
    | case3 opening text rest taken ih =>
        obtain ⟨waits, value⟩ := Bool.and_eq_true_iff.mp taken
        obtain ⟨setting, kind⟩ := awaits_eq_true.mp waits
        obtain ⟨_, second, later⟩ := by simpa using ordinary
        cases meanings with
        | cons meaning others =>
            obtain rfl : (setting, some text) = _ := by simpa [Phrase.meaning?, kind] using meaning
            exact .taken (classify_apart_iff.mp kind) ((isValue_iff second).mp value)
              (ih later others)
    | case4 opening next rest free ih =>
        obtain ⟨first, later⟩ := List.forall_mem_cons.mp ordinary
        cases meanings with
        | cons meaning others => exact units_opening first meaning (ih later others)

end Units

section Texts

variable {said : List (Setting × Option String)}

theorem follow_eq_some {phrases : List Phrase} {reading final : Reading} :
    reading.follow phrases = some final ↔ ∃ said,
      List.Forall₂ (fun phrase unit => phrase.meaning? = some unit) phrases said ∧
        (∀ unit ∈ said, Passes unit) ∧ final = said.foldl Reading.put reading := by
  induction phrases generalizing reading with
  | nil =>
      simp only [List.forall₂_nil_left_iff]
      constructor
      · intro followed
        cases followed
        exact ⟨[], rfl, by simp, rfl⟩
      · rintro ⟨_, rfl, _, rfl⟩
        rfl
  | cons phrase rest ih =>
      simp only [follow_cons, heed_eq_some, Reading.assign_eq_ok, ih]
      constructor
      · rintro ⟨_, ⟨setting, text, meaning, passes, rfl⟩, said, meanings, pass, rfl⟩
        exact ⟨(setting, text) :: said, .cons meaning meanings,
          List.forall_mem_cons.mpr ⟨passes, pass⟩, rfl⟩
      · rintro ⟨_, meanings, pass, rfl⟩
        cases meanings with
        | @cons _ unit _ said meaning others =>
            obtain ⟨passes, later⟩ := List.forall_mem_cons.mp pass
            exact ⟨_, ⟨unit.1, unit.2, meaning, passes, rfl⟩, said, others, later, rfl⟩

theorem lastSaid_concat (setting : Setting) (unit : Setting × Option String) :
    lastSaid setting (said ++ [unit]) =
      if unit.1 = setting then some unit.2 else lastSaid setting said := by
  obtain ⟨other, text⟩ := unit
  by_cases same : other = setting
  · subst same
    simp [lastSaid]
  · have differs : (setting == other) = false := by simpa using Ne.symm same
    simp [lastSaid, List.lookup_cons, differs, same]

theorem foldl_put (said : List (Setting × Option String)) :
    said.foldl Reading.put {} =
      { config := (lastSaid .config said).getD (some "")
        supervisor := (lastSaid .supervisor said).elim true fun text =>
          text.all fun text => Switch.read? text == some true
        daemons := (lastSaid .daemons said).getD (some "")
        maxWorkers := (lastSaid .maxWorkers said).elim (some 0) fun text =>
          text.bind fun text => (Numeral.readWhole text).toOption } := by
  -- The last unit of a setting has the last word, so the units are added at the end.
  induction said using List.reverseRecOn with
  | nil => rfl
  | append_singleton front unit ih =>
      obtain ⟨setting, text⟩ := unit
      rw [List.foldl_concat, ih]
      cases setting <;> simp [lastSaid_concat, Reading.put]

theorem Units.lastSaid_cases {tokens : List String} (units : Units tokens said)
    (setting : Setting) (other : setting ≠ .supervisor) :
    lastSaid setting said = none ∨ ∃ text, lastSaid setting said = some (some text) := by
  have texts : (setting, none) ∉ said := by
    intro member
    induction units with
    | nothing => cases member
    | joined _ ih => exact ih (by simpa using member)
    | taken _ _ _ ih => exact ih (by simpa using member)
    | bare _ _ _ ih => exact ih (by simpa [other] using member)
  cases last : lastSaid setting said with
  | none => exact .inl rfl
  | some text =>
      obtain ⟨front, back, parts, _⟩ := List.lookup_eq_some_iff.mp last
      cases text with
      | none =>
          have member : (setting, none) ∈ said.reverse := by simp [parts]
          exact absurd (List.mem_reverse.mp member) texts
      | some text => exact .inr ⟨text, rfl⟩

theorem Units.options_eq {tokens : List String} (units : Units tokens said) :
    ∃ text, (said.foldl Reading.put {}).daemons = some text ∧
      optionsOf said = ⟨(said.foldl Reading.put {}).config,
        (said.foldl Reading.put {}).supervisor, Daemon.splitNames text,
        (said.foldl Reading.put {}).maxWorkers⟩ := by
  have config : (optionsOf said).config = (said.foldl Reading.put {}).config := by
    rcases units.lastSaid_cases .config (by decide) with last | ⟨text, last⟩ <;>
      simp [foldl_put, optionsOf, last]
  have supervisor : (optionsOf said).supervisor = (said.foldl Reading.put {}).supervisor := by
    rcases last : lastSaid .supervisor said with _ | _ | text <;>
      simp [foldl_put, optionsOf, last]
  have maxWorkers : (optionsOf said).maxWorkers = (said.foldl Reading.put {}).maxWorkers := by
    rcases units.lastSaid_cases .maxWorkers (by decide) with last | ⟨text, last⟩ <;>
      simp [foldl_put, optionsOf, last]
  have daemons : ∃ text, (said.foldl Reading.put {}).daemons = some text ∧
      (optionsOf said).daemons = Daemon.splitNames text := by
    rcases units.lastSaid_cases .daemons (by decide) with last | ⟨text, last⟩
    · have nobody : Daemon.splitNames "" = [] := by decide
      exact ⟨"", by simp [foldl_put, last], by simp [optionsOf, last, nobody]⟩
    · exact ⟨text, by simp [foldl_put, last], by simp [optionsOf, last]⟩
  obtain ⟨text, listed, names⟩ := daemons
  exact ⟨text, listed, by rw [← config, ← supervisor, ← maxWorkers, ← names]⟩

end Texts

theorem refused_of_readFrom {tokens : List String} {reading : Reading} {stop : Stop}
    {waiting : Option Setting} (helpless : ∀ token ∈ tokens, ¬AsksForHelp token)
    (failed : readFrom reading waiting tokens = .error stop) :
    ∃ refusal, stop = .refused refusal := by
  induction tokens generalizing reading waiting with
  | nil => exact Reading.refused_of_settle failed
  | cons token rest ih =>
      obtain ⟨first, later⟩ := List.forall_mem_cons.mp helpless
      rcases readFrom_cons failed with ⟨next, waits, _, going⟩ | ⟨final, _, impossible⟩ |
        ⟨other, same, refused | ⟨long, joined, kind⟩⟩
      · exact ih later going
      · cases impossible
      · cases same
        exact refused
      · exact absurd (asksForHelp_of_classify kind) first

theorem refused_of_read {tokens : List String} {stop : Stop}
    (ordinary : ∀ token ∈ tokens, Ordinary token) (failed : read tokens = .error stop) :
    ∃ refusal, stop = .refused refusal := by
  unfold read at failed
  cases finished : readFrom {} none tokens with
  | error other =>
      rw [finished] at failed
      cases failed
      exact refused_of_readFrom (fun token member => (ordinary token member).helpless) finished
  | ok final =>
      rw [finished] at failed
      change final.finish = _ at failed
      unfold Reading.finish at failed
      split at failed
      · exact ⟨_, (Except.error.inj failed).symm⟩
      next clean =>
        have followed := readFrom_phrases.mp ⟨finished, by simpa using clean⟩
        obtain ⟨said, meanings, _, rfl⟩ := follow_eq_some.mp followed.2
        obtain ⟨text, listed, _⟩ := ((units_iff ordinary).mpr meanings).options_eq
        rw [listed] at failed
        cases failed

/-- The reader accepts what splits into units with texts that pass, and nothing else. The options
are those that the units give, and whatever has no such units ends in a refusal. -/
theorem read_grammar {tokens : List String} (ordinary : ∀ token ∈ tokens, Ordinary token) :
    (∀ options, read tokens = .ok options ↔ ∃ said, Units tokens said ∧
      (∀ unit ∈ said, Passes unit) ∧ options = optionsOf said) ∧
    ((¬∃ said, Units tokens said ∧ ∀ unit ∈ said, Passes unit) →
      ∃ refusal, read tokens = .error (.refused refusal) ∧ refusal.exit.code = 2) := by
  have accepts (options : Options) : read tokens = .ok options ↔ ∃ said, Units tokens said ∧
      (∀ unit ∈ said, Passes unit) ∧ options = optionsOf said := by
    simp only [read_eq_ok, follow_eq_some, units_iff ordinary]
    constructor
    · rintro ⟨_, text, ⟨said, meanings, pass, rfl⟩, listed, rfl⟩
      obtain ⟨same, listed', options⟩ := ((units_iff ordinary).mpr meanings).options_eq
      rw [listed] at listed'
      cases listed'
      exact ⟨said, meanings, pass, options.symm⟩
    · rintro ⟨said, meanings, pass, rfl⟩
      obtain ⟨text, listed, options⟩ := ((units_iff ordinary).mpr meanings).options_eq
      exact ⟨_, text, ⟨said, meanings, pass, rfl⟩, listed, options⟩
  refine ⟨accepts, ?_⟩
  intro ungrammatical
  cases outcome : read tokens with
  | ok options =>
      obtain ⟨said, units, pass, _⟩ := (accepts options).mp outcome
      exact absurd ⟨said, units, pass⟩ ungrammatical
  | error stop =>
      obtain ⟨refusal, rfl⟩ := refused_of_read ordinary outcome
      exact ⟨refusal, rfl, rfl⟩

theorem read_grammar_cut_short :
    read ["-c", "-", "-supervisor", "-daemons=dnsd, httpd", "-max", "8", "-config", "cfg.json"] =
      .ok ⟨some "cfg.json", true, ["dnsd", "httpd"], some 8⟩ := by
  have helpless : ∀ token ∈ ["-c", "-", "-supervisor", "-daemons=dnsd, httpd", "-max", "8",
      "-config", "cfg.json"], ¬("-h".toList <+: token.toList ∨ "--h".toList <+: token.toList) := by
    decide
  have ordinary : ∀ token ∈ ["-c", "-", "-supervisor", "-daemons=dnsd, httpd", "-max", "8",
      "-config", "cfg.json"], Ordinary token := by
    intro token member
    refine ⟨?_, ?_, helpless token member⟩
    · rintro rfl
      simp [separator] at member
    · rintro setting rfl
      cases setting <;> revert member <;> decide
  have split : phrases ["-c", "-", "-supervisor", "-daemons=dnsd, httpd", "-max", "8", "-config",
      "cfg.json"] = [⟨"-c", some "-"⟩, ⟨"-supervisor", none⟩, ⟨"-daemons=dnsd, httpd", none⟩,
        ⟨"-max", some "8"⟩, ⟨"-config", some "cfg.json"⟩] := by
    decide
  let said : List (Setting × Option String) := [(.config, some "-"), (.supervisor, none),
    (.daemons, some "dnsd, httpd"), (.maxWorkers, some "8"), (.config, some "cfg.json")]
  have units : Units _ said := (units_iff ordinary).mpr (split ▸ .cons (by decide)
    (.cons (by decide) (.cons (by decide) (.cons (by decide) (.cons (by decide) .nil)))))
  have eight : Numeral.readWhole "8" = .ok 8 := toOption_eq_some.mp (by decide +kernel)
  refine ((read_grammar ordinary).1 _).mpr ⟨said, units, by simp [said, Passes, eight], ?_⟩
  have config : lastSaid .config said = some (some "cfg.json") := by decide
  have supervisor : lastSaid .supervisor said = some none := by decide
  have daemons : lastSaid .daemons said = some (some "dnsd, httpd") := by decide
  have maxWorkers : lastSaid .maxWorkers said = some (some "8") := by decide
  have names : Daemon.splitNames "dnsd, httpd" = ["dnsd", "httpd"] := by decide
  simp [optionsOf, config, supervisor, daemons, maxWorkers, names, eight, Except.toOption]

end Warden.CommandLine
