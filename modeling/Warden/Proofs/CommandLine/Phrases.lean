import Warden.CommandLine.Reader

/-!
The command line as a list of phrases. A phrase is one token, or a flag and the value that it takes;
where the phrases end depends on the tokens alone and not on what they set. A command line is
accepted just if each of its phrases sets something, and then it means what they set in turn.
-/

namespace Warden.CommandLine

structure Phrase where
  opening : String
  value : Option String
  deriving DecidableEq, Repr

def Phrase.tokens (phrase : Phrase) : List String :=
  phrase.opening :: phrase.value.toList

def awaits (token : String) : Bool :=
  match classify token with
  | .setting _ none => true
  | _ => false

theorem awaits_eq_true {token : String} :
    awaits token = true ↔ ∃ setting, classify token = .setting setting none := by
  unfold awaits
  split <;> simp_all

def phrases : List String → List Phrase
  | [] => []
  | [opening] => [⟨opening, none⟩]
  | opening :: next :: rest =>
      if awaits opening && isValue next then ⟨opening, some next⟩ :: phrases rest
      else ⟨opening, none⟩ :: phrases (next :: rest)

/-- The setting that a phrase is about and the value that it gives. Only the supervisor switch may
stand apart from any value. -/
def Phrase.meaning? (phrase : Phrase) : Option (Setting × Option String) :=
  match classify phrase.opening, phrase.value with
  | .setting setting (some text), none => some (setting, joinedValue text)
  | .setting setting none, some text => some (setting, some text)
  | .setting .supervisor none, none => some (.supervisor, none)
  | _, _ => none

def Reading.heed (reading : Reading) (phrase : Phrase) : Option Reading :=
  phrase.meaning?.bind fun (setting, value) => (reading.assign setting value).toOption

def Reading.follow (reading : Reading) (said : List Phrase) : Option Reading :=
  said.foldlM Reading.heed reading

theorem tokens_phrases (tokens : List String) :
    (phrases tokens).flatMap Phrase.tokens = tokens := by
  fun_induction phrases tokens with
  | case1 => rfl
  | case2 => rfl
  | case3 opening next rest taken ih => simp [Phrase.tokens, ih]
  | case4 opening next rest free ih => simp [Phrase.tokens, ih]

theorem phrases_append {front back : List String}
    (starts : ∀ token ∈ back.head?, isValue token = false) :
    phrases (front ++ back) = phrases front ++ phrases back := by
  fun_induction phrases front with
  | case1 => rfl
  | case2 opening =>
      cases back with
      | nil => rfl
      | cons token rest => simp [phrases, starts token rfl]
  | case3 opening next rest taken ih => simpa [phrases, taken] using ih
  | case4 opening next rest free ih => simpa [phrases, free] using ih

theorem phrases_opening {opening : String} {rest : List String}
    (free : awaits opening = true → ∀ token ∈ rest.head?, isValue token = false) :
    phrases (opening :: rest) = ⟨opening, none⟩ :: phrases rest := by
  cases rest with
  | nil => rfl
  | cons next rest =>
      cases waits : awaits opening with
      | false => simp [phrases, waits]
      | true => simp [phrases, free waits next rfl]

theorem phrases_taken {opening text : String} (waits : awaits opening = true)
    (value : isValue text = true) (rest : List String) :
    phrases (opening :: text :: rest) = ⟨opening, some text⟩ :: phrases rest := by
  simp [phrases, waits, value]

def countAfter (count : Option Int) : Option String → Option Int
  | none => none
  | some text => (Numeral.readWhole text).toOption.elim count some

def Passes : Setting × Option String → Prop
  | (.supervisor, some text) => ∃ supervisor, Switch.read? text = some supervisor
  | (.maxWorkers, some text) => ∃ count, Numeral.readWhole text = .ok count
  | _ => True

def Reading.put (reading : Reading) : Setting × Option String → Reading
  | (.config, text) => { reading with config := text }
  | (.supervisor, text) =>
      { reading with supervisor := text.all fun text => Switch.read? text == some true }
  | (.daemons, text) => { reading with daemons := text }
  | (.maxWorkers, text) =>
      { reading with maxWorkers := text.bind fun text => (Numeral.readWhole text).toOption }

theorem Reading.assign_eq_ok {reading next : Reading} {setting : Setting}
    {text : Option String} : reading.assign setting text = .ok next ↔
      Passes (setting, text) ∧ next = reading.put (setting, text) := by
  unfold Reading.assign
  split
  · simp [Passes, Reading.put, eq_comm]
  · simp [Passes, Reading.put, eq_comm]
  · simp [Passes, Reading.put, eq_comm]
  next text =>
    cases switch : Switch.read? text with
    | none => simp [Passes, switch]
    | some supervisor => cases supervisor <;> simp [Passes, Reading.put, switch, eq_comm]
  · simp [Passes, Reading.put, eq_comm]
  next text =>
    cases whole : Numeral.readWhole text with
    | error _ => simp [Passes, whole]
    | ok count => simp [Passes, Reading.put, whole, Except.toOption, eq_comm]

theorem Reading.leftovers_assign {reading next : Reading} {setting : Setting}
    {value : Option String} (assigned : reading.assign setting value = .ok next) :
    next.leftovers = reading.leftovers := by
  obtain ⟨_, rfl⟩ := assign_eq_ok.mp assigned
  cases setting <;> rfl

theorem Reading.leftovers_settle {reading settled : Reading} {waiting : Option Setting}
    (ends : reading.settle waiting = .ok settled) : settled.leftovers = reading.leftovers := by
  unfold Reading.settle at ends
  split at ends
  · cases ends; rfl
  · exact leftovers_assign ends
  · cases ends

theorem toOption_eq_some {ε α : Type} {result : Except ε α} {value : α} :
    result.toOption = some value ↔ result = .ok value := by
  cases result <;> simp [Except.toOption]

theorem Reading.leftovers_heed {reading next : Reading} {phrase : Phrase}
    (heeded : reading.heed phrase = some next) : next.leftovers = reading.leftovers := by
  obtain ⟨⟨setting, value⟩, -, assigned⟩ := Option.bind_eq_some_iff.mp heeded
  exact leftovers_assign (toOption_eq_some.mp assigned)

theorem Reading.refused_of_assign {reading : Reading} {stop : Stop} {setting : Setting}
    {text : Option String} (failed : reading.assign setting text = .error stop) :
    ∃ refusal, stop = .refused refusal := by
  unfold Reading.assign at failed
  split at failed
  · cases failed
  · cases failed
  · cases failed
  · split at failed
    · cases failed
    · exact ⟨_, (Except.error.inj failed).symm⟩
  · cases failed
  · split at failed
    · cases failed
    · exact ⟨_, (Except.error.inj failed).symm⟩

theorem Reading.refused_of_settle {reading : Reading} {stop : Stop} {waiting : Option Setting}
    (failed : reading.settle waiting = .error stop) : ∃ refusal, stop = .refused refusal := by
  unfold Reading.settle at failed
  split at failed
  · cases failed
  · cases failed
  · exact ⟨_, (Except.error.inj failed).symm⟩

theorem readFrom_cons {reading : Reading} {waiting : Option Setting} {token : String}
    {rest : List String} {result : Except Stop Reading}
    (run : readFrom reading waiting (token :: rest) = result) :
    (∃ next waits, reading.leftovers <+: next.leftovers ∧ readFrom next waits rest = result) ∨
      (∃ final, reading.leftovers <+: final.leftovers ∧ result = .ok final) ∨
      ∃ stop, result = .error stop ∧
        ((∃ refusal, stop = .refused refusal) ∨
          ∃ long joined, classify token = .help long joined) := by
  unfold readFrom at run
  split at run
  next =>
    split at run
    next next assigned =>
      exact .inl ⟨next, none, by simp [Reading.leftovers_assign assigned], run⟩
    next stop failed =>
      exact .inr (.inr ⟨stop, run.symm, .inl (Reading.refused_of_assign failed)⟩)
  next =>
    split at run
    next stop failed =>
      exact .inr (.inr ⟨stop, run.symm, .inl (Reading.refused_of_settle failed)⟩)
    next settled ends =>
      rw [← Reading.leftovers_settle ends]
      have leaves (tokens : List String) : settled.leftovers <+: (settled.leave tokens).leftovers :=
        List.prefix_append settled.leftovers tokens
      split at run
      next => exact .inr (.inl ⟨_, leaves _, run.symm⟩)
      next =>
        split at run
        next => exact .inl ⟨_, none, leaves _, run⟩
        next => exact .inl ⟨_, none, leaves _, run⟩
        next kind => exact .inr (.inr ⟨_, run.symm, .inr ⟨_, _, kind⟩⟩)
        next setting _ => exact .inl ⟨settled, some setting, List.prefix_rfl, run⟩
        next =>
          split at run
          next next assigned =>
            exact .inl ⟨next, none, by simp [Reading.leftovers_assign assigned], run⟩
          next stop failed =>
            exact .inr (.inr ⟨stop, run.symm, .inl (Reading.refused_of_assign failed)⟩)

theorem leftovers_readFrom {tokens : List String} {reading final : Reading}
    {waiting : Option Setting} (finished : readFrom reading waiting tokens = .ok final) :
    reading.leftovers <+: final.leftovers := by
  induction tokens generalizing reading waiting with
  | nil => simp [Reading.leftovers_settle finished]
  | cons token rest ih =>
      rcases readFrom_cons finished with ⟨next, waits, kept, going⟩ | ⟨ending, kept, same⟩ |
        ⟨stop, impossible, _⟩
      · exact kept.trans (ih going)
      · cases same
        exact kept
      · cases impossible

theorem readFrom_settle {tokens : List String}
    (starts : ∀ token ∈ tokens.head?, isValue token = false) (reading : Reading)
    (waiting : Option Setting) :
    readFrom reading waiting tokens =
      reading.settle waiting >>= fun settled => readFrom settled none tokens := by
  cases tokens with
  | nil =>
      rw [readFrom]
      exact (bind_pure (reading.settle waiting)).symm
  | cons token rest =>
      have value := starts token rfl
      cases ends : reading.settle waiting with
      | error stop => simp [readFrom, value, ends, bind, Except.bind]
      | ok settled =>
          have nothing : settled.settle none = .ok settled := rfl
          simp [readFrom, value, ends, nothing, bind, Except.bind]

theorem bind_eq_ok {ε α β : Type} {first : Except ε α} {next : α → Except ε β} {value : β} :
    first >>= next = .ok value ↔ ∃ middle, first = .ok middle ∧ next middle = .ok value := by
  cases first <;> simp [bind, Except.bind]

theorem classify_separator : classify separator = .unknown := by
  decide +kernel

theorem readFrom_senseless {opening : String} {rest : List String} {reading final : Reading}
    (senseless : classify opening = .value ∨ classify opening = .unknown ∨
      ∃ long joined, classify opening = .help long joined)
    (finished : readFrom reading none (opening :: rest) = .ok final) : final.leftovers ≠ [] := by
  have stays (left : readFrom (reading.leave [opening]) none rest = .ok final) :
      final.leftovers ≠ [] := by
    have member : opening ∈ (reading.leave [opening]).leftovers := by simp [Reading.leave]
    exact List.ne_nil_of_mem ((leftovers_readFrom left).subset member)
  simp only [readFrom, Reading.settle] at finished
  split at finished
  · cases finished
    simp [Reading.leave]
  · rcases senseless with kind | kind | ⟨long, joined, kind⟩
    · simp only [kind] at finished
      exact stays finished
    · simp only [kind] at finished
      exact stays finished
    · simp [kind] at finished

section Settings

variable {opening : String} {setting : Setting} {rest : List String}

theorem ne_separator {joined : Option String} (kind : classify opening = .setting setting joined) :
    (opening == separator) = false := by
  rw [beq_eq_false_iff_ne]
  rintro rfl
  simp [classify_separator] at kind

theorem readFrom_joined {text : String} (kind : classify opening = .setting setting (some text))
    (reading : Reading) :
    readFrom reading none (opening :: rest) =
      reading.assign setting (joinedValue text) >>= fun next => readFrom next none rest := by
  simp only [readFrom, Reading.settle, kind, ne_separator kind]
  cases reading.assign setting (joinedValue text) <;> rfl

theorem readFrom_apart (kind : classify opening = .setting setting none) (reading : Reading) :
    readFrom reading none (opening :: rest) = readFrom reading (some setting) rest := by
  simp [readFrom, Reading.settle, kind, ne_separator kind]

theorem readFrom_taken {value : String} (taken : isValue value = true) (reading : Reading) :
    readFrom reading (some setting) (value :: rest) =
      reading.assign setting (some value) >>= fun next => readFrom next none rest := by
  simp only [readFrom, taken]
  cases reading.assign setting (some value) <;> rfl

theorem heed_joined {text : String} (kind : classify opening = .setting setting (some text))
    (reading : Reading) :
    reading.heed ⟨opening, none⟩ = (reading.assign setting (joinedValue text)).toOption := by
  simp [Reading.heed, Phrase.meaning?, kind]

theorem heed_taken {value : String} (kind : classify opening = .setting setting none)
    (reading : Reading) :
    reading.heed ⟨opening, some value⟩ = (reading.assign setting (some value)).toOption := by
  simp [Reading.heed, Phrase.meaning?, kind]

theorem heed_bare (kind : classify opening = .setting setting none) (reading : Reading) :
    reading.heed ⟨opening, none⟩ = (reading.settle (some setting)).toOption := by
  cases setting <;> simp [Reading.heed, Phrase.meaning?, kind, Reading.settle, Except.toOption]

end Settings

theorem readFrom_opening {opening : String} {rest : List String} {reading final : Reading}
    (free : awaits opening = true → ∀ token ∈ rest.head?, isValue token = false) :
    readFrom reading none (opening :: rest) = .ok final ∧ final.leftovers = [] ↔
      ∃ next, reading.heed ⟨opening, none⟩ = some next ∧ readFrom next none rest = .ok final ∧
        final.leftovers = [] := by
  have refused (senseless : classify opening = .value ∨ classify opening = .unknown ∨
      ∃ long joined, classify opening = .help long joined)
      (unheeded : reading.heed ⟨opening, none⟩ = none) :
      readFrom reading none (opening :: rest) = .ok final ∧ final.leftovers = [] ↔
        ∃ next, reading.heed ⟨opening, none⟩ = some next ∧ readFrom next none rest = .ok final ∧
          final.leftovers = [] :=
    iff_of_false (fun ⟨finished, whole⟩ => readFrom_senseless senseless finished whole)
      (by simp [unheeded])
  cases kind : classify opening with
  | value => exact refused (.inl kind) (by simp [Reading.heed, Phrase.meaning?, kind])
  | unknown => exact refused (.inr (.inl kind)) (by simp [Reading.heed, Phrase.meaning?, kind])
  | help long joined =>
      exact refused (.inr (.inr ⟨long, joined, kind⟩))
        (by simp [Reading.heed, Phrase.meaning?, kind])
  | setting setting joined =>
      cases joined with
      | some text =>
          rw [readFrom_joined kind, heed_joined kind, bind_eq_ok]
          simp only [toOption_eq_some, ← exists_and_right, and_assoc]
      | none =>
          rw [readFrom_apart kind, readFrom_settle (free (by simp [awaits, kind])),
            heed_bare kind, bind_eq_ok]
          simp only [toOption_eq_some, ← exists_and_right, and_assoc]

theorem follow_cons {reading final : Reading} {phrase : Phrase} {said : List Phrase} :
    reading.follow (phrase :: said) = some final ↔
      ∃ next, reading.heed phrase = some next ∧ next.follow said = some final := by
  simp [Reading.follow, Option.bind_eq_some_iff]

theorem follow_append {reading final : Reading} {front back : List Phrase} :
    reading.follow (front ++ back) = some final ↔
      ∃ middle, reading.follow front = some middle ∧ middle.follow back = some final := by
  simp [Reading.follow, List.foldlM_append, Option.bind_eq_some_iff]

/-- A command line is read as its phrases in turn. -/
theorem readFrom_phrases {tokens : List String} {reading final : Reading} :
    readFrom reading none tokens = .ok final ∧ final.leftovers = [] ↔
      reading.leftovers = [] ∧ reading.follow (phrases tokens) = some final := by
  have ended {reading : Reading} : readFrom reading none [] = .ok final ∧ final.leftovers = [] ↔
      reading.leftovers = [] ∧ reading.follow [] = some final := by
    simp only [readFrom, Reading.settle, Except.ok.injEq, Reading.follow, List.foldlM_nil]
    constructor
    · rintro ⟨rfl, clean⟩
      exact ⟨clean, rfl⟩
    · rintro ⟨clean, same⟩
      cases same
      exact ⟨rfl, clean⟩
  have onwards {phrase : Phrase} {rest : List String} {said : List Phrase} {reading : Reading}
      (ih : ∀ {next : Reading}, readFrom next none rest = .ok final ∧ final.leftovers = [] ↔
        next.leftovers = [] ∧ next.follow said = some final) :
      (∃ next, reading.heed phrase = some next ∧ readFrom next none rest = .ok final ∧
        final.leftovers = []) ↔
        reading.leftovers = [] ∧ reading.follow (phrase :: said) = some final := by
    simp only [ih, follow_cons]
    constructor
    · rintro ⟨next, heeded, clean, followed⟩
      exact ⟨Reading.leftovers_heed heeded ▸ clean, next, heeded, followed⟩
    · rintro ⟨clean, next, heeded, followed⟩
      exact ⟨next, heeded, (Reading.leftovers_heed heeded).trans clean, followed⟩
  fun_induction phrases tokens generalizing reading with
  | case1 => exact ended
  | case2 opening =>
      rw [readFrom_opening (by simp)]
      exact onwards ended
  | case3 opening next rest taken ih =>
      obtain ⟨waits, value⟩ := Bool.and_eq_true_iff.mp taken
      obtain ⟨setting, kind⟩ := awaits_eq_true.mp waits
      rw [readFrom_apart kind, readFrom_taken value, bind_eq_ok, ← onwards ih]
      simp only [heed_taken kind, toOption_eq_some, ← exists_and_right, and_assoc]
  | case4 opening next rest free ih =>
      rw [readFrom_opening (by simpa using free)]
      exact onwards ih

theorem read_eq_ok {tokens : List String} {options : Options} :
    read tokens = .ok options ↔ ∃ final text, Reading.follow {} (phrases tokens) = some final ∧
      final.daemons = some text ∧
      options = ⟨final.config, final.supervisor, Daemon.splitNames text, final.maxWorkers⟩ := by
  have finish {final : Reading} : final.finish = .ok options ↔
      final.leftovers = [] ∧ ∃ text, final.daemons = some text ∧
        options = ⟨final.config, final.supervisor, Daemon.splitNames text, final.maxWorkers⟩ := by
    unfold Reading.finish
    cases final.leftovers <;> cases final.daemons <;> simp [eq_comm]
  rw [read, bind_eq_ok]
  simp only [finish]
  constructor
  · rintro ⟨final, finished, clean, text, listed, same⟩
    obtain ⟨-, followed⟩ := readFrom_phrases.mp ⟨finished, clean⟩
    exact ⟨final, text, followed, listed, same⟩
  · rintro ⟨final, text, followed, listed, same⟩
    obtain ⟨finished, clean⟩ := readFrom_phrases.mpr ⟨rfl, followed⟩
    exact ⟨final, finished, clean, text, listed, same⟩

def given (setting : Setting) (said : List Phrase) : List (Option String) :=
  said.filterMap fun phrase => phrase.meaning?.bind fun (other, value) =>
    if other = setting then some value else none

theorem Reading.config_assign {reading next : Reading} {setting : Setting} {value : Option String}
    (assigned : reading.assign setting value = .ok next) :
    next.config = if setting = .config then value else reading.config := by
  obtain ⟨_, rfl⟩ := assign_eq_ok.mp assigned
  cases setting <;> rfl

theorem Reading.maxWorkers_assign {reading next : Reading} {setting : Setting}
    {value : Option String} (assigned : reading.assign setting value = .ok next) :
    next.maxWorkers = if setting = .maxWorkers then countAfter reading.maxWorkers value
      else reading.maxWorkers := by
  obtain ⟨passes, rfl⟩ := assign_eq_ok.mp assigned
  cases setting with
  | maxWorkers =>
      cases value with
      | none => rfl
      | some text =>
          obtain ⟨count, whole⟩ := passes
          simp [put, countAfter, whole, Except.toOption]
  | _ => rfl

theorem heed_eq_some {reading next : Reading} {phrase : Phrase} :
    reading.heed phrase = some next ↔ ∃ setting value, phrase.meaning? = some (setting, value) ∧
      reading.assign setting value = .ok next := by
  simp [Reading.heed, Option.bind_eq_some_iff, toOption_eq_some]

theorem given_cons {phrase : Phrase} {setting : Setting} {value : Option String}
    (meaning : phrase.meaning? = some (setting, value)) (asked : Setting) (said : List Phrase) :
    given asked (phrase :: said) =
      if setting = asked then value :: given asked said else given asked said := by
  by_cases same : setting = asked
  · simp [given, meaning, same]
  · simp [given, meaning, same]

theorem given_append (asked : Setting) (front back : List Phrase) :
    given asked (front ++ back) = given asked front ++ given asked back :=
  List.filterMap_append

theorem given_split (asked : Setting) (phrase : Phrase) (rest : List Phrase) :
    given asked (phrase :: rest) = given asked [phrase] ++ given asked rest :=
  given_append asked [phrase] rest

theorem given_filter {asked : Setting} {keeps : Phrase → Bool} {said : List Phrase}
    (stays : ∀ phrase ∈ said, ∀ value, phrase.meaning? = some (asked, value) →
      keeps phrase = true) : given asked (said.filter keeps) = given asked said := by
  induction said with
  | nil => rfl
  | cons phrase rest ih =>
      obtain ⟨first, later⟩ := List.forall_mem_cons.mp stays
      rw [given_split asked phrase rest, ← ih later]
      cases kept : keeps phrase with
      | true => rw [List.filter_cons_of_pos kept, given_split]
      | false =>
          rw [List.filter_cons_of_neg (by simp [kept])]
          cases meaning : phrase.meaning? with
          | none => simp [given, meaning]
          | some about =>
              obtain ⟨setting, value⟩ := about
              have other : setting ≠ asked := by
                rintro rfl
                simp [first value meaning] at kept
              simp [given, meaning, other]

theorem Reading.config_follow {reading final : Reading} {said : List Phrase}
    (followed : reading.follow said = some final) :
    final.config = (given .config said).getLast?.getD reading.config := by
  induction said generalizing reading with
  | nil =>
      cases followed
      rfl
  | cons phrase rest ih =>
      obtain ⟨next, heeded, going⟩ := follow_cons.mp followed
      obtain ⟨setting, value, meaning, assigned⟩ := heed_eq_some.mp heeded
      rw [ih going, config_assign assigned, given_cons meaning]
      split
      · rw [List.getLast?_cons]
        rfl
      · rfl

theorem Reading.maxWorkers_follow {reading final : Reading} {said : List Phrase}
    (followed : reading.follow said = some final) :
    final.maxWorkers = (given .maxWorkers said).foldl countAfter reading.maxWorkers := by
  induction said generalizing reading with
  | nil =>
      cases followed
      rfl
  | cons phrase rest ih =>
      obtain ⟨next, heeded, going⟩ := follow_cons.mp followed
      obtain ⟨setting, value, meaning, assigned⟩ := heed_eq_some.mp heeded
      rw [ih going, maxWorkers_assign assigned, given_cons meaning]
      split <;> rfl

def Phrase.Heeded (phrase : Phrase) : Prop :=
  ∀ reading : Reading, ∃ next, reading.heed phrase = some next

theorem Reading.assign_ok {reading next : Reading} {setting : Setting} {value : Option String}
    (assigned : reading.assign setting value = .ok next) (other : Reading) :
    ∃ next, other.assign setting value = .ok next :=
  ⟨_, assign_eq_ok.mpr ⟨(assign_eq_ok.mp assigned).1, rfl⟩⟩

theorem heeded_of_follow {reading final : Reading} {said : List Phrase}
    (followed : reading.follow said = some final) : ∀ phrase ∈ said, phrase.Heeded := by
  induction said generalizing reading with
  | nil => simp
  | cons phrase rest ih =>
      obtain ⟨next, heeded, going⟩ := follow_cons.mp followed
      obtain ⟨setting, value, meaning, assigned⟩ := heed_eq_some.mp heeded
      refine List.forall_mem_cons.mpr ⟨?_, ih going⟩
      intro other
      obtain ⟨next, same⟩ := Reading.assign_ok assigned other
      exact ⟨next, heed_eq_some.mpr ⟨setting, value, meaning, same⟩⟩

theorem follow_of_heeded {said : List Phrase} (heeded : ∀ phrase ∈ said, phrase.Heeded)
    (reading : Reading) : ∃ final, reading.follow said = some final := by
  induction said generalizing reading with
  | nil => exact ⟨reading, rfl⟩
  | cons phrase rest ih =>
      obtain ⟨first, later⟩ := List.forall_mem_cons.mp heeded
      obtain ⟨next, taken⟩ := first reading
      obtain ⟨final, going⟩ := ih later next
      exact ⟨final, follow_cons.mpr ⟨next, taken, going⟩⟩

end Warden.CommandLine
