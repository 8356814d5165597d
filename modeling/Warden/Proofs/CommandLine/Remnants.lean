import Warden.Proofs.CommandLine.Naming
import Warden.Proofs.CommandLine.Phrases
import Warden.Proofs.FlagRemoval

/-!
What the removal of flags leaves of a command line. It goes by single tokens, so it may part a flag
from its value. A flag that is left without its value takes the next value that is left without its
flag, if nothing stands between them; any other parting makes the command line unreadable.
-/

namespace Warden.CommandLine

inductive Phrase.Sound : Phrase → Prop
  | joined {opening setting text} : classify opening = .setting setting (some text) →
      Sound ⟨opening, none⟩
  | apart {opening setting value} : classify opening = .setting setting none →
      isValue value = true → Sound ⟨opening, some value⟩
  | bare {opening} : classify opening = .setting .supervisor none → Sound ⟨opening, none⟩

inductive Remnant
  | nothing
  | flag (opening : String)
  | value (text : String)
  | whole (phrase : Phrase)
  deriving DecidableEq, Repr

def Remnant.tokens : Remnant → List String
  | .nothing => []
  | .flag opening => [opening]
  | .value text => [text]
  | .whole phrase => phrase.tokens

/-- What a choice of flags leaves of a phrase. A value that begins with a dash is chosen like a
flag; any other goes with its flag. -/
def Phrase.cut (keeps : String → Bool) (phrase : Phrase) : Remnant :=
  match phrase.value with
  | none => if keeps phrase.opening then .whole phrase else .nothing
  | some text =>
      match keeps phrase.opening,
        if Flags.isFlag text then keeps text else keeps phrase.opening with
      | true, true => .whole phrase
      | true, false => .flag phrase.opening
      | false, true => .value text
      | false, false => .nothing

/-- The phrases that remnants make in a row, perhaps behind a flag that waits for its value. -/
def rejoin (pending : Option String) : List Remnant → Option (List Phrase)
  | [] => if pending.isSome then none else some []
  | .nothing :: rest => rejoin pending rest
  | .whole phrase :: rest =>
      if pending.isSome then none else (rejoin none rest).map (phrase :: ·)
  | .flag opening :: rest => if pending.isSome then none else rejoin (some opening) rest
  | .value text :: rest =>
      pending.bind fun opening => (rejoin none rest).map (⟨opening, some text⟩ :: ·)

theorem Phrase.Sound.about {phrase : Phrase} (sound : phrase.Sound) :
    ∃ setting joined value, classify phrase.opening = .setting setting joined ∧
      phrase.meaning? = some (setting, value) := by
  cases sound with
  | @joined _ _ text kind => exact ⟨_, _, joinedValue text, kind, by simp [Phrase.meaning?, kind]⟩
  | @apart _ _ text kind _ => exact ⟨_, _, some text, kind, by simp [Phrase.meaning?, kind]⟩
  | bare kind => exact ⟨_, _, none, kind, by simp [Phrase.meaning?, kind]⟩

theorem Phrase.Sound.isFlag {phrase : Phrase} (sound : phrase.Sound) :
    Flags.isFlag phrase.opening = true := by
  obtain ⟨_, _, _, kind, _⟩ := sound.about
  exact isFlag_of_classify kind

theorem Phrase.Sound.isValue {phrase : Phrase} (sound : phrase.Sound) :
    isValue phrase.opening = false := by
  obtain ⟨_, _, _, kind, _⟩ := sound.about
  exact isValue_of_classify kind

theorem value_of_mem_phrases {tokens : List String} {opening text : String}
    (member : ⟨opening, some text⟩ ∈ phrases tokens) :
    awaits opening = true ∧ isValue text = true := by
  fun_induction phrases tokens with
  | case1 => cases member
  | case2 first => simp at member
  | case3 first next rest taken ih =>
      rcases List.mem_cons.mp member with same | later
      · cases same
        exact Bool.and_eq_true_iff.mp taken
      · exact ih later
  | case4 first next rest free ih =>
      rcases List.mem_cons.mp member with same | later
      · cases same
      · exact ih later

theorem sound_of_mem_phrases {tokens : List String} {phrase : Phrase}
    (member : phrase ∈ phrases tokens) (meaning : phrase.meaning?.isSome) : phrase.Sound := by
  obtain ⟨opening, value⟩ := phrase
  cases value with
  | some text =>
      obtain ⟨waits, value⟩ := value_of_mem_phrases member
      obtain ⟨setting, kind⟩ := awaits_eq_true.mp waits
      exact .apart kind value
  | none =>
      unfold Phrase.meaning? at meaning
      split at meaning
      next kind _ => exact .joined kind
      next impossible => cases impossible
      next kind _ => exact .bare kind
      next => cases meaning

theorem cut_plain {text : String} (plain : Flags.isFlag text = false) (keeps : String → Bool)
    (opening : String) :
    (Phrase.cut keeps ⟨opening, some text⟩) =
      if keeps opening then .whole ⟨opening, some text⟩ else .nothing := by
  cases kept : keeps opening <;> simp [Phrase.cut, plain, kept]

theorem tokens_cut {phrase : Phrase} (dashed : ∀ text ∈ phrase.value, Flags.isFlag text = true)
    (keeps : String → Bool) : (phrase.cut keeps).tokens = phrase.tokens.filter keeps := by
  obtain ⟨opening, value⟩ := phrase
  cases value with
  | none =>
      cases kept : keeps opening <;> simp [Phrase.cut, Phrase.tokens, Remnant.tokens, kept]
  | some text =>
      have flag : Flags.isFlag text = true := dashed text rfl
      cases kept : keeps opening <;> cases taken : keeps text <;>
        simp [Phrase.cut, Phrase.tokens, Remnant.tokens, flag, kept, taken]

theorem remove_cut {phrase : Phrase} (sound : phrase.Sound) (keeps condition : String → Bool) :
    Flags.remove condition (phrase.cut keeps).tokens =
      (phrase.cut fun token => keeps token && !condition token).tokens := by
  by_cases dashed : ∀ text ∈ phrase.value, Flags.isFlag text = true
  · have flags : ∀ token ∈ phrase.tokens.filter keeps, Flags.isFlag token = true := by
      intro token member
      rcases List.mem_cons.mp (List.mem_filter.mp member).1 with rfl | inner
      · exact sound.isFlag
      · exact dashed token (by simpa using inner)
    rw [tokens_cut dashed, tokens_cut dashed, Flags.remove, Flags.removeFrom_flags _ flags,
      List.filter_filter]
    simp only [Bool.and_comm]
  · cases sound with
    | joined _ => simp at dashed
    | bare _ => simp at dashed
    | @apart opening setting text kind _ =>
        have plain : Flags.isFlag text = false := by simpa using dashed
        have flag := isFlag_of_classify kind
        have apart := isJoined_of_apart kind
        rw [cut_plain plain, cut_plain plain]
        cases keeps opening <;> cases dropped : condition opening <;>
          simp [Remnant.tokens, Phrase.tokens, Flags.remove, Flags.removeFrom, flag, plain, apart,
            dropped]

theorem cut_cases (keeps : String → Bool) (phrase : Phrase) :
    (keeps phrase.opening = true ∧ phrase.cut keeps = .whole phrase) ∨
    (keeps phrase.opening = false ∧ phrase.cut keeps = .nothing) ∨
    ∃ text, phrase.value = some text ∧ Flags.isFlag text = true ∧
      ((keeps phrase.opening = true ∧ keeps text = false ∧
        phrase.cut keeps = .flag phrase.opening) ∨
      (keeps phrase.opening = false ∧ keeps text = true ∧ phrase.cut keeps = .value text)) := by
  obtain ⟨opening, value⟩ := phrase
  cases value with
  | none => cases kept : keeps opening <;> simp [Phrase.cut, kept]
  | some text =>
      cases dashed : Flags.isFlag text with
      | false => cases kept : keeps opening <;> simp [cut_plain dashed, kept]
      | true =>
          cases kept : keeps opening <;> cases taken : keeps text <;>
            simp [Phrase.cut, dashed, kept, taken]

theorem mem_of_whole_mem_cuts {keeps : String → Bool} {said : List Phrase} {phrase : Phrase}
    (member : .whole phrase ∈ said.map (Phrase.cut keeps)) : phrase ∈ said := by
  obtain ⟨origin, inside, same⟩ := List.mem_map.mp member
  rcases cut_cases keeps origin with ⟨_, whole⟩ | ⟨_, gone⟩ |
    ⟨text, _, _, ⟨_, _, parted⟩ | ⟨_, _, parted⟩⟩
  · rw [whole] at same
    cases same
    exact inside
  · simp [gone] at same
  · simp [parted] at same
  · simp [parted] at same

theorem head_cuts {said : List Phrase} (sound : ∀ phrase ∈ said, phrase.Sound)
    (keeps : String → Bool) :
    ∀ token ∈ ((said.map (Phrase.cut keeps)).flatMap Remnant.tokens).head?,
      Flags.isFlag token = true := by
  induction said with
  | nil => simp
  | cons phrase rest ih =>
      obtain ⟨first, later⟩ := List.forall_mem_cons.mp sound
      intro token member
      rcases cut_cases keeps phrase with ⟨_, whole⟩ | ⟨_, gone⟩ |
        ⟨text, _, dashed, ⟨_, _, flag⟩ | ⟨_, _, value⟩⟩
      · obtain rfl : phrase.opening = token := by
          simpa [whole, Remnant.tokens, Phrase.tokens] using member
        exact first.isFlag
      · exact ih later token (by simpa [gone, Remnant.tokens] using member)
      · obtain rfl : phrase.opening = token := by simpa [flag, Remnant.tokens] using member
        exact first.isFlag
      · obtain rfl : text = token := by simpa [value, Remnant.tokens] using member
        exact dashed

theorem remove_cuts {said : List Phrase} (sound : ∀ phrase ∈ said, phrase.Sound)
    (keeps condition : String → Bool) :
    Flags.remove condition ((said.map (Phrase.cut keeps)).flatMap Remnant.tokens) =
      (said.map (Phrase.cut fun token => keeps token && !condition token)).flatMap
        Remnant.tokens := by
  induction said with
  | nil => rfl
  | cons phrase rest ih =>
      obtain ⟨first, later⟩ := List.forall_mem_cons.mp sound
      simp only [List.map_cons, List.flatMap_cons]
      rw [← ih later, ← remove_cut first]
      exact Flags.removeFrom_append _ _ _ _ (head_cuts later keeps)

theorem tokens_cut_all (said : List Phrase) :
    (said.map (Phrase.cut fun _ => true)).flatMap Remnant.tokens = said.flatMap Phrase.tokens := by
  have whole : ∀ phrase : Phrase, phrase.cut (fun _ => true) = .whole phrase := by
    intro phrase
    rcases cut_cases (fun _ => true) phrase with ⟨_, whole⟩ | ⟨impossible, _⟩ |
      ⟨_, _, _, ⟨_, impossible, _⟩ | ⟨impossible, _⟩⟩
    · exact whole
    · cases impossible
    · cases impossible
    · cases impossible
  simp [List.flatMap_map, whole, Remnant.tokens]

def Lenient (opening : String) : Prop :=
  classify opening = .setting .config none ∨ classify opening = .setting .daemons none

inductive Remnant.Sensible : Remnant → Prop
  | nothing : Sensible .nothing
  | flag {opening} : Lenient opening → Sensible (.flag opening)
  | value {text} : isValue text = true → Flags.isFlag text = true → Sensible (.value text)
  | whole {phrase} : phrase.Sound → Sensible (.whole phrase)

theorem follow_cons_eq (reading : Reading) (phrase : Phrase) (said : List Phrase) :
    reading.follow (phrase :: said) = (reading.heed phrase).bind fun next => next.follow said := by
  rfl

theorem Lenient.awaits {opening : String} (lenient : Lenient opening) : awaits opening = true :=
  awaits_eq_true.mpr (lenient.elim (fun kind => ⟨_, kind⟩) fun kind => ⟨_, kind⟩)

theorem Lenient.isValue {opening : String} (lenient : Lenient opening) :
    isValue opening = false :=
  lenient.elim isValue_of_classify isValue_of_classify

theorem follow_without_value {opening : String} {rest : List String} (lenient : Lenient opening)
    (starts : ∀ token ∈ rest.head?, isValue token = false) (reading : Reading) :
    reading.follow (phrases (opening :: rest)) = none := by
  rw [phrases_opening fun _ => starts, follow_cons_eq]
  rcases lenient with kind | kind
  · rw [heed_bare kind]
    rfl
  · rw [heed_bare kind]
    rfl

theorem follow_value {text : String} (value : isValue text = true) (rest : List String)
    (reading : Reading) : reading.follow (phrases (text :: rest)) = none := by
  have kind := classify_of_isValue value
  rw [phrases_opening (by simp [awaits, kind]), follow_cons_eq]
  simp [Reading.heed, Phrase.meaning?, kind]

section Rejoining

variable {remnants : List Remnant} {back : List String}

theorem rejoin_of_head_value (sensible : ∀ remnant ∈ remnants, remnant.Sensible)
    (starts : ∀ token ∈ back.head?, isValue token = false) {text : String}
    (first : (remnants.flatMap Remnant.tokens ++ back).head? = some text)
    (value : isValue text = true) :
    Flags.isFlag text = true ∧ rejoin none remnants = none := by
  induction remnants with
  | nil =>
      have plain := starts text (by simpa using first)
      rw [value] at plain
      cases plain
  | cons remnant rest ih =>
      obtain ⟨sense, later⟩ := List.forall_mem_cons.mp sensible
      cases sense with
      | nothing => exact ih later (by simpa [Remnant.tokens] using first)
      | flag lenient =>
          obtain rfl := Option.some.inj first
          simp [lenient.isValue] at value
      | value _ dashed =>
          obtain rfl := Option.some.inj first
          exact ⟨dashed, rfl⟩
      | whole sound =>
          obtain rfl := Option.some.inj first
          simp [sound.isValue] at value

theorem follow_whole {phrase : Phrase} (sound : phrase.Sound)
    (sensible : ∀ remnant ∈ remnants, remnant.Sensible)
    (starts : ∀ token ∈ back.head?, isValue token = false) (reading : Reading) :
    reading.follow (phrases (phrase.tokens ++ (remnants.flatMap Remnant.tokens ++ back))) =
        reading.follow (phrase :: phrases (remnants.flatMap Remnant.tokens ++ back)) ∨
      reading.follow (phrases (phrase.tokens ++ (remnants.flatMap Remnant.tokens ++ back))) =
        none ∧ rejoin none remnants = none := by
  cases sound with
  | joined kind =>
      left
      exact congrArg reading.follow (phrases_opening (by simp [awaits, kind]))
  | apart kind value =>
      left
      exact congrArg reading.follow (phrases_taken (awaits_eq_true.mpr ⟨_, kind⟩) value _)
  | @bare opening kind =>
      cases first : (remnants.flatMap Remnant.tokens ++ back).head? with
      | none =>
          left
          exact congrArg reading.follow (phrases_opening (by simp [first]))
      | some token =>
          cases value : isValue token with
          | false =>
              left
              exact congrArg reading.follow (phrases_opening (by simp [first, value]))
          | true =>
              right
              obtain ⟨dashed, lost⟩ := rejoin_of_head_value sensible starts first value
              obtain ⟨tail, tokens⟩ := List.head?_eq_some_iff.mp first
              have waits := awaits_eq_true.mpr ⟨_, kind⟩
              rw [tokens, Phrase.tokens, Option.toList_none, List.singleton_append,
                phrases_taken waits value, follow_cons_eq, heed_taken kind]
              simp [Reading.assign, Switch.read?_dashed dashed, Except.toOption, lost]

theorem follow_rejoin (sensible : ∀ remnant ∈ remnants, remnant.Sensible)
    (starts : ∀ token ∈ back.head?, isValue token = false) (pending : Option String)
    (lenient : ∀ opening ∈ pending, Lenient opening) (reading : Reading) :
    reading.follow (phrases (pending.toList ++ (remnants.flatMap Remnant.tokens ++ back))) =
      (rejoin pending remnants).bind fun kept => reading.follow (kept ++ phrases back) := by
  -- A flag that has lost its value stays in front of the tokens until a lost value turns up.
  induction remnants generalizing pending reading with
  | nil =>
      cases pending with
      | none => rfl
      | some opening => exact follow_without_value (lenient opening rfl) starts reading
  | cons remnant rest ih =>
      obtain ⟨sense, later⟩ := List.forall_mem_cons.mp sensible
      have onwards (phrase : Phrase) :
          reading.follow (phrase :: phrases (rest.flatMap Remnant.tokens ++ back)) =
            ((rejoin none rest).map (phrase :: ·)).bind fun kept =>
              reading.follow (kept ++ phrases back) := by
        have going (next : Reading) := ih later none (by simp) next
        simp only [Option.toList_none, List.nil_append] at going
        simp only [follow_cons_eq, going]
        cases rejoin none rest with
        | none => cases reading.heed phrase <;> rfl
        | some kept => simp [follow_cons_eq]
      cases sense with
      | nothing => exact ih later pending lenient reading
      | flag flag =>
          cases pending with
          | none => exact ih later (some _) (by simpa using flag) reading
          | some opening =>
              refine follow_without_value (lenient opening rfl) ?_ reading
              rintro token ⟨⟩
              exact flag.isValue
      | value value _ =>
          cases pending with
          | none => exact follow_value value _ reading
          | some opening =>
              have waits := (lenient opening rfl).awaits
              exact (congrArg reading.follow (phrases_taken waits value _)).trans (onwards _)
      | @whole phrase sound =>
          simp only [List.flatMap_cons, Remnant.tokens, List.append_assoc]
          cases pending with
          | none =>
              rcases follow_whole sound later starts reading with read | ⟨refused, lost⟩
              · exact read.trans (onwards phrase)
              · simp [rejoin, refused, lost]
          | some opening =>
              refine follow_without_value (lenient opening rfl) ?_ reading
              rintro token ⟨⟩
              exact sound.isValue

end Rejoining

theorem rejoin_cases {pending : Option String} {remnant : Remnant} {rest : List Remnant}
    {kept : List Phrase} (joined : rejoin pending (remnant :: rest) = some kept) :
    (remnant = .nothing ∧ rejoin pending rest = some kept) ∨
    (∃ opening, remnant = .flag opening ∧ rejoin (some opening) rest = some kept) ∨
    (∃ phrase later, remnant = .whole phrase ∧ rejoin none rest = some later ∧
      kept = phrase :: later) ∨
    ∃ opening text later, remnant = .value text ∧ pending = some opening ∧
      rejoin none rest = some later ∧ kept = ⟨opening, some text⟩ :: later := by
  cases remnant with
  | nothing => exact .inl ⟨rfl, joined⟩
  | flag opening =>
      rw [rejoin] at joined
      split at joined
      · cases joined
      · exact .inr (.inl ⟨opening, rfl, joined⟩)
  | whole phrase =>
      rw [rejoin] at joined
      split at joined
      · cases joined
      · obtain ⟨later, onwards, rfl⟩ := Option.map_eq_some_iff.mp joined
        exact .inr (.inr (.inl ⟨phrase, later, rfl, onwards, rfl⟩))
  | value text =>
      obtain ⟨opening, waits, taken⟩ := Option.bind_eq_some_iff.mp joined
      obtain ⟨later, onwards, rfl⟩ := Option.map_eq_some_iff.mp taken
      exact .inr (.inr (.inr ⟨opening, text, later, rfl, waits, onwards, rfl⟩))

theorem rejoin_plain {said : List Phrase}
    (plain : ∀ phrase ∈ said, ∀ text ∈ phrase.value, Flags.isFlag text = false)
    (keeps : String → Bool) :
    rejoin none (said.map (Phrase.cut keeps)) =
      some (said.filter fun phrase => keeps phrase.opening) := by
  induction said with
  | nil => rfl
  | cons phrase rest ih =>
      obtain ⟨first, later⟩ := List.forall_mem_cons.mp plain
      rcases cut_cases keeps phrase with ⟨kept, whole⟩ | ⟨dropped, gone⟩ | ⟨text, valued, dashed, _⟩
      · simp [whole, rejoin, ih later, kept]
      · simp [gone, rejoin, ih later, dropped]
      · simp [first text valued] at dashed

theorem Lenient.meaning {opening : String} (lenient : Lenient opening) (text : String) :
    ∃ setting, Phrase.meaning? ⟨opening, some text⟩ = some (setting, some text) ∧
      (setting = .config ∨ setting = .daemons) := by
  rcases lenient with kind | kind
  · exact ⟨.config, by simp [Phrase.meaning?, kind], .inl rfl⟩
  · exact ⟨.daemons, by simp [Phrase.meaning?, kind], .inr rfl⟩

theorem Lenient.heeded {opening : String} (lenient : Lenient opening) (text : String) :
    Phrase.Heeded ⟨opening, some text⟩ := by
  intro reading
  obtain ⟨setting, meaning, rfl | rfl⟩ := lenient.meaning text
  · exact ⟨_, heed_eq_some.mpr ⟨_, _, meaning, rfl⟩⟩
  · exact ⟨_, heed_eq_some.mpr ⟨_, _, meaning, rfl⟩⟩

def Remnant.whole? : Remnant → Option Phrase
  | .whole phrase => some phrase
  | _ => none

section Rejoined

variable {remnants : List Remnant} {pending : Option String} {kept : List Phrase}

theorem heeded_rejoin (sensible : ∀ remnant ∈ remnants, remnant.Sensible)
    (heeded : ∀ phrase, .whole phrase ∈ remnants → phrase.Heeded)
    (lenient : ∀ opening ∈ pending, Lenient opening)
    (joined : rejoin pending remnants = some kept) :
    ∀ phrase ∈ kept, phrase.Heeded := by
  induction remnants generalizing pending kept with
  | nil =>
      rw [rejoin] at joined
      split at joined <;> cases joined
      simp
  | cons remnant rest ih =>
      obtain ⟨sense, later⟩ := List.forall_mem_cons.mp sensible
      have onwards {pending : Option String} {kept : List Phrase}
          (lenient : ∀ opening ∈ pending, Lenient opening)
          (joined : rejoin pending rest = some kept) : ∀ phrase ∈ kept, phrase.Heeded :=
        ih later (fun phrase member => heeded phrase (List.mem_cons_of_mem _ member)) lenient joined
      rcases rejoin_cases joined with ⟨rfl, going⟩ | ⟨opening, rfl, going⟩ |
        ⟨phrase, more, rfl, going, rfl⟩ | ⟨opening, text, more, rfl, rfl, going, rfl⟩
      · exact onwards lenient going
      · cases sense with
        | flag flag => exact onwards (by simpa using flag) going
      · exact List.forall_mem_cons.mpr ⟨heeded phrase (by simp), onwards (by simp) going⟩
      · exact List.forall_mem_cons.mpr
          ⟨(lenient opening rfl).heeded text, onwards (by simp) going⟩

theorem given_rejoin (sensible : ∀ remnant ∈ remnants, remnant.Sensible)
    (lenient : ∀ opening ∈ pending, Lenient opening)
    (joined : rejoin pending remnants = some kept) :
    given .maxWorkers kept = given .maxWorkers (remnants.filterMap Remnant.whole?) := by
  induction remnants generalizing pending kept with
  | nil =>
      rw [rejoin] at joined
      split at joined <;> cases joined
      rfl
  | cons remnant rest ih =>
      obtain ⟨sense, later⟩ := List.forall_mem_cons.mp sensible
      rcases rejoin_cases joined with ⟨rfl, going⟩ | ⟨opening, rfl, going⟩ |
        ⟨phrase, more, rfl, going, rfl⟩ | ⟨opening, text, more, rfl, rfl, going, rfl⟩
      · exact ih later lenient going
      · cases sense with
        | flag flag => exact ih later (by simpa using flag) going
      · have same := ih later (by simp) going
        simp only [given, List.filterMap_cons, Remnant.whole?] at same ⊢
        rw [same]
      · obtain ⟨setting, meaning, other⟩ := (lenient opening rfl).meaning text
        have unasked : setting ≠ .maxWorkers := by
          rintro rfl
          simp at other
        rw [given_cons meaning, if_neg unasked]
        exact ih later (by simp) going

end Rejoined

end Warden.CommandLine
