import Mathlib.Data.List.Forall2
import Warden.Proofs.Rounds
import Warden.Proofs.Utf8Reading

/-!
The secret reaches nothing but the input of the children. Two supervisions of the same launches that
differ in their secrets do the same things in the same states, event by event. Where one of them
writes its secret to a child the other one writes its own, and nowhere else do their events differ.
-/

namespace Warden

/-- Events at the same place of two runs with a secret each: the same event that writes nothing to a
child, or what is written to a child, each time its own secret in UTF-8 and a line feed. -/
inductive Event.Alike (first second : String) : Event → Event → Prop
  | same {event : Event} (silent : event.handedOver? = none) : Alike first second event event
  | secret : Alike first second (.handOver (first.toUTF8.data.toList ++ [0x0A]))
      (.handOver (second.toUTF8.data.toList ++ [0x0A]))

theorem Event.alike_handOver (first second : String) :
    Event.Alike first second (.handOver (Secret.handOver first))
      (.handOver (Secret.handOver second)) := by
  rw [Secret.handOver, Secret.handOver, Text.Utf8.encode_eq_toUTF8, Text.Utf8.encode_eq_toUTF8]
  exact .secret

theorem Event.handedOver?_of_isChildless {event : Event} (childless : event.isChildless = true) :
    event.handedOver? = none := by
  cases event <;> simp_all [Event.isChildless, Event.handedOver?]

theorem Event.alike_of_silent {events : List Event} (first second : String)
    (silent : ∀ event ∈ events, event.handedOver? = none) :
    List.Forall₂ (Event.Alike first second) events events :=
  List.forall₂_same.mpr fun event member => .same (silent event member)

namespace Launch

theorem perform_alike (launch : Launch) (command : List String) (first second : String) :
    List.Forall₂ (Event.Alike first second) (launch.perform command first).events
      (launch.perform command second).events := by
  rw [perform_eq, perform_eq]
  refine .cons (.same rfl) ?_
  cases launch with
  | refused fault => exact .nil
  | started child =>
      have closing : ∀ event ∈ if child.writeFault.isSome then [] else [Event.closeInput],
          event.handedOver? = none := by
        split <;> simp [Event.handedOver?]
      have fate : ∀ event ∈ fateEvents child, event.handedOver? = none := by
        unfold fateEvents
        split
        · simp [Event.handedOver?, ready]
        · split <;> simp [Event.handedOver?, givenUp]
      refine List.rel_append (.cons (Event.alike_handOver first second) ?_)
        (Event.alike_of_silent first second fate)
      exact Event.alike_of_silent first second closing

end Launch

namespace Supervisor

variable (supervisor : Supervisor)

theorem settle_silent (state : State) (flags : List String)
    (launched : Except Launch.Problem Child) :
    (supervisor.settle state flags launched).Every (·.handedOver? = none) :=
  settle_every (fun _ => Event.handedOver?_of_isChildless) rfl supervisor state flags launched

structure Round.Alike (first second : String) (one two : Round) : Prop where
  before : one.before = two.before
  command : one.command = two.command
  events : List.Forall₂ (Event.Alike first second) one.events two.events
  after : one.after = two.after
  result : one.result = two.result

theorem settle_withSecret (secret : String) (state : State) (flags : List String)
    (launched : Except Launch.Problem Child) :
    { supervisor with secret }.settle state flags launched =
      supervisor.settle state flags launched := by
  cases launched with
  | ok child => rfl
  | error problem => cases problem <;> rfl

theorem round_alike (first second : String) (command : List String) (state : State)
    (launch : Launch) :
    Round.Alike first second ({ supervisor with secret := first }.round command state launch)
      ({ supervisor with secret := second }.round command state launch) := by
  let flags := (supervisor.plan.resolve state.attempt).flags
  have launched : (launch.perform (command ++ flags) first).result =
      (launch.perform (command ++ flags) second).result := by
    rw [Launch.perform_eq, Launch.perform_eq]
  have settled (secret : String) := supervisor.settle_withSecret secret (state.afterLaunch launch)
    flags (launch.perform (command ++ flags) secret).result
  constructor
  · rfl
  · rfl
  · refine List.rel_append (.cons (.same rfl) (launch.perform_alike _ first second)) ?_
    dsimp only
    rw [settled first, settled second, launched]
    exact Event.alike_of_silent first second (supervisor.settle_silent _ _ _)
  · dsimp only [round]
    rw [settled first, settled second, launched]
  · dsimp only [round]
    rw [settled first, settled second, launched]

theorem rounds_alike (first second : String) (command : List String) (state : State)
    (launches : List Launch) :
    List.Forall₂ (Round.Alike first second)
      ({ supervisor with secret := first }.rounds command state launches)
      ({ supervisor with secret := second }.rounds command state launches) := by
  induction launches generalizing state with
  | nil => exact .nil
  | cons launch rest ih =>
      have alike := supervisor.round_alike first second command state launch
      rw [rounds_cons, rounds_cons, ← alike.result, ← alike.after]
      split
      · exact .cons alike .nil
      · exact .cons alike (ih _)

theorem getLast?_alike {first second : String} {one two : List Round}
    (alike : List.Forall₂ (Round.Alike first second) one two) :
    one.getLast? = none ∧ two.getLast? = none ∨
      ∃ last other, one.getLast? = some last ∧ two.getLast? = some other ∧
        Round.Alike first second last other := by
  induction alike with
  | nil => exact .inl ⟨rfl, rfl⟩
  | cons round _ ih =>
      rw [List.getLast?_cons, List.getLast?_cons]
      rcases ih with ⟨ended, ended'⟩ | ⟨last, other, found, found', later⟩
      · rw [ended, ended']
        exact .inr ⟨_, _, rfl, rfl, round⟩
      · rw [found, found']
        exact .inr ⟨_, _, rfl, rfl, later⟩

structure Course.Alike (first second : String) (one two : Course) : Prop where
  events : List.Forall₂ (Event.Alike first second) one.events two.events
  rounds : List.Forall₂ (Round.Alike first second) one.rounds two.rounds
  final : one.final = two.final
  result : one.result = two.result

theorem events_alike {first second : String} {one two : List Round}
    (alike : List.Forall₂ (Round.Alike first second) one two) :
    List.Forall₂ (Event.Alike first second) (one.flatMap Round.events)
      (two.flatMap Round.events) := by
  induction alike with
  | nil => exact .nil
  | cons round _ ih => exact List.rel_append round.events ih

theorem ofRounds_alike {first second : String} {one two : List Round}
    (alike : List.Forall₂ (Round.Alike first second) one two) (daemons : List String)
    (state : State) (stops : Bool) :
    Course.Alike first second (.ofRounds daemons state stops one)
      (.ofRounds daemons state stops two) := by
  have ends : one.getLast?.map Round.after = two.getLast?.map Round.after ∧
      (Course.ofRounds daemons state stops one).result =
        (Course.ofRounds daemons state stops two).result := by
    simp only [Course.ofRounds]
    rcases getLast?_alike alike with ⟨ended, ended'⟩ | ⟨last, other, found, found', later⟩
    · rw [ended, ended']
      exact ⟨rfl, rfl⟩
    · rw [found, found']
      simp only [Option.map_some, later.after, later.result, and_self]
  have closing : (Course.ofRounds daemons state stops one).closing =
      (Course.ofRounds daemons state stops two).closing := by
    rw [Course.closing_ofRounds, Course.closing_ofRounds, ends.2]
  refine ⟨?_, alike, ?_, ends.2⟩
  · refine List.rel_append (.cons (.same rfl) (events_alike alike)) ?_
    rw [← closing]
    refine Event.alike_of_silent first second ?_
    rw [Course.closing_ofRounds]
    split
    · exact List.forall_mem_singleton.mpr rfl
    · exact List.forall_mem_nil _
  · exact congrArg (Option.getD · state) ends.1

/-- Secrecy. Two supervisions of the same launches, whatever they are, differ in nothing but the
secret that each of them writes to its children. -/
theorem supervise_alike (first second : String) (state : State) (launches : List Launch)
    (stopAtLast : Bool) :
    Course.Alike first second
      ({ supervisor with secret := first }.supervise state launches stopAtLast)
      ({ supervisor with secret := second }.supervise state launches stopAtLast) := by
  cases found : supervisor.host.command? with
  | none =>
      have course (secret : String) :
          { supervisor with secret }.supervise state launches stopAtLast = _ :=
        @supervise_of_lost { supervisor with secret } found state launches stopAtLast
      rw [course first, course second]
      exact ⟨.cons (.same rfl) .nil, .nil, rfl, rfl⟩
  | some command =>
      have course (secret : String) :
          { supervisor with secret }.supervise state launches stopAtLast = _ :=
        @supervise_eq { supervisor with secret } command found state launches stopAtLast
      rw [course first, course second]
      exact ofRounds_alike (supervisor.rounds_alike first second command state launches) _ _ _

end Supervisor

end Warden
