import Warden.Proofs.Rounds

/-!
One child at a time. A watch over the events of a supervision sees that a child is there when it is
killed or awaited, and that none is there when the next one is launched and while the supervisor
sleeps or reports. It never sees anything else, whatever goes wrong.
-/

namespace Warden

/-- Watches over an event, given whether a child is there, as it is from the hand-over of its secret
on. There has to be one to be killed or awaited, and there must be none when another one is launched
and while the supervisor sleeps or reports. -/
def Event.watch? (child : Bool) : Event → Option Bool
  | .handOver _ => if child then none else some true
  | .closeInput | .kill => if child then some true else none
  | .awaitExit => if child then some false else none
  | .launch _ | .sleep _ | .lookUp _ | .mail _ => if child then none else some false
  | _ => some child

def watch (child : Bool) (events : List Event) : Option Bool :=
  events.foldlM Event.watch? child

theorem watch_append (child : Bool) (front back : List Event) :
    watch child (front ++ back) = (watch child front).bind (watch · back) :=
  List.foldlM_append

theorem watch_cons (child : Bool) (event : Event) (events : List Event) :
    watch child (event :: events) = (event.watch? child).bind (watch · events) :=
  List.foldlM_cons

theorem watch_childless {events : List Event}
    (childless : ∀ event ∈ events, event.isChildless = true) : watch false events = some false := by
  induction events with
  | nil => rfl
  | cons event events ih =>
      obtain ⟨first, rest⟩ := List.forall_mem_cons.mp childless
      have kept : event.watch? false = some false := by
        cases event <;> simp_all [Event.isChildless, Event.watch?]
      rw [watch_cons, kept]
      exact ih rest

namespace Launch

theorem watch_inputEvents (child : Child) (secret : String) :
    watch false (inputEvents child secret) = some true := by
  unfold inputEvents
  split <;> rfl

def leavesChild : Launch → Bool
  | .refused _ => false
  | .started child => child.fault?.all (!·.isSystem)

theorem watch_perform (launch : Launch) (command : List String) (secret : String) :
    watch false (launch.perform command secret).events = some launch.leavesChild := by
  rw [perform_eq]
  change watch false (launch.childEvents secret) = _
  cases launch with
  | refused fault => rfl
  | started child =>
      rw [childEvents, watch_append, watch_inputEvents]
      change watch true (fateEvents child) = _
      cases broken : child.fault? with
      | none =>
          simp only [fateEvents, leavesChild, broken]
          rfl
      | some fault =>
          cases handled : fault.isSystem with
          | true =>
              simp only [fateEvents, leavesChild, broken, Option.all_some, handled, if_true]
              rfl
          | false =>
              simp only [fateEvents, leavesChild, broken, Option.all_some, handled,
                Bool.false_eq_true, if_false]
              rfl

end Launch

namespace Supervisor

theorem events_await (state : State) (child : Child) :
    (state.await child).run.events = [.awaitExit] := by
  unfold State.await State.pass
  split <;> rfl

theorem watch_settle_ok (supervisor : Supervisor) (state : State) (flags : List String)
    (child : Child) :
    watch true (supervisor.settle state flags (.ok child)).run.events = some false := by
  let cause := Child.exitMessage child.status
  have handled (after : State) :
      watch false ((supervisor.handle after flags cause (some child.pid)).precededBy
        (ended after cause)).run.events = some false :=
    watch_childless
      ((supervisor.handle_childless after flags cause (some child.pid)).precededBy rfl)
  change watch true ((state.await child).andThen fun after =>
    (supervisor.handle after flags cause (some child.pid)).precededBy
      (ended after cause)).run.events = _
  unfold Step.andThen
  split
  · rw [watch_append, events_await]
    exact handled _
  · rw [events_await]
    rfl

theorem watch_settle_reported {problem : Launch.Problem} (supervisor : Supervisor) (state : State)
    (flags : List String) (reported : problem.isReported = true) :
    watch false (supervisor.settle state flags (.error problem)).run.events = some false := by
  rw [settle_reported supervisor state flags reported]
  exact watch_childless
    ((supervisor.handle_childless state flags problem.message none).precededBy rfl)

theorem settle_watched (supervisor : Supervisor) (state : State) (flags : List String)
    (launch : Launch) :
    ∃ child, watch launch.leavesChild (supervisor.settle state flags launch.outcome).run.events =
        some child ∧
      ((supervisor.settle state flags launch.outcome).run.result = .ok () → child = false) := by
  have reported {problem : Launch.Problem} (reports : problem.isReported = true) :=
    watch_settle_reported supervisor state flags reports
  cases launch with
  | refused fault =>
      cases stream : fault.isStream with
      | true =>
          simp only [Launch.outcome, stream]
          exact ⟨false, reported rfl, fun _ => rfl⟩
      | false =>
          simp only [Launch.outcome, stream]
          exact ⟨false, rfl, fun _ => rfl⟩
  | started child =>
      cases broken : child.fault? with
      | none =>
          simp only [Launch.outcome, Launch.leavesChild, broken]
          exact ⟨false, watch_settle_ok supervisor state flags child, fun _ => rfl⟩
      | some fault =>
          cases handled : fault.isSystem with
          | true =>
              simp only [Launch.outcome, Launch.leavesChild, broken, Option.all_some, handled]
              exact ⟨false, reported rfl, fun _ => rfl⟩
          | false =>
              simp only [Launch.outcome, Launch.leavesChild, broken, Option.all_some, handled]
              exact ⟨true, rfl, fun ended => by cases ended⟩

theorem round_watched (supervisor : Supervisor) (command : List String) (state : State)
    (launch : Launch) :
    ∃ child, watch false (supervisor.round command state launch).events = some child ∧
      ((supervisor.round command state launch).result = .ok () → child = false) := by
  have performed := launch.watch_perform
    (command ++ (supervisor.plan.resolve state.attempt).flags) supervisor.secret
  have settled := supervisor.settle_watched (state.afterLaunch launch)
    (supervisor.plan.resolve state.attempt).flags launch
  dsimp only [round]
  rw [List.cons_append, watch_cons, announcement]
  change ∃ child, watch false (_ ++ _) = _ ∧ _
  rw [watch_append, performed, Launch.perform_eq]
  exact settled

theorem rounds_watched (supervisor : Supervisor) (command : List String) (state : State)
    (launches : List Launch) :
    ∃ child,
      watch false ((supervisor.rounds command state launches).flatMap Round.events) = some child ∧
      ((∀ last, (supervisor.rounds command state launches).getLast? = some last →
        last.result = .ok ()) → child = false) := by
  induction launches generalizing state with
  | nil => exact ⟨false, rfl, fun _ => rfl⟩
  | cons launch rest ih =>
      obtain ⟨child, watched, gone⟩ := supervisor.round_watched command state launch
      rw [rounds_cons]
      split
      next fault failed =>
        refine ⟨child, by simpa using watched, fun ended => ?_⟩
        exact gone (ended _ rfl)
      next succeeded =>
        -- A child that is left behind ends the supervision, so the next round begins without one.
        obtain ⟨other, later, left⟩ := ih (supervisor.round command state launch).after
        refine ⟨other, ?_, fun ended => left fun last found => ended last ?_⟩
        · rw [List.flatMap_cons, watch_append, watched, gone succeeded]
          exact later
        · rw [List.getLast?_cons, found]
          rfl

theorem watch_ofRounds (daemons : List String) (state : State) (stops : Bool)
    (rounds : List Round) :
    watch false (Course.ofRounds daemons state stops rounds).events =
      watch false (rounds.flatMap Round.events) := by
  have closing (child : Bool) :
      watch child (Course.ofRounds daemons state stops rounds).closing = some child := by
    rw [Course.closing_ofRounds]
    split <;> rfl
  have opening : watch false [opened daemons] = some false := rfl
  rw [Course.events, watch_append, funext closing, Option.bind_fun_some]
  change watch false ([opened daemons] ++ rounds.flatMap Round.events) = _
  rw [watch_append, opening]
  rfl

theorem supervise_watched (supervisor : Supervisor) (state : State) (launches : List Launch)
    (stopAtLast : Bool) :
    ∃ child, watch false (supervisor.supervise state launches stopAtLast).events = some child ∧
      ((supervisor.supervise state launches stopAtLast).result = .ok () → child = false) := by
  cases found : supervisor.host.command? with
  | none =>
      rw [supervise_of_lost found]
      exact ⟨false, rfl, fun _ => rfl⟩
  | some command =>
      obtain ⟨child, watched, gone⟩ := supervisor.rounds_watched command state launches
      rw [supervise_eq found]
      refine ⟨child, by rw [watch_ofRounds, watched], fun ended => gone fun last latest => ?_⟩
      simp only [Course.ofRounds, latest] at ended
      cases result : last.result with
      | ok value => rfl
      | error fault =>
          rw [result] at ended
          cases ended

end Supervisor

end Warden
