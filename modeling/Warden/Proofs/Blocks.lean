import Mathlib.Data.List.Forall2
import Warden.Proofs.Delivery
import Warden.Proofs.OneChild
import Warden.Proofs.Supervision

/-!
A supervision block by block. If launching handles what goes wrong and the clock tells the time,
then every launch makes one block: the launch, all that becomes of its child, the wait for the last
output, the notification, and the pause. A stop keeps back the blocks after the one in which it is
requested and cuts none short.
-/

namespace Warden

def Event.isLog : Event → Bool
  | .log _ _ => true
  | _ => false

def deeds (events : List Event) : List Event :=
  events.filter (!·.isLog)

@[simp]
theorem deeds_append (front back : List Event) :
    deeds (front ++ back) = deeds front ++ deeds back :=
  List.filter_append ..

theorem deeds_cons_log {event : Event} (logged : event.isLog = true) (events : List Event) :
    deeds (event :: events) = deeds events := by
  simp [deeds, logged]

theorem deeds_cons {event : Event} (done : event.isLog = false) (events : List Event) :
    deeds (event :: events) = event :: deeds events := by
  simp [deeds, done]

theorem mem_deeds {event : Event} (done : event.isLog = false) {events : List Event} :
    event ∈ deeds events ↔ event ∈ events := by
  simp [deeds, done]

theorem Number.add?_of_binary (left : Float) (right : Number) :
    (Number.binary left).add? right =
      right.toBinary?.map fun value => .binary (left + value) := by
  cases right with
  | whole value =>
      rw [add?]
      · simp only [toBinary?, Option.pure_def, Option.bind_eq_bind, Option.bind_some,
          Option.map_eq_bind, Function.comp_def]
      · intro _ _ whole
        cases whole
  | binary value => rfl

namespace Launch

/-- What becomes of the child of a launch, if there is one: it is written the secret, killed if that
breaks, and awaited. -/
def lifetime (secret : String) : Launch → List Event
  | .refused _ => []
  | .started child =>
      inputEvents child secret ++ (if child.fault?.isSome then [.kill] else []) ++ [.awaitExit]

theorem deeds_inputEvents (child : Child) (secret : String) :
    deeds (inputEvents child secret) = inputEvents child secret := by
  unfold inputEvents
  split <;> rfl

theorem deeds_perform {launch : Launch} (handled : launch.Handled) (command : List String)
    (secret : String) :
    deeds (launch.perform command secret).events ++
        (if launch.handsOver then [.awaitExit] else []) =
      .launch command :: launch.lifetime secret := by
  rw [perform_eq, deeds_cons rfl]
  cases launch with
  | refused fault => rfl
  | started child =>
      simp only [childEvents, lifetime, deeds_append, deeds_inputEvents, List.cons_append,
        List.append_assoc]
      cases broken : child.fault? with
      | none =>
          simp only [fateEvents, handsOver, broken]
          rfl
      | some fault =>
          have system : fault.isSystem = true := handled fault broken
          simp only [fateEvents, handsOver, broken, system]
          rfl

theorem kill_mem_lifetime {launch : Launch} (secret : String) :
    Event.kill ∈ launch.lifetime secret ↔
      ∃ child fault, launch = .started child ∧ child.fault? = some fault := by
  cases launch with
  | refused fault => simp [lifetime]
  | started child =>
      have input : Event.kill ∉ inputEvents child secret := by
        unfold inputEvents
        split <;> simp
      cases broken : child.fault? with
      | none => simp [lifetime, broken, input]
      | some fault => simp [lifetime, broken, input]

end Launch

namespace Supervisor

variable {supervisor : Supervisor} {state : State}

/-- What the notifier does about the failure of a round, whose child has been gone since some moment.
It is told the round's own flags, cause and process number and the output up to this round. -/
def Round.notification (round : Round) (supervisor : Supervisor) (launch : Launch)
    (moment : Number) : Run Fault Bool :=
  let logs := round.before.afterLaunch launch
  supervisor.notifier.notify supervisor.host moment
    { flags := (supervisor.plan.resolve round.before.attempt).flags
      cause := launch.cause
      pid := launch.pid?
      output := logs.output
      errors := logs.errors }

/-- A round as a block. Its launch is followed by all that becomes of the child and by the wait for
the last output, and then come the notification and the pause; all other events are log records. -/
structure Round.IsBlock (round : Round) (supervisor : Supervisor) (launch : Launch) : Prop where
  result : round.result = .ok ()
  events : ∃ gone moment, launch.goneAt? round.before.now = some gone ∧
    gone.add? supervisor.flushDelay = some moment ∧
    let notified := round.notification supervisor launch moment
    (∀ event ∈ notified.events, event.isReporting = true) ∧
      deeds round.events =
        .launch round.command :: launch.lifetime supervisor.secret ++
          .sleep supervisor.flushDelay :: deeds notified.events ++
          [.sleep (.whole supervisor.attemptInterval)]
  killed : Event.kill ∈ round.events ↔
    ∃ child fault, launch = .started child ∧ child.fault? = some fault

theorem Round.Completes.isBlock {round : Round} {launch : Launch} {moments : Moments}
    (complete : round.Completes supervisor launch moments) (handled : launch.Handled)
    (tells : supervisor.Tells launch round.before.lastStart round.before.now moments) :
    round.IsBlock supervisor launch := by
  let notified := round.notification supervisor launch moments.flushed
  have told : (supervisor.notify (round.before.atReport launch moments)
      (supervisor.plan.resolve round.before.attempt).flags launch.cause launch.pid?).run.events =
        notified.events := rfl
  have reporting : ∀ event ∈ notified.events, event.isReporting = true := by
    rw [← told]
    exact supervisor.notify_reporting _ _ _ _
  have escalated : deeds (supervisor.escalations round.before.attempt moments.passed) = [] := by
    unfold escalations
    split <;> rfl
  have logged : (failed round.before launch).isLog = true := by
    unfold failed
    split <;> rfl
  have awaited : deeds (if launch.handsOver then [.awaitExit] else []) =
      if launch.handsOver then [.awaitExit] else [] := by
    split <;> rfl
  have done : deeds round.events =
      .launch round.command :: launch.lifetime supervisor.secret ++
        .sleep supervisor.flushDelay :: deeds notified.events ++
        [.sleep (.whole supervisor.attemptInterval)] := by
    rw [complete.events, told, ← Launch.deeds_perform handled, List.cons_append, List.cons_append,
      deeds_cons_log rfl, deeds_append, deeds_append, awaited, deeds_cons_log logged,
      deeds_cons rfl, deeds_append, deeds_append, escalated, List.append_nil]
    simp only [List.append_assoc, List.cons_append]
    rfl
  refine ⟨complete.result,
    ⟨moments.gone, moments.flushed, tells.gone, tells.flushed, reporting, done⟩, ?_⟩
  have silent : Event.kill ∉ deeds notified.events := fun member =>
    nomatch reporting _ ((mem_deeds rfl).mp member)
  rw [← Launch.kill_mem_lifetime supervisor.secret, ← mem_deeds rfl, done]
  simp [silent]

def TellsTime (supervisor : Supervisor) (last now : Number) : List Launch → Prop
  | [] => True
  | launch :: rest => ∃ moments, supervisor.Tells launch last now moments ∧
      supervisor.TellsTime (launch.startAfter last now) moments.next rest

theorem tellsTime_whole {flush : Int} (steady : supervisor.Steady flush) (last now : Int)
    (launches : List Launch) (foreseen : ∀ launch ∈ launches, launch.Foreseen) :
    supervisor.TellsTime (.whole last) (.whole now) launches := by
  induction launches generalizing last now with
  | nil => trivial
  | cons launch rest ih =>
      obtain ⟨first, later⟩ := List.forall_mem_cons.mp foreseen
      refine ⟨_, tells_whole steady first, ?_⟩
      rw [startAfter_whole]
      exact ih _ _ later

theorem tellsTime_binary (last now : Float) (launches : List Launch)
    (flush : supervisor.flushDelay.toBinary?.isSome)
    (interval : (Number.whole supervisor.attemptInterval).toBinary?.isSome)
    (runtimes : ∀ child, .started child ∈ launches → child.runtime.toBinary?.isSome) :
    supervisor.TellsTime (.binary last) (.binary now) launches := by
  obtain ⟨flush, flushes⟩ := Option.isSome_iff_exists.mp flush
  obtain ⟨interval, pauses⟩ := Option.isSome_iff_exists.mp interval
  have add (left : Float) {right : Number} {value : Float} (fits : right.toBinary? = some value) :
      (Number.binary left).add? right = some (.binary (left + value)) := by
    rw [Number.add?_of_binary, fits, Option.map_some]
  induction launches generalizing last now with
  | nil => trivial
  | cons launch rest ih =>
      have later := fun child member => runtimes child (List.mem_cons_of_mem _ member)
      obtain ⟨gone, goes⟩ : ∃ gone, launch.goneAt? (.binary now) = some (.binary gone) := by
        cases launch with
        | refused fault => exact ⟨now, rfl⟩
        | started child =>
            obtain ⟨seconds, runs⟩ :=
              Option.isSome_iff_exists.mp (runtimes child List.mem_cons_self)
            cases broken : child.fault? with
            | none => exact ⟨now + seconds, by simp [Launch.goneAt?, broken, add now runs]⟩
            | some fault => exact ⟨now, by simp [Launch.goneAt?, broken]⟩
      obtain ⟨start, starts⟩ :
          ∃ start, launch.startAfter (.binary last) (.binary now) = .binary start := by
        unfold Launch.startAfter
        split
        · exact ⟨now, rfl⟩
        · exact ⟨last, rfl⟩
      refine ⟨⟨.binary gone, .binary (gone + flush), .binary (gone + flush - start),
        .binary (gone + flush + interval)⟩, ⟨goes, add gone flushes, ?_, add _ pauses⟩, ?_⟩
      · rw [starts]
        rfl
      · rw [starts]
        exact ih start _ later

theorem rounds_in_blocks {launches : List Launch} (ordinary : supervisor.host.Ordinary)
    (handled : ∀ launch ∈ launches, launch.Handled)
    (tells : supervisor.TellsTime state.lastStart state.now launches) (command : List String) :
    List.Forall₂ (fun round launch => round.IsBlock supervisor launch)
      (supervisor.rounds command state launches) launches := by
  induction launches generalizing state with
  | nil => exact .nil
  | cons launch rest ih =>
      obtain ⟨first, later⟩ := List.forall_mem_cons.mp handled
      obtain ⟨moments, told, rest_told⟩ := tells
      have complete := round_completes ordinary first told command
      rw [rounds_cons]
      simp only [complete.result]
      refine .cons (complete.isBlock first told) (ih later ?_)
      rw [complete.after]
      exact rest_told

section Stopping

def untilStop (stops : Nat → Bool) : List Launch → List Launch
  | [] => []
  | launch :: rest =>
      if stops 0 then [] else launch :: untilStop (fun index => stops (index + 1)) rest

theorem roundsUntil_eq (supervisor : Supervisor) (command : List String) (stops : Nat → Bool)
    (state : State) (launches : List Launch) :
    supervisor.roundsUntil command stops state launches =
      supervisor.rounds command state (untilStop stops launches) := by
  induction launches generalizing stops state with
  | nil => rfl
  | cons launch rest ih =>
      rw [roundsUntil, untilStop]
      split
      · rfl
      · rw [rounds_cons]
        cases ending : (supervisor.round command state launch).result with
        | error fault => simp only [ending]
        | ok _ => simp only [ending, ih]

theorem untilStop_prefix (stops : Nat → Bool) (launches : List Launch) :
    untilStop stops launches <+: launches := by
  induction launches generalizing stops with
  | nil => exact List.prefix_rfl
  | cons launch rest ih =>
      rw [untilStop]
      split
      · exact List.nil_prefix
      · exact List.prefix_cons_inj launch |>.mpr (ih _)

theorem length_untilStop_le {stops : Nat → Bool} {index : Nat} (stopped : stops index = true)
    (launches : List Launch) : (untilStop stops launches).length ≤ index := by
  induction launches generalizing stops index with
  | nil => exact Nat.zero_le index
  | cons launch rest ih =>
      rw [untilStop]
      split
      · exact Nat.zero_le index
      next going =>
        cases index with
        | zero => exact absurd stopped going
        | succ index => exact Nat.succ_le_succ (ih stopped)

theorem stops_of_untilStop_lt {stops : Nat → Bool} {launches : List Launch}
    (early : (untilStop stops launches).length < launches.length) :
    stops (untilStop stops launches).length = true := by
  induction launches generalizing stops with
  | nil => exact absurd early (Nat.lt_irrefl 0)
  | cons launch rest ih =>
      rw [untilStop] at early ⊢
      split at early
      next stopped => simp [stopped]
      next going =>
        rw [if_neg going]
        exact ih (Nat.lt_of_succ_lt_succ early)

theorem tellsTime_untilStop {launches : List Launch} {last now : Number}
    (tells : supervisor.TellsTime last now launches) (stops : Nat → Bool) :
    supervisor.TellsTime last now (untilStop stops launches) := by
  induction launches generalizing stops last now with
  | nil => trivial
  | cons launch rest ih =>
      rw [untilStop]
      split
      · trivial
      · obtain ⟨moments, told, later⟩ := tells
        exact ⟨moments, told, ih later _⟩

theorem deeds_ofRounds (daemons : List String) (state : State) (stops : Bool)
    (rounds : List Round) :
    deeds (Course.ofRounds daemons state stops rounds).events =
      rounds.flatMap (deeds ·.events) := by
  have closing : deeds (Course.ofRounds daemons state stops rounds).closing = [] := by
    rw [Course.closing_ofRounds]
    split <;> rfl
  have between : deeds (rounds.flatMap Round.events) = rounds.flatMap (deeds ·.events) :=
    List.filter_flatMap
  rw [Course.events, deeds_append, deeds_append, closing, List.append_nil]
  exact between

theorem superviseUntil_eq (supervisor : Supervisor) (stops : Nat → Bool) (state : State)
    (launches : List Launch) :
    supervisor.superviseUntil stops state launches =
      supervisor.supervise state (untilStop stops launches)
        (stops (untilStop stops launches).length) := by
  cases found : supervisor.host.command? with
  | none => rw [superviseUntil_of_lost found, supervise_of_lost found]
  | some command =>
      rw [supervise_eq found, superviseUntil_of_found found]
      simp only [roundsUntil_eq]
      exact supervisor.ofRounds_of_rounds stops command state (untilStop stops launches)

end Stopping

/-- One child at a time, and one path for every failure. On a host without interrupts and with a
clock that tells the time, the launches of a supervision make one block each, and the trace is just
these blocks and log records. The supervision ends before the first round at which a stop is seen,
as if there had been no more launches. -/
theorem superviseUntil_in_blocks {command : List String} {launches : List Launch}
    (ordinary : supervisor.host.Ordinary) (found : supervisor.host.command? = some command)
    (handled : ∀ launch ∈ launches, launch.Handled)
    (tells : supervisor.TellsTime state.lastStart state.now launches) (stops : Nat → Bool) :
    let course := supervisor.superviseUntil stops state launches
    course = supervisor.supervise state (launches.take course.rounds.length)
        (stops course.rounds.length) ∧
      course.result = .ok () ∧
      List.Forall₂ (fun round launch => round.IsBlock supervisor launch) course.rounds
        (launches.take course.rounds.length) ∧
      deeds course.events = course.rounds.flatMap (deeds ·.events) ∧
      watch false course.events = some false ∧
      (∀ index, stops index = true → course.rounds.length ≤ index) ∧
      (course.rounds.length < launches.length → stops course.rounds.length = true) := by
  intro course
  let reached := untilStop stops launches
  have isPrefix : reached <+: launches := untilStop_prefix stops launches
  have blocks := rounds_in_blocks ordinary
    (fun launch member => handled launch (isPrefix.subset member))
    (tellsTime_untilStop tells stops) command
  have same : course = .ofRounds supervisor.plan.daemons state (stops reached.length)
      (supervisor.rounds command state reached) := by
    rw [← supervise_eq found, ← superviseUntil_eq]
  have rounds : course.rounds = supervisor.rounds command state reached :=
    congrArg Course.rounds same
  have count : course.rounds.length = reached.length := by rw [rounds, blocks.length_eq]
  have taken : launches.take course.rounds.length = reached := by
    rw [count, ← List.prefix_iff_eq_take.mp isPrefix]
  have well : ∀ round ∈ supervisor.rounds command state reached, round.result = .ok () := by
    intro round member
    obtain ⟨index, bound, rfl⟩ := List.getElem_of_mem member
    exact (blocks.get bound (blocks.length_eq ▸ bound)).result
  have result : course.result = .ok () := by
    rw [same]
    exact Course.result_ofRounds _ _ _ well
  refine ⟨?_, result, ?_, ?_, ?_, ?_, ?_⟩
  · rw [taken, count]
    exact supervisor.superviseUntil_eq stops state launches
  · rw [taken, rounds]
    exact blocks
  · rw [same]
    exact deeds_ofRounds _ _ _ _
  · obtain ⟨child, watched, gone⟩ := supervisor.supervise_watched state reached
      (stops reached.length)
    rw [← superviseUntil_eq] at watched gone
    rw [gone result] at watched
    exact watched
  · intro index stopped
    rw [count]
    exact length_untilStop_le stopped launches
  · rw [count]
    exact stops_of_untilStop_lt

theorem superviseUntil_in_blocks_stopped :
    let supervisor := { small with notifier := Notifier.sample }
    let launches := [.refused ⟨.badValue, "embedded null byte"⟩,
      .started { pid := 102, runtime := .whole 5, status := 0 },
      .started { pid := 103, closeFault := some ⟨.brokenPipe, "gone"⟩ }, .started { pid := 104 }]
    let stops := fun index => decide (3 ≤ index)
    ∃ state, begin? 4096 (.whole 1700000000) = some state ∧
      (∀ launch ∈ launches, launch.Handled) ∧
      supervisor.TellsTime state.lastStart state.now launches ∧
      let course := supervisor.superviseUntil stops state launches
      course.rounds.length = 3 ∧
      List.Forall₂ (fun round launch => round.IsBlock supervisor launch) course.rounds
        (launches.take 3) ∧
      (∀ round ∈ course.rounds, ∃ mail, .mail (.send mail) ∈ round.events) ∧
      watch false course.events = some false := by
  intro supervisor launches stops
  have steady : supervisor.Steady 1 := ⟨Host.quiet_ordinary, rfl⟩
  have foreseen : ∀ launch ∈ launches, launch.Foreseen := by
    simp only [launches, List.forall_mem_cons]
    exact ⟨rfl, ⟨5, rfl⟩, rfl, ⟨0, rfl⟩, by simp⟩
  have handled : ∀ launch ∈ launches, launch.Handled :=
    fun launch member => handled_of_foreseen (foreseen launch member)
  obtain ⟨state, begun, goesOut⟩ : ∃ state, begin? 4096 (.whole 1700000000) = some state ∧
      ((supervisor.superviseUntil stops state launches).rounds.all fun round =>
        !(sentMails round.events).isEmpty) = true :=
    ⟨_, rfl, by decide +kernel⟩
  have tells : supervisor.TellsTime state.lastStart state.now launches := by
    rw [(State.At.of_begin? begun).lastStart, (State.At.of_begin? begun).clock]
    exact tellsTime_whole steady _ _ launches foreseen
  obtain ⟨_, _, blocks, _, watched, late, early⟩ :=
    superviseUntil_in_blocks steady.ordinary rfl handled tells stops
  have most := late 3 rfl
  have least : 3 ≤ (supervisor.superviseUntil stops state launches).rounds.length := by
    simpa [stops] using early (Nat.lt_succ_of_le most)
  have three := Nat.le_antisymm most least
  rw [three] at blocks
  refine ⟨state, begun, handled, tells, three, blocks, fun round member => ?_, watched⟩
  have sent : sentMails round.events ≠ [] := by
    simpa using List.all_eq_true.mp goesOut round member
  obtain ⟨mail, inside⟩ := List.exists_mem_of_ne_nil _ sent
  exact ⟨mail, mem_sentMails.mp inside⟩

end Supervisor

end Warden
