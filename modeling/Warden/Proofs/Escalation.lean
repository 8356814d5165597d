import Warden.Proofs.Supervision

/-!
The escalation law. A timetable works out, from the launches alone, when each of them happens, when
its failure is judged and which attempt it makes. A whole supervision keeps to its timetable, so its
launch parameters walk through the attempts one by one, standing still but never skipping any or
going back.
-/

namespace Warden

/-- What decides about the attempts of a supervision: when it starts, its two delays, the threshold
under which a failure comes too soon, and the launches. -/
structure Timetable where
  start : Int
  flush : Int
  interval : Int
  threshold : Int
  launches : List Launch

namespace Timetable

def secondsAt (times : Timetable) (index : Nat) : Int :=
  (times.launches[index]?.map Launch.seconds).getD 0

def handsOverAt (times : Timetable) (index : Nat) : Bool :=
  times.launches[index]?.any Launch.handsOver

/-- The clock at the `index`-th launch: every launch before it took its child's time and both
delays. -/
def clockAt (times : Timetable) : Nat → Int
  | 0 => times.start
  | index + 1 => times.clockAt index + times.secondsAt index + times.flush + times.interval

def judgedAt (times : Timetable) (index : Nat) : Int :=
  times.clockAt index + times.secondsAt index + times.flush

/-- The clock right after the latest of the first `count` launches that handed over its secret, or
the start of the supervision if none of them did. -/
def lastStart (times : Timetable) (count : Nat) : Int :=
  (((List.range count).filter times.handsOverAt).getLast?.map times.clockAt).getD times.start

def attemptAt (times : Timetable) : Nat → Nat
  | 0 => 0
  | index + 1 =>
      if times.judgedAt index - times.lastStart (index + 1) < times.threshold then
        times.attemptAt index + 1
      else times.attemptAt index

theorem lastStart_succ (times : Timetable) (index : Nat) :
    times.lastStart (index + 1) =
      if times.handsOverAt index then times.clockAt index else times.lastStart index := by
  cases handed : times.handsOverAt index <;>
    simp [lastStart, List.range_succ, List.filter_append, handed]

theorem attemptAt_le_succ (times : Timetable) (index : Nat) :
    times.attemptAt index ≤ times.attemptAt (index + 1) := by
  rw [attemptAt]
  split <;> omega

theorem attemptAt_succ_le (times : Timetable) (index : Nat) :
    times.attemptAt (index + 1) ≤ times.attemptAt index + 1 := by
  rw [attemptAt]
  split <;> omega

end Timetable

namespace Supervisor

def timetable (supervisor : Supervisor) (start flush : Int) (launches : List Launch) : Timetable :=
  { start, flush, launches
    interval := supervisor.attemptInterval
    threshold := supervisor.failureThreshold }

structure State.Keeps (state : State) (times : Timetable) (index : Nat) : Prop where
  attempt : state.attempt = times.attemptAt index
  timed : state.At (times.lastStart index) (times.clockAt index)

variable {supervisor : Supervisor} {start flush : Int} {launches : List Launch}

theorem Round.Regular.keeps {round : Round} {launch : Launch} {index : Nat}
    (found : launches[index]? = some launch)
    (kept : round.before.Keeps (supervisor.timetable start flush launches) index)
    (regular : round.Regular supervisor flush launch
      ((supervisor.timetable start flush launches).lastStart index)
      ((supervisor.timetable start flush launches).clockAt index)) :
    round.after.Keeps (supervisor.timetable start flush launches) (index + 1) := by
  have seconds : (supervisor.timetable start flush launches).secondsAt index = launch.seconds := by
    simp [Timetable.secondsAt, timetable, found]
  have handsOver :
      (supervisor.timetable start flush launches).handsOverAt index = launch.handsOver := by
    simp [Timetable.handsOverAt, timetable, found]
  constructor
  · rw [regular.attempt, Timetable.attemptAt, Timetable.judgedAt, Timetable.lastStart_succ,
      seconds, handsOver, kept.attempt]
    rfl
  · rw [Timetable.lastStart_succ, Timetable.clockAt, seconds, handsOver]
    exact regular.after

theorem filterMap_launched?_of_reporting {events : List Event}
    (reporting : ∀ event ∈ events, event.isReporting = true) :
    events.filterMap Event.launched? = [] :=
  List.filterMap_eq_nil_iff.mpr fun event member =>
    Event.launched?_of_isReporting (reporting event member)

theorem Round.Regular.launched {round : Round} {launch : Launch} {last now : Int}
    (regular : round.Regular supervisor flush launch last now) :
    round.events.filterMap Event.launched? = [round.command] := by
  obtain ⟨opening, closing, reports, reporting, events⟩ := regular.events
  have silent (part : List Event) (sub : part ⊆ opening ++ closing ++ reports) :
      part.filterMap Event.launched? = [] :=
    filterMap_launched?_of_reporting fun event member => reporting event (sub member)
  have first := silent opening (by simp)
  have second := silent closing (by simp)
  have third := silent reports (by simp)
  have wait :
      (if launch.handsOver then [Event.awaitExit] else []).filterMap Event.launched? = [] := by
    split <;> rfl
  have pause (seconds : Number) : (Event.sleep seconds).launched? = none := rfl
  rw [events]
  simp only [List.filterMap_append, List.filterMap_cons, List.filterMap_nil,
    Launch.launched?_perform, first, second, third, wait, pause, List.nil_append, List.append_nil]

structure Round.Keeps (round : Round) (supervisor : Supervisor) (times : Timetable)
    (command : List String) (index : Nat) : Prop where
  before : round.before.Keeps times index
  after : round.after.Keeps times (index + 1)
  result : round.result = .ok ()
  command : round.command =
    command ++ (supervisor.plan.resolve (times.attemptAt index)).flags
  launched : round.events.filterMap Event.launched? = [round.command]

theorem round_keeps {state : State} {launch : Launch} {index : Nat}
    (steady : supervisor.Steady flush) (command : List String)
    (found : launches[index]? = some launch) (foreseen : launch.Foreseen)
    (kept : state.Keeps (supervisor.timetable start flush launches) index) :
    (supervisor.round command state launch).Keeps supervisor
      (supervisor.timetable start flush launches) command index := by
  have regular := round_regular steady kept.timed command foreseen
  refine ⟨kept, regular.keeps found kept, regular.result, ?_, regular.launched⟩
  rw [← kept.attempt]
  rfl

theorem rounds_keep (steady : supervisor.Steady flush) (command : List String)
    (rest : List Launch) (index : Nat) (state : State) (split : launches.drop index = rest)
    (foreseen : ∀ launch ∈ rest, launch.Foreseen)
    (kept : state.Keeps (supervisor.timetable start flush launches) index) :
    (supervisor.rounds command state rest).length = rest.length ∧
      ∀ (offset : Nat) (round : Round),
        (supervisor.rounds command state rest)[offset]? = some round →
        round.Keeps supervisor (supervisor.timetable start flush launches) command
          (index + offset) := by
  induction rest generalizing index state with
  | nil => simp [rounds_nil]
  | cons launch rest ih =>
      have found : launches[index]? = some launch := by
        rw [← List.head?_drop, split]
        rfl
      have current := round_keeps steady command found (foreseen launch (by simp)) kept
      have splitNext : launches.drop (index + 1) = rest := by
        rw [← List.tail_drop, split]
        rfl
      obtain ⟨length, later⟩ := ih (index + 1) _ splitNext
        (fun other member => foreseen other (by simp [member])) current.after
      have unfolded : supervisor.rounds command state (launch :: rest) =
          supervisor.round command state launch ::
            supervisor.rounds command (supervisor.round command state launch).after rest := by
        rw [rounds_cons]
        simp only [current.result]
      rw [unfolded]
      refine ⟨by simp [length], ?_⟩
      intro offset round member
      cases offset with
      | zero =>
          simp only [List.getElem?_cons_zero, Option.some.injEq] at member
          exact member ▸ current
      | succ offset =>
          rw [List.getElem?_cons_succ] at member
          have kept := later offset round member
          rwa [Nat.add_right_comm, Nat.add_assoc] at kept

theorem launches_of_rounds {rounds : List Round} {times : Timetable} {command : List String}
    (kept : ∀ (index : Nat) (round : Round), rounds[index]? = some round →
      round.Keeps supervisor times command index) :
    (rounds.flatMap Round.events).filterMap Event.launched? =
      (List.range rounds.length).map fun index =>
        command ++ (supervisor.plan.resolve (times.attemptAt index)).flags := by
  have each : ∀ round ∈ rounds, round.events.filterMap Event.launched? = [round.command] := by
    intro round member
    obtain ⟨index, found⟩ := List.mem_iff_getElem?.mp member
    exact (kept index round found).launched
  have commands : (rounds.flatMap Round.events).filterMap Event.launched? =
      rounds.map Round.command := by
    rw [List.filterMap_flatMap, List.flatMap_def, List.map_congr_left each, ← List.flatMap_def,
      List.map_eq_flatMap]
  rw [commands]
  apply List.ext_getElem
  · simp
  · intro index bound _
    have below : index < rounds.length := by simpa using bound
    have found : rounds[index]? = some rounds[index] := List.getElem?_eq_getElem below
    simpa using (kept index _ found).command

theorem final_of_rounds {rounds : List Round} {times : Timetable} {command : List String}
    {state : State} (begun : state.Keeps times 0)
    (kept : ∀ (index : Nat) (round : Round), rounds[index]? = some round →
      round.Keeps supervisor times command index) :
    ((rounds.getLast?.map Round.after).getD state).Keeps times rounds.length := by
  rcases rounds.eq_nil_or_concat with rfl | ⟨front, last, rfl⟩
  · exact begun
  · have latest := kept front.length last (by simp)
    simpa using latest.after

theorem launches_of_supervise {command : List String}
    (found : supervisor.host.command? = some command) (state : State) (launches : List Launch)
    (stopAtLast : Bool) :
    (supervisor.supervise state launches stopAtLast).events.filterMap Event.launched? =
      ((supervisor.rounds command state launches).flatMap Round.events).filterMap
        Event.launched? := by
  rw [filterMap_supervise fun _ _ => rfl]
  simp only [supervise_eq found, Course.ofRounds]

/-- The escalation law. However the launches of a steady supervision turn out, the programs that it
launches are those of the attempts on its timetable, and each round begins at the clock, with the
attempt and after the last start that stand there. The attempts begin at 0 and never go back or skip
one. -/
theorem supervise_keeps_timetable {command : List String} {capacity : Int} {state : State}
    (steady : supervisor.Steady flush) (found : supervisor.host.command? = some command)
    (begun : begin? capacity (.whole start) = some state)
    (foreseen : ∀ launch ∈ launches, launch.Foreseen) (stopAtLast : Bool) :
    let times := supervisor.timetable start flush launches
    let course := supervisor.supervise state launches stopAtLast
    course.result = .ok () ∧
      course.events.filterMap Event.launched? = ((List.range launches.length).map fun index =>
        command ++ (supervisor.plan.resolve (times.attemptAt index)).flags) ∧
      course.rounds.length = launches.length ∧
      (∀ (index : Nat) (round : Round), course.rounds[index]? = some round →
        round.Keeps supervisor times command index) ∧
      course.final.Keeps times launches.length ∧
      times.attemptAt 0 = 0 ∧
      ∀ index, times.attemptAt index ≤ times.attemptAt (index + 1) ∧
        times.attemptAt (index + 1) ≤ times.attemptAt index + 1 := by
  intro times course
  have first : state.Keeps times 0 :=
    ⟨(begin?_eq_some begun).1, State.At.of_begin? begun⟩
  obtain ⟨length, kept⟩ := rounds_keep steady command launches 0 state rfl foreseen first
  simp only [Nat.zero_add] at kept
  have latest := final_of_rounds first kept
  have result : course.result = .ok () := by
    simp only [course, supervise_eq found, Course.ofRounds]
    cases ending : (supervisor.rounds command state launches).getLast? with
    | none => rfl
    | some round =>
        obtain ⟨index, place⟩ := List.mem_iff_getElem?.mp (List.mem_of_getLast? ending)
        simp only [(kept index round place).result]
        rfl
  refine ⟨result, ?_, ?_, ?_, ?_, rfl, ?_⟩
  · rw [launches_of_supervise found, launches_of_rounds kept, length]
  · simpa only [course, supervise_eq found, Course.ofRounds] using length
  · simpa only [course, supervise_eq found, Course.ofRounds] using kept
  · simp only [course, supervise_eq found, Course.ofRounds]
    rwa [length] at latest
  · exact fun index => ⟨times.attemptAt_le_succ index, times.attemptAt_succ_le index⟩

theorem supervise_keeps_timetable_of_four :
    let launches := [.refused ⟨.system, "no memory"⟩, .started { pid := 101, runtime := .whole 5 },
      .started { pid := 102, runtime := .whole 5000 },
      .started { pid := 103, writeFault := some ⟨.brokenPipe, "gone"⟩ }]
    let command := ["/usr/bin/warden", "-m", "launchguard"]
    (∀ launch ∈ launches, launch.Foreseen) ∧
      ∃ state, begin? 4096 (.whole 1700000000) = some state ∧
        (small.supervise state launches true).events.filterMap Event.launched? =
          [command ++ ["-maxworkers", "5", "-supervisor=false", "-daemons", "maintenance,httpd"],
            command ++ ["-supervisor=false", "-daemons", "maintenance,httpd"],
            command ++ ["-supervisor=false", "-daemons", "httpd"],
            command ++ ["-supervisor=false", "-daemons", "httpd"]] := by
  intro launches command
  have foreseen : ∀ launch ∈ launches, launch.Foreseen := by
    simp only [launches, List.forall_mem_cons]
    exact ⟨rfl, ⟨5, rfl⟩, ⟨5000, rfl⟩, rfl, by simp⟩
  obtain ⟨state, begun⟩ : ∃ state, begin? 4096 (.whole 1700000000) = some state := ⟨_, rfl⟩
  refine ⟨foreseen, state, begun, ?_⟩
  rw [(supervise_keeps_timetable small_steady rfl begun foreseen true).2.1]
  rfl

end Supervisor

end Warden
