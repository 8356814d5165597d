import Mathlib.Data.Nat.Find
import Warden.Proofs.Hosting

/-!
The restarts of a failing daemon. One call decides: the first one that returns, or by the end of
whose pause the stop has been requested. Each call before it fails and is followed by its pause, the
longer the more calls have failed, up to a limit, and no call comes after it.
-/

namespace Warden

def Event.slept? : Event → Option Number
  | .sleep seconds => some seconds
  | _ => none

def Event.isCallOrSleep (event : Event) : Bool :=
  event.isCall || event.slept?.isSome

namespace Daemon

def fails (script : List Act) (call : Nat) : Bool :=
  (script[call]?.bind Act.fault).isSome

/-- Whether the stop has been requested when it is the turn of a call: from the start, in a call
before it, or in the pause after one, which the first call does not have. -/
def requestedBefore (stopsDuring : Nat → Bool) (stopping : Bool) (script : List Act)
    (call : Nat) : Bool :=
  stopping || (script.take call).any Act.stops ||
    (List.range call).any fun earlier => earlier != 0 && stopsDuring (earlier + 1)

/-- The call that decides: it returns, or the stop has been requested by the end of its pause, and
it is the first such call. -/
structure IsLastCall (stopsDuring : Nat → Bool) (stopping : Bool) (script : List Act)
    (last : Nat) : Prop where
  decides : fails script last = false ∨
    requestedBefore stopsDuring stopping script (last + 1) = true
  first : ∀ call < last, fails script call = true ∧
    requestedBefore stopsDuring stopping script (call + 1) = false

def due (call : Nat) : Int :=
  min (10 * call) 60

/-- A call, and the pause after it if there is one. -/
def turn (context : DaemonContext) (stopsDuring : Nat → Bool) (stopping : Bool)
    (script : List Act) (call : Nat) : List Event :=
  .call context (requestedBefore stopsDuring stopping script call) ::
    if 0 < call && fails script call then [.sleep (.whole (due call))] else []

def duePauses (script : List Act) (count : Nat) : List Int :=
  ((List.range count).filter fun call => 0 < call && fails script call).map due

theorem restartDelay_succ (call : Nat) : restartDelay (call + 1) = due call := by
  simp [restartDelay, delayStep, longestDelay, due]

theorem due_eq_zero (call : Nat) : due call = 0 ↔ call = 0 := by
  unfold due
  omega

theorem exists_of_fails {script : List Act} {call : Nat} (failing : fails script call = true) :
    ∃ act fault, script[call]? = some act ∧ act.fault = some fault ∧
      script.drop call = act :: script.drop (call + 1) := by
  obtain ⟨fault, raised⟩ := Option.isSome_iff_exists.mp failing
  obtain ⟨act, found, raised⟩ := Option.bind_eq_some_iff.mp raised
  refine ⟨act, fault, found, raised, ?_⟩
  obtain ⟨bound, rfl⟩ := List.getElem?_eq_some_iff.mp found
  exact List.drop_eq_getElem_cons bound

variable (context : DaemonContext) (stopsDuring : Nat → Bool) (stopping : Bool)
  {script : List Act}

theorem requestedBefore_succ {act : Act} {call : Nat} (found : script[call]? = some act) :
    requestedBefore stopsDuring stopping script (call + 1) =
      (requestedBefore stopsDuring stopping script call || act.stops ||
        (call != 0 && stopsDuring (call + 1))) := by
  simp only [requestedBefore, List.take_add_one, found, Option.toList_some, List.any_append,
    List.any_cons, List.any_nil, Bool.or_false, List.range_succ]
  grind

theorem exists_isLastCall (script : List Act) :
    ∃ last, IsLastCall stopsDuring stopping script last := by
  have ends : ∃ call, fails script call = false ∨
      requestedBefore stopsDuring stopping script (call + 1) = true :=
    ⟨script.length, .inl (by simp [fails])⟩
  refine ⟨Nat.find ends, Nat.find_spec ends, fun call earlier => ?_⟩
  simpa using Nat.find_min ends earlier

def attempt (failures : Nat) (stopping : Bool) (fault : Fault) : List Event :=
  .call context stopping :: failed context.name fault (restartDelay (failures + 1)) ::
    pause (restartDelay (failures + 1))

theorem filter_attempt {call : Nat} (failing : fails script call = true) (fault : Fault) :
    (attempt context call (requestedBefore stopsDuring stopping script call) fault).filter
      Event.isCallOrSleep = turn context stopsDuring stopping script call := by
  have paused : (pause (due call)).filter Event.isCallOrSleep =
      if 0 < call then [.sleep (.whole (due call))] else [] := by
    unfold pause
    cases call with
    | zero => rfl
    | succ previous =>
        have lasting : due (previous + 1) ≠ 0 := fun none => by
          simpa using (due_eq_zero (previous + 1)).mp none
        simp [lasting, Event.isCallOrSleep, Event.slept?]
  simp only [attempt, restartDelay_succ, List.filter_cons, paused, turn, failing, Bool.and_true,
    decide_eq_true_eq]
  rfl

section Scripted

variable (ordinary : ∀ act ∈ script, ∀ fault, act.fault = some fault → fault.isOrdinary = true)
include ordinary

theorem autoRestart_of_fails {call : Nat} (failing : fails script call = true) :
    ∃ fault, autoRestart context stopsDuring
        (requestedBefore stopsDuring stopping script call) call (script.drop call) =
      let events := attempt context call (requestedBefore stopsDuring stopping script call) fault
      let late := requestedBefore stopsDuring stopping script (call + 1)
      if late then (events ++ [abandoned context.name], ⟨late, none⟩)
      else
        let (more, ending) := autoRestart context stopsDuring late (call + 1)
          (script.drop (call + 1))
        (events ++ more, ending) := by
  obtain ⟨act, fault, found, raised, rest⟩ := exists_of_fails failing
  have handled := ordinary act (List.mem_of_getElem? found) fault raised
  have paused : (restartDelay (call + 1) != 0) = (call != 0) := by
    rw [restartDelay_succ, Bool.eq_iff_iff]
    simp [due_eq_zero]
  refine ⟨fault, ?_⟩
  rw [rest, autoRestart, requestedBefore_succ stopsDuring stopping found]
  simp only [raised, handled, if_true, paused, attempt]

theorem autoRestart_after (count : Nat)
    (going : ∀ call < count, fails script call = true ∧
      requestedBefore stopsDuring stopping script (call + 1) = false) :
    let whole := autoRestart context stopsDuring stopping 0 script
    let rest := autoRestart context stopsDuring
      (requestedBefore stopsDuring stopping script count) count (script.drop count)
    whole.1.filter Event.isCallOrSleep =
        (List.range count).flatMap (turn context stopsDuring stopping script) ++
          rest.1.filter Event.isCallOrSleep ∧
      whole.2 = rest.2 := by
  induction count with
  | zero => simp [requestedBefore]
  | succ count ih =>
      obtain ⟨front, ending⟩ := ih fun call earlier => going call (by omega)
      obtain ⟨failing, unrequested⟩ := going count (by omega)
      obtain ⟨fault, step⟩ :=
        autoRestart_of_fails context stopsDuring stopping ordinary failing
      rw [unrequested] at step
      simp only [step, Bool.false_eq_true, if_false] at front ending
      rw [unrequested]
      refine ⟨?_, ending⟩
      rw [front, List.filter_append, filter_attempt context stopsDuring stopping failing,
        List.range_succ, List.flatMap_append, List.flatMap_singleton, List.append_assoc]

theorem autoRestart_at_last {last : Nat}
    (decides : fails script last = false ∨
      requestedBefore stopsDuring stopping script (last + 1) = true) :
    let rest := autoRestart context stopsDuring
      (requestedBefore stopsDuring stopping script last) last (script.drop last)
    rest.1.filter Event.isCallOrSleep = turn context stopsDuring stopping script last ∧
      rest.2.interrupt = none := by
  intro rest
  cases outcome : fails script last with
  | true =>
      obtain ⟨fault, step⟩ := autoRestart_of_fails context stopsDuring stopping ordinary outcome
      have requested : requestedBefore stopsDuring stopping script (last + 1) = true := by
        simpa [outcome] using decides
      rw [requested] at step
      simp only [rest, step, if_true, List.filter_append,
        filter_attempt context stopsDuring stopping outcome]
      exact ⟨List.append_nil _, trivial⟩
  | false =>
      have alone : turn context stopsDuring stopping script last =
          [.call context (requestedBefore stopsDuring stopping script last)] := by
        simp [turn, outcome]
      rw [alone]
      cases found : script[last]? with
      | none =>
          have exhausted : script.drop last = [] :=
            List.drop_eq_nil_of_le (List.getElem?_eq_none_iff.mp found)
          simp only [rest, exhausted, autoRestart]
          exact ⟨rfl, trivial⟩
      | some act =>
          obtain ⟨bound, rfl⟩ := List.getElem?_eq_some_iff.mp found
          have returns : script[last].fault = none := by simpa [fails, bound] using outcome
          simp only [rest, List.drop_eq_getElem_cons bound, autoRestart, returns]
          exact ⟨rfl, trivial⟩

theorem filter_autoRestart {last : Nat} (decisive : IsLastCall stopsDuring stopping script last) :
    let run := autoRestart context stopsDuring stopping 0 script
    run.1.filter Event.isCallOrSleep =
        (List.range (last + 1)).flatMap (turn context stopsDuring stopping script) ∧
      run.2.interrupt = none := by
  obtain ⟨front, ending⟩ :=
    autoRestart_after context stopsDuring stopping ordinary last decisive.first
  obtain ⟨final, calm⟩ :=
    autoRestart_at_last context stopsDuring stopping ordinary decisive.decides
  refine ⟨?_, by rw [ending, calm]⟩
  rw [front, final, List.range_succ, List.flatMap_append, List.flatMap_singleton]

end Scripted

theorem countP_filter_isCallOrSleep (events : List Event) :
    (events.filter Event.isCallOrSleep).countP Event.isCall = events.countP Event.isCall := by
  rw [List.countP_filter]
  congr 1
  funext event
  cases event <;> rfl

theorem filterMap_filter_isCallOrSleep (events : List Event) :
    (events.filter Event.isCallOrSleep).filterMap Event.slept? =
      events.filterMap Event.slept? := by
  rw [List.filterMap_filter]
  congr 1
  funext event
  cases event <;> rfl

theorem countP_turns (count : Nat) :
    ((List.range count).flatMap (turn context stopsDuring stopping script)).countP
      Event.isCall = count := by
  have once (call : Nat) :
      (turn context stopsDuring stopping script call).countP Event.isCall = 1 := by
    unfold turn
    split <;> rfl
  induction count with
  | zero => rfl
  | succ count ih =>
      rw [List.range_succ, List.flatMap_append, List.countP_append, ih, List.flatMap_singleton,
        once]

theorem slept_turns (count : Nat) :
    ((List.range count).flatMap (turn context stopsDuring stopping script)).filterMap
      Event.slept? = (duePauses script count).map Number.whole := by
  have own (call : Nat) :
      (turn context stopsDuring stopping script call).filterMap Event.slept? =
        (([call].filter fun call => 0 < call && fails script call).map due).map Number.whole := by
    simp only [turn, List.filter_cons, List.filter_nil]
    split <;> rfl
  induction count with
  | zero => rfl
  | succ count ih =>
      rw [List.range_succ, List.flatMap_append, List.filterMap_append, ih,
        List.flatMap_singleton, own]
      simp only [duePauses, List.range_succ, List.filter_append, List.map_append]

theorem duePauses_rising (script : List Act) (count : Nat) :
    (duePauses script count).Pairwise (· ≤ ·) ∧ ∀ pause ∈ duePauses script count, pause ≤ 60 := by
  constructor
  · rw [duePauses, List.pairwise_map]
    refine (List.pairwise_lt_range.filter _).imp fun {earlier later} before => ?_
    unfold due
    omega
  · intro pause member
    obtain ⟨call, _, rfl⟩ := List.mem_map.mp member
    exact Int.min_le_right _ _

/-- The restarts of a daemon keep to their schedule and come to an end. There is a call that
decides, and when the daemon is over, exactly the calls up to that one have been made, each but the
first with its pause after it if it fails. The pauses never get shorter, and none is longer than a
minute. After a failing call by whose pause the stop has been requested there is no other one. -/
theorem autoRestart_keeps_schedule (context : DaemonContext) (stopsDuring : Nat → Bool)
    (stopping : Bool) {script : List Act}
    (ordinary : ∀ act ∈ script, ∀ fault, act.fault = some fault → fault.isOrdinary = true) :
    let run := autoRestart context stopsDuring stopping 0 script
    (∃ last, IsLastCall stopsDuring stopping script last) ∧
      ∀ last, IsLastCall stopsDuring stopping script last →
        run.2.interrupt = none ∧
        run.1.countP Event.isCall = last + 1 ∧
        run.1.filterMap Event.slept? = (duePauses script (last + 1)).map Number.whole ∧
        run.1.filter Event.isCallOrSleep =
          (List.range (last + 1)).flatMap (turn context stopsDuring stopping script) ∧
        (duePauses script (last + 1)).Pairwise (· ≤ ·) ∧
        (∀ pause ∈ duePauses script (last + 1), pause ≤ 60) ∧
        ∀ call, fails script call = true →
          requestedBefore stopsDuring stopping script (call + 1) = true →
          run.1.countP Event.isCall ≤ call + 1 := by
  intro run
  refine ⟨exists_isLastCall stopsDuring stopping script, fun last decisive => ?_⟩
  obtain ⟨moves, calm⟩ := filter_autoRestart context stopsDuring stopping ordinary decisive
  have calls : run.1.countP Event.isCall = last + 1 := by
    rw [← countP_filter_isCallOrSleep, moves, countP_turns]
  have sleeps : run.1.filterMap Event.slept? =
      (duePauses script (last + 1)).map Number.whole := by
    rw [← filterMap_filter_isCallOrSleep, moves, slept_turns]
  obtain ⟨rising, bounded⟩ := duePauses_rising script (last + 1)
  refine ⟨calm, calls, sleeps, moves, rising, bounded, fun call failing requested => ?_⟩
  rw [calls]
  by_contra beyond
  have unrequested := (decisive.first call (by omega)).2
  rw [requested] at unrequested
  cases unrequested

theorem autoRestart_keeps_schedule_stopped :
    let refused : Act := { fault := some ⟨.system, "port in use"⟩ }
    let script := [refused, refused, refused, refused]
    let stopsDuring := fun failures => failures == 3
    let run :=
      autoRestart ⟨"dnsd", some "cfg.json", some "s3cret", some 4⟩ stopsDuring false 0 script
    (∀ act ∈ script, ∀ fault, act.fault = some fault → fault.isOrdinary = true) ∧
      IsLastCall stopsDuring false script 2 ∧ run.1.countP Event.isCall = 3 ∧
      run.1.filterMap Event.slept? = [.whole 10, .whole 20] := by
  intro refused script stopsDuring run
  have ordinary : ∀ act ∈ script, ∀ fault, act.fault = some fault → fault.isOrdinary = true := by
    intro act member fault raised
    obtain rfl : act = refused := by simpa [script] using member
    cases raised
    rfl
  have decisive : IsLastCall stopsDuring false script 2 := ⟨by decide, by decide⟩
  obtain ⟨_, calls, sleeps, _⟩ := (autoRestart_keeps_schedule
    ⟨"dnsd", some "cfg.json", some "s3cret", some 4⟩ stopsDuring false ordinary).2 2 decisive
  exact ⟨ordinary, decisive, calls, sleeps⟩

end Daemon

end Warden
