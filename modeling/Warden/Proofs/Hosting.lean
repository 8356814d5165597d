import Warden.MainProgram

/-!
The main program as the host of its daemons. It loads them in order, and the first one that cannot
be loaded decides how that ends, before any daemon is called. When all of them are loaded, each runs
until it is over: it returned, it will not be restarted, or an interrupt has ended its last call.
-/

namespace Warden

def Event.isCall : Event → Bool
  | .call _ _ => true
  | _ => false

namespace Daemon

structure IsFirstEntry (entries : List Entry) (name : String) (entry : Entry) : Prop where
  named : entry.name = name
  first : ∃ front back, entries = front ++ entry :: back ∧ ∀ earlier ∈ front, earlier.name ≠ name

def Serves (entries : List Entry) (name : String) (service : Service) : Prop :=
  ∃ entry, IsFirstEntry entries name entry ∧ entry.loading = .ok service

def Breaks (entries : List Entry) (name : String) (fault : Fault) : Prop :=
  ∃ entry, IsFirstEntry entries name entry ∧ entry.loading = .error fault

/-- Why there is no daemon for a name: it has no entry, or an ordinary fault keeps its first one from
loading. -/
def IsCause (entries : List Entry) (name : String) : Missing → Prop
  | .unregistered missing => missing = name ∧ ∀ entry ∈ entries, entry.name ≠ name
  | .broken missing fault => missing = name ∧ fault.isOrdinary = true ∧ Breaks entries name fault

def IsMissing (entries : List Entry) (name : String) : Prop :=
  ∃ cause, IsCause entries name cause

def IsInterrupted (entries : List Entry) (name : String) (fault : Fault) : Prop :=
  fault.isOrdinary = false ∧ Breaks entries name fault

section Loading

variable {entries : List Entry} {name : String} {entry : Entry}

theorem find?_eq_some_iff :
    entries.find? (fun entry => entry.name == name) = some entry ↔
      IsFirstEntry entries name entry := by
  rw [List.find?_eq_some_iff_append]
  constructor
  · rintro ⟨named, front, back, split, others⟩
    exact ⟨by simpa using named, front, back, split, by simpa using others⟩
  · rintro ⟨named, front, back, split, others⟩
    exact ⟨by simpa using named, front, back, split, by simpa using others⟩

theorem find?_eq_none_iff :
    entries.find? (fun entry => entry.name == name) = none ↔
      ∀ entry ∈ entries, entry.name ≠ name := by
  simp

theorem load_eq_ok {service : Service} :
    load entries name = .ok service ↔ Serves entries name service := by
  unfold load Serves
  simp only [← find?_eq_some_iff]
  cases entries.find? fun entry => entry.name == name with
  | none => simp
  | some entry => cases loading : entry.loading <;> simp [loading]

theorem load_eq_missing {cause : Missing} :
    load entries name = .error (.missing cause) ↔ IsCause entries name cause := by
  unfold load
  cases cause with
  | unregistered missing =>
      simp only [IsCause, ← find?_eq_none_iff]
      cases entries.find? fun entry => entry.name == name with
      | none => simp [@eq_comm _ name]
      | some entry =>
          cases loading : entry.loading with
          | ok service => simp [loading]
          | error raised => cases ordinary : raised.isOrdinary <;> simp [loading, ordinary]
  | broken missing fault =>
      simp only [IsCause, Breaks, ← find?_eq_some_iff]
      cases entries.find? fun entry => entry.name == name with
      | none => simp
      | some entry =>
          cases loading : entry.loading with
          | ok service => simp [loading]
          | error raised => cases ordinary : raised.isOrdinary <;> simp [loading, ordinary] <;> grind

theorem load_eq_interrupt {fault : Fault} :
    load entries name = .error (.interrupt fault) ↔ IsInterrupted entries name fault := by
  unfold load
  simp only [IsInterrupted, Breaks, ← find?_eq_some_iff]
  cases entries.find? fun entry => entry.name == name with
  | none => simp
  | some entry =>
      cases loading : entry.loading with
      | ok service => simp [loading]
      | error raised => cases ordinary : raised.isOrdinary <;> simp [loading, ordinary] <;> grind

def loadProblem? (entries : List Entry) (name : String) : Option LoadProblem :=
  match load entries name with
  | .ok _ => none
  | .error problem => some problem

theorem loadProblem?_eq_some {problem : LoadProblem} :
    loadProblem? entries name = some problem ↔ load entries name = .error problem := by
  unfold loadProblem?
  cases load entries name <;> simp

theorem loadProblem?_eq_none_iff :
    loadProblem? entries name = none ↔ ∃ service, Serves entries name service := by
  simp only [← load_eq_ok, loadProblem?]
  cases load entries name <;> simp

theorem loadProblem?_eq_none
    (loads : ¬IsMissing entries name ∧ ∀ fault, ¬IsInterrupted entries name fault) :
    loadProblem? entries name = none := by
  cases broken : loadProblem? entries name with
  | none => rfl
  | some problem =>
      rw [loadProblem?_eq_some] at broken
      cases problem with
      | missing cause => exact absurd ⟨cause, load_eq_missing.mp broken⟩ loads.1
      | interrupt fault => exact absurd (load_eq_interrupt.mp broken) (loads.2 fault)

end Loading

section Restarting

/-- The last event of a daemon whose last call came to such an end: after a return it says that it
has stopped, after a fault that it will not be restarted, and after an interrupt nothing more. -/
def IsLast (name : String) (fault? : Option Fault) (event : Event) : Prop :=
  match fault? with
  | none => event = stopped name
  | some fault => if fault.isOrdinary then event = abandoned name else event.isCall = true

/-- A daemon that is over: it has been called, and its last call has come to its end. -/
def IsOver (name : String) (script : List Act) (events : List Event) : Prop :=
  ∃ count last, events.countP Event.isCall = count + 1 ∧ events.getLast? = some last ∧
    IsLast name (script[count]?.bind Act.fault) last

variable (context : DaemonContext) (stopsDuring : Nat → Bool) (stopping : Bool) (failures : Nat)
  (script : List Act)

theorem autoRestart_every {holds : Event → Prop}
    (calls : ∀ stopping, holds (.call context stopping))
    (logs : ∀ level message, holds (.log level message))
    (sleeps : ∀ seconds, holds (.sleep seconds)) :
    ∀ event ∈ (autoRestart context stopsDuring stopping failures script).1, holds event := by
  have returns (stopping : Bool) :
      ∀ event ∈ [Event.call context stopping, stopped context.name], holds event := by
    simp [calls, stopped, logs]
  have pauses (delay : Int) : ∀ event ∈ pause delay, holds event := by
    unfold pause
    split <;> simp [sleeps]
  induction script generalizing stopping failures with
  | nil => exact returns stopping
  | cons act rest ih =>
      rw [autoRestart]
      split
      · exact returns stopping
      next fault failing =>
        have front : ∀ event ∈ Event.call context stopping ::
            failed context.name fault (restartDelay (failures + 1)) ::
            pause (restartDelay (failures + 1)), holds event :=
          List.forall_mem_cons.mpr ⟨calls _, List.forall_mem_cons.mpr ⟨logs _ _, pauses _⟩⟩
        split
        · dsimp only
          split
          · exact List.forall_mem_append.mpr ⟨front, List.forall_mem_singleton.mpr (logs _ _)⟩
          · exact List.forall_mem_append.mpr ⟨front, ih _ _⟩
        · exact List.forall_mem_singleton.mpr (calls _)

theorem autoRestart_isOver :
    IsOver context.name script (autoRestart context stopsDuring stopping failures script).1 := by
  have single (delay : Int) : (pause delay).countP Event.isCall = 0 := by
    unfold pause
    split <;> rfl
  induction script generalizing stopping failures with
  | nil => exact ⟨0, _, rfl, rfl, rfl⟩
  | cons act rest ih =>
      rw [autoRestart]
      split
      next returns => exact ⟨0, _, rfl, rfl, by simp [returns, IsLast]⟩
      next fault failing =>
        let delay := restartDelay (failures + 1)
        let front := Event.call context stopping :: failed context.name fault delay :: pause delay
        have once : front.countP Event.isCall = 1 := by
          simp only [front, List.countP_cons, single]
          rfl
        split
        next ordinary =>
          dsimp only
          split
          · refine ⟨0, abandoned context.name, ?_, List.getLast?_concat, ?_⟩
            · rw [List.countP_append, once]
              rfl
            · simp [failing, IsLast, ordinary]
          · obtain ⟨count, last, calls, latest, ended⟩ := ih (stopping || act.stops ||
              (delay != 0 && stopsDuring (failures + 1))) (failures + 1)
            refine ⟨count + 1, last, ?_, ?_, ended⟩
            · rw [List.countP_append, once, calls, Nat.add_comm]
            · rw [List.getLast?_append, latest]
              rfl
        next interrupt => exact ⟨0, _, rfl, rfl, by simp [failing, IsLast, interrupt, Event.isCall]⟩

end Restarting

end Daemon

namespace MainProgram

variable {entries : List Daemon.Entry} {names : List String}

theorem loadAll_problem (entries : List Daemon.Entry) (names : List String) :
    (loadAll entries names).2 = names.findSome? (Daemon.loadProblem? entries) := by
  induction names with
  | nil => rfl
  | cons name names ih =>
      rw [loadAll, List.findSome?_cons, Daemon.loadProblem?]
      cases Daemon.load entries name with
      | error problem => rfl
      | ok service => exact ih

theorem loadAll_silent (entries : List Daemon.Entry) (names : List String) :
    ∀ daemon ∈ (loadAll entries names).1, daemon.events = [] := by
  induction names with
  | nil => simp [loadAll]
  | cons name names ih =>
      rw [loadAll]
      cases Daemon.load entries name with
      | error problem => simp
      | ok service => exact List.forall_mem_cons.mpr ⟨rfl, ih⟩

theorem names_loadAll (complete : (loadAll entries names).2 = none) :
    (loadAll entries names).1.map Watched.name = names := by
  induction names with
  | nil => rfl
  | cons name names ih =>
      rw [loadAll] at complete ⊢
      cases loaded : Daemon.load entries name with
      | error problem =>
          rw [loaded] at complete
          cases complete
      | ok service =>
          rw [loaded] at complete
          exact congrArg (name :: ·) (ih complete)

theorem loadAll_of_isMissing {front back : List String} {name : String}
    (split : names = front ++ name :: back) (missing : Daemon.IsMissing entries name)
    (calm : ∀ earlier ∈ front, ∀ fault, ¬Daemon.IsInterrupted entries earlier fault) :
    ∃ cause, (loadAll entries names).2 = some (.missing cause) := by
  obtain ⟨cause, caused⟩ := missing
  have broken := Daemon.loadProblem?_eq_some.mpr (Daemon.load_eq_missing.mpr caused)
  rw [loadAll_problem, split, List.findSome?_append, List.findSome?_cons, broken]
  cases first : front.findSome? (Daemon.loadProblem? entries) with
  | none => exact ⟨cause, rfl⟩
  | some problem =>
      cases problem with
      | missing other => exact ⟨other, rfl⟩
      | interrupt fault =>
          obtain ⟨earlier, member, failed⟩ := List.exists_of_findSome?_eq_some first
          rw [Daemon.loadProblem?_eq_some, Daemon.load_eq_interrupt] at failed
          exact absurd failed (calm earlier member fault)

theorem loadAll_of_isInterrupted {front back : List String} {name : String} {fault : Fault}
    (split : names = front ++ name :: back) (interrupted : Daemon.IsInterrupted entries name fault)
    (loads : ∀ earlier ∈ front, Daemon.loadProblem? entries earlier = none) :
    (loadAll entries names).2 = some (.interrupt fault) := by
  have broken := Daemon.loadProblem?_eq_some.mpr (Daemon.load_eq_interrupt.mpr interrupted)
  rw [loadAll_problem, split, List.findSome?_append, List.findSome?_cons,
    List.findSome?_eq_none_iff.mpr loads, broken]
  rfl

theorem StopMoments.fault_addedTo (moments : StopMoments) (script : List Daemon.Act) (call : Nat) :
    (moments.addedTo script)[call]?.bind Daemon.Act.fault = script[call]?.bind Daemon.Act.fault := by
  rw [addedTo, List.getElem?_mapIdx]
  cases script[call]? <;> rfl

theorem runOne_isOver (program : MainProgram) (daemon : Watched) (moments : StopMoments) :
    Daemon.IsOver daemon.name daemon.service.script (program.runOne daemon moments).1 := by
  obtain ⟨count, last, calls, latest, ended⟩ :=
    Daemon.autoRestart_isOver (program.context daemon.name) moments.inPause moments.atStart 0
      (moments.addedTo daemon.service.script)
  rw [moments.fault_addedTo] at ended
  exact ⟨count, last, calls, latest, ended⟩

theorem names_runEach (program : MainProgram) (moments : Nat → StopMoments)
    (daemons : List Watched) :
    (program.runEach moments daemons).map Watched.name = daemons.map Watched.name := by
  refine List.ext_getElem? fun index => ?_
  rw [runEach, List.getElem?_map, List.getElem?_mapIdx, List.getElem?_map, Option.map_map]
  rfl

theorem getElem?_runEach {program : MainProgram} {moments : Nat → StopMoments}
    {daemons : List Watched} {index : Nat} {ran : Watched}
    (found : (program.runEach moments daemons)[index]? = some ran) :
    ∃ daemon, daemons[index]? = some daemon ∧
      ran = { daemon with events := (program.runOne daemon (moments index)).1 } := by
  rw [runEach, List.getElem?_mapIdx] at found
  obtain ⟨daemon, there, same⟩ := Option.map_eq_some_iff.mp found
  exact ⟨daemon, there, same.symm⟩

theorem runEach_every {holds : Event → Prop}
    (calls : ∀ context stopping, holds (.call context stopping))
    (logs : ∀ level message, holds (.log level message))
    (sleeps : ∀ seconds, holds (.sleep seconds)) (program : MainProgram)
    (moments : Nat → StopMoments) (daemons : List Watched) :
    ∀ daemon ∈ program.runEach moments daemons,
      Daemon.IsOver daemon.name daemon.service.script daemon.events ∧
        ∀ event ∈ daemon.events, holds event := by
  intro ran member
  obtain ⟨index, found⟩ := List.mem_iff_getElem?.mp member
  obtain ⟨daemon, _, rfl⟩ := getElem?_runEach found
  exact ⟨program.runOne_isOver daemon _,
    Daemon.autoRestart_every _ _ _ _ _ (calls _) logs sleeps⟩

theorem runWith_of_problem {problem : Daemon.LoadProblem} (program : MainProgram)
    (moments : Nat → StopMoments) (broken : (loadAll entries names).2 = some problem) :
    program.runWith moments entries names = ⟨(loadAll entries names).1, .fail problem⟩ := by
  rw [runWith]
  split
  next loaded other found =>
    rw [found] at broken ⊢
    rw [Option.some.inj broken]
  next loaded found =>
    rw [found] at broken
    cases broken

theorem runWith_of_complete (program : MainProgram) (moments : Nat → StopMoments)
    (complete : (loadAll entries names).2 = none) :
    let loaded := (loadAll entries names).1
    program.runWith moments entries names =
      ⟨program.runEach moments loaded, ⟨loaded.map started, .ok ()⟩⟩ := by
  intro loaded
  rw [runWith]
  split
  next other problem found =>
    rw [found] at complete
    cases complete
  next other found => simp only [loaded, found]

end MainProgram

end Warden
