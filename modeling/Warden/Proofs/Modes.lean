import Warden.Launcher
import Warden.Proofs.Hosting
import Warden.Proofs.Supervision

/-!
The two modes of the launcher. Until its command line has been read and all of its daemons are
known, it neither launches nor calls anything and asks nobody for the secret. A launcher that
supervises launches nothing but itself and calls no daemon; a main program launches nothing, calls
its daemons only if all of them are loaded, and returns well only when all of them are over.
-/

namespace Warden

def Event.isWeighty : Event → Bool
  | .launch _ | .call _ _ | .askSecret _ | .readInput => true
  | _ => false

/-- What a supervisor may do: launch the host's own command with any flags, and call no daemon. -/
def Event.IsSupervision (host : Host) : Event → Prop
  | .launch command => ∃ path, host.executable = some path ∧ [path, "-m", "launchguard"] <+: command
  | .call _ _ => False
  | _ => True

theorem Host.command?_eq_some {host : Host} {command : List String}
    (found : host.command? = some command) :
    ∃ path, host.executable = some path ∧ command = [path, "-m", "launchguard"] := by
  unfold command? at found
  split at found
  · cases found
  next path known =>
    split at found
    · cases found
    · exact ⟨path, known, (Option.some.inj found).symm⟩

theorem Host.command?_eq_none {host : Host} (unknown : host.executable.getD "" = "") :
    host.command? = none := by
  unfold command?
  split
  · rfl
  next path known =>
    have empty : path = "" := by simpa [known] using unknown
    rw [empty]
    rfl

theorem ByteLog.make?_isSome {capacity : Int} (positive : 0 < capacity)
    (destination : Option Destination) : ∃ log, make? capacity destination = some log := by
  rw [make?, dif_pos (by omega)]
  exact ⟨_, rfl⟩

section Supervision

variable {holds : Event → Prop} (childless : ∀ event, event.isChildless = true → holds event)
  (children : ∀ bytes, ∀ event ∈ [.handOver bytes, .closeInput, .kill, .awaitExit], holds event)
include childless children

theorem Launch.childEvents_every (launch : Launch) (secret : String) :
    ∀ event ∈ launch.childEvents secret, holds event := by
  cases launch with
  | refused fault => exact List.forall_mem_nil _
  | started child =>
      refine List.forall_mem_append.mpr ⟨?_, ?_⟩
      · have handed := children (Secret.handOver secret)
        unfold inputEvents
        split <;> simp [handed]
      · have logged (level : Level) (message : String) : holds (.log level message) :=
          childless _ rfl
        have reaped := children []
        unfold fateEvents
        split
        · simp [ready, logged]
        · split <;> simp [givenUp, logged, reaped]

namespace Supervisor

variable (supervisor : Supervisor) {command : List String}
  (launches : ∀ flags, holds (.launch (command ++ flags)))
include launches

theorem rounds_every (state : State) (awaited : List Launch) :
    ∀ round ∈ supervisor.rounds command state awaited, ∀ event ∈ round.events, holds event := by
  have each (state : State) (launch : Launch) :
      ∀ event ∈ (supervisor.round command state launch).events, holds event := by
    have launched : ∀ event ∈ (launch.perform (command ++ (supervisor.plan.resolve
        state.attempt).flags) supervisor.secret).events, holds event := by
      rw [Launch.perform_eq]
      exact List.forall_mem_cons.mpr ⟨launches _,
        launch.childEvents_every childless children supervisor.secret⟩
    refine List.forall_mem_append.mpr ⟨List.forall_mem_cons.mpr ⟨childless _ rfl, launched⟩, ?_⟩
    exact settle_every childless (children [] _ (by simp)) supervisor _ _ _
  induction awaited generalizing state with
  | nil => simp [rounds_nil]
  | cons launch awaited ih =>
      rw [rounds_cons]
      split
      · exact List.forall_mem_singleton.mpr (each state launch)
      · exact List.forall_mem_cons.mpr ⟨each state launch, ih _⟩

end Supervisor

theorem Supervisor.supervise_every (supervisor : Supervisor)
    (launches : ∀ command, supervisor.host.command? = some command →
      ∀ flags, holds (.launch (command ++ flags)))
    (state : State) (awaited : List Launch) (stopAtLast : Bool) :
    ∀ event ∈ (supervisor.supervise state awaited stopAtLast).events, holds event := by
  cases found : supervisor.host.command? with
  | none =>
      rw [supervise_of_lost found]
      exact List.forall_mem_singleton.mpr (childless _ rfl)
  | some command =>
      rw [supervise_eq found]
      refine List.forall_mem_append.mpr ⟨List.forall_mem_cons.mpr ⟨childless _ rfl, ?_⟩, ?_⟩
      · intro event member
        obtain ⟨round, happened, inside⟩ := List.mem_flatMap.mp member
        exact rounds_every childless children supervisor (launches command found) state awaited
          round happened event inside
      · rw [Course.closing_ofRounds]
        split
        · exact List.forall_mem_singleton.mpr (childless _ rfl)
        · exact List.forall_mem_nil _

end Supervision

namespace Daemon

variable {entries : List Entry} {names : List String} {name : String}

def IsUnknown (entries : List Entry) (name : String) : Prop :=
  name ∉ builtIn ∧ ∀ entry ∈ entries, entry.name ≠ name

instance : Decidable (IsUnknown entries name) :=
  inferInstanceAs (Decidable (_ ∧ _))

theorem mem_registeredNames :
    name ∈ registeredNames entries ↔ ∃ entry ∈ entries, entry.name = name := by
  rw [registeredNames, List.mem_mergeSort, List.mem_eraseDups, List.mem_map]

theorem unknownNames_eq_nil :
    unknownNames (registeredNames entries) names = [] ↔
      ¬∃ name ∈ names, IsUnknown entries name := by
  rw [unknownNames, List.filter_eq_nil_iff]
  simp [IsUnknown, mem_registeredNames]

end Daemon

namespace Launcher

def Outcome.trace (outcome : Outcome) : List Event :=
  outcome.events ++ outcome.daemons.flatMap Watched.events

def Ending.ofStop : CommandLine.Stop → Ending
  | .help => .refused CommandLine.helpExit
  | .refused refusal => .refused refusal.exit
  | .noDaemonList => .broken .noDaemonList

def Outcome.IsIdle (outcome : Outcome) : Prop :=
  ∀ event ∈ outcome.trace, event.isWeighty = false

def Outcome.IsUncalled (outcome : Outcome) : Prop :=
  ∀ context stopping, .call context stopping ∉ outcome.trace

def Outcome.IsUnlaunched (outcome : Outcome) : Prop :=
  ∀ command, .launch command ∉ outcome.trace

/-- What is kept to by a launcher that supervises. -/
structure Outcome.Supervises (outcome : Outcome) (settings : Settings) (host : Host) : Prop where
  uncalled : outcome.IsUncalled
  itself : ∀ command, .launch command ∈ outcome.trace →
    ∃ path, host.executable = some path ∧ [path, "-m", "launchguard"] <+: command
  lost : 0 < settings.outputCapacity → host.executable.getD "" = "" →
    outcome.ending = .returned 1 ∧ outcome.IsUnlaunched

structure Outcome.Hosts (outcome : Outcome) (entries : List Daemon.Entry) (names : List String) :
    Prop where
  unlaunched : outcome.IsUnlaunched
  missing : ∀ front name back, names = front ++ name :: back → Daemon.IsMissing entries name →
    (∀ earlier ∈ front, ∀ fault, ¬Daemon.IsInterrupted entries earlier fault) →
    outcome.ending = .returned 1 ∧ outcome.IsUncalled
  interrupted : ∀ front name back fault, names = front ++ name :: back →
    Daemon.IsInterrupted entries name fault →
    (∀ earlier ∈ front, ¬Daemon.IsMissing entries earlier ∧
      ∀ fault, ¬Daemon.IsInterrupted entries earlier fault) →
    outcome.ending = .broken (.fault fault) ∧ outcome.IsUncalled
  finished : outcome.ending = .returned 0 → outcome.daemons.map Watched.name = names ∧
    ∀ daemon ∈ outcome.daemons, Daemon.IsOver daemon.name daemon.service.script daemon.events

variable {settings : Settings} {surroundings : Surroundings} {tokens : List String}
  {options : CommandLine.Options}

theorem obtainSecret_supervising (settings : Settings) (surroundings : Surroundings) :
    ∀ event ∈ (obtainSecret settings surroundings).1,
      event.IsSupervision surroundings.host ∧ event.launched? = none := by
  unfold obtainSecret
  split
  · simp
  · split <;> simp [Event.IsSupervision, Event.launched?]

theorem supervise_supervising (settings : Settings) (surroundings : Surroundings)
    (tokens daemons : List String) :
    ∀ event ∈ (supervise settings surroundings tokens daemons).trace,
      event.IsSupervision surroundings.host := by
  have asked (event : Event) (member : event ∈ (obtainSecret settings surroundings).1) :=
    (obtainSecret_supervising settings surroundings event member).1
  have childless (event : Event) (alone : event.isChildless = true) :
      event.IsSupervision surroundings.host := by
    cases event <;> simp_all [Event.isChildless, Event.IsSupervision]
  have opening (message : String) : ∀ event ∈ (obtainSecret settings surroundings).1 ++
      [.log .debug message], event.IsSupervision surroundings.host :=
    List.forall_mem_append.mpr ⟨asked, List.forall_mem_singleton.mpr (childless _ rfl)⟩
  unfold supervise Outcome.trace
  dsimp only
  split
  · simpa using opening _
  next state begun =>
    have course := Supervisor.supervise_every childless (by simp [Event.IsSupervision])
      (Supervisor.ofSettings settings surroundings.host tokens daemons
        (obtainSecret settings surroundings).2) (by
          intro command found flags
          obtain ⟨path, known, rfl⟩ := Host.command?_eq_some found
          exact ⟨path, known, List.prefix_append _ _⟩) state surroundings.launches false
    simpa using List.forall_mem_append.mpr ⟨opening _, course⟩

theorem supervise_supervises (settings : Settings) (surroundings : Surroundings)
    (tokens daemons : List String) :
    (supervise settings surroundings tokens daemons).Supervises settings surroundings.host where
  uncalled _ _ called := supervise_supervising settings surroundings tokens daemons _ called
  itself _ launched := supervise_supervising settings surroundings tokens daemons _ launched
  lost positive unknown := by
    obtain ⟨log, made⟩ := ByteLog.make?_isSome positive (some .healthy)
    have begun : Supervisor.begin? settings.outputCapacity surroundings.now =
        some ⟨0, surroundings.now, surroundings.now, log, log⟩ := by
      rw [Supervisor.begin?, made]
      rfl
    have lost (secret : String) := @Supervisor.supervise_of_lost
      (.ofSettings settings surroundings.host tokens daemons secret) (Host.command?_eq_none unknown)
    have asked (event : Event) (member : event ∈ (obtainSecret settings surroundings).1) :=
      (obtainSecret_supervising settings surroundings event member).2
    constructor
    · simp only [supervise, begun, lost]
    · intro command launched
      simp only [supervise, begun, lost, Outcome.trace, Supervisor.Course.events] at launched
      have known : (Event.launch command) ∈ (obtainSecret settings surroundings).1 := by
        simpa [Supervisor.noExecutable] using launched
      cases asked _ known

def Ending.ofLoadProblem : Daemon.LoadProblem → Ending
  | .missing _ => .returned 1
  | .interrupt fault => .broken (.fault fault)

theorem runDaemons_of_problem {problem : Daemon.LoadProblem}
    (broken : (MainProgram.loadAll surroundings.entries options.daemons).2 = some problem) :
    let outcome := runDaemons surroundings options
    outcome.ending = .ofLoadProblem problem ∧
      ∀ event ∈ outcome.trace, event.launched? = none ∧ event.isCall = false := by
  intro outcome
  have silent := MainProgram.loadAll_silent surroundings.entries options.daemons
  have quiet : (MainProgram.loadAll surroundings.entries options.daemons).1.flatMap
      Watched.events = [] := List.flatMap_eq_nil_iff.mpr silent
  simp only [outcome, runDaemons, MainProgram.run, MainProgram.runWith_of_problem _ _ broken,
    Run.fail, Outcome.trace, quiet]
  cases problem with
  | missing cause => simp [Ending.ofLoadProblem, Event.launched?, Event.isCall]
  | interrupt fault => simp [Ending.ofLoadProblem, Event.launched?, Event.isCall]

theorem runDaemons_of_complete
    (complete : (MainProgram.loadAll surroundings.entries options.daemons).2 = none) :
    let outcome := runDaemons surroundings options
    outcome.ending = .returned 0 ∧ (∀ event ∈ outcome.trace, event.launched? = none) ∧
      outcome.daemons.map Watched.name = options.daemons ∧
      ∀ daemon ∈ outcome.daemons,
        Daemon.IsOver daemon.name daemon.service.script daemon.events := by
  intro outcome
  let program : MainProgram :=
    { config := options.config
      secret := some (Secret.ofText surroundings.input).1
      maxWorkers := options.maxWorkers }
  let loaded := (MainProgram.loadAll surroundings.entries options.daemons).1
  let moments := program.turns loaded
  have known : outcome = { events := .readInput :: loaded.map MainProgram.started
                           ending := .returned 0
                           daemons := program.runEach moments loaded } := by
    simp only [outcome, runDaemons, MainProgram.run, MainProgram.runWith_of_complete _ _ complete,
      List.append_nil]
    rfl
  have each : ∀ daemon ∈ program.runEach moments loaded,
      Daemon.IsOver daemon.name daemon.service.script daemon.events ∧
        ∀ event ∈ daemon.events, event.launched? = none :=
    MainProgram.runEach_every (fun _ _ => rfl) (fun _ _ => rfl) (fun _ => rfl) program moments loaded
  rw [known]
  refine ⟨rfl, ?_, ?_, fun daemon member => (each daemon member).1⟩
  · refine List.forall_mem_append.mpr ⟨List.forall_mem_cons.mpr ⟨rfl, ?_⟩, ?_⟩
    · exact List.forall_mem_map.mpr fun _ _ => rfl
    · intro event member
      obtain ⟨daemon, ran, inside⟩ := List.mem_flatMap.mp member
      exact (each daemon ran).2 event inside
  · rw [MainProgram.names_runEach]
    exact MainProgram.names_loadAll complete

theorem runDaemons_stops {problem : Daemon.LoadProblem}
    (broken : (MainProgram.loadAll surroundings.entries options.daemons).2 = some problem) :
    (runDaemons surroundings options).ending = .ofLoadProblem problem ∧
      (runDaemons surroundings options).IsUncalled := by
  obtain ⟨ending, still⟩ := runDaemons_of_problem broken
  refine ⟨ending, fun context stopping called => ?_⟩
  cases (still _ called).2

theorem runDaemons_hosts (surroundings : Surroundings) (options : CommandLine.Options) :
    (runDaemons surroundings options).Hosts surroundings.entries options.daemons where
  unlaunched command launched := by
    cases first : (MainProgram.loadAll surroundings.entries options.daemons).2 with
    | none => cases (runDaemons_of_complete first).2.1 _ launched
    | some problem => cases ((runDaemons_of_problem first).2 _ launched).1
  missing front name back split missing calm := by
    obtain ⟨cause, broken⟩ := MainProgram.loadAll_of_isMissing split missing calm
    exact runDaemons_stops broken
  interrupted front name back fault split interrupted calm := by
    have loads : ∀ earlier ∈ front, Daemon.loadProblem? surroundings.entries earlier = none :=
      fun earlier member => Daemon.loadProblem?_eq_none (calm earlier member)
    exact runDaemons_stops (MainProgram.loadAll_of_isInterrupted split interrupted loads)
  finished returned := by
    cases first : (MainProgram.loadAll surroundings.entries options.daemons).2 with
    | none => exact (runDaemons_of_complete first).2.2
    | some problem =>
        rw [(runDaemons_of_problem first).1] at returned
        cases problem <;> cases returned

def Outcome.after (front : List Event) (outcome : Outcome) : Outcome :=
  { outcome with events := front ++ outcome.events }

section After

variable {outcome : Outcome} {front : List Event}

theorem Outcome.mem_trace_after {event : Event} :
    event ∈ (outcome.after front).trace ↔ event ∈ front ∨ event ∈ outcome.trace := by
  simp only [trace, after, List.append_assoc, List.mem_append]

variable (light : ∀ event ∈ front, event.isWeighty = false)
include light

theorem Outcome.mem_trace_of_after {event : Event} (weighty : event.isWeighty = true)
    (member : event ∈ (outcome.after front).trace) : event ∈ outcome.trace := by
  rcases mem_trace_after.mp member with first | second
  · rw [light event first] at weighty
    cases weighty
  · exact second

theorem Outcome.IsIdle.after (idle : outcome.IsIdle) : (outcome.after front).IsIdle :=
  fun event member => (mem_trace_after.mp member).elim (light event) (idle event)

theorem Outcome.IsUncalled.after (uncalled : outcome.IsUncalled) :
    (outcome.after front).IsUncalled :=
  fun context stopping called =>
    uncalled context stopping (mem_trace_of_after light rfl called)

theorem Outcome.IsUnlaunched.after (unlaunched : outcome.IsUnlaunched) :
    (outcome.after front).IsUnlaunched :=
  fun command launched => unlaunched command (mem_trace_of_after light rfl launched)

theorem Outcome.Supervises.after {settings : Settings} {host : Host}
    (keeps : outcome.Supervises settings host) :
    (outcome.after front).Supervises settings host where
  uncalled := keeps.uncalled.after light
  itself _ launched := keeps.itself _ (mem_trace_of_after light rfl launched)
  lost positive unknown :=
    let ⟨ending, unlaunched⟩ := keeps.lost positive unknown
    ⟨ending, unlaunched.after light⟩

theorem Outcome.Hosts.after {entries : List Daemon.Entry} {names : List String}
    (keeps : outcome.Hosts entries names) : (outcome.after front).Hosts entries names where
  unlaunched := keeps.unlaunched.after light
  missing front name back split missing calm :=
    let ⟨ending, uncalled⟩ := keeps.missing front name back split missing calm
    ⟨ending, uncalled.after light⟩
  interrupted front name back fault split interrupted calm :=
    let ⟨ending, uncalled⟩ := keeps.interrupted front name back fault split interrupted calm
    ⟨ending, uncalled.after light⟩
  finished := keeps.finished

end After

theorem run_of_ok (accepted : CommandLine.read tokens = .ok options) :
    run settings surroundings tokens = (start settings surroundings tokens options).after
      (startLogging settings options.supervisor) := by
  rw [run]
  simp only [accepted]
  rfl

theorem run_of_error {stop : CommandLine.Stop} (refused : CommandLine.read tokens = .error stop) :
    run settings surroundings tokens = { events := [], ending := .ofStop stop } := by
  rw [run]
  cases stop <;> simp only [refused, Ending.ofStop]

theorem start_of_unknown_or_empty
    (refused : options.daemons = [] ∨
      ∃ name ∈ options.daemons, Daemon.IsUnknown surroundings.entries name) :
    let outcome := start settings surroundings tokens options
    outcome.ending = .returned 2 ∧ outcome.IsIdle := by
  intro outcome
  have logged (message : String) :
      Outcome.IsIdle { events := [.log .error message], ending := .returned 2 } :=
    List.forall_mem_singleton.mpr rfl
  simp only [outcome, start]
  split
  · exact ⟨rfl, logged _⟩
  next known =>
    rcases refused with empty | unknown
    · rw [if_pos (by simp [empty])]
      exact ⟨rfl, logged _⟩
    · refine absurd unknown (Daemon.unknownNames_eq_nil.mp ?_)
      simpa using known

theorem start_of_known (inhabited : options.daemons ≠ [])
    (known : ¬∃ name ∈ options.daemons, Daemon.IsUnknown surroundings.entries name) :
    start settings surroundings tokens options =
      if options.supervisor then supervise settings surroundings tokens options.daemons
      else runDaemons surroundings options := by
  simp [start, Daemon.unknownNames_eq_nil.mpr known, inhabited]

end Launcher

end Warden
