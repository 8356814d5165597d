import Warden.Daemon.Registry

/-!
The main program: all daemons are loaded before the first one is called, so it runs all of them or
none. They run side by side and share one stop request, which reaches each of them at some moment of
its own.
-/

namespace Warden

structure Watched where
  name : String
  service : Daemon.Service
  events : List Event := []

structure MainProgram where
  config : Option String
  secret : Option String
  maxWorkers : Option Int
  stopping : Bool := false

namespace MainProgram

def loadAll (entries : List Daemon.Entry) :
    List String → List Watched × Option Daemon.LoadProblem
  | [] => ([], none)
  | name :: names =>
      match Daemon.load entries name with
      | .error problem => ([], some problem)
      | .ok service =>
          let (loaded, problem?) := loadAll entries names
          (⟨name, service, []⟩ :: loaded, problem?)

def context (program : MainProgram) (name : String) : DaemonContext :=
  ⟨name, program.config, program.secret, program.maxWorkers⟩

/-- When a stop that is requested elsewhere reaches a daemon: before its first call, in its calls, or
in the pauses after its failures. -/
structure StopMoments where
  atStart : Bool := false
  inCall : Nat → Bool := fun _ => false
  inPause : Nat → Bool := fun _ => false

def StopMoments.addedTo (moments : StopMoments) (script : List Daemon.Act) : List Daemon.Act :=
  script.mapIdx fun call act => { act with stops := act.stops || moments.inCall call }

def runOne (program : MainProgram) (daemon : Watched) (moments : StopMoments) :
    List Event × Daemon.Ending :=
  Daemon.autoRestart (program.context daemon.name) moments.inPause moments.atStart 0
    (moments.addedTo daemon.service.script)

/-- Runs the daemons, each with its own stop moments. An interrupt ends only the daemon that it
hits. -/
def runEach (program : MainProgram) (moments : Nat → StopMoments) (daemons : List Watched) :
    List Watched :=
  daemons.mapIdx fun index daemon =>
    { daemon with events := (program.runOne daemon (moments index)).1 }

/-- The stop moments of daemons that run one after the other: a stop that one of them requests is
there before the ones behind it begin. -/
def turns (program : MainProgram) (daemons : List Watched) (index : Nat) : StopMoments :=
  { atStart := (daemons.take index).foldl
      (fun atStart daemon => (program.runOne daemon { atStart }).2.stopping) program.stopping }

def started (daemon : Watched) : Event :=
  .log .info ("Started daemon " ++ daemon.name)

structure Outcome where
  daemons : List Watched
  run : Run Daemon.LoadProblem Unit

def runWith (program : MainProgram) (moments : Nat → StopMoments) (entries : List Daemon.Entry)
    (names : List String) : Outcome :=
  match loadAll entries names with
  | (loaded, some problem) => ⟨loaded, .fail problem⟩
  | (loaded, none) => ⟨program.runEach moments loaded, ⟨loaded.map started, .ok ()⟩⟩

def run (program : MainProgram) (entries : List Daemon.Entry) (names : List String) : Outcome :=
  program.runWith (program.turns (loadAll entries names).1) entries names

end MainProgram

end Warden
