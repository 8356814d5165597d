import Warden.CommandLine.Usage
import Warden.MainProgram
import Warden.Supervisor

/-!
The launcher as a whole. It reads its command line, sets up its log, refuses daemons that nobody
knows, and then either supervises copies of itself or is the main program.
-/

namespace Warden

/-- What the launcher finds around it: the host, the launches as they will turn out, the registered
daemons, and whoever gives the secret. -/
structure Surroundings where
  host : Host
  now : Number
  launches : List Launch
  entries : List Daemon.Entry
  input : List Char
  isTerminal : Bool
  typed : String

namespace Launcher

inductive Failure
  | noDaemonList
  | noCapacity
  | fault (cause : Fault)

def Failure.message : Failure → String
  | .noDaemonList => CommandLine.noDaemonListMessage
  | .noCapacity => ByteLog.capacityMessage
  | .fault cause => cause.message

inductive Ending
  | refused (exit : CommandLine.Exit)
  | returned (code : Nat)
  | broken (failure : Failure)

structure Outcome where
  events : List Event
  ending : Ending
  daemons : List Watched := []
  output : List UInt8 := []
  errors : List UInt8 := []

def secretPrompt : String := "Enter program secret: "

def logFormat : String := "%(asctime)s - %(name)s - %(levelname)s - %(message)s"

def startLogging (settings : Settings) (supervises : Bool) : List Event :=
  let log := if supervises then settings.supervisorLog else settings.mainProgramLog
  [.openLog log.text settings.logMaxBytes settings.logBackups,
    .startLogging settings.logThreshold logFormat]

def obtainSecret (settings : Settings) (surroundings : Surroundings) : List Event × String :=
  if !settings.secret.isEmpty then ([], settings.secret)
  else if surroundings.isTerminal then ([.askSecret secretPrompt], surroundings.typed)
  else ([.readInput], (Secret.ofText surroundings.input).1)

def supervise (settings : Settings) (surroundings : Surroundings) (tokens daemons : List String) :
    Outcome :=
  let (asked, secret) := obtainSecret settings surroundings
  let supervisor := Supervisor.ofSettings settings surroundings.host tokens daemons secret
  let opening := asked ++ [.log .debug supervisor.plan.ladderMessage]
  match Supervisor.begin? settings.outputCapacity surroundings.now with
  | none => { events := opening, ending := .broken .noCapacity }
  | some state =>
      let course := supervisor.supervise state surroundings.launches false
      { events := opening ++ course.events
        ending := match course.result with
          | .ok _ => .returned 0
          | .error .noExecutable => .returned 1
          | .error (.fault cause) => .broken (.fault cause)
        output := course.final.output.forwarded.getD []
        errors := course.final.errors.forwarded.getD [] }

def runDaemons (surroundings : Surroundings) (options : CommandLine.Options) : Outcome :=
  let program : MainProgram :=
    { config := options.config
      secret := some (Secret.ofText surroundings.input).1
      maxWorkers := options.maxWorkers }
  let outcome := program.run surroundings.entries options.daemons
  let (events, ending) : List Event × Ending := match outcome.run.result with
    | .ok _ => ([], .returned 0)
    | .error (.missing cause) =>
        ([.log .error ("Cannot start main program: " ++ cause.message)], .returned 1)
    | .error (.interrupt cause) => ([], .broken (.fault cause))
  { events := .readInput :: outcome.run.events ++ events, ending, daemons := outcome.daemons }

def start (settings : Settings) (surroundings : Surroundings) (tokens : List String)
    (options : CommandLine.Options) : Outcome :=
  let unknown :=
    Daemon.unknownNames (Daemon.registeredNames surroundings.entries) options.daemons
  if !unknown.isEmpty then
    { events := [.log .error ("Unknown daemon names: " ++ ", ".intercalate unknown)]
      ending := .returned 2 }
  else if options.daemons.isEmpty then
    { events := [.log .error "No daemons to launch, use -daemons to name them"]
      ending := .returned 2 }
  else if options.supervisor then supervise settings surroundings tokens options.daemons
  else runDaemons surroundings options

def run (settings : Settings) (surroundings : Surroundings) (tokens : List String) : Outcome :=
  match CommandLine.read tokens with
  | .error .help => { events := [], ending := .refused CommandLine.helpExit }
  | .error (.refused refusal) => { events := [], ending := .refused refusal.exit }
  | .error .noDaemonList => { events := [], ending := .broken .noDaemonList }
  | .ok options =>
      let outcome := start settings surroundings tokens options
      { outcome with
        events := startLogging settings options.supervisor ++ outcome.events }

end Launcher

end Warden
