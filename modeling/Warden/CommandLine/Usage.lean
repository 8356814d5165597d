import Warden.CommandLine.Reader

/-!
What the command line prints when reading ends without options: the help, or the usage with the
reason of the refusal.
-/

namespace Warden.CommandLine

open Text

def usage : String :=
  "usage: launchguard [-h] [-config CONFIG] [-supervisor [SUPERVISOR]]\n" ++
  "                   [-daemons DAEMONS] [-maxworkers MAX_WORKERS]\n"

def help : String :=
  usage ++
  "\nLaunch and supervise the bundled network daemons.\n" ++
  "\noptions:\n" ++
  "  -h, --help            show this help message and exit\n" ++
  "  -config CONFIG        path to the configuration file\n" ++
  "  -supervisor [SUPERVISOR]\n" ++
  "                        run the supervisor that relaunches the main program on\n" ++
  "                        crash (default true)\n" ++
  "  -daemons DAEMONS      comma separated names of daemons to launch\n" ++
  "  -maxworkers MAX_WORKERS\n" ++
  "                        maximum number of worker threads per daemon (0 lets\n" ++
  "                        the daemon decide)\n"

def switchMessage (text : String) : String :=
  "invalid boolean value: " ++ quoted text

def Refusal.message : Refusal → String
  | .missingValue setting => "argument " ++ setting.flag ++ ": expected one argument"
  | .notASwitch text => "argument " ++ Setting.supervisor.flag ++ ": " ++ switchMessage text
  | .notWhole text =>
      "argument " ++ Setting.maxWorkers.flag ++ ": invalid int value: " ++ quoted text
  | .helpWithValue text => "argument -h/--help: ignored explicit argument " ++ quoted text
  | .leftovers tokens => "unrecognized arguments: " ++ " ".intercalate tokens

structure Exit where
  code : Nat
  output : String
  errors : String

def Refusal.exit (refusal : Refusal) : Exit :=
  ⟨2, "", usage ++ "launchguard: error: " ++ refusal.message ++ "\n"⟩

def helpExit : Exit := ⟨0, help, ""⟩

def noDaemonListMessage : String := "'list' object has no attribute 'split'"

end Warden.CommandLine
