import Warden.Text.Digit

/-!
Tokens of the command line. A token sets one of the four settings, asks for help, is a value, or is
a flag that nobody knows. A setting may be cut short as long as it stands apart from its value; no
two settings begin with the same letter, so the cut name is never ambiguous.
-/

namespace Warden.CommandLine

inductive Setting
  | config
  | supervisor
  | daemons
  | maxWorkers
  deriving DecidableEq, Repr

def Setting.name : Setting → String
  | .config => "config"
  | .supervisor => "supervisor"
  | .daemons => "daemons"
  | .maxWorkers => "maxworkers"

def Setting.flag (setting : Setting) : String :=
  "-" ++ setting.name

def settings : List Setting := [.config, .supervisor, .daemons, .maxWorkers]

inductive Token
  | value
  | setting (setting : Setting) (joined : Option String)
  | help (long : Bool) (joined : Option String)
  | unknown
  deriving DecidableEq, Repr

def helpLong : String := "--help"

def helpShort : String := "-h"

def named? (flag : String) (joined : Option String) : Option Token :=
  if flag == helpShort then some (.help false joined)
  else if flag == helpLong then some (.help true joined)
  else (settings.find? fun setting => setting.flag == flag).map fun setting =>
    .setting setting joined

def joinedParts? (characters : List Char) : Option (String × String) :=
  match characters.dropWhile (· != '=') with
  | [] => none
  | _ :: value => some (String.ofList (characters.takeWhile (· != '=')), String.ofList value)

/-- What a cut name stands for, given without its dash. Anything that begins like the short help
flag is that flag with something attached. -/
def abbreviated? : List Char → Option Token
  | [] => none
  | '-' :: _ => none
  | 'h' :: attached => some (.help false (some (String.ofList attached)))
  | name => (settings.find? fun setting => name.isPrefixOf setting.name.toList).map fun setting =>
      .setting setting none

def isDigits (characters : List Char) : Bool :=
  !characters.isEmpty && characters.all fun character => (Text.digitValue? character).isSome

/-- Whether what follows a dash makes it a negative number: digits, or a point with digits after it
and perhaps before it. One line feed may end it. -/
def isNegativeNumber (unsigned : List Char) : Bool :=
  let digits := if unsigned.getLast? == some '\n' then unsigned.dropLast else unsigned
  let integral := digits.takeWhile (· != '.')
  match digits.dropWhile (· != '.') with
  | [] => isDigits integral
  | _ :: fraction => (integral.isEmpty || isDigits integral) && isDigits fraction

def classify (token : String) : Token :=
  match token.toList with
  | '-' :: [] => .value
  | '-' :: rest =>
      let joined? := (joinedParts? token.toList).bind fun (flag, value) => named? flag (some value)
      match (named? token none <|> joined?) <|> abbreviated? rest with
      | some meaning => meaning
      | none => if isNegativeNumber rest || rest.contains ' ' then .value else .unknown
  | _ => .value

end Warden.CommandLine
