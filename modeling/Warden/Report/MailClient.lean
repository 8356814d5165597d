import Warden.AddressHeader.Printer
import Warden.Host
import Warden.Run
import Warden.Settings

/-!
Outgoing mail. A conversation with the server that was opened is closed again whatever happens in
it, and a step that fails is the last one before that.
-/

namespace Warden

def nothing : String := "None"

structure MailClient where
  host : Option String := some ""
  port : Option Number := some (.whole 25)
  username : Option String := some ""
  password : Option String := some ""
  sender : Option String := some ""
  useTls : Bool := false
  timeout : Option Number := some (.whole 30)

namespace MailClient

inductive Problem
  | noRecipients
  | brokenHeader
  | halves (run : Text.HalvesRun)
  | addresses (problem : AddressHeader.Problem)
  | noBody
  | fault (fault : Fault)

def Problem.message : Problem → String
  | .noRecipients => "at least one recipient is required"
  | .brokenHeader => "Header values may not contain linefeed or carriage return characters"
  | .halves run => run.message
  | .addresses problem => problem.message
  | .noBody => "'builtins.NoneType'"
  | .fault cause => cause.message

def ofSettings (settings : Settings) : MailClient :=
  { host := some settings.mailHost
    port := some (.whole settings.mailPort)
    username := some settings.mailUsername
    password := some settings.mailPassword
    sender := some settings.mailSender
    useTls := settings.mailTls }

def isKnown (value : Option String) : Bool :=
  value.any fun text => !text.isEmpty

def isConfigured (client : MailClient) : Bool :=
  isKnown client.host && isKnown client.sender

def perform (host : Host) (stage : MailStage) (step : MailStep) : Run Problem Unit :=
  ⟨[.mail step],
    match host.mailFailure with
    | some (failing, fault) => if failing = stage then .error (.fault fault) else .ok ()
    | none => .ok ()⟩

def converse (client : MailClient) (host : Host) (mail : Mail) : Run Problem Unit := do
  if client.useTls then perform host .startTls .startTls
  if let some username := client.username.filter fun text => !text.isEmpty then
    perform host .login (.login username client.password)
  perform host .send (.send mail)

def deliver (client : MailClient) (host : Host) (mail : Mail) : Run Problem Unit := do
  perform host .connect (.connect client.host client.port client.timeout)
  (client.converse host mail).followedBy [.mail .quit]

def titleText (text : String) : Except Problem String :=
  (Text.decodedHeader text).mapError .halves

def addressText (text : String) : Except Problem String := do
  let symbols ← (AddressHeader.decoded text).mapError .addresses
  (Text.Symbol.text symbols).mapError .halves

def headerLine (read : String → Except Problem String) (text : String) : Except Problem String :=
  if Text.isMultiline text then .error .brokenHeader else read text

/-- The header lines of a mail and its text. One without a subject has an empty one, but it needs a
text, which is looked at last. -/
def compose (client : MailClient) (subject body : Option String) (recipients : List String) :
    Except Problem Mail := do
  if recipients.isEmpty then throw .noRecipients
  let title ← headerLine titleText (subject.getD "")
  let sender ← headerLine addressText (client.sender.getD nothing)
  let receivers ← headerLine addressText (", ".intercalate recipients)
  match body with
  | none => throw .noBody
  | some words => return ⟨title, sender, receivers, Text.mailBody words⟩

def send (client : MailClient) (host : Host) (subject body : Option String)
    (recipients : List String) : Run Problem Unit := do
  let mail ← Run.ofExcept (client.compose subject body recipients)
  client.deliver host mail
  Run.log .info s!"Sent mail '{subject.getD nothing}' to {recipients.length} recipient(s)"

end MailClient

end Warden
