import Warden.Event
import Warden.Numeral
import Warden.Path
import Warden.Text.UpperCase

/-!
Settings from environment variables, each with a default. They are read in a fixed order, so of
several bad ones the first is reported.
-/

namespace Warden

structure Settings where
  dataDirectory : Path
  logMaxBytes : Int
  logBackups : Int
  logLevel : String
  failureThreshold : Int
  attemptInterval : Int
  flushDelay : Float
  outputCapacity : Int
  maxReportBytes : Int
  recipients : List String
  subjectKeyword : String
  publicAddressUrl : String
  mailHost : String
  mailPort : Int
  mailUsername : String
  mailPassword : String
  mailTls : Bool
  mailSender : String
  secret : String

namespace Settings

inductive Problem
  | noHome
  | numeral (problem : Numeral.Problem)

def Problem.message : Problem → String
  | .noHome => "Could not determine home directory."
  | .numeral problem => problem.message

abbrev Environment := String → Option String

def variableNames : List String :=
  ["HOME", "LAUNCHGUARD_DATA_DIR", "LOG_MAX_BYTES", "LOG_BACKUP_COUNT", "LOG_LEVEL",
    "FAILURE_THRESHOLD_SEC", "START_ATTEMPT_INTERVAL_SEC", "FLUSH_DELAY_SEC", "OUTPUT_CAPACITY",
    "MAX_REPORT_BYTES", "NOTIFICATION_RECIPIENTS", "MAIL_SUBJECT_KEYWORD", "PUBLIC_IP_URL",
    "SMTP_HOST", "SMTP_PORT", "SMTP_USERNAME", "SMTP_PASSWORD", "SMTP_USE_TLS", "MAIL_FROM",
    "LAUNCHGUARD_SECRET"]

def defaultHome : String := "/home/user"

def whole (environment : Environment) (name : String) (default : Int) : Except Problem Int :=
  match environment name with
  | none => .ok default
  | some text => (Numeral.readWhole text).mapError .numeral

def decimal (environment : Environment) (name : String) (default : Float) :
    Except Problem Float :=
  match environment name with
  | none => .ok default
  | some text => (Numeral.readDecimal text).mapError .numeral

def splitRecipients (text : String) : List String :=
  ((Text.commaPieces text).map Text.strip).filter fun item => !item.isEmpty

def read (environment : Environment) : Except Problem Settings := do
  let text := fun (name default : String) => (environment name).getD default
  let home ← match Path.home? (text "HOME" defaultHome) with
    | some home => .ok home
    | none => .error .noHome
  let dataDirectory := Path.ofText (text "LAUNCHGUARD_DATA_DIR" (home.join ".launchguard").text)
  let logMaxBytes ← whole environment "LOG_MAX_BYTES" (10 * 1024 * 1024)
  let logBackups ← whole environment "LOG_BACKUP_COUNT" 5
  let logLevel := Text.upperCase (text "LOG_LEVEL" "INFO")
  let failureThreshold ← whole environment "FAILURE_THRESHOLD_SEC" (20 * 60)
  let attemptInterval ← whole environment "START_ATTEMPT_INTERVAL_SEC" 10
  let flushDelay ← decimal environment "FLUSH_DELAY_SEC" 1
  let outputCapacity ← whole environment "OUTPUT_CAPACITY" (4 * 1024)
  let maxReportBytes ← whole environment "MAX_REPORT_BYTES" (1024 * 1024)
  let mailPort ← whole environment "SMTP_PORT" 25
  return {
    dataDirectory, logMaxBytes, logBackups, logLevel, failureThreshold, attemptInterval,
    flushDelay, outputCapacity, maxReportBytes, mailPort
    recipients := splitRecipients (text "NOTIFICATION_RECIPIENTS" "")
    subjectKeyword := text "MAIL_SUBJECT_KEYWORD" "launchguard"
    publicAddressUrl := text "PUBLIC_IP_URL" "https://api.ipify.org"
    mailHost := text "SMTP_HOST" ""
    mailUsername := text "SMTP_USERNAME" ""
    mailPassword := text "SMTP_PASSWORD" ""
    mailTls := Text.lowered (text "SMTP_USE_TLS" "false") == "true"
    mailSender := text "MAIL_FROM" ""
    secret := text "LAUNCHGUARD_SECRET" "" }

def supervisorLog (settings : Settings) : Path :=
  settings.dataDirectory.join "launchguard.log"

def mainProgramLog (settings : Settings) : Path :=
  settings.dataDirectory.join "main_program.log"

def directories (settings : Settings) : List Path :=
  [settings.dataDirectory]

def basicFormat : String := "%(levelname)s:%(name)s:%(message)s"

def levelThresholds : List (String × Threshold) :=
  [("CRITICAL", .severity Level.critical.severity), ("FATAL", .severity Level.critical.severity),
    ("ERROR", .severity Level.error.severity), ("WARNING", .severity Level.warning.severity),
    ("WARN", .severity Level.warning.severity), ("INFO", .severity Level.info.severity),
    ("DEBUG", .severity Level.debug.severity), ("NOTSET", .severity 0),
    ("BASIC_FORMAT", .format basicFormat)]

/-- The threshold for log records; a level that nobody knows counts as the informative one. -/
def logThreshold (settings : Settings) : Threshold :=
  (levelThresholds.lookup settings.logLevel).getD (.severity Level.info.severity)

end Settings

end Warden
