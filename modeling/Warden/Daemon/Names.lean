import Warden.Text.Blank

/-!
Names of daemons: the built-in ones, the written form of a list of them, and the order in which they
are given up.
-/

namespace Warden.Daemon

def builtIn : List String :=
  ["autounlock", "dnsd", "httpd", "insecurehttpd", "maintenance", "phonehome", "plainsocket",
    "serialport", "simpleipsvcd", "smtpd", "snmpd", "sockd", "telegram"]

def shedOrder : List String :=
  ["maintenance", "serialport", "simpleipsvcd", "snmpd", "dnsd", "sockd", "smtpd", "httpd",
    "insecurehttpd", "plainsocket", "telegram", "phonehome"]

def splitNames (text : String) : List String :=
  (((Text.commaPieces text).map Text.strip).filter fun name => !name.isEmpty).eraseDups

def joinNames (names : List String) : String :=
  ",".intercalate names

def unknownNames (registered names : List String) : List String :=
  names.filter fun name => !builtIn.contains name && !registered.contains name

end Warden.Daemon
