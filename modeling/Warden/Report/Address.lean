import Warden.Host
import Warden.Run
import Warden.Text.Blank

/-!
The public address of this host, as a web service reports it. Where that gives nothing, the name of
the host stands in.
-/

namespace Warden

def Reply.isSuccess (reply : Reply) : Bool :=
  200 ≤ reply.status && reply.status ≤ 299

def Reply.address? (reply : Reply) : Option String :=
  let address := Text.strip reply.text
  if reply.isSuccess && !address.isEmpty then some address else none

def failedLookup (reason : String) : Event :=
  .log .debug ("Failed to determine public IP address: " ++ reason)

def publicAddress (host : Host) (url : String) : Run Fault String :=
  if url.isEmpty then pure host.name
  else match host.lookup with
    | .ok reply =>
        match reply.address? with
        | some address => ⟨[.lookUp url], .ok address⟩
        | none =>
            if reply.isSuccess then ⟨[.lookUp url], .ok host.name⟩
            else ⟨[.lookUp url, failedLookup s!"status {reply.status}"], .ok host.name⟩
    | .error fault =>
        if fault.isLookup then ⟨[.lookUp url, failedLookup fault.message], .ok host.name⟩
        else ⟨[.lookUp url], .error fault⟩

end Warden
