import Warden.Daemon.Names

/-!
The shed ladder: the daemon sets to fall back to, each with one daemon fewer than the one before.
-/

namespace Warden.Daemon

/-- The steps below a daemon set. A candidate that is not running is passed over, and a single
daemon is never given up. -/
def shedLadder (remaining : List String) : List String → List (List String)
  | [] => []
  | candidate :: order =>
      if remaining.length = 1 then []
      else if remaining.contains candidate then
        let fewer := remaining.filter (· != candidate)
        fewer :: shedLadder fewer order
      else shedLadder remaining order

end Warden.Daemon
