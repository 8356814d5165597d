import Warden.Child.Launch

/-!
How a launch ends. The first fault on the way decides everything: without one the child runs, with
one that launching handles no child is left behind, and any other one goes through as it is.
-/

namespace Warden

/-- The fault that breaks a child's hand-over. Its input is closed only if writing to it worked. -/
def Child.fault? (child : Child) : Option Fault :=
  child.writeFault.or child.closeFault

def Event.handedOver? : Event → Option (List UInt8)
  | .handOver bytes => some bytes
  | _ => none

namespace Launch

def fault? : Launch → Option Fault
  | .refused fault => some fault
  | .started child => child.fault?

def inputEvents (child : Child) (secret : String) : List Event :=
  .handOver (Secret.handOver secret) :: if child.writeFault.isSome then [] else [.closeInput]

def Problem.isReported : Problem → Bool
  | .unhandled _ => false
  | _ => true

theorem handOver_eq (child : Child) (secret : String) :
    handOver child secret = ⟨inputEvents child secret,
      match child.fault? with
      | none => .ok ()
      | some fault => .error fault⟩ := by
  cases written : child.writeFault <;> cases closed : child.closeFault <;>
    simp [handOver, attempt, bind, Run.andThen, inputEvents, Child.fault?, written, closed]

theorem perform_refused (fault : Fault) (command : List String) (secret : String) :
    (refused fault).perform command secret = ⟨[.launch command],
      .error (if fault.isStream then .notStarted fault else .unhandled fault)⟩ :=
  rfl

theorem perform_started (child : Child) (command : List String) (secret : String) :
    (started child).perform command secret =
      ⟨.launch command :: (settle child (handOver child secret)).events,
        (settle child (handOver child secret)).result⟩ :=
  rfl

theorem perform_handedOver {child : Child} (calm : child.fault? = none) (command : List String)
    (secret : String) :
    (started child).perform command secret =
      ⟨.launch command :: inputEvents child secret ++ [ready child], .ok child⟩ := by
  simp [perform_started, handOver_eq, calm, settle]

theorem perform_givenUp {child : Child} {fault : Fault} (broken : child.fault? = some fault)
    (handled : fault.isSystem = true) (command : List String) (secret : String) :
    (started child).perform command secret =
      ⟨.launch command :: inputEvents child secret ++ [givenUp child, .kill, .awaitExit],
        .error (.noHandOver fault)⟩ := by
  simp [perform_started, handOver_eq, broken, handled, settle]

theorem perform_unhandled {child : Child} {fault : Fault} (broken : child.fault? = some fault)
    (passed : fault.isSystem = false) (command : List String) (secret : String) :
    (started child).perform command secret =
      ⟨.launch command :: inputEvents child secret, .error (.unhandled fault)⟩ := by
  simp [perform_started, handOver_eq, broken, passed, settle]

def fateEvents (child : Child) : List Event :=
  match child.fault? with
  | none => [ready child]
  | some fault => if fault.isSystem then [givenUp child, .kill, .awaitExit] else []

def childEvents (secret : String) : Launch → List Event
  | .refused _ => []
  | .started child => inputEvents child secret ++ fateEvents child

def outcome : Launch → Except Problem Child
  | .refused fault => .error (if fault.isStream then .notStarted fault else .unhandled fault)
  | .started child =>
      match child.fault? with
      | none => .ok child
      | some fault => .error (if fault.isSystem then .noHandOver fault else .unhandled fault)

theorem perform_eq (launch : Launch) (command : List String) (secret : String) :
    launch.perform command secret =
      ⟨.launch command :: launch.childEvents secret, launch.outcome⟩ := by
  cases launch with
  | refused fault => rfl
  | started child =>
      cases broken : child.fault? with
      | none => simp [perform_handedOver broken, childEvents, fateEvents, outcome, broken]
      | some fault =>
          cases handled : fault.isSystem with
          | true =>
              simp [perform_givenUp broken handled, childEvents, fateEvents, outcome, broken,
                handled]
          | false =>
              simp [perform_unhandled broken handled, childEvents, fateEvents, outcome, broken,
                handled]

theorem filterMap_perform {α : Type} {pick : Event → Option α}
    (logs : ∀ level message, pick (.log level message) = none) (closing : pick .closeInput = none)
    (killing : pick .kill = none) (awaiting : pick .awaitExit = none) (launch : Launch)
    (command : List String) (secret : String) :
    (launch.perform command secret).events.filterMap pick =
      (pick (.launch command)).toList ++ match launch with
        | .refused _ => []
        | .started _ => (pick (.handOver (Secret.handOver secret))).toList := by
  rw [perform_eq, List.filterMap_cons]
  cases launch with
  | refused fault => cases pick (.launch command) <;> rfl
  | started child =>
      have input : (inputEvents child secret).filterMap pick =
          (pick (.handOver (Secret.handOver secret))).toList := by
        unfold inputEvents
        cases picked : pick (.handOver (Secret.handOver secret)) <;> split <;>
          simp [picked, closing]
      have fate : (fateEvents child).filterMap pick = [] := by
        unfold fateEvents
        split
        · simp [ready, logs]
        · split <;> simp [givenUp, logs, killing, awaiting]
      rw [childEvents, List.filterMap_append, input, fate, List.append_nil]
      cases pick (.launch command) <;> rfl

theorem handedOver?_perform (launch : Launch) (command : List String) (secret : String) :
    (launch.perform command secret).events.filterMap Event.handedOver? =
      match launch with
      | .refused _ => []
      | .started _ => [Secret.handOver secret] := by
  rw [filterMap_perform (fun _ _ => rfl) rfl rfl rfl]
  rfl

end Launch

end Warden
