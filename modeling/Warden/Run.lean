import Warden.Event
import Warden.Fault

/-!
Runs: the events that a piece of the program leaves behind, and the value or the failure in which it
ends. Events that came before a failure stay.
-/

namespace Warden

structure Run (ε α : Type) where
  events : List Event
  result : Except ε α

namespace Run

variable {ε α β : Type}

def andThen (run : Run ε α) (next : α → Run ε β) : Run ε β :=
  match run.result with
  | .ok value => ⟨run.events ++ (next value).events, (next value).result⟩
  | .error failure => ⟨run.events, .error failure⟩

instance : Monad (Run ε) where
  pure value := ⟨[], .ok value⟩
  bind := andThen

theorem andThen_of_ok {run : Run ε α} {value : α} (next : α → Run ε β)
    (succeeded : run.result = .ok value) :
    run.andThen next = ⟨run.events ++ (next value).events, (next value).result⟩ := by
  simp only [andThen, succeeded]

theorem andThen_of_error {run : Run ε α} {failure : ε} (next : α → Run ε β)
    (failed : run.result = .error failure) :
    run.andThen next = ⟨run.events, .error failure⟩ := by
  simp only [andThen, failed]

def emit (event : Event) : Run ε Unit :=
  ⟨[event], .ok ()⟩

def log (level : Level) (message : String) : Run ε Unit :=
  emit (.log level message)

def fail (failure : ε) : Run ε α :=
  ⟨[], .error failure⟩

def followedBy (run : Run ε α) (events : List Event) : Run ε α :=
  ⟨run.events ++ events, run.result⟩

def ofExcept (result : Except ε α) : Run ε α :=
  ⟨[], result⟩

section MapError

variable {φ : Type} {change : ε → φ} {value : α}

@[simp] theorem mapError_ok : (Except.ok value : Except ε α).mapError change = .ok value := rfl

@[simp] theorem mapError_error {failure : ε} :
    (Except.error failure : Except ε α).mapError change = .error (change failure) := rfl

theorem mapError_eq_ok {answer : Except ε α} :
    answer.mapError change = .ok value ↔ answer = .ok value := by
  cases answer <;> simp

end MapError

def mapFailure {φ : Type} (change : ε → φ) (run : Run ε α) : Run φ α :=
  ⟨run.events, run.result.mapError change⟩

end Run

end Warden
