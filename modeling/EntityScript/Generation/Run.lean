import EntityScript.Generation.Failure
import EntityScript.Generation.Log

/-!
# Runs

A run records messages and ends in a value or a failure. What is recorded does not depend on the
level of any log; a log takes its part of the records afterwards.
-/

namespace EntityScript

/-- The messages recorded, and the end of the run. -/
structure Run (α : Type) where
  records : List LogRecord
  outcome : Except Failure α

namespace Run

variable {α β : Type}

/-- The run that does nothing. -/
def pure (a : α) : Run α :=
  ⟨[], .ok a⟩

/-- The run that goes on where the first one ended in a value. -/
def bind (r : Run α) (f : α → Run β) : Run β :=
  match r.outcome with
  | .ok a => ⟨r.records ++ (f a).records, (f a).outcome⟩
  | .error e => ⟨r.records, .error e⟩

instance : Monad Run :=
  { pure, bind }

/-- The run that fails. -/
def fail (e : Failure) : Run α :=
  ⟨[], .error e⟩

/-- The run that records one message. -/
def record (level : LogLevel) (message : String) : Run Unit :=
  ⟨[⟨level, message⟩], .ok ()⟩

/-- The run that records several messages of one level. -/
def recordAll (level : LogLevel) (messages : List String) : Run Unit :=
  ⟨messages.map (⟨level, ·⟩), .ok ()⟩

/-- The run that has already ended. -/
def ofExcept (outcome : Except Failure α) : Run α :=
  ⟨[], outcome⟩

/-- The run that also records its failure. -/
def recordFailure (r : Run α) : Run α :=
  match r.outcome with
  | .ok _ => r
  | .error e => ⟨r.records ++ [⟨.exception, e.message⟩], .error e⟩

end Run

end EntityScript
