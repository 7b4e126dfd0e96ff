import Archimate.Dictionary
import Archimate.Json

namespace Archimate

inductive LogLevel where
  | warning
  | error
deriving DecidableEq, Repr

def LogLevel.name : LogLevel → String
  | .warning => "WARNING"
  | .error => "ERROR"

/-- A detail of a record: a value, or a time that is filled in when the record is written. -/
inductive LogDetail where
  | value (json : Json)
  | timeOfWriting
  | timeOfFailure

structure LogRecord where
  level : LogLevel
  message : Text
  details : Dictionary Text LogDetail := .empty

/-- A result with the log records that were written before it was there. -/
structure Logged (α : Type) where
  value : α
  logs : List LogRecord

namespace Logged

instance : Monad Logged where
  pure a := ⟨a, []⟩
  bind x f :=
    let y := f x.value
    ⟨y.value, x.logs ++ y.logs⟩

def note (record : LogRecord) : Logged Unit := ⟨(), [record]⟩

end Logged

end Archimate
