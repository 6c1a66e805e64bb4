import EntityScript.Text.Case

/-!
# Logs

A log keeps the messages of exactly one level; it is no threshold. The log of the level `none`
keeps nothing and says so.
-/

namespace EntityScript

/-! ### Levels -/

/-- The level of a message, or the level that a log keeps. -/
inductive LogLevel where
  | none
  | exception
  | information
  | verbose
deriving DecidableEq, Repr, Inhabited

/-- A text that names no log level, its ASCII letters in lower case. -/
structure UnknownLogLevel where
  text : String
deriving DecidableEq, Repr

namespace UnknownLogLevel

/-- The message of the fault. -/
def message (e : UnknownLogLevel) : String :=
  "unknown logging level: " ++ e.text

end UnknownLogLevel

namespace LogLevel

/-- The name of a level. -/
def name : LogLevel → String
  | none => "None"
  | exception => "Exception"
  | information => "Information"
  | verbose => "Verbose"

/-- All levels. -/
def all : List LogLevel :=
  [none, exception, information, verbose]

/-- The level of exactly this name. -/
def ofName? (s : String) : Option LogLevel :=
  all.find? (·.name == s)

/-- Every level is read back from its name. -/
theorem ofName?_name (l : LogLevel) : ofName? l.name = some l := by
  cases l <;> decide

/-- The level that a user names, in any case of ASCII letters and with a short form. -/
def parse (s : String) : Except UnknownLogLevel LogLevel :=
  let t := Text.asciiLower s
  if t = "none" then .ok none
  else if t = "exception" then .ok exception
  else if t = "information" ∨ t = "info" then .ok information
  else if t = "verbose" then .ok verbose
  else .error ⟨t⟩

end LogLevel

/-! ### Logs -/

/-- A message at a level. -/
structure LogRecord where
  level : LogLevel
  message : String
deriving DecidableEq, Repr

namespace LogRecord

/-- The line of a record. -/
def line (r : LogRecord) : String :=
  r.level.name ++ ": " ++ r.message ++ "\n"

end LogRecord

/-- The text kept so far, and the level whose messages are kept. -/
structure Log where
  level : LogLevel
  text : String
deriving DecidableEq, Repr, Inhabited

namespace Log

/-- The text with which a log begins. -/
def heading : LogLevel → String
  | .none => "Logging has been disabled.\n"
  | _ => ""

/-- The log in which nothing has been recorded. -/
def start (level : LogLevel) : Log :=
  ⟨level, heading level⟩

/-- A log of the level keeps the record. -/
def keeps (level : LogLevel) (r : LogRecord) : Bool :=
  r.level != .none && r.level == level

/-- The log after a record. -/
def record (log : Log) (r : LogRecord) : Log :=
  if keeps log.level r then { log with text := log.text ++ r.line } else log

/-- The log after several records. -/
def recordAll (log : Log) (rs : List LogRecord) : Log :=
  rs.foldl record log

end Log

end EntityScript
