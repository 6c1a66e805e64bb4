import EntityScript.Generation.Log

/-!
# Parameters

What the arguments of a command line can set: switches, options that take a value, and the values
that stand alone. Each subcommand has its parameters, some of which must be given.
-/

namespace EntityScript

namespace Command

/-- A parameter of the command line. -/
inductive Parameter where
  | verbose
  | help
  | version
  | metadata
  | config
  | template
  | output
  | log
  | loggingLevel
  | force
  /-- The template to be checked, which stands alone. -/
  | file
deriving DecidableEq, Repr

namespace Parameter

/-- The long name, which stands after two dashes; a value that stands alone has none. -/
def long? : Parameter → Option String
  | verbose => some "verbose"
  | help => some "help"
  | version => some "version"
  | metadata => some "metadata"
  | config => some "config"
  | template => some "template"
  | output => some "output"
  | log => some "log"
  | loggingLevel => some "logging-level"
  | force => some "force"
  | file => none

/-- The short name, which stands after one dash. -/
def short? : Parameter → Option Char
  | verbose => some 'v'
  | help => some 'h'
  | version => some 'V'
  | metadata => some 'm'
  | config => some 'c'
  | template => some 't'
  | output => some 'o'
  | log | loggingLevel | force | file => none

/-- The parameter has a value. -/
def takesValue : Parameter → Bool
  | verbose | help | version | force => false
  | _ => true

end Parameter

/-- A subcommand. -/
inductive Subcommand where
  | generate
  | init
  | check
deriving DecidableEq, Repr

namespace Subcommand

/-- The name of a subcommand. -/
def name : Subcommand → String
  | generate => "generate"
  | init => "init"
  | check => "check"

/-- All subcommands. -/
def all : List Subcommand :=
  [generate, init, check]

/-- The subcommand of a name. -/
def ofName? (s : String) : Option Subcommand :=
  all.find? (·.name == s)

end Subcommand

/-- What a command line, or the part of it after a subcommand, may hold. -/
structure Grammar where
  /-- The parameters with names. -/
  parameters : List Parameter
  /-- The value that stands alone. -/
  positional : Option Parameter := none
  /-- The names of the subcommands. -/
  subcommands : List String := []
  /-- The parameters that must be given. -/
  required : List Parameter := []

namespace Grammar

/-- The name of the subcommand that asks for help. -/
def helpName : String :=
  "help"

/-- The command line as a whole. -/
def whole : Grammar where
  parameters := [.verbose, .help, .version]
  subcommands := helpName :: Subcommand.all.map Subcommand.name

/-- What stands after a subcommand. -/
def ofSubcommand : Subcommand → Grammar
  | .generate => {
      parameters :=
        [.verbose, .help, .metadata, .config, .template, .output, .log, .loggingLevel]
      required := [.metadata] }
  | .init => { parameters := [.verbose, .help, .output, .force] }
  | .check => {
      parameters := [.verbose, .help]
      positional := some .file
      required := [.file] }

/-- The parameter of a long name. -/
def ofLong? (g : Grammar) (name : String) : Option Parameter :=
  g.parameters.find? (·.long? == some name)

/-- The parameter of a short name. -/
def ofShort? (g : Grammar) (c : Char) : Option Parameter :=
  g.parameters.find? (·.short? == some c)

end Grammar

end Command

end EntityScript
