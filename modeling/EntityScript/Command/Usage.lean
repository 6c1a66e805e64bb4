import EntityScript.Command.Parameter

/-!
# Command lines

Arguments are read from left to right. An option waits for its value until the next argument, and
its value is looked at when the next option begins; so of several faults the one is found that
comes first in this order. A request for help or the version ends the reading as a fault does.
-/

namespace EntityScript

namespace Command

/-! ### Faults -/

/-- Why a command line gives nothing to run. -/
inductive UsageFault where
  | missingRequiredArgument
  | unknownArgument
  | invalidSubcommand
  | missingSubcommand
  /-- A value is missing or empty. -/
  | invalidValue
  | valueValidation
  /-- A parameter is given twice. -/
  | argumentConflict
  | tooManyValues
  | displayHelp
  | displayVersion
  /-- Nothing is given at all. -/
  | displayHelpOnMissingArgumentOrSubcommand
deriving DecidableEq, Repr

namespace UsageFault

/-- The name of a fault. -/
def name : UsageFault → String
  | missingRequiredArgument => "MissingRequiredArgument"
  | unknownArgument => "UnknownArgument"
  | invalidSubcommand => "InvalidSubcommand"
  | missingSubcommand => "MissingSubcommand"
  | invalidValue => "InvalidValue"
  | valueValidation => "ValueValidation"
  | argumentConflict => "ArgumentConflict"
  | tooManyValues => "TooManyValues"
  | displayHelp => "DisplayHelp"
  | displayVersion => "DisplayVersion"
  | displayHelpOnMissingArgumentOrSubcommand => "DisplayHelpOnMissingArgumentOrSubcommand"

end UsageFault

/-! ### Values -/

/-- The value of a parameter. -/
inductive Setting where
  | on
  | path (s : String)
  | level (l : LogLevel)
deriving DecidableEq, Repr

/-- The value that a text gives to a parameter. -/
def Setting.ofText (p : Parameter) (s : String) : Except UsageFault Setting :=
  match p with
  | .loggingLevel =>
    match LogLevel.parse s with
    | .ok l => .ok (.level l)
    | .error _ => .error .valueValidation
  | _ => if s.isEmpty then .error .invalidValue else .ok (.path s)

/-- What has been given. -/
abbrev Settings := List (Parameter × Setting)

namespace Settings

/-- The path given for a parameter. -/
def path? (s : Settings) (p : Parameter) : Option String :=
  match s.lookup p with
  | some (.path x) => some x
  | _ => none

/-- The log level given for a parameter. -/
def level? (s : Settings) (p : Parameter) : Option LogLevel :=
  match s.lookup p with
  | some (.level l) => some l
  | _ => none

/-- The parameter is given. -/
def has (s : Settings) (p : Parameter) : Bool :=
  (s.lookup p).isSome

end Settings

/-! ### Reading arguments -/

/-- What has been read of a command line. -/
structure Progress where
  settings : Settings := []
  /-- The parameter whose value has not been looked at, and the value if there was one. -/
  pending : Option (Parameter × Option String) := none

namespace Progress

/-- Gives a parameter its value, or puts a switch on. -/
def set (settings : Settings) (p : Parameter) (value : Option String) :
    Except UsageFault Settings :=
  if p.takesValue && value.isNone then .error .invalidValue
  else if p = .help then .error .displayHelp
  else if p = .version then .error .displayVersion
  else if settings.has p then .error .argumentConflict
  else match value with
    | none => .ok (settings ++ [(p, .on)])
    | some s => do
      let x ← Setting.ofText p s
      .ok (settings ++ [(p, x)])

/-- Looks at the value that waits. -/
def resolve (g : Progress) : Except UsageFault Progress :=
  match g.pending with
  | none => .ok g
  | some (p, value) => do
    let settings ← set g.settings p value
    .ok ⟨settings, none⟩

/-- Gives a parameter a value that is written with it, or puts a switch on. -/
def give (g : Progress) (p : Parameter) (value : Option String) : Except UsageFault Progress := do
  let g ← g.resolve
  let settings ← set g.settings p value
  .ok ⟨settings, none⟩

/-- Makes a parameter wait for its value. -/
def await (g : Progress) (p : Parameter) (value : Option String) :
    Except UsageFault Progress := do
  let g ← g.resolve
  .ok { g with pending := some (p, value) }

/-- The parameter that waits gets its value. -/
def supply (g : Progress) (value : String) : Progress :=
  { g with pending := g.pending.map fun (p, _) => (p, some value) }

end Progress

/-- An argument by its form. -/
inductive Argument where
  /-- Two dashes, after which everything stands alone. -/
  | escape
  | long (name : String) (value : Option String)
  | short (letters : List Char)
  | word

namespace Argument

/-- The form of an argument. -/
def of (s : String) : Argument :=
  match s.toList with
  | ['-', '-'] => escape
  | '-' :: '-' :: rest =>
    let name := String.ofList (rest.takeWhile (· != '='))
    match rest.dropWhile (· != '=') with
    | [] => long name none
    | _ :: value => long name (some (String.ofList value))
  | ['-'] => word
  | '-' :: letters => short letters
  | _ => word

end Argument

/-- Reads a long name, and says whether a value is due. -/
def readLong (g : Grammar) (p : Progress) (name : String) (value : Option String) :
    Except UsageFault (Progress × Bool) := do
  match g.ofLong? name with
  | none => .error .unknownArgument
  | some x =>
    if !x.takesValue && value.isSome then .error .tooManyValues
    else if x.takesValue && value.isNone then .ok (← p.await x none, true)
    else .ok (← p.give x value, false)

/-- Reads the letters of short names, and says whether a value is due. The value of an option may
follow its letter. -/
def readShort (g : Grammar) (p : Progress) : List Char → Except UsageFault (Progress × Bool)
  | [] => .ok (p, false)
  | c :: letters => do
    match g.ofShort? c with
    | none => .error .unknownArgument
    | some x =>
      if !x.takesValue then readShort g (← p.give x none) letters
      else match letters with
        | [] => .ok (← p.await x none, true)
        | '=' :: value => .ok (← p.give x (some (String.ofList value)), false)
        | value => .ok (← p.give x (some (String.ofList value)), false)

/-- The fault of a word for which there is no place. -/
def misplaced (g : Grammar) (escaped : Bool) (s : String) : UsageFault :=
  if g.subcommands.isEmpty || (escaped && g.subcommands.contains s) then .unknownArgument
  else .invalidSubcommand

/-- Reads arguments up to the name of a subcommand; gives that name and the arguments after it. A
value is `due` for the option before, and after the escape everything stands alone. -/
def readArguments (g : Grammar) (positional : Option Parameter) (due escaped : Bool)
    (p : Progress) : List String → Except UsageFault (Settings × Option (String × List String))
  | [] => do
    let p ← p.resolve
    .ok (p.settings, none)
  | s :: rest => do
    -- The name of a subcommand ends these arguments; where a value is due it is taken for that
    -- value.
    if !escaped && !due && g.subcommands.contains s then
      let p ← p.resolve
      .ok (p.settings, some (s, rest))
    else
      match escaped, Argument.of s with
      | false, .escape => readArguments g positional due true p rest
      | false, .long name value =>
        let (p, due) ← readLong g p name value
        readArguments g positional due false p rest
      | false, .short letters =>
        let (p, due) ← readShort g p letters
        readArguments g positional due false p rest
      | _, _ =>
        -- A word by itself: the value of the option before, or a positional argument, of which
        -- there is at most one.
        if due && !escaped then readArguments g positional false false (p.supply s) rest
        else match positional with
          | some x => readArguments g none false escaped (← p.await x (some s)) rest
          | none => .error (misplaced g escaped s)

/-! ### Command lines -/

/-- What the generating command is told. -/
structure GenerateArguments where
  metadata : String
  config : Option String := none
  template : Option String := none
  output : Option String := none
  log : Option String := none
  loggingLevel : Option LogLevel := none
deriving DecidableEq, Repr

/-- A command with what it is told. -/
inductive Task where
  | generate (a : GenerateArguments)
  | init (output : Option String) (force : Bool)
  | check (template : String)
deriving DecidableEq, Repr

/-- A command line. -/
structure CommandLine where
  verbose : Bool
  task : Task
deriving DecidableEq, Repr

/-- The request for help on the subcommand of these names. -/
def helpFault : List String → UsageFault
  | [] => .displayHelp
  | [name] => if Grammar.whole.subcommands.contains name then .displayHelp else .invalidSubcommand
  | _ => .invalidSubcommand

/-- The task of a subcommand, given its settings. -/
def Task.of (c : Subcommand) (s : Settings) : Except UsageFault Task :=
  if (Grammar.ofSubcommand c).required.any (!s.has ·) then .error .missingRequiredArgument
  else match c with
    | .generate => .ok (.generate {
        metadata := (s.path? .metadata).getD ""
        config := s.path? .config
        template := s.path? .template
        output := s.path? .output
        log := s.path? .log
        loggingLevel := s.level? .loggingLevel })
    | .init => .ok (.init (s.path? .output) (s.has .force))
    | .check => .ok (.check ((s.path? .file).getD ""))

/-- Reads a command line, without the name of the program. -/
def CommandLine.parse (arguments : List String) : Except UsageFault CommandLine := do
  let (settings, subcommand) ← readArguments .whole none false false {} arguments
  match subcommand with
  | none =>
    .error (if settings.isEmpty then .displayHelpOnMissingArgumentOrSubcommand
      else .missingSubcommand)
  | some (name, rest) =>
    match Subcommand.ofName? name with
    | none => .error (helpFault rest)
    | some c =>
      let g := Grammar.ofSubcommand c
      let (own, _) ← readArguments g g.positional false false {} rest
      let task ← Task.of c own
      .ok ⟨settings.has .verbose || own.has .verbose, task⟩

end Command

end EntityScript
