import EntityScript.Config.Json
import EntityScript.Config.Yaml
import EntityScript.Files.Path

/-!
# Configuration files

The extension of a configuration file says in which format it is. A relative template path in it is
taken from the directory of the file.
-/

namespace EntityScript

/-- The format of a configuration. -/
inductive ConfigFormat where
  | json
  | yaml
deriving DecidableEq, Repr

/-- Why a text is no configuration. -/
inductive ConfigFault where
  | json (f : Json.Fault)
  | yaml
deriving DecidableEq, Repr

namespace ConfigFault

/-- The message of a fault, without what the reader of the format has to say. -/
def message : ConfigFault → String
  | json _ => "invalid JSON configuration: "
  | yaml => "invalid YAML configuration: "

end ConfigFault

namespace ConfigFormat

/-- The format that an extension stands for; a file without one is YAML. -/
def ofExtension? : Option String → Option ConfigFormat
  | some "json" => some json
  | some "yaml" | some "yml" | none => some yaml
  | some _ => none

/-- Reads a configuration in a format. -/
def read (f : ConfigFormat) (s : String) : Except ConfigFault Config :=
  match f with
  | json => (Config.ofJson s).mapError .json
  | yaml =>
    match Config.ofYaml s with
    | some c => .ok c
    | none => .error .yaml

end ConfigFormat

namespace Config

/-- The configuration with its template path taken from the directory of the file at `path`. -/
def relativeTo (c : Config) (path : String) : Config :=
  if Path.isAbsolute c.scriptTemplate then c
  else match Path.parent? path with
    | none => c
    | some directory => { c with scriptTemplate := Path.join directory c.scriptTemplate }

end Config

end EntityScript
