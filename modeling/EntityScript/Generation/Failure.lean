import EntityScript.Files.Error
import EntityScript.Template.Document
import EntityScript.Template.Slug

/-!
# Failures

Why a run gives no output: its template cannot be had, a slug asks for a property that its record
does not have, or someone raised the cancel flag.
-/

namespace EntityScript

open Template (DocumentFault Spelling)

/-- Why a run gives no output. -/
inductive Failure where
  | templateNotFound (path : String) (cause : FileError)
  /-- The text is no template; `origin` says where it is from. -/
  | invalidTemplate (origin : String) (fault : DocumentFault)
  | slugResolution (slug : Spelling)
  /-- The flag was up before this entity. -/
  | cancelled (logicalName : String)
deriving DecidableEq, Repr

namespace Failure

/-- The message of a failure. -/
def message : Failure → String
  | templateNotFound path _ => "template not found: " ++ path
  | invalidTemplate origin fault => "invalid template " ++ origin ++ ": " ++ fault.message
  | slugResolution slug =>
    "unknown " ++ slug.scope.name ++ " property '" ++ slug.property ++ "' in slug '" ++
      String.ofList slug.toList ++ "'"
  | cancelled logicalName => "generation cancelled before entity '" ++ logicalName ++ "'"

end Failure

namespace Template

/-- The origin of a template that is not from a file. -/
def inlineOrigin : String :=
  "<inline>"

/-- Reads a template that stands for itself. -/
def Document.ofText (s : String) : Except Failure Document :=
  (Document.parse s).mapError (.invalidTemplate inlineOrigin)

/-- Reads a template from what reading its file gave. -/
def Document.ofFile (path : String) (content : Except FileError String) :
    Except Failure Document :=
  match content with
  | .error cause => .error (.templateNotFound path cause)
  | .ok s => (Document.parse s).mapError (.invalidTemplate path)

end Template

end EntityScript
