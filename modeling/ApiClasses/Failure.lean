import ApiClasses.Json.Fault
import ApiClasses.Schema.Arena

/-!
# Errors

Every stage has its own errors: reading and loading a document, checking a
loaded one, and generating classes. A later stage passes an earlier stage's
error on inside one of its own, and the wording shows which stage passed it on.
-/

namespace ApiClasses

/-! ## Loading -/

/-- Why a file could not be read. -/
inductive ReadFailure where
  /-- there is no such file -/
  | missing
  /-- the contents are not text -/
  | notText
  deriving DecidableEq, Repr

/-- The wording of a read failure. -/
def ReadFailure.message : ReadFailure → String
  | .missing => "No such file or directory (os error 2)"
  | .notText => "stream did not contain valid UTF-8"

/-- Why a document could not be loaded. Locations are JSON pointers. -/
inductive LoadError where
  /-- the text is no JSON -/
  | malformed (fault : Json.Fault)
  /-- a field that has to be there is not -/
  | missingField (location field : String)
  /-- a field holds something it must not -/
  | invalidValue (location field value : String)
  /-- a reference leads nowhere -/
  | unresolvedReference (location reference : String)
  /-- the file could not be read -/
  | unreadable (failure : ReadFailure)
  deriving DecidableEq, Repr

/-- The wording of a load error. -/
def LoadError.message : LoadError → String
  | .malformed fault => "JSON parsing error: " ++ fault.message
  | .missingField location field =>
    "missing required field '" ++ field ++ "' at '" ++ location ++ "'"
  | .invalidValue location field value =>
    "invalid value '" ++ value ++ "' for field '" ++ field ++ "' at '" ++ location ++ "'"
  | .unresolvedReference location reference =>
    "unresolved reference '" ++ reference ++ "' at '" ++ location ++ "'"
  | .unreadable failure => "IO error: " ++ failure.message

/-! ## Checking -/

/-- What a loaded document breaks. -/
inductive Violation where
  /-- the document has resources but its name gives no service name -/
  | serviceName (document : String)
  /-- a top-level schema is not in the arena -/
  | outsideArena (schema : String)
  /-- a top-level name gives no class name -/
  | noClassName (schema : String)
  /-- an earlier top-level name gives the same class name -/
  | classNameTaken (schema className : String)
  /-- anything else, in its own words -/
  | other (message : String)
  deriving DecidableEq, Repr

/-- The wording of a violation. -/
def Violation.message : Violation → String
  | .serviceName document =>
    "Document name '" ++ document ++ "' does not produce a service name"
  | .outsideArena schema => "Schema '" ++ schema ++ "' points outside the document arena"
  | .noClassName schema => "Schema name '" ++ schema ++ "' does not produce a class name"
  | .classNameTaken schema className =>
    "Schema '" ++ schema ++ "' produces class name '" ++ className ++ "' which is already taken"
  | .other message => message

/-- Why a document is refused. -/
inductive DocumentError where
  /-- it could not be loaded -/
  | load (error : LoadError)
  /-- two definitions of one kind share a name -/
  | duplicate (kind name : String)
  /-- a method answers with a schema that does not exist -/
  | unknownSchema (name referencedBy : String)
  /-- it breaks another rule -/
  | violation (broken : Violation)
  deriving DecidableEq, Repr

/-- The wording of a document error. -/
def DocumentError.message : DocumentError → String
  | .load error => "parse error: " ++ error.message
  | .duplicate kind name => "duplicate " ++ kind ++ " definition: '" ++ name ++ "'"
  | .unknownSchema name referencedBy =>
    "schema '" ++ name ++ "' not found (referenced by '" ++ referencedBy ++ "')"
  | .violation broken => "validation error: " ++ broken.message

/-! ## Generating -/

/-- A decorator that gave up, on which class and why. -/
structure DecorationError where
  /-- the decorator's name -/
  decorator : String
  /-- the class under decoration -/
  className : String
  /-- its reason -/
  reason : String
  deriving DecidableEq, Repr

/-- The wording of a decoration error. -/
def DecorationError.message (error : DecorationError) : String :=
  "decorator '" ++ error.decorator ++ "' failed on '" ++ error.className ++ "': " ++ error.reason

/-- An argument that a generator cannot work with. -/
inductive Misuse where
  /-- the schema is not in the arena -/
  | outsideArena (id : NodeId)
  /-- the schema's name gives no class name -/
  | unnamedSchema (id : NodeId)
  /-- a decorator asked for the class of a schema of another arena -/
  | foreignSchema (id : NodeId)
  /-- the resource's name gives no class name -/
  | unnamedResource (name : String)
  /-- anything else, in its own words -/
  | other (message : String)
  deriving DecidableEq, Repr

/-- The wording of a misuse. -/
def Misuse.message : Misuse → String
  | .outsideArena id => "schema " ++ id.label ++ " is not part of the arena"
  | .unnamedSchema id => "schema " ++ id.label ++ " has no usable class name"
  | .foreignSchema id => "schema " ++ id.label ++ " referenced from another document"
  | .unnamedResource name => "resource '" ++ name ++ "' has no usable class name"
  | .other message => message

/-- A result that cannot stand. -/
inductive Conflict where
  /-- two top-level classes share a name -/
  | classNameTwice (name : String)
  /-- anything else, in its own words -/
  | other (message : String)
  deriving DecidableEq, Repr

/-- The wording of a conflict. -/
def Conflict.message : Conflict → String
  | .classNameTwice name => "class name '" ++ name ++ "' is generated twice"
  | .other message => message

/-- Why no classes were generated. -/
inductive GenerationError where
  /-- the document could not be loaded -/
  | load (error : LoadError)
  /-- the document is refused -/
  | document (error : DocumentError)
  /-- the file could not be read -/
  | unreadable (failure : ReadFailure)
  /-- an argument is of no use -/
  | misuse (wrong : Misuse)
  /-- a decorator gave up -/
  | decoration (error : DecorationError)
  /-- the classes do not go together -/
  | conflict (clash : Conflict)
  deriving DecidableEq, Repr

/-- The wording of a generation error. A decorator speaks for itself. -/
def GenerationError.message : GenerationError → String
  | .load error => "schema parse error: " ++ error.message
  | .document error => "schema error: " ++ error.message
  | .unreadable failure => "IO error: " ++ failure.message
  | .misuse wrong => "invalid argument: " ++ wrong.message
  | .decoration error => error.message
  | .conflict clash => "generation error: " ++ clash.message

end ApiClasses
