import ApiClasses.Document
import ApiClasses.Failure
import ApiClasses.Json.Compact
import ApiClasses.Json.Pointer
import ApiClasses.Json.Reader
import ApiClasses.Text.LetterCase

/-!
# Loading a document

Schemas are told apart by their location, the JSON pointer that leads to them. A
location is loaded at most once, so everything that refers to it gets the same
id, and an id is reserved before the loader goes down into a schema, so a
reference back up finds it.

The loader goes down a value by recursion on the value itself. A reference may
jump anywhere, even to the whole document; for jumps the loader keeps the
locations whose references it is following. A location that comes up again while
it is being followed leads round in a circle and is refused. So are more open
jumps than there are locations: with that many, one must have come up twice.
-/

namespace ApiClasses.Loading

open Json (Members)
open Json.Pointer (child resolve?)

/-! ## What is known so far -/

/-- What the loader has built so far. -/
structure Progress where
  /-- the schemas so far -/
  arena : Arena := {}
  /-- the ids of the locations loaded so far, newest first -/
  known : List (String × NodeId) := []
  deriving DecidableEq

/-- A step of the loader. -/
abbrev Load := StateT Progress (Except LoadError)

namespace Progress

/-- The id of a location, if it is known. -/
def id? (progress : Progress) (location : String) : Option NodeId :=
  (progress.known.find? (·.1 == location)).map (·.2)

/-- Notes the id of a location. -/
def note (progress : Progress) (location : String) (id : NodeId) : Progress :=
  { progress with known := (location, id) :: progress.known }

@[simp] theorem id?_note_self (progress : Progress) (location : String) (id : NodeId) :
    (progress.note location id).id? location = some id := by
  simp [id?, note]

theorem id?_note_of_ne {progress : Progress} {location other : String} {id : NodeId}
    (h : location ≠ other) : (progress.note location id).id? other = progress.id? other := by
  simp [id?, note, h]

end Progress

/-- A fresh id for a location, noted at once; its node is still empty. -/
def reserve (location : String) : Load NodeId := fun progress =>
  let (id, arena) := progress.arena.alloc {}
  .ok (id, { progress with arena }.note location id)

/-- Fills a reserved id with its node. -/
def fill (id : NodeId) (node : Node) : Load Unit := fun progress =>
  .ok ((), { progress with arena := progress.arena.put id node })

/-! ## Locations and names -/

/-- Where the top-level schemas are. -/
def schemasLocation : String := "/schemas"

/-- Where the top-level resources are. -/
def resourcesLocation : String := "/resources"

/-- The location a reference leads to: what follows a number sign is a pointer;
anything else is the name of a top-level schema. -/
def target (reference : String) : String :=
  match reference.toList with
  | '#' :: pointer => String.ofList pointer
  | _ => child schemasLocation reference

/-- The name that a top-level schema has by its location. -/
def nameAtTop? (location : String) : Option String :=
  match schemasLocation.toList.isPrefixOf? location.toList with
  | some ('/' :: token) =>
    if token.contains '/' then none else some (Json.Pointer.unescape (String.ofList token))
  | _ => none

/-- The text under a key. -/
def textUnder (key : String) (members : Members) : Option String :=
  (members.get? key).bind Json.string?

/-- The name a schema carries: the one it has at the top level, else its own. -/
def ownName? (location : String) (members : Members) : Option String :=
  match nameAtTop? location with
  | some name => some name
  | none => textUnder "id" members

/-! ## Forms -/

/-- What a schema says about its values, before its children are known. -/
inductive Form where
  /-- a shape without children -/
  | plain (shape : Shape)
  /-- an array -/
  | array
  /-- an object -/
  | object

namespace Form

/-- The form a type name stands for. -/
def ofName? : String → Option Form
  | "any" => some (.plain .any)
  | "boolean" => some (.plain .boolean)
  | "integer" => some (.plain .integer)
  | "number" => some (.plain .number)
  | "string" => some (.plain .string)
  | "array" => some .array
  | "object" => some .object
  | _ => none

/-- The form of a schema without a type: what its other members suggest. -/
def suggested (members : Members) : Form :=
  if (members.get? "properties").isSome || (members.get? "additionalProperties").isSome then
    .object
  else if (members.get? "items").isSome then .array
  else .plain .any

/-- The form of the schema at a location. -/
def at? (location : String) (members : Members) : Except LoadError Form :=
  match members.get? "type" with
  | none => .ok (suggested members)
  | some (.string name) =>
    match ofName? name with
    | some form => .ok form
    | none => .error (.invalidValue location "type" name)
  | some other => .error (.invalidValue location "type" other.compact)

end Form

/-! ## Schemas -/

/-- How a reference is followed from the location it stands at. -/
abbrev Follow := (location reference : String) → Load NodeId

mutual

/-- Loads the schema at a location, unless the location is known. An object with
a reference is the schema the reference leads to; any other object is a schema of
its own. -/
def schema (follow : Follow) (location : String) : Json → Load NodeId
  | .object members => do
    match (← get).id? location with
    | some id => return id
    | none =>
      match Members.get? members "$ref" with
      | some (.string reference) =>
        let id ← follow location reference
        modify (·.note location id)
        return id
      | some other => throw (.invalidValue location "$ref" other.compact)
      | none =>
        let id ← reserve location
        let shape ←
          match ← Form.at? location members with
          | .plain shape => pure shape
          | .array => Shape.array <$> childUnder follow location "items" (fun _ => true) members
          | .object =>
            let properties ← declared follow location members
            let additional ←
              childUnder follow location "additionalProperties" (·.members?.isSome) members
            pure (.object properties additional)
        fill id ⟨ownName? location members, textUnder "description" members, shape⟩
        return id
  | other => do
    match (← get).id? location with
    | some id => return id
    | none => throw (.invalidValue location "schema" other.typeName)

/-- Loads the schema under a key, if there is one and it is wanted. -/
def childUnder (follow : Follow) (location key : String) (wanted : Json → Bool) :
    List (String × Json) → Load (Option NodeId)
  | [] => return none
  | (k, value) :: rest => do
    if k == key then
      if wanted value then return some (← schema follow (child location key) value)
      else return none
    else childUnder follow location key wanted rest

/-- Loads the declared properties, if there are any. -/
def declared (follow : Follow) (location : String) :
    List (String × Json) → Load (List Property)
  | [] => return []
  | (k, value) :: rest => do
    if k == "properties" then
      match value with
      | .object members => eachProperty follow (child location "properties") members
      | other => throw (.invalidValue location "properties" other.typeName)
    else declared follow location rest

/-- Loads every member as a property, in order. -/
def eachProperty (follow : Follow) (location : String) :
    List (String × Json) → Load (List Property)
  | [] => return []
  | (name, value) :: rest => do
    let id ← schema follow (child location name) value
    return ⟨name, id⟩ :: (← eachProperty follow location rest)

end

/-- Follows a reference: the place it leads to is loaded as a schema. `following`
holds the locations whose references are being followed already, and `jumps` is
how many more may be. -/
def reference (root : Json) (jumps : Nat) (following : List String) : Follow :=
  fun location text =>
    match resolve? root (target text) with
    | none => throw (.unresolvedReference location text)
    | some value =>
      match jumps with
      | 0 => throw (.invalidValue location "$ref" text)
      | jumps + 1 =>
        if following.contains location then throw (.invalidValue location "$ref" text)
        else schema (reference root jumps (location :: following)) (target text) value

/-- Loads the top-level schemas, in order. -/
def topLevel (root : Json) (members : Members) : Load (List (String × NodeId)) :=
  members.mapM fun (name, value) => do
    let follow := reference root (Json.Pointer.spellings root) []
    return (name, ← schema follow (child schemasLocation name) value)

/-- The schemas of a document, from the value under their key, with everything
that was built on the way. -/
def schemas (root : Json) : Option Json → Except LoadError (List (String × NodeId) × Progress)
  | none => .ok ([], {})
  | some (.object members) => (topLevel root members).run {}
  | some other => .error (.invalidValue schemasLocation "schemas" other.typeName)

/-! ## Resources -/

/-- The answer of an endpoint: the name in its response's reference. -/
def response? (value : Json) : Option String :=
  (value.get? "response").bind fun response => (response.get? "$ref").bind Json.string?

/-- Loads an endpoint. Its verb is written in capitals. -/
def endpoint (location name : String) (value : Json) : Except LoadError Endpoint :=
  match (value.get? "httpMethod").bind Json.string? with
  | none => .error (.missingField location "httpMethod")
  | some verb =>
    .ok ⟨name, capitals verb, ((value.get? "path").bind Json.string?).getD "", response? value⟩

/-- Loads the endpoints of a resource, if it has any. -/
def endpoints (location : String) : Option Json → Except LoadError (List Endpoint)
  | none => .ok []
  | some (.object members) =>
    members.mapM fun (name, value) => endpoint (child location name) name value
  | some other => .error (.invalidValue location "methods" other.typeName)

mutual

/-- Loads the resources at a location. -/
def resources (location : String) : Json → Except LoadError (List Resource)
  | .object members => eachResource location members
  | other => .error (.invalidValue location "resources" other.typeName)

/-- Loads every member as a resource, in order. -/
def eachResource (location : String) :
    List (String × Json) → Except LoadError (List Resource)
  | [] => .ok []
  | (name, .object members) :: rest => do
    let here := child location name
    let endpoints ← endpoints (child here "methods") (Members.get? members "methods")
    let below ← resourcesBelow here members
    return ⟨name, endpoints, below⟩ :: (← eachResource location rest)
  | (name, other) :: _ =>
    .error (.invalidValue (child location name) "resource" other.typeName)

/-- Loads the resources below a resource, if there are any. -/
def resourcesBelow (location : String) :
    List (String × Json) → Except LoadError (List Resource)
  | [] => .ok []
  | (k, value) :: rest =>
    if k == "resources" then resources (child location "resources") value
    else resourcesBelow location rest

end

/-- The resources of a document, from the value under their key. -/
def topResources : Option Json → Except LoadError (List Resource)
  | none => .ok []
  | some value => resources resourcesLocation value

/-! ## Documents -/

/-- Loads a document from a value: schemas first, then resources. -/
def document : Json → Except LoadError Document
  | root@(.object members) => do
    let (schemas, progress) ← schemas root (Members.get? members "schemas")
    let resources ← topResources (Members.get? members "resources")
    return ⟨(textUnder "name" members).getD "", progress.arena, schemas, resources⟩
  | other => .error (.invalidValue "" "document" other.typeName)

end ApiClasses.Loading

/-! ## Texts and files -/

namespace ApiClasses.Document

/-- Loads a document from text. -/
def load (text : String) : Except LoadError Document :=
  match Json.read text with
  | .ok root => Loading.document root
  | .error fault => .error (.malformed fault)

/-- The text of a file's contents, if there is a file and it holds text. -/
def textOf (contents : Option ByteArray) : Except ReadFailure String :=
  match contents with
  | none => .error .missing
  | some bytes =>
    match String.fromUTF8? bytes with
    | some text => .ok text
    | none => .error .notText

/-- Loads a document from the contents of a file. -/
def loadFile (contents : Option ByteArray) : Except LoadError Document :=
  match textOf contents with
  | .ok text => load text
  | .error failure => .error (.unreadable failure)

end ApiClasses.Document
