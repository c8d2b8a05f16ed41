import ApiClasses.Document.Resource
import ApiClasses.Schema.Arena

/-!
# Documents

A document is a service name, an arena of schemas with the names of those at the
top level, and a forest of resources. A document may be loaded from text or put
together by hand; in the second case nothing keeps its ids inside the arena.
-/

namespace ApiClasses

/-- The description of a service. -/
structure Document where
  /-- the name of the service -/
  name : String := ""
  /-- all schemas -/
  arena : Arena := {}
  /-- the schemas at the top level, by name, in order -/
  schemas : List (String × NodeId) := []
  /-- the resources at the top level, in order -/
  resources : List Resource := []

namespace Document

/-- The id of the first top-level schema with a name. -/
def schema? (document : Document) (name : String) : Option NodeId :=
  (document.schemas.find? (·.1 == name)).map (·.2)

/-- The first top-level schema with a name, if its id is in the arena. -/
def get? (document : Document) (name : String) : Option (Schema document.arena) :=
  (document.schema? name).bind document.arena.get?

/-- Is there a top-level schema with this name? -/
def hasSchema (document : Document) (name : String) : Bool :=
  (document.schema? name).isSome

end Document

end ApiClasses
