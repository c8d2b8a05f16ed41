/-!
# Resources

A resource groups the endpoints of one part of a service and may hold further
resources.
-/

namespace ApiClasses

/-- Something a resource can be asked for. -/
structure Endpoint where
  /-- the key in the document -/
  name : String
  /-- the verb of the request -/
  verb : String
  /-- the path below the root of the service -/
  path : String := ""
  /-- the name of the top-level schema of the answer -/
  response : Option String := none
  deriving DecidableEq, Repr

/-- A resource with its endpoints and the resources below it. -/
structure Resource where
  /-- the key in the document -/
  name : String
  /-- the endpoints in document order -/
  endpoints : List Endpoint := []
  /-- the resources below it in document order -/
  resources : List Resource := []
  deriving Repr

namespace Resource

/-- Are there resources below it? -/
def hasResources (resource : Resource) : Bool := !resource.resources.isEmpty

mutual

/-- The resource and all below it, each before those below itself. -/
def walk : Resource → List Resource
  | resource@⟨_, _, below⟩ => resource :: walkAll below

/-- The walks of several resources, one after the other. -/
def walkAll : List Resource → List Resource
  | [] => []
  | resource :: rest => resource.walk ++ walkAll rest

end

theorem walkAll_eq_flatMap (resources : List Resource) :
    walkAll resources = resources.flatMap walk := by
  induction resources with
  | nil => rfl
  | cons resource rest ih => simp [walkAll, ih]

theorem walk_eq (resource : Resource) :
    resource.walk = resource :: resource.resources.flatMap walk := by
  obtain ⟨name, endpoints, below⟩ := resource
  rw [walk, walkAll_eq_flatMap]

end Resource

end ApiClasses
