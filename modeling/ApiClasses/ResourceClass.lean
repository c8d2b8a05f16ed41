import ApiClasses.Settings
import ApiClasses.Decoration
import ApiClasses.Identifier

/-!
# Resource classes

One class for a resource, with the classes of the resources below it inside.
Resources form a plain tree, so nothing has to be named ahead of time.
-/

namespace ApiClasses

/-- What the resource classes of a service are generated with. -/
structure ResourceClasses where
  /-- the name of the service -/
  service : String
  /-- the decorators in the order they work -/
  decorators : List ResourceDecorator
  /-- what names are put together from -/
  settings : Settings := {}

namespace ResourceClasses

/-- The class name of a resource. -/
def className (generator : ResourceClasses) (name : String) : Except GenerationError String :=
  match Identifier.forClass? name with
  | none => .error (.misuse (.unnamedResource name))
  | some base => .ok (generator.settings.resourceName base)

/-- Applies the decorators one after the other. -/
def decorated (generator : ResourceClasses) (path : String) (resource : Resource)
    (c : ClassDecl) : Except GenerationError ClassDecl :=
  match generator.decorators.foldlM
      (fun c decorator => decorator.decorate resource ⟨generator.service, path⟩ c) c with
  | .ok c => .ok c
  | .error error => .error (.decoration error)

mutual

/-- The class of the resource that a path leads to. -/
def classAt (generator : ResourceClasses) (path : String) :
    Resource → Except GenerationError ClassDecl
  | resource@⟨_, _, below⟩ => do
    let name ← generator.className resource.name
    let c ← generator.decorated path resource { name }
    return c.addInner (← generator.classesBelow path below)

/-- The classes of the resources below a path. -/
def classesBelow (generator : ResourceClasses) (path : String) :
    List Resource → Except GenerationError (List ClassDecl)
  | [] => .ok []
  | resource :: rest => do
    let c ← generator.classAt (path ++ "." ++ resource.name) resource
    return c :: (← generator.classesBelow path rest)

end

/-- The class of a top-level resource. -/
def classDecl (generator : ResourceClasses) (resource : Resource) :
    Except GenerationError ClassDecl :=
  generator.classAt resource.name resource

end ResourceClasses

end ApiClasses
