/-!
# Settings of a generation run

What the names of generated classes are put together from, and which traits
every schema class derives.
-/

namespace ApiClasses

/-- The settings of a run. -/
structure Settings where
  /-- what every name of a class inside another one starts with -/
  nestedStem : String := "NestedClass"
  /-- what every resource class name ends with -/
  resourceEnding : String := "Resource"
  /-- the traits that schema classes derive -/
  derives : List String := ["Debug", "Clone", "Serialize", "Deserialize"]
  deriving DecidableEq, Repr, Inhabited

namespace Settings

/-- The name of the class with a number inside another one; the trail tells where
in the tree that other one is. -/
def nestedName (settings : Settings) (trail : String) (number : Nat) : String :=
  settings.nestedStem ++ trail ++ toString number

/-- The name of the class of a resource whose own name gives the base. -/
def resourceName (settings : Settings) (base : String) : String :=
  base ++ settings.resourceEnding

end Settings

end ApiClasses
