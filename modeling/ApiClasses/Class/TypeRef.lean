/-!
# Types by name

A type is named by its base and its arguments. There is one way of writing a
type, with the spelling of base names left open, so that text for a reader and
text for a scope cannot drift apart.
-/

namespace ApiClasses

/-- A type by its name and its arguments. -/
structure TypeRef where
  /-- the name of the type itself -/
  base : String
  /-- the types it is applied to -/
  arguments : List TypeRef := []
  deriving Repr, Inhabited

namespace TypeRef

/-! ## Equality -/

mutual

/-- Types are equal if their names and their arguments are. -/
def decEq : (a b : TypeRef) → Decidable (a = b)
  | ⟨base₁, arguments₁⟩, ⟨base₂, arguments₂⟩ =>
    match instDecidableEqString base₁ base₂, decEqAll arguments₁ arguments₂ with
    | .isTrue h₁, .isTrue h₂ => .isTrue (by rw [h₁, h₂])
    | .isFalse h, _ => .isFalse fun he => h (congrArg base he)
    | _, .isFalse h => .isFalse fun he => h (congrArg arguments he)

/-- Lists of types are compared one by one. -/
def decEqAll : (as bs : List TypeRef) → Decidable (as = bs)
  | [], [] => .isTrue rfl
  | [], _ :: _ => .isFalse nofun
  | _ :: _, [] => .isFalse nofun
  | a :: as, b :: bs =>
    match decEq a b, decEqAll as bs with
    | .isTrue h₁, .isTrue h₂ => .isTrue (by rw [h₁, h₂])
    | .isFalse h, _ => .isFalse fun he => h (List.cons.inj he).1
    | _, .isFalse h => .isFalse fun he => h (List.cons.inj he).2

end

instance : DecidableEq TypeRef := decEq

/-! ## Text -/

mutual

/-- The text of a type, its base names spelt by `spell`: arguments stand in angle
brackets after the base, separated by a comma and a space. -/
def textWith (spell : String → String) : TypeRef → String
  | ⟨base, []⟩ => spell base
  | ⟨base, argument :: rest⟩ =>
    spell base ++ "<" ++ textWith spell argument ++ textOfRest spell rest ++ ">"

/-- The arguments after the first, each after its separator. -/
def textOfRest (spell : String → String) : List TypeRef → String
  | [] => ""
  | argument :: rest => ", " ++ textWith spell argument ++ textOfRest spell rest

end

/-- The text of a type, base names as they are. -/
def text (type : TypeRef) : String := type.textWith id

end TypeRef

end ApiClasses
