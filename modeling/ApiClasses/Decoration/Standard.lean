import ApiClasses.Settings
import ApiClasses.Decoration.Fields

/-!
# The standard decorators

What every schema class gets: the description as its doc comment, the traits it
derives, the mark of an answer for top-level classes, and a field for every
property.
-/

namespace ApiClasses.Decorator

/-- Takes over the description as the doc comment. -/
def doc : Decorator :=
  .everywhere "DocDecorator" fun schema c =>
    match schema.description with
    | some description => pure { c with doc := some (trim description) }
    | none => pure c

/-- Derives some traits, if there are any. -/
def derives (traits : List String) : Decorator :=
  .everywhere "DeriveDecorator" fun _ c =>
    if traits.isEmpty then pure c
    else pure (c.addAttribute ("derive(" ++ ", ".intercalate traits ++ ")"))

/-- The trait of classes that a request may be answered with. -/
def answerTrait : String := "DirectResponseSchema"

/-- Marks top-level classes with a trait, once. A request is never answered with a
class that stands inside another one. -/
def answerMark (traitName : String) : Decorator where
  name := "ResponseTraitDecorator"
  atTop := fun _ c =>
    if c.traits.contains ⟨traitName, []⟩ then pure c else pure (c.addTrait ⟨traitName, []⟩)

/-- What every schema class gets, in this order. -/
def standard (settings : Settings) : List Decorator :=
  [doc, derives settings.derives, answerMark answerTrait, fields]

end ApiClasses.Decorator
