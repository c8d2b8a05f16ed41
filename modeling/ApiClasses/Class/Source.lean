import ApiClasses.Class.Decl
import ApiClasses.Identifier
import ApiClasses.Text.Blank
import ApiClasses.Text.Quoted

/-!
# Source text of classes

A class is printed as a struct, followed by its methods, its traits and a module
that holds the classes declared inside it; so generated names have to be unique
on one level only. Where a type names one of those inner classes, the module's
name goes in front.

Text is built as a list of lines. A line knows how deep it stands; what is
printed inside something else is printed as if it stood alone and then moved in
as a whole, and empty lines have no depth to move.
-/

namespace ApiClasses

/-! ## Lines -/

/-- A line of source text. -/
inductive Line where
  /-- an empty line -/
  | blank
  /-- text at a depth -/
  | code (depth : Nat) (text : String)
  deriving DecidableEq, Repr

namespace Line

/-- What one level of depth puts in front. -/
def indent : String := "    "

/-- Some levels of depth. -/
def indents : Nat → String
  | 0 => ""
  | depth + 1 => indent ++ indents depth

/-- The line with its line feed. -/
def text : Line → String
  | blank => "\n"
  | code depth s => indents depth ++ s ++ "\n"

/-- The line one level further in. -/
def inside : Line → Line
  | blank => blank
  | code depth s => code (depth + 1) s

/-- The text of several lines. -/
def joined (lines : List Line) : String :=
  String.join (lines.map text)

@[simp] theorem text_inside_blank : blank.inside.text = "\n" := rfl

@[simp] theorem text_inside_code (depth : Nat) (s : String) :
    (code depth s).inside.text = indent ++ (code depth s).text := by
  simp [inside, text, indents, String.append_assoc]

end Line

/-! ## Types in a scope -/

/-- How a class spells base names: those of its inner classes get its module's
name in front. -/
def spelling (module : String) (inner : List String) (base : String) : String :=
  if inner.contains base then module ++ "::" ++ base else base

/-! ## Members -/

/-- The lines of a doc comment. -/
def docLines : Option String → List Line
  | none => []
  | some doc =>
    (textLines doc).map fun line =>
      if (trim line).isEmpty then .code 0 "///" else .code 0 ("/// " ++ trimEnd line)

/-- The lines of a field. -/
def ClassField.lines (spell : String → String) (field : ClassField) : List Line :=
  docLines field.doc ++
    (match field.wireName with
      | some wire => [.code 0 ("#[serde(rename = " ++ quote wire ++ ")]")]
      | none => []) ++
    [.code 0 ("pub " ++ field.name ++ ": " ++ field.type.textWith spell ++ ",")]

namespace ClassMethod

/-- The first line of a method. -/
def signature (spell : String → String) (method : ClassMethod) : String :=
  "pub fn " ++ method.name ++ "(&self" ++
    String.join (method.parameters.map fun p => ", " ++ p.name ++ ": " ++ p.type.textWith spell) ++
    ")" ++
    (match method.result with
      | some type => " -> " ++ type.textWith spell
      | none => "") ++
    " \x7b"

/-- The lines of a method. -/
def lines (spell : String → String) (method : ClassMethod) : List Line :=
  docLines method.doc ++
    .code 0 (method.signature spell) :: method.body.map (.code 1 ·) ++ [.code 0 "\x7d"]

end ClassMethod

/-! ## Classes -/

namespace ClassDecl

/-- The name of the module that holds the classes declared inside. -/
def moduleName (c : ClassDecl) : String := Identifier.forModule c.name

/-- How the members of the class spell base names. -/
def spell (c : ClassDecl) : String → String :=
  spelling c.moduleName (c.innerClasses.map (·.name))

/-- The lines of the struct. -/
def structLines (c : ClassDecl) : List Line :=
  let head :=
    (match c.visibility with
      | .shown => "pub "
      | .hidden => "") ++ "struct " ++ c.name
  if c.fields.isEmpty then [.code 0 (head ++ " \x7b\x7d"), .blank]
  else
    .code 0 (head ++ " \x7b") ::
      (c.fields.flatMap (·.lines c.spell)).map Line.inside ++ [.code 0 "\x7d", .blank]

/-- The lines of the methods, if there are any. -/
def methodLines (c : ClassDecl) : List Line :=
  if c.methods.isEmpty then []
  else
    .code 0 ("impl " ++ c.name ++ " \x7b") ::
      ([Line.blank].intercalate (c.methods.map (·.lines c.spell))).map Line.inside ++
      [.code 0 "\x7d", .blank]

/-- The lines of the traits. -/
def traitLines (c : ClassDecl) : List Line :=
  c.traits.flatMap fun type =>
    [.code 0 ("impl " ++ type.text ++ " for " ++ c.name ++ " \x7b\x7d"), .blank]

/-- The lines of the class, up to the module of the classes inside. -/
def ownLines (c : ClassDecl) : List Line :=
  docLines c.doc ++ c.attributes.map (fun a => .code 0 ("#[" ++ a ++ "]")) ++
    c.structLines ++ c.methodLines ++ c.traitLines

/-- The lines of the module, around the lines of the classes inside. -/
def moduleLines (c : ClassDecl) (inner : List Line) : List Line :=
  if c.innerClasses.isEmpty then []
  else
    .code 0 ("/// Nested types of [`" ++ c.name ++ "`].") ::
      .code 0 ("pub mod " ++ c.moduleName ++ " \x7b") ::
      (.code 0 "use super::*;" :: .blank :: inner).map Line.inside ++ [.code 0 "\x7d", .blank]

mutual

/-- The lines of the class and of everything declared inside. -/
def lines : ClassDecl → List Line
  | c@⟨_, _, _, _, _, members⟩ => c.ownLines ++ c.moduleLines (innerLines members)

/-- The lines of the classes among some members. -/
def innerLines : List (Member ClassDecl) → List Line
  | [] => []
  | .inner c :: rest => c.lines ++ innerLines rest
  | .field _ :: rest => innerLines rest
  | .method _ :: rest => innerLines rest

end

/-- The lines of inner classes are those of the classes one after the other. -/
theorem innerLines_eq_flatMap (members : List (Member ClassDecl)) :
    innerLines members = (members.filterMap Member.inner?).flatMap lines := by
  induction members with
  | nil => rfl
  | cons member rest ih =>
    cases member <;> simp [innerLines, List.filterMap_cons, Member.inner?, ih]

theorem lines_eq (c : ClassDecl) :
    c.lines = c.ownLines ++ c.moduleLines (c.innerClasses.flatMap lines) := by
  obtain ⟨name, doc, visibility, attributes, traits, members⟩ := c
  rw [lines, innerLines_eq_flatMap]
  rfl

/-- The source text of the class. -/
def source (c : ClassDecl) : String := Line.joined c.lines

end ClassDecl

/-- The source text of several classes, one after the other. -/
def sourceOfAll (classes : List ClassDecl) : String :=
  String.join (classes.map (·.source))

end ApiClasses
