import ApiClasses.Text.Alphanumeric
import ApiClasses.Text.LetterCase

/-!
# Identifiers from free-form names

Names in a document are arbitrary keys; names in generated code must be
identifiers. There are two ways to an identifier: small letters with underscores
for members and modules, or capital initials for classes.

Both read a name once, from the left. What the small form does at a character
depends on the characters on both sides of it and on how the text written so far
ends: an underscore is only ever put after something else.
-/

namespace ApiClasses.Identifier

/-! ## Small letters with underscores -/

/-- Does a new word start at the capital `c`, between the characters `before`
and `after`? It does after a small letter or a digit, and at the last capital of
a run that a small letter follows: `HTTPMethod` is `HTTP`, `Method`. -/
def startsWord (before : Option Char) (c : Char) (after : Option Char) : Bool :=
  match before with
  | none => false
  | some b =>
    isCapital c && (isSmall b || b.isDigit || (isCapital b && after.any isSmall))

/-- An underscore after what is written so far, unless that is nothing or ends in
one. -/
def mark (written : List Char) : List Char :=
  if written.isEmpty || written.getLast? == some '_' then written else written ++ ['_']

/-- Writes the rest of a name after what is written so far. Separators are marked,
and so is the start of a word. -/
def scan (written : List Char) (before : Option Char) : List Char → List Char
  | [] => written
  | c :: cs =>
    if !isAlphanumeric c then scan (mark written) (some c) cs
    else if startsWord before c cs.head? then scan (mark written ++ small c) (some c) cs
    else scan (written ++ small c) (some c) cs

/-- Takes away the underscores at the end. -/
def dropMarks (written : List Char) : List Char :=
  (written.reverse.dropWhile (· == '_')).reverse

/-- The name in small letters, an underscore between any two words. -/
def snake (name : String) : String :=
  String.ofList (dropMarks (scan [] none name.toList))

/-! ## Capital initials -/

/-- The letters and numerals, the first one and every one after a separator in
its capital form. `initial` says whether the next one is such a first one. -/
def pascalChars (initial : Bool) : List Char → List Char
  | [] => []
  | c :: cs =>
    if !isAlphanumeric c then pascalChars true cs
    else if initial then capital c ++ pascalChars false cs
    else c :: pascalChars false cs

section PascalChars

variable {c : Char} {cs : List Char}

theorem pascalChars_separator (initial : Bool) (h : isAlphanumeric c = false) :
    pascalChars initial (c :: cs) = pascalChars true cs := by
  simp [pascalChars, h]

theorem pascalChars_initial (h : isAlphanumeric c = true) :
    pascalChars true (c :: cs) = capital c ++ pascalChars false cs := by
  simp [pascalChars, h]

theorem pascalChars_later (h : isAlphanumeric c = true) :
    pascalChars false (c :: cs) = c :: pascalChars false cs := by
  simp [pascalChars, h]

end PascalChars

/-- The name with its parts run together under capital initials. -/
def pascal (name : String) : String :=
  String.ofList (pascalChars true name.toList)

theorem toList_pascal (name : String) : (pascal name).toList = pascalChars true name.toList :=
  String.toList_ofList

/-! ## Names in the generated code -/

/-- Words the generated language keeps for itself; as a member name each needs
the raw marker `r#`. -/
def keywords : List String := [
  "as", "async", "await", "break", "const", "continue", "crate", "dyn", "else", "enum",
  "extern", "false", "fn", "for", "if", "impl", "in", "let", "loop", "match", "mod", "move",
  "mut", "pub", "ref", "return", "static", "struct", "super", "trait", "true", "type",
  "unsafe", "use", "where", "while", "abstract", "become", "box", "do", "final", "gen",
  "macro", "override", "priv", "try", "typeof", "unsized", "virtual", "yield"]

/-- Words that cannot carry the raw marker; they get an underscore at the end. -/
def unmarkable : List String := ["self", "Self", "crate", "super"]

/-- The raw marker. -/
def rawMarker : String := "r#"

/-- Does the text start with an ASCII digit? -/
def startsWithDigit (s : String) : Bool :=
  s.toList.head?.any Char.isDigit

/-- The class name for a name, if anything usable is left of it. -/
def forClass? (name : String) : Option String :=
  let base := pascal name
  if base.isEmpty then none
  else if startsWithDigit base then some ("_" ++ base)
  else some base

/-- A class name is the run-together form, with a mark in front of a digit. -/
theorem forClass?_eq_some {name className : String} (h : forClass? name = some className) :
    pascal name ≠ "" ∧
      ((startsWithDigit (pascal name) = true ∧ className = "_" ++ pascal name) ∨
        (startsWithDigit (pascal name) = false ∧ className = pascal name)) := by
  rw [forClass?] at h
  split at h
  · cases h
  · next hempty =>
    refine ⟨fun hnone => hempty (String.isEmpty_iff.mpr hnone), ?_⟩
    split at h
    · next hdigit => exact .inl ⟨hdigit, (Option.some.inj h).symm⟩
    · next hdigit => exact .inr ⟨Bool.eq_false_iff.mpr hdigit, (Option.some.inj h).symm⟩

/-- The member name for a name: a field, a method or a module can be called so. -/
def forMember (name : String) : String :=
  let base := snake name
  if base.isEmpty then "_"
  else if startsWithDigit base then "_" ++ base
  else if unmarkable.contains base then base ++ "_"
  else if keywords.contains base then rawMarker ++ base
  else base

/-- What becomes of a small form as a member name. -/
inductive Escaped (base : String) : String → Prop where
  /-- nothing is left of the name, and a mark stands for it -/
  | blank : base = "" → Escaped base "_"
  /-- a mark comes in front of a digit -/
  | digit : base ≠ "" → startsWithDigit base = true → Escaped base ("_" ++ base)
  /-- a mark comes after a word that cannot carry the raw marker -/
  | unmarkable : base ≠ "" → startsWithDigit base = false → base ∈ unmarkable →
      Escaped base (base ++ "_")
  /-- the raw marker comes before any other word that the language keeps -/
  | keyword : base ≠ "" → startsWithDigit base = false → base ∉ unmarkable → base ∈ keywords →
      Escaped base (rawMarker ++ base)
  /-- anything else stays as it is -/
  | plain : base ≠ "" → startsWithDigit base = false → base ∉ unmarkable → base ∉ keywords →
      Escaped base base

theorem escaped_forMember (name : String) : Escaped (snake name) (forMember name) := by
  rw [forMember]
  split
  · next hempty => exact .blank (String.isEmpty_iff.mp hempty)
  · next hempty =>
    have hbase : snake name ≠ "" := fun hnone => hempty (String.isEmpty_iff.mpr hnone)
    split
    · next hdigit => exact .digit hbase hdigit
    · next hdigit =>
      have hdigit : startsWithDigit (snake name) = false := Bool.eq_false_iff.mpr hdigit
      split
      · next hword => exact .unmarkable hbase hdigit (List.contains_iff_mem.mp hword)
      · next hword =>
        have hword : snake name ∉ unmarkable := fun hmem => hword (List.contains_iff_mem.mpr hmem)
        split
        · next hkept => exact .keyword hbase hdigit hword (List.contains_iff_mem.mp hkept)
        · next hkept =>
          exact .plain hbase hdigit hword fun hmem => hkept (List.contains_iff_mem.mpr hmem)

/-- The name of the module that holds what is declared inside a class. -/
def forModule (className : String) : String :=
  forMember className

/-- A member name without its raw marker. -/
def unmarked (name : String) : String :=
  match name.toList with
  | 'r' :: '#' :: rest => String.ofList rest
  | _ => name

end ApiClasses.Identifier
