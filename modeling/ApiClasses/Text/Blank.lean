import ApiClasses.Text.Span

/-!
# Blanks and lines

What counts as blank (the property White_Space), trimming, and cutting a text
into lines. A line feed ends a line and takes a carriage return before it along;
a carriage return elsewhere is a character like any other.
-/

namespace ApiClasses

/-! ## Blanks -/

/-- The blanks outside ASCII. -/
def blankSpans : List Span := [
  ⟨0x0085, 0x0085⟩, ⟨0x00A0, 0x00A0⟩, ⟨0x1680, 0x1680⟩, ⟨0x2000, 0x200A⟩, ⟨0x2028, 0x2029⟩,
  ⟨0x202F, 0x202F⟩, ⟨0x205F, 0x205F⟩, ⟨0x3000, 0x3000⟩]

/-- Is the character blank? Within ASCII: the space and the five controls from
the tab to the carriage return. -/
def isBlank (c : Char) : Bool :=
  if c.toNat < 0x80 then c == ' ' || (0x09 ≤ c.toNat && c.toNat ≤ 0x0D)
  else Span.within blankSpans c

/-- Every blank of the core library is one here. -/
theorem isBlank_of_isWhitespace {c : Char} (h : c.isWhitespace = true) : isBlank c = true := by
  simp only [Char.isWhitespace, Bool.or_eq_true, decide_eq_true_eq] at h
  rcases h with ((rfl | rfl) | rfl) | rfl <;> decide

/-- The characters without the blanks at their end. -/
def trimEndChars (cs : List Char) : List Char :=
  (cs.reverse.dropWhile isBlank).reverse

/-- The text without the blanks at its end. -/
def trimEnd (s : String) : String :=
  String.ofList (trimEndChars s.toList)

/-- The text without the blanks at either end. -/
def trim (s : String) : String :=
  String.ofList (trimEndChars (s.toList.dropWhile isBlank))

/-! ## Lines -/

/-- A line without its end: one carriage return before a line feed belongs to it. -/
def dropReturn (line : List Char) : List Char :=
  match line.reverse with
  | '\r' :: rest => rest.reverse
  | _ => line

/-- Cuts at every line feed. The list is never empty; its last entry is what
follows the last line feed. -/
def splitLines : List Char → List (List Char)
  | [] => [[]]
  | '\n' :: cs => [] :: splitLines cs
  | c :: cs =>
    match splitLines cs with
    | [] => [[c]]
    | line :: later => (c :: line) :: later

/-- Ends every line but the last, which no line feed ended and which counts only
if it holds something. -/
def endLines : List (List Char) → List (List Char)
  | [] => []
  | [last] => if last.isEmpty then [] else [last]
  | line :: later => dropReturn line :: endLines later

/-- The lines of a text. -/
def textLines (s : String) : List String :=
  (endLines (splitLines s.toList)).map String.ofList

end ApiClasses
