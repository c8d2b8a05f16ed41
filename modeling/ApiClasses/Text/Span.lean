/-!
# Spans and strides of code points

Character properties are given as sorted tables. A table answers for the
characters outside ASCII only: the modules that own one decide ASCII by a
direct test first, so that facts about plain names never unfold a table.
-/

namespace ApiClasses

/-! ## ASCII -/

/-- All characters of the text are in ASCII. -/
def Ascii (text : String) : Prop := ∀ c ∈ text.toList, c.toNat < 0x80

instance (text : String) : Decidable (Ascii text) :=
  List.decidableBAll (fun c : Char => c.toNat < 0x80) text.toList

/-- What holds of the characters with the lowest codes holds of all of ASCII. -/
theorem forall_ascii {P : Char → Prop} (h : ∀ n < 0x80, P (Char.ofNat n)) {c : Char}
    (hc : c.toNat < 0x80) : P c := by
  have hnumber := h c.toNat hc
  rwa [Char.ofNat_toNat] at hnumber

/-! ## Spans -/

/-- The code points from `first` to `last`, both included. -/
structure Span where
  /-- the lowest code point -/
  first : Nat
  /-- the highest code point -/
  last : Nat

/-- Does the span hold this character? -/
def Span.contains (span : Span) (c : Char) : Bool :=
  span.first ≤ c.toNat && c.toNat ≤ span.last

/-- Does some span of the table hold this character? -/
def Span.within (table : List Span) (c : Char) : Bool :=
  table.any (·.contains c)

/-- Membership in a table, spelled out. -/
theorem Span.within_iff {table : List Span} {c : Char} :
    Span.within table c = true ↔ ∃ span ∈ table, span.first ≤ c.toNat ∧ c.toNat ≤ span.last := by
  simp [Span.within, Span.contains]

/-! ## Strides

Capital and small letters of many scripts alternate, so their tables count in
steps of two. -/

/-- Every `step`-th code point from `first` on, up to `last`. -/
structure Stride where
  /-- the lowest code point -/
  first : Nat
  /-- the highest code point -/
  last : Nat
  /-- the distance between neighbours -/
  step : Nat

/-- Does the stride hold this character? -/
def Stride.contains (stride : Stride) (c : Char) : Bool :=
  stride.first ≤ c.toNat && c.toNat ≤ stride.last &&
    (c.toNat - stride.first) % stride.step == 0

/-- Does some stride of the table hold this character? -/
def Stride.within (table : List Stride) (c : Char) : Bool :=
  table.any (·.contains c)

end ApiClasses
