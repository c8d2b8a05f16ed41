/-!
# Doubles, exactly

A number with a fraction or an exponent, or one too long for 64 bits, is kept as
a binary floating point number of 53 significant bits. All arithmetic on these
is exact arithmetic on naturals followed by one rounding, so nothing here rests
on the floating point unit of a machine.
-/

namespace ApiClasses

/-- A finite double without its sign: `significand · 2 ^ exponent`. -/
structure Binary64 where
  /-- at most 53 bits -/
  significand : Nat
  /-- at least `-1074`, at most `971` -/
  exponent : Int
  deriving Repr, DecidableEq

namespace Binary64

/-- Zero. -/
def zero : Binary64 := ⟨0, -1074⟩

/-- Is it zero? -/
def isZero (x : Binary64) : Bool := x.significand == 0

/-- The value as a fraction of naturals. -/
def ratio (x : Binary64) : Nat × Nat :=
  if 0 ≤ x.exponent then (x.significand * Nat.pow 2 x.exponent.toNat, 1)
  else (x.significand, Nat.pow 2 (-x.exponent).toNat)

/-! ## Rounding -/

/-- The natural nearest to a fraction; a half goes to the even neighbour. -/
def roundHalfEven (num den : Nat) : Nat :=
  let quotient := num / den
  let twice := 2 * (num % den)
  if twice < den || (twice == den && quotient % 2 == 0) then quotient else quotient + 1

/-- The fraction `num / den` divided by `2 ^ exponent`. -/
def scaled (num den : Nat) (exponent : Int) : Nat × Nat :=
  if 0 ≤ exponent then (num, den * Nat.pow 2 exponent.toNat)
  else (num * Nat.pow 2 (-exponent).toNat, den)

/-- The exponent at which the significand of a positive fraction has 53 bits, or
the least exponent there is. -/
def fittingExponent (num den : Nat) : Int :=
  let guess : Int := num.log2 - den.log2 - 52
  let (n, d) := scaled num den guess
  max (if n < d * Nat.pow 2 52 then guess - 1 else guess) (-1074)

/-- The double nearest to a fraction, unless it is too large for one. -/
def nearest? (num den : Nat) : Option Binary64 :=
  if num == 0 then some zero
  else
    let exponent := fittingExponent num den
    let (n, d) := scaled num den exponent
    let significand := roundHalfEven n d
    let rounded : Binary64 :=
      if significand == Nat.pow 2 53 then ⟨Nat.pow 2 52, exponent + 1⟩ else ⟨significand, exponent⟩
    if 971 < rounded.exponent then none else some rounded

/-! ## Arithmetic -/

/-- The product, rounded. -/
def mul? (x y : Binary64) : Option Binary64 :=
  nearest? (x.ratio.1 * y.ratio.1) (x.ratio.2 * y.ratio.2)

/-- The quotient by a double other than zero, rounded. -/
def div? (x y : Binary64) : Option Binary64 :=
  nearest? (x.ratio.1 * y.ratio.2) (x.ratio.2 * y.ratio.1)

/-- The double nearest to a power of ten; `10 ^ 308` is the last one that has one. -/
def powerOfTen? (n : Nat) : Option Binary64 :=
  nearest? (Nat.pow 10 n) 1

/-- The double divided by `10 ^ n`, in steps of at most `10 ^ 308`. A double that
came from 64 bits is zero before three such steps are over. -/
def shrink : Nat → Binary64 → Nat → Binary64
  | 0, _, _ => zero
  | steps + 1, x, n =>
    let step := min n 308
    match (powerOfTen? step).bind x.div? with
    | none => zero
    | some y => if n ≤ 308 then y else shrink steps y (n - 308)

/-- The double for `significand · 10 ^ exponent` as a reader computes it: the
significand is rounded first, then scaled by one power of ten at a time. -/
def ofParts? (significand : Nat) (exponent : Int) : Option Binary64 := do
  let x ← nearest? significand 1
  if exponent < 0 then return shrink 3 x (-exponent).toNat
  else if x.isZero then return x
  else if 308 < exponent then none
  else x.mul? (← powerOfTen? exponent.toNat)

end Binary64

end ApiClasses
