import ApiClasses.Json.Binary64

/-!
# Shortest decimals

The text of a double has the fewest digits that still read back as the same
double, and among those the nearest. For each number of digits only the two
neighbours of the value on that decimal grid can qualify, so the first grid with
a hit settles both.
-/

namespace ApiClasses

/-- A decimal: `digits · 10 ^ scale`. -/
structure Decimal where
  /-- the digits, read as one natural -/
  digits : Nat
  /-- the power of ten they count -/
  scale : Int
  deriving Repr, DecidableEq

namespace Decimal

/-! ## The fewest digits -/

/-- The number of decimal digits of a natural. -/
def width (n : Nat) : Nat := (Nat.toDigits 10 n).length

/-- The exponent of the leading digit of a positive fraction. -/
def leading (num den : Nat) : Int :=
  if den ≤ num then (width (num / den) : Int) - 1
  else -(width ((num + den - 1) / num - 1) : Int)

/-- The fraction `num / den` divided by `10 ^ scale`. -/
def scaled (num den : Nat) (scale : Int) : Nat × Nat :=
  if 0 ≤ scale then (num, den * Nat.pow 10 scale.toNat)
  else (num * Nat.pow 10 (-scale).toNat, den)

/-- Trailing zeros move into the scale. -/
def normalized : Nat → Decimal → Decimal
  | 0, d => d
  | steps + 1, d =>
    if d.digits % 10 == 0 && d.digits != 0 then
      normalized steps ⟨d.digits / 10, d.scale + 1⟩
    else d

/-- Four times the value of a double, and of the ends of the interval of numbers
that round to it, in quarters of its last place: lower end, value, upper end. -/
def quarters (x : Binary64) : Nat × Nat × Nat :=
  let value := 4 * x.significand
  let below := if x.significand == Nat.pow 2 52 && -1074 < x.exponent then 1 else 2
  (value - below, value, value + 2)

/-- Is `digits` on the given grid inside the interval of `x`? The ends belong to
the interval exactly if the significand is even. -/
def readsBack (x : Binary64) (scale : Int) (digits : Nat) : Bool :=
  let (low, _, high) := quarters x
  let (unit, one) := (Binary64.mk 1 (x.exponent - 2)).ratio
  let (place, whole) := scaled one 1 (-scale)
  let point := digits * place
  let lowEnd := low * unit * whole
  let highEnd := high * unit * whole
  if x.significand % 2 == 0 then lowEnd ≤ point && point ≤ highEnd
  else lowEnd < point && point < highEnd

/-- The neighbour of the value on a grid that reads back, the nearer if both do. -/
def onGrid? (x : Binary64) (scale : Int) : Option Nat :=
  let (num, den) := x.ratio
  let (n, d) := scaled num den scale
  let lower := n / d
  let twice := 2 * (n % d)
  match readsBack x scale lower, readsBack x scale (lower + 1) with
  | true, true =>
    some (if twice < d || (twice == d && lower % 2 == 0) then lower else lower + 1)
  | true, false => some lower
  | false, true => some (lower + 1)
  | false, false => none

/-- The first grid from `width` digits on that has a hit. -/
def firstGrid (x : Binary64) (leading : Int) : Nat → Nat → Decimal
  | 0, _ => ⟨0, 0⟩
  | grids + 1, width =>
    let scale := leading - width + 1
    match onGrid? x scale with
    | some digits => normalized 18 ⟨digits, scale⟩
    | none => firstGrid x leading grids (width + 1)

/-- The shortest decimal that reads back as the double, the nearest among those.
Seventeen digits always suffice. -/
def shortest (x : Binary64) : Decimal :=
  if x.isZero then ⟨0, 0⟩
  else firstGrid x (leading x.ratio.1 x.ratio.2) 17 1

/-! ## Layout -/

/-- Exponents of the leading digit from here on are written in place. -/
def plainFrom : Int := -5

/-- Exponents of the leading digit from here on are written out as exponents. -/
def plainBelow : Int := 16

/-- Digits in place, with at least one on either side of the point. -/
def plain (digits : List Char) (exponent : Int) : List Char :=
  if exponent < 0 then
    ['0', '.'] ++ List.replicate ((-exponent).toNat - 1) '0' ++ digits
  else
    let whole := exponent.toNat + 1
    let front := digits.take whole ++ List.replicate (whole - digits.length) '0'
    let back := digits.drop whole
    front ++ '.' :: (if back.isEmpty then ['0'] else back)

/-- One digit before the point, if a point is needed, and a signed exponent. -/
def scientific (digits : List Char) (exponent : Int) : List Char :=
  let mantissa :=
    match digits with
    | first :: rest@(_ :: _) => first :: '.' :: rest
    | _ => digits
  mantissa ++ 'e' :: (if exponent < 0 then '-' else '+') :: Nat.toDigits 10 exponent.natAbs

/-- The text of a decimal without trailing zeros. -/
def text (d : Decimal) : List Char :=
  let digits := Nat.toDigits 10 d.digits
  let exponent := d.scale + digits.length - 1
  if plainFrom ≤ exponent && exponent < plainBelow then plain digits exponent
  else scientific digits exponent

end Decimal

end ApiClasses
