/-!
# Finite doubles, exactly

A finite number of the IEEE 754 format binary64 is a sign, a significand below
`2 ^ 53` and a power of two, in the one form in which the significand is as
large as the format allows.  All arithmetic is on natural numbers, so nothing
is rounded twice.

* `Binary64.nearest?` rounds a quotient to the nearest double, ties to an even
  significand, and refuses what would round beyond the largest one;
* `Binary64.mul?` and `Binary64.div?` round the exact product and quotient;
* `Binary64.scaleByTen?` multiplies by a power of ten one rounding at a time.
-/

namespace SubscriptionBilling

/-- Significands lie below this bound, two to the power of 53. -/
abbrev Binary64.significandBound : Nat := 9007199254740992

/-- The least significand of a normal double, two to the power of 52. -/
abbrev Binary64.leastNormal : Nat := 4503599627370496

/-- The form of a finite double: subnormal numbers and zero have the least
exponent, all others a significand of 53 bits. -/
def Binary64.Canonical (significand : Nat) (exponent : Int) : Prop :=
  significand < significandBound ∧ -1074 ≤ exponent ∧ exponent ≤ 971
    ∧ (exponent = -1074 ∨ leastNormal ≤ significand)

instance (significand : Nat) (exponent : Int) :
    Decidable (Binary64.Canonical significand exponent) := by
  unfold Binary64.Canonical
  infer_instance

/-- A finite double: `± significand * 2 ^ exponent`. -/
structure Binary64 where
  negative : Bool
  significand : Nat
  exponent : Int
  canonical : Binary64.Canonical significand exponent
deriving DecidableEq

namespace Binary64

/-- The zero of a sign. -/
def zero (negative : Bool) : Binary64 :=
  ⟨negative, 0, -1074, by decide⟩

instance : Inhabited Binary64 := ⟨zero false⟩

/-- The value is zero, of either sign. -/
def isZero (x : Binary64) : Bool := x.significand == 0

/-- A double from its parts, if they have the canonical form. -/
def ofParts? (negative : Bool) (significand : Nat) (exponent : Int) : Option Binary64 :=
  if h : Canonical significand exponent then some ⟨negative, significand, exponent, h⟩ else none

/-- A fraction of natural numbers multiplied by a power of two. -/
def shifted (num den : Nat) (power : Int) : Nat × Nat :=
  if 0 ≤ power then (num * Nat.pow 2 power.toNat, den)
  else (num, den * Nat.pow 2 (-power).toNat)

/-- A quotient rounded to the nearest integer, ties to the even one. -/
def roundEven (num den : Nat) : Nat :=
  let q := num / den
  let twice := 2 * (num % den)
  if twice < den then q else if den < twice then q + 1 else q + q % 2

/-- The exponent at which a quotient is rounded: the least one, or the one that
leaves a significand of 53 bits. -/
def unit (num den : Nat) : Int :=
  let low := max ((Nat.log2 num : Int) - Nat.log2 den - 53) (-1074)
  let (n, d) := shifted num den (-low)
  if significandBound ≤ n / d then low + 1 else low

/-- The double nearest to a quotient; none when it lies beyond the largest. -/
def nearest? (negative : Bool) (num den : Nat) : Option Binary64 :=
  if num = 0 then some (zero negative) else
    let q := unit num den
    let (n, d) := shifted num den (-q)
    let m := roundEven n d
    if m = significandBound then ofParts? negative leastNormal (q + 1) else ofParts? negative m q

/-- The magnitude as a quotient. -/
def ratio (x : Binary64) : Nat × Nat := shifted x.significand 1 x.exponent

/-- The rounded product. -/
def mul? (x y : Binary64) : Option Binary64 :=
  let (a, b) := x.ratio
  let (c, d) := y.ratio
  nearest? (x.negative != y.negative) (a * c) (b * d)

/-- The rounded quotient; none for a zero divisor. -/
def div? (x y : Binary64) : Option Binary64 :=
  let (a, b) := x.ratio
  let (c, d) := y.ratio
  if c = 0 then none else nearest? (x.negative != y.negative) (a * d) (b * c)

/-- The double nearest to a natural number. -/
def ofNat? (n : Nat) : Option Binary64 := nearest? false n 1

/-- The largest power of ten that is a double. -/
def largestPower : Nat := 308

/-- `x * 10 ^ e`, as one rounded product, or as rounded divisions by at most
`10 ^ 308` each; none when the magnitude overflows.  The fuel bounds the number
of divisions. -/
def scaleByTen? : Nat → Binary64 → Int → Option Binary64
  | 0, x, _ => some (zero x.negative)
  | fuel + 1, x, e =>
    if x.isZero then some x
    else if (largestPower : Int) < e then none
    else if 0 ≤ e then (ofNat? (Nat.pow 10 e.toNat)).bind x.mul?
    else if -(largestPower : Int) ≤ e then (ofNat? (Nat.pow 10 (-e).toNat)).bind x.div?
    else ((ofNat? (Nat.pow 10 largestPower)).bind x.div?).bind
      fun y => scaleByTen? fuel y (e + largestPower)

/-- The magnitude has no fractional part. -/
def isWhole (x : Binary64) : Bool :=
  let (n, d) := x.ratio
  n % d == 0

/-- The magnitude rounded to an integer, a half going away from zero. -/
def roundHalfUp (x : Binary64) : Nat :=
  let (n, d) := x.ratio
  (2 * n + d) / (2 * d)

end Binary64

end SubscriptionBilling
