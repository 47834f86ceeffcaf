import SubscriptionBilling.Decimal.Binary64
import SubscriptionBilling.Text.Numeral
/-!
# The shortest decimal of a double

Every real number close enough to a double rounds to it.  `shortest` gives the
decimal with the fewest digits in that range, and of several the one nearest to
the double; of two that are equally near, `Tie` says which.  Two layouts write
it: `positional` never uses an exponent, `Layout.write` does outside a window of
magnitudes.
-/

namespace SubscriptionBilling

/-- A decimal number `digits * 10 ^ power`, without a sign. -/
structure Decimal where
  digits : Nat
  power : Int
deriving DecidableEq, Repr

namespace Decimal

open Text

/-- The number of times ten divides, moved from the digits to the power. -/
def trim : Nat → Decimal → Decimal
  | 0, x => x
  | fuel + 1, x =>
    if x.digits ≠ 0 ∧ x.digits % 10 = 0 then trim fuel ⟨x.digits / 10, x.power + 1⟩ else x

/-- The exponent of the leading digit. -/
def leading (x : Decimal) : Int := x.power + (decimal x.digits).length - 1

/-- Digits with a point at the place the power says, and no exponent. -/
def positional (x : Decimal) : List Char :=
  let ds := decimal x.digits
  if 0 ≤ x.power then ds ++ (if x.digits = 0 then [] else List.replicate x.power.toNat '0')
  else
    let places := (-x.power).toNat
    if places < ds.length then ds.take (ds.length - places) ++ '.' :: ds.drop (ds.length - places)
    else '0' :: '.' :: (List.replicate (places - ds.length) '0' ++ ds)

/-- One digit before the point, the others behind it. -/
def mantissa (x : Decimal) : List Char :=
  match decimal x.digits with
  | [] => []
  | [d] => [d]
  | d :: ds => d :: '.' :: ds

end Decimal

/-- Which of two decimals that are equally near is taken: the larger one, or the
one with an even last digit. -/
inductive Decimal.Tie where
  | larger
  | even
deriving DecidableEq, Repr

namespace Binary64

/-- The reals that round to a double, in units of a quarter of its last place:
from `4 * significand - low` to `4 * significand + 2`.  Below a power of two the
neighbour is half as far. -/
def lowGap (x : Binary64) : Nat :=
  if x.significand = leastNormal ∧ x.exponent ≠ -1074 then 1 else 2

/-- A candidate lies in the range that rounds to the double; its ends belong to
it exactly when the significand is even. -/
def reaches (x : Binary64) (c : Decimal) : Bool :=
  let (cn, cd) :=
    if 0 ≤ c.power then (c.digits * Nat.pow 10 c.power.toNat, 1)
    else (c.digits, Nat.pow 10 (-c.power).toNat)
  let (lowN, lowD) := shifted (4 * x.significand - x.lowGap) 1 (x.exponent - 2)
  let (highN, highD) := shifted (4 * x.significand + 2) 1 (x.exponent - 2)
  if x.significand % 2 = 0 then lowN * cd ≤ cn * lowD && cn * highD ≤ highN * cd
  else lowN * cd < cn * lowD && cn * highD < highN * cd

/-- The exponent of the leading decimal digit of a positive quotient, searched
downwards from an upper estimate. -/
def leadingExponent (num den : Nat) : Nat → Int → Int
  | 0, e => e
  | fuel + 1, e =>
    let fits :=
      if 0 ≤ e then den * Nat.pow 10 e.toNat ≤ num else den ≤ num * Nat.pow 10 (-e).toNat
    if fits then e else leadingExponent num den fuel (e - 1)

/-- The two neighbours of a quotient on the grid of multiples of a power of ten,
the nearer one first. -/
def neighbours (tie : Decimal.Tie) (num den : Nat) (power : Int) : List Decimal :=
  let (n, d) :=
    if 0 ≤ power then (num, den * Nat.pow 10 power.toNat)
    else (num * Nat.pow 10 (-power).toNat, den)
  let low := n / d
  let twice := 2 * (n % d)
  if twice < d || (twice == d && tie == .even && low % 2 == 0) then
    [⟨low, power⟩, ⟨low + 1, power⟩]
  else [⟨low + 1, power⟩, ⟨low, power⟩]

/-- The first grid, from one digit upwards, on which a neighbour reaches the
double. -/
def search (tie : Decimal.Tie) (x : Binary64) (num den : Nat) : Nat → Int → Decimal
  | 0, power => ⟨num / den, power⟩
  | fuel + 1, power =>
    match (neighbours tie num den power).find? x.reaches with
    | some c => c
    | none => search tie x num den fuel (power - 1)

/-- The decimal of fewest digits that rounds to the double's magnitude. -/
def shortest (tie : Decimal.Tie) (x : Binary64) : Decimal :=
  if x.isZero then ⟨0, 0⟩ else
    let (num, den) := x.ratio
    let estimate : Int := (((Nat.log2 num : Int) - Nat.log2 den + 1) * 30103) / 100000 + 1
    let top := leadingExponent num den 8 estimate
    Decimal.trim 800 (search tie x num den 17 top)

/-- How a double is laid out: the leading exponents from `least` up to but not
including `bound` are written without an exponent, and `tie` chooses between
decimals that are equally near. -/
structure Layout where
  least : Int
  bound : Int
  tie : Decimal.Tie

/-- The sign, if the double is negative. -/
def sign (x : Binary64) : List Char := if x.negative then ['-'] else []

/-- Fewest digits, no exponent, and no point when the value is whole; of two
decimals that are equally near, the larger. -/
def positional (x : Binary64) : List Char := x.sign ++ (x.shortest .larger).positional

/-- Fewest digits; inside the layout's window with a point always, outside it
with a signed exponent. -/
def Layout.write (layout : Layout) (x : Binary64) : List Char :=
  let d := x.shortest layout.tie
  x.sign ++
    if layout.least ≤ d.leading ∧ d.leading < layout.bound then
      d.positional ++ (if 0 ≤ d.power then ['.', '0'] else [])
    else
      d.mantissa ++ 'e' :: (if 0 ≤ d.leading then '+' else '-')
        :: Text.decimal d.leading.natAbs

end Binary64

end SubscriptionBilling
