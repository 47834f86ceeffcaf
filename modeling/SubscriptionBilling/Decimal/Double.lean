import SubscriptionBilling.Decimal.Shortest
/-!
# Doubles of every kind

A double is finite, infinite or not a number.  `Double.ofText?` reads the usual
spellings, with the nearest double for a numeral, and `Double.text` writes the
fewest digits and never an exponent.
-/

namespace SubscriptionBilling

open Text

/-- A number of the format binary64. -/
inductive Double where
  | finite (x : Binary64)
  | infinite (negative : Bool)
  | notANumber
deriving DecidableEq

namespace Double

/-- The nearest double to `digits * 10 ^ power`.  Beyond these bounds on the
leading digit nothing but infinity and zero is near. -/
def ofDecimal (negative : Bool) (digits : Nat) (power : Int) : Double :=
  let leading : Int := (decimal digits).length + power
  if digits = 0 ∨ leading < -400 then finite (.zero negative)
  else if 400 < leading then infinite negative
  else
    let (num, den) :=
      if 0 ≤ power then (digits * Nat.pow 10 power.toNat, 1)
      else (digits, Nat.pow 10 (-power).toNat)
    match Binary64.nearest? negative num den with
    | some x => finite x
    | none => infinite negative

/-- An exponent behind a numeral: `e`, an optional sign, digits. -/
def exponent? : List Char → Option Int
  | [] => some 0
  | c :: cs => if c = 'e' ∨ c = 'E' then integer? cs else none

/-- A numeral without a sign: digits with at most one point, at least one digit
in all, and an optional exponent. -/
def numeral? (negative : Bool) (cs : List Char) : Option Double :=
  let (whole, cs) := splitDigits cs
  let (places, cs) :=
    match cs with
    | '.' :: cs => splitDigits cs
    | cs => ([], cs)
  if whole.isEmpty && places.isEmpty then none
  else
    (exponent? cs).map fun exponent =>
      ofDecimal negative (Text.ofDecimal (whole ++ places)) (exponent - places.length)

/-- A double without its sign. -/
def magnitude? (negative : Bool) (cs : List Char) : Option Double :=
  let word := String.ofList (cs.map Char.toLower)
  if word = "inf" ∨ word = "infinity" then some (infinite negative)
  else if word = "nan" then some notANumber
  else numeral? negative cs

/-- Reads a double. -/
def ofText? (s : String) : Option Double :=
  match s.toList with
  | '+' :: cs => magnitude? false cs
  | '-' :: cs => magnitude? true cs
  | cs => magnitude? false cs

/-- The text of a double. -/
def text : Double → String
  | finite x => String.ofList x.positional
  | infinite false => "inf"
  | infinite true => "-inf"
  | notANumber => "NaN"

/-- The text of a double, with a point even when it is whole. -/
def pointedText (x : Double) : String :=
  match x with
  | finite y => if y.isWhole then x.text ++ ".0" else x.text
  | _ => x.text

/-- The double equals zero, of either sign. -/
def isZero : Double → Bool
  | finite x => x.isZero
  | _ => false

/-- The nearest integer from zero up to a bound; a half goes away from zero, and
what is no number counts as zero. -/
def clamped (bound : Nat) : Double → Nat
  | finite x => if x.negative then 0 else min bound x.roundHalfUp
  | infinite negative => if negative then 0 else bound
  | notANumber => 0

end Double

end SubscriptionBilling
