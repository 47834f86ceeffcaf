import SubscriptionBilling.Instant.Basic
import SubscriptionBilling.Json.Schema
import SubscriptionBilling.Text.Blank
/-!
# Instants as text

An instant is written as a date, the letter `T`, a time of day and the letter
`Z`, with no decimals of a second or three, six or nine of them, whichever is
the least that shows it exactly.  Years of four digits have no sign.

Reading is more liberal: blanks between the parts, short numerals, a blank in
place of the `T`, and any offset from universal time.  `Instant.Refusal` says
why a text is no instant; a field is checked as soon as it is read, the date as
a whole at the end.
-/

namespace SubscriptionBilling.Instant

open Text

/-! ## Writing -/

/-- A year: four digits, or a sign and at least four digits. -/
def writeYear (year : Int) : List Char :=
  if 0 ≤ year ∧ year ≤ 9999 then padded 4 year.toNat
  else (if year < 0 then '-' else '+') :: padded 4 year.natAbs

/-- The decimals of a second: none, three, six or nine. -/
def writeFraction (nano : Nat) : List Char :=
  if nano = 0 then []
  else if nano % 1000000 = 0 then '.' :: padded 3 (nano / 1000000)
  else if nano % 1000 = 0 then '.' :: padded 6 (nano / 1000)
  else '.' :: padded 9 nano

/-- The characters of an instant. -/
def write (i : Instant) : List Char :=
  let date := Date.ofDay (i.second / secondsPerDay)
  let time := (i.second % secondsPerDay).toNat
  let extra := if i.isLeapSecond then 1 else 0
  writeYear date.year ++ '-' :: padded 2 date.month ++ '-' :: padded 2 date.dayOfMonth
    ++ 'T' :: padded 2 (time / 3600) ++ ':' :: padded 2 (time / 60 % 60)
    ++ ':' :: padded 2 (time % 60 + extra) ++ writeFraction (i.nano - extra * 1000000000) ++ ['Z']

/-- The text of an instant. -/
def text (i : Instant) : String := String.ofList i.write

/-! ## Reading -/

/-- Why a text is no instant. -/
inductive Refusal where
  | invalid
  | tooShort
  | tooLong
  | outOfRange
  | impossible
deriving DecidableEq

/-- The wording of a refusal. -/
def Refusal.message : Refusal → String
  | invalid => "input contains invalid characters"
  | tooShort => "premature end of input"
  | tooLong => "trailing input"
  | outOfRange => "input is out of range"
  | impossible => "no possible date and time matching input"

/-- The largest number a numeral may stand for. -/
def largestNumeral : Nat := 9223372036854775807

/-- The end of a numeral: up to `width` more digits. -/
def readDigits : Nat → Nat → List Char → Except Refusal (Nat × List Char)
  | width + 1, n, c :: cs =>
    if c.isDigit then
      if largestNumeral < n * 10 + digitValue c then .error .outOfRange
      else readDigits width (n * 10 + digitValue c) cs
    else .ok (n, c :: cs)
  | _, n, cs => .ok (n, cs)

/-- A numeral of at least one and at most `width` digits. -/
def readNumeral (width : Nat) : List Char → Except Refusal (Nat × List Char)
  | [] => .error .tooShort
  | c :: cs => if c.isDigit then readDigits width 0 (c :: cs) else .error .invalid

/-- One given character. -/
def readMark (mark : Char) : List Char → Except Refusal (List Char)
  | [] => .error .tooShort
  | c :: cs => if c = mark then .ok cs else .error .invalid

/-- A numeral of one or two digits within bounds, after blanks. -/
def readField (low high : Nat) (cs : List Char) : Except Refusal (Nat × List Char) := do
  let (n, cs) ← readNumeral 2 (trimLeft cs)
  if low ≤ n ∧ n ≤ high then .ok (n, cs) else .error .outOfRange

/-- The years that fit 32 bits. -/
def checkYear (year : Int) (cs : List Char) : Except Refusal (Int × List Char) :=
  if -2147483648 ≤ year ∧ year < 2147483648 then .ok (year, cs) else .error .outOfRange

/-- A year: a sign and any number of digits, or up to four digits. -/
def readYear (cs : List Char) : Except Refusal (Int × List Char) :=
  match trimLeft cs with
  | '-' :: cs => do
    let (n, cs) ← readNumeral cs.length cs
    checkYear (-(n : Int)) cs
  | '+' :: cs => do
    let (n, cs) ← readNumeral cs.length cs
    checkYear n cs
  | cs => do
    let (n, cs) ← readNumeral 4 cs
    checkYear n cs

/-- The nanoseconds behind a point, if there is one; digits past the ninth are
dropped. -/
def readFraction (cs : List Char) : Except Refusal (Nat × List Char) :=
  match cs with
  | '.' :: cs => do
    let (n, rest) ← readNumeral 9 cs
    .ok (n * Nat.pow 10 (9 - (cs.length - rest.length)), rest.dropWhile Char.isDigit)
  | cs => .ok (0, cs)

/-- Two digits as a number, or the reason why there are none. -/
def readPair (cs : List Char) : Except Refusal ((Nat × Nat) × List Char) :=
  if byteCount cs < 2 then .error .tooShort
  else
    match cs with
    | a :: b :: rest =>
      if a.isDigit && b.isDigit then .ok ((digitValue a, digitValue b), rest) else .error .invalid
    | _ => .error .invalid

/-- The sign of an offset; the mathematical minus sign counts too. -/
def readSign : List Char → Except Refusal (Int × List Char)
  | '+' :: cs => .ok (1, cs)
  | '-' :: cs => .ok (-1, cs)
  | '\u2212' :: cs => .ok (-1, cs)
  | [] => .error .tooShort
  | _ => .error .invalid

/-- An offset from universal time in seconds, of at most 99 hours. -/
def readOffset (cs : List Char) : Except Refusal (Int × List Char) :=
  match cs with
  | 'Z' :: cs => .ok (0, cs)
  | 'z' :: cs => .ok (0, cs)
  | cs =>
    if (cs.take 3).map Char.toLower = ['u', 't', 'c'] then .ok (0, cs.drop 3)
    else do
      let (sign, cs) ← readSign cs
      let ((h, h'), cs) ← readPair cs
      let ((m, m'), cs) ← readPair (cs.dropWhile fun c => c == ':' || isBlank c)
      if 5 < m then .error .outOfRange
      else .ok (sign * ((h * 10 + h') * 3600 + (m * 10 + m') * 60 : Nat), cs)

/-- The character between the date and the time. -/
def readSeparator : List Char → Except Refusal (List Char)
  | [] => .error .tooShort
  | c :: cs => if c = 'T' || c = 't' || c = ' ' then .ok cs else .error .invalid

/-- The years of the range. -/
def checkDate (date : Date) : Except Refusal Unit :=
  if -262143 ≤ date.year ∧ date.year ≤ 262142 ∧ date.Valid then .ok () else .error .outOfRange

/-- The instant of a date, a time of day and an offset; the sixtieth second of a
minute is a leap second. -/
def ofParts (date : Date) (hour minute second nano : Nat) (offset : Int) :
    Except Refusal Instant :=
  let extra := if second = 60 then 1 else 0
  let wall := date.day * secondsPerDay + (hour * 3600 + minute * 60 + (second - extra) : Nat)
  (of? (wall - offset) (nano + extra * 1000000000)).elim (.error .impossible) .ok

/-- Reads an instant from a whole text. -/
def read (cs : List Char) : Except Refusal Instant := do
  let (year, cs) ← readYear cs
  let cs ← readMark '-' (trimLeft cs)
  let (month, cs) ← readField 1 12 cs
  let cs ← readMark '-' (trimLeft cs)
  let (dayOfMonth, cs) ← readField 1 31 cs
  let cs ← readSeparator cs
  let (hour, cs) ← readField 0 23 cs
  let cs ← readMark ':' (trimLeft cs)
  let (minute, cs) ← readField 0 59 cs
  let cs ← readMark ':' (trimLeft cs)
  let (second, cs) ← readField 0 60 cs
  let (nano, cs) ← readFraction cs
  let (offset, cs) ← readOffset (trimLeft cs)
  if trimLeft cs ≠ [] then throw .tooLong
  let date : Date := ⟨year, month, dayOfMonth⟩
  checkDate date
  if secondsPerDay ≤ offset.natAbs then throw .outOfRange
  ofParts date hour minute second nano offset

/-- Reads an instant from a string. -/
def parse (s : String) : Except Refusal Instant := read s.toList

/-- An instant in a document is its text. -/
def schema : Json.Schema Instant :=
  .token text (fun s => (parse s).mapError fun r => .refused r.message)
    "an RFC 3339 formatted date and time string"

end SubscriptionBilling.Instant
