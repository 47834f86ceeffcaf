import SubscriptionBilling.Json.Basic
import SubscriptionBilling.Decimal.Shortest
/-!
# Printing documents

The compact text of a document: no blanks, members in their listed order, a
backslash only before what needs one, integers in decimal and doubles in their
fewest digits.
-/

namespace SubscriptionBilling.Json

open Text

/-- Doubles below `10 ^ 16` and from `10 ^ -5` up have no exponent, and always a
point or an exponent; of two equally near decimals the even one is taken. -/
def numberLayout : Binary64.Layout := ⟨-5, 16, .even⟩

/-- One character of a string as it stands between quotes. -/
def escape (c : Char) : List Char :=
  match c with
  | '"' => ['\\', '"']
  | '\\' => ['\\', '\\']
  | '\x08' => ['\\', 'b']
  | '\t' => ['\\', 't']
  | '\n' => ['\\', 'n']
  | '\x0c' => ['\\', 'f']
  | '\r' => ['\\', 'r']
  | c =>
    if c.toNat < 0x20 then
      ['\\', 'u', '0', '0', hexDigit (lowDigit (c.toNat / 16)), hexDigit (lowDigit c.toNat)]
    else [c]

/-- A string between quotes. -/
def printString (s : String) : List Char :=
  '"' :: s.toList.flatMap escape ++ ['"']

/-- The text of a number. -/
def printNumber : Number → List Char
  | .integer i => decimalInt i.val
  | .double x => numberLayout.write x

mutual

/-- The text of a document. -/
def print : Json → List Char
  | null => "null".toList
  | bool true => "true".toList
  | bool false => "false".toList
  | number n => printNumber n
  | string s => printString s
  | array items => '[' :: printItems items
  | object members => '\x7b' :: printMembers members

/-- The items of an array and its closing bracket. -/
def printItems : List Json → List Char
  | [] => [']']
  | item :: rest => print item ++ printMoreItems rest

/-- The items after the first. -/
def printMoreItems : List Json → List Char
  | [] => [']']
  | item :: rest => ',' :: print item ++ printMoreItems rest

/-- The members of an object and its closing brace. -/
def printMembers : List (String × Json) → List Char
  | [] => ['\x7d']
  | (key, value) :: rest => printString key ++ ':' :: print value ++ printMoreMembers rest

/-- The members after the first. -/
def printMoreMembers : List (String × Json) → List Char
  | [] => ['\x7d']
  | (key, value) :: rest =>
    ',' :: printString key ++ ':' :: print value ++ printMoreMembers rest

end

/-- The text of a document, as a string. -/
def text (document : Json) : String := String.ofList document.print

end SubscriptionBilling.Json
