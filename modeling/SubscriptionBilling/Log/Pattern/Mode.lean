import SubscriptionBilling.Text.Blank
/-!
# Modes of reading a pattern

Groups and flags change how the rest of a pattern is read.  In Unicode, which is
where a pattern begins, every character can be asked for, but nothing that needs
a table of characters: no `\d`, no word borders, no folding of case.  Without
Unicode these are about ASCII, and no class may go beyond it.  In a verbose
pattern blanks and comments are left out.

`Mode.skip` leaves them out; `admits`, `admitsMember` and `admitsNamed` say what
may be asked for.
-/

namespace SubscriptionBilling.Log.Pattern

open Text

/-- How a pattern is read from some place on. -/
structure Mode where
  unicode : Bool
  caseless : Bool
  verbose : Bool
deriving DecidableEq, Repr

/-- What follows blanks and comments, in or outside of a comment.  A comment goes
from `#` to the end of the line. -/
def behindBlanks : Bool → List Char → List Char
  | _, [] => []
  | true, c :: cs => behindBlanks (c != '\n') cs
  | false, c :: cs =>
    if isBlank c then behindBlanks false cs
    else if c = '#' then behindBlanks true cs
    else c :: cs

namespace Mode

/-- How a pattern begins. -/
def initial : Mode := ⟨true, false, false⟩

/-- The text from the next character that counts. -/
def skip (mode : Mode) (cs : List Char) : List Char :=
  if mode.verbose then behindBlanks false cs else cs

/-- The character that decides whether a hyphen in front of it makes a range: the
next one that is neither blank nor the mark of a comment. -/
def behindHyphen? (mode : Mode) (cs : List Char) : Option Char :=
  if mode.verbose then
    match trimLeft cs with
    | '#' :: cs => (trimLeft cs).head?
    | cs => cs.head?
  else cs.head?

/-- A character can be asked for.  Written as a byte, it has to be ASCII where
there is no Unicode. -/
def admits (mode : Mode) (c : Char) (asByte : Bool) : Bool :=
  if mode.unicode then !mode.caseless else !asByte || c.toNat < 0x80

/-- A character can stand in a class. -/
def admitsMember (mode : Mode) (c : Char) : Bool :=
  if mode.unicode then !mode.caseless else c.toNat < 0x80

/-- A class such as `[:alpha:]` can stand in a class, or all that it leaves out. -/
def admitsNamed (mode : Mode) (negated : Bool) : Bool :=
  if mode.unicode then !mode.caseless else !negated

/-- A class such as `\d` can be asked for, or all that it leaves out. -/
def admitsCategory (mode : Mode) (negated : Bool) : Bool := !mode.unicode && !negated

end Mode

/-- How deep a pattern is nested that is made of parts of the given depths: parts
that stand together are one level deeper. -/
def joined : List Nat → Nat
  | [] => 0
  | [depth] => depth
  | depth :: depths => depths.foldl max depth + 1

end SubscriptionBilling.Log.Pattern
