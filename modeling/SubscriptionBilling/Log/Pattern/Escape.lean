import SubscriptionBilling.Log.Pattern.Mode
import SubscriptionBilling.Text.Numeral
/-!
# Escapes in a pattern

A backslash gives the character behind it another meaning, or takes its meaning
away.  `escape?` reads what follows the backslash.
-/

namespace SubscriptionBilling.Log.Pattern

open Text

/-- What an escape stands for: a character, which may be written as a byte; a
class such as `\d` or all that it leaves out; an end of the text; or a border of
words. -/
inductive Escape where
  | character (c : Char) (asByte : Bool)
  | category (negated : Bool)
  | anchor
  | border
deriving DecidableEq, Repr

/-- So many hexadecimal digits, and what follows them. -/
def hexDigits? (mode : Mode) : Nat → List Char → Option (List (Fin 16) × List Char)
  | 0, cs => some ([], cs)
  | width + 1, cs =>
    match mode.skip cs with
    | [] => none
    | c :: cs =>
      match hexValue? c with
      | none => none
      | some d => (hexDigits? mode width cs).map fun (ds, rest) => (d :: ds, rest)

/-- The character of a code point in so many hexadecimal digits, and what follows
it.  Two digits are a byte. -/
def codePoint? (mode : Mode) (width : Nat) (cs : List Char) : Option (Escape × List Char) :=
  match hexDigits? mode width cs with
  | none => none
  | some (digits, rest) =>
    let n := digits.foldl (fun n d => n * 16 + d.val) 0
    if n.isValidChar then some (.character (Char.ofNat n) (width == 2), rest) else none

/-- The character is punctuation or a control character of ASCII, and no bracket
of words. -/
def standsForItself (c : Char) : Bool :=
  c.toNat < 0x80 && !c.isAlphanum && c != '<' && c != '>'

/-- An escape behind its backslash, and what follows it. -/
def escape? (mode : Mode) : List Char → Option (Escape × List Char)
  | [] => none
  | c :: cs =>
    match c with
    | 'a' => some (.character '\x07' false, cs)
    | 'f' => some (.character '\x0c' false, cs)
    | 't' => some (.character '\t' false, cs)
    | 'n' => some (.character '\n' false, cs)
    | 'r' => some (.character '\r' false, cs)
    | 'v' => some (.character '\x0b' false, cs)
    | 'x' => codePoint? mode 2 cs
    | 'u' => codePoint? mode 4 cs
    | 'U' => codePoint? mode 8 cs
    | 'A' => some (.anchor, cs)
    | 'z' => some (.anchor, cs)
    | 'b' => some (.border, cs)
    | 'B' => some (.border, cs)
    | '<' => some (.border, cs)
    | '>' => some (.border, cs)
    | 'd' => some (.category false, cs)
    | 's' => some (.category false, cs)
    | 'w' => some (.category false, cs)
    | 'D' => some (.category true, cs)
    | 'S' => some (.category true, cs)
    | 'W' => some (.category true, cs)
    | c => if standsForItself c then some (.character c false, cs) else none

/-- What an escape stands for can be asked for outside of a class. -/
def Mode.admitsEscape (mode : Mode) : Escape → Bool
  | .character c asByte => mode.admits c asByte
  | .category negated => mode.admitsCategory negated
  | .anchor => true
  | .border => !mode.unicode

end SubscriptionBilling.Log.Pattern
