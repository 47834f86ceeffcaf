import SubscriptionBilling.Log.Pattern.Escape
/-!
# Bracketed classes in a pattern

A class in brackets is made of characters, ranges such as `a-z`, classes with a
name and further classes in brackets, and of what the operators `&&`, `--` and
`~~` make of them.  A caret at its beginning means all that it leaves out.

`bracket?` reads a class behind its opening bracket.  Of the class only its depth
is known afterwards: how deep further classes are nested in it.
-/

namespace SubscriptionBilling.Log.Pattern

open Text

/-! ## Members of a class -/

/-- The classes that have a name. -/
def classNames : List String :=
  ["alnum", "alpha", "ascii", "blank", "cntrl", "digit", "graph", "lower", "print", "punct",
    "space", "upper", "word", "xdigit"]

/-- A class with a name such as `[:alpha:]`, behind its opening bracket: whether a
caret stands in front of the name, and what follows. -/
def namedClass? : List Char → Option (Bool × List Char)
  | ':' :: cs =>
    let (negated, cs) := match cs with
      | '^' :: cs => (true, cs)
      | cs => (false, cs)
    match cs.dropWhile (· != ':') with
    | ':' :: ']' :: rest =>
      if String.ofList (cs.takeWhile (· != ':')) ∈ classNames then some (negated, rest) else none
    | _ => none
  | _ => none

/-- A member of a class, as itself or escaped, and what follows it. -/
def member? (mode : Mode) : List Char → Option (Escape × List Char)
  | [] => none
  | '\\' :: cs => escape? mode cs
  | c :: cs => some (.character c false, cs)

/-- What an escape stands for can stand in a class. -/
def Mode.admitsInClass (mode : Mode) : Escape → Bool
  | .character c _ => mode.admitsMember c
  | .category negated => mode.admitsCategory negated
  | _ => false

/-- A range goes from a character to one that does not come before it. -/
def Mode.admitsRange (mode : Mode) : Escape → Escape → Bool
  | .character low _, .character high _ =>
    low ≤ high && mode.admitsMember low && mode.admitsMember high
  | _, _ => false

/-- What follows a member of a class or a range of them.  A hyphen in front of a
closing bracket or of another hyphen makes no range. -/
def item? (mode : Mode) (cs : List Char) : Option (List Char) :=
  match member? mode cs with
  | none => none
  | some (low, cs) =>
    let alone := if mode.admitsInClass low then some cs else none
    match mode.skip cs with
    | '-' :: cs =>
      match mode.behindHyphen? cs with
      | some ']' => alone
      | some '-' => alone
      | _ =>
        match member? mode (mode.skip cs) with
        | none => none
        | some (high, cs) => if mode.admitsRange low high then some cs else none
    | _ => alone

/-! ## Classes -/

/-- A class that is being read: the depths of its items behind the last operator,
the depth of what stands before that, and whether nothing but hyphens has been
read. -/
structure Bracket where
  items : List Nat
  left : Option Nat
  fresh : Bool
deriving DecidableEq, Repr

namespace Bracket

/-- A class of which nothing has been read. -/
def opened : Bracket := ⟨[], none, true⟩

/-- The depth of what has been read. -/
def depth (b : Bracket) : Nat :=
  match b.left with
  | none => joined b.items
  | some left => max left (joined b.items) + 1

/-- One more item. -/
def add (b : Bracket) (depth : Nat) : Bracket :=
  { b with items := depth :: b.items, fresh := false }

/-- An operator behind what has been read. -/
def operate (b : Bracket) : Bracket := ⟨[], some b.depth, false⟩

/-- The character stands for itself at the beginning of a class: a hyphen does,
and so does a closing bracket in front of everything else. -/
def beginsWith (b : Bracket) (c : Char) : Bool :=
  b.fresh && (c == '-' || (c == ']' && b.items.isEmpty))

end Bracket

/-- What follows the caret of a class, if it has one. -/
def behindCaret? (mode : Mode) (cs : List Char) : Option (List Char) :=
  match mode.skip cs with
  | '^' :: cs => if mode.unicode then some cs else none
  | cs => some cs

/-- Reads a class to its end, given the classes around it, and returns its depth
and what follows it.  The fuel bounds the number of items and brackets. -/
def bracketFrom? (mode : Mode) :
    Nat → Bracket → List Bracket → List Char → Option (Nat × List Char)
  | 0, _, _, _ => none
  | fuel + 1, b, outer, cs =>
    match mode.skip cs with
    | [] => none
    | c :: cs =>
      if b.beginsWith c then
        if mode.admitsMember c then
          bracketFrom? mode fuel { b.add 0 with fresh := c == '-' } outer cs
        else none
      else
        match c, cs with
        | '[', cs =>
          match namedClass? cs with
          | some (negated, cs) =>
            if mode.admitsNamed negated then bracketFrom? mode fuel (b.add 0) outer cs else none
          | none =>
            match behindCaret? mode cs with
            | some cs => bracketFrom? mode fuel .opened (b :: outer) cs
            | none => none
        | ']', cs =>
          match outer with
          | [] => some (b.depth + 1, cs)
          | around :: outer => bracketFrom? mode fuel (around.add (b.depth + 1)) outer cs
        | '&', '&' :: cs => bracketFrom? mode fuel b.operate outer cs
        | '-', '-' :: cs => bracketFrom? mode fuel b.operate outer cs
        | '~', '~' :: cs => bracketFrom? mode fuel b.operate outer cs
        | c, cs =>
          match item? mode (c :: cs) with
          | some cs => bracketFrom? mode fuel (b.add 0) outer cs
          | none => none

/-- Reads a class behind its opening bracket, and returns its depth and what
follows it. -/
def bracket? (mode : Mode) (cs : List Char) : Option (Nat × List Char) :=
  (behindCaret? mode cs).bind (bracketFrom? mode (cs.length + 1) .opened [])

end SubscriptionBilling.Log.Pattern
