import SubscriptionBilling.Log.Pattern.Bracket
import SubscriptionBilling.Text.Alphanumeric
/-!
# Patterns of field values

A directive may ask for the value of a field by a regular expression.  No entry
is ever logged inside a span whose fields could be compared with it, so nothing
is matched; but a pattern that is not well formed spoils its filter.

A pattern is made of characters, escapes, the point and the anchors, classes in
brackets, groups, alternatives and the repetitions `?`, `*` and `+`.  Groups may
have names, each one once, and flags.  Counted repetitions cannot occur, since a
closing brace ends the pattern.  A pattern may be nested 250 levels deep.

`Pattern.isWellFormed` reads a pattern from left to right.
-/

namespace SubscriptionBilling.Log.Pattern

open Text

/-! ## Groups -/

/-- The flags: case is folded, lines are separate, the point holds for the end of
a line, repetitions take little, Unicode, both ends of a line, and verbose. -/
def flagLetters : List Char := ['i', 'm', 's', 'U', 'u', 'R', 'x']

/-- Flags that are set, and flags that are unset behind a hyphen, each one once. -/
def areFlags (flags : List Char) : Bool :=
  flags.all (fun c => c == '-' || flagLetters.contains c) && decide flags.Nodup
    && flags.getLast? != some '-'

/-- What flags say about one of them. -/
def flag? (flags : List Char) (letter : Char) : Option Bool :=
  if letter ∈ flags.takeWhile (· != '-') then some true
  else if letter ∈ flags then some false
  else none

/-- The mode with flags set and unset. -/
def Mode.set (mode : Mode) (flags : List Char) : Mode where
  unicode := (flag? flags 'u').getD mode.unicode
  caseless := (flag? flags 'i').getD mode.caseless
  verbose := (flag? flags 'x').getD mode.verbose

/-- A name of a group begins with a letter. -/
def isGroupName : List Char → Bool
  | [] => false
  | c :: cs =>
    (c == '_' || isAlphabetic c)
      && cs.all fun c => isAlphanumeric c || c == '_' || c == '.' || c == '[' || c == ']'

/-- How a group begins: it is opened, perhaps with flags or with a name; or it is
nothing but flags for what follows. -/
inductive Opening where
  | group (flags : List Char)
  | named (name : List Char)
  | flags (flags : List Char)
deriving DecidableEq, Repr

/-- The name of a group, and what follows it. -/
def groupName? (cs : List Char) : Option (Opening × List Char) :=
  match cs.dropWhile (· != '>') with
  | '>' :: rest =>
    let name := cs.takeWhile (· != '>')
    if isGroupName name then some (.named name, rest) else none
  | _ => none

/-- The flags of a group, and what follows them. -/
def groupFlags? (cs : List Char) : Option (Opening × List Char) :=
  let isFlag (c : Char) : Bool := c != ')' && c != ':'
  let flags := cs.takeWhile isFlag
  if areFlags flags then
    match cs.dropWhile isFlag with
    | ':' :: rest => some (.group flags, rest)
    | ')' :: rest => if flags.isEmpty then none else some (.flags flags, rest)
    | _ => none
  else none

/-- The beginning of a group behind its parenthesis, and what follows it. -/
def opening? : List Char → Option (Opening × List Char)
  | '?' :: 'P' :: '<' :: cs => groupName? cs
  | '?' :: '<' :: cs => groupName? cs
  | '?' :: cs => groupFlags? cs
  | cs => some (.group [], cs)

/-! ## Reading -/

/-- A part of a pattern: how deep it is nested, and whether it can be repeated. -/
structure Part where
  depth : Nat
  repeatable : Bool
deriving DecidableEq, Repr

/-- What has been read of a group or of the whole pattern: the parts of the last
alternative, the last one first, and the depths of the alternatives before. -/
structure Body where
  parts : List Part
  alternatives : List Nat
deriving DecidableEq, Repr

namespace Body

/-- The body of which nothing has been read. -/
def empty : Body := ⟨[], []⟩

/-- The depth of the last alternative. -/
def last (body : Body) : Nat := joined (body.parts.map Part.depth)

/-- The depth of all alternatives together. -/
def depth (body : Body) : Nat := joined (body.last :: body.alternatives)

/-- One more part. -/
def add (body : Body) (part : Part) : Body := { body with parts := part :: body.parts }

/-- The beginning of another alternative. -/
def alternative (body : Body) : Body := ⟨[], body.last :: body.alternatives⟩

/-- The last part is repeated. -/
def repeated? (body : Body) : Option Body :=
  match body.parts with
  | part :: parts =>
    if part.repeatable then some { body with parts := ⟨part.depth + 1, true⟩ :: parts } else none
  | [] => none

end Body

/-- How deep a pattern may be nested. -/
def deepest : Nat := 250

/-- A pattern that is being read: the mode, the names of its groups, the body that
is being read, and the bodies around it with their modes. -/
structure Progress where
  mode : Mode
  names : List (List Char)
  body : Body
  outer : List (Mode × Body)
deriving DecidableEq, Repr

namespace Progress

/-- The beginning of a pattern. -/
def start : Progress := ⟨.initial, [], .empty, []⟩

/-- One more part. -/
def add (p : Progress) (depth : Nat) : Progress :=
  { p with body := p.body.add ⟨depth, true⟩ }

/-- One more part that is not nested, if it can be asked for. -/
def addIf (p : Progress) (admitted : Bool) : Option Progress :=
  if admitted then some (p.add 0) else none

/-- A group is opened. -/
def enter (p : Progress) (flags : List Char) : Progress :=
  { p with mode := p.mode.set flags, body := .empty, outer := (p.mode, p.body) :: p.outer }

/-- The beginning of a group.  Flags alone are a part that cannot be repeated. -/
def open? (p : Progress) : Opening → Option Progress
  | .group flags => some (p.enter flags)
  | .named name =>
    if name ∈ p.names then none else some { p.enter [] with names := name :: p.names }
  | .flags flags => some { p with mode := p.mode.set flags, body := p.body.add ⟨0, false⟩ }

/-- The end of a group, where the mode around it holds again. -/
def close? (p : Progress) : Option Progress :=
  match p.outer with
  | [] => none
  | (mode, body) :: outer =>
    some { p with mode, body := body.add ⟨p.body.depth + 1, true⟩, outer }

/-- Reads the next part or sign of a pattern, and returns what follows it. -/
def step (p : Progress) : List Char → Option (Progress × List Char)
  | [] => none
  | c :: cs =>
    match c with
    | '(' => do
      let (opening, cs) ← opening? (p.mode.skip cs)
      return (← p.open? opening, cs)
    | ')' => p.close?.map (·, cs)
    | '|' => some ({ p with body := p.body.alternative }, cs)
    | '[' => (bracket? p.mode cs).map fun (depth, cs) => (p.add depth, cs)
    | '\\' => do
      let (escape, cs) ← escape? p.mode cs
      return (← p.addIf (p.mode.admitsEscape escape), cs)
    | '\x7b' => none
    | '.' => (p.addIf p.mode.unicode).map (·, cs)
    | '^' => some (p.add 0, cs)
    | '$' => some (p.add 0, cs)
    | c =>
      if c = '?' ∨ c = '*' ∨ c = '+' then
        let rest := match cs with
          | '?' :: cs => cs
          | cs => cs
        p.body.repeated?.map fun body => ({ p with body }, rest)
      else (p.addIf (p.mode.admits c false)).map (·, cs)

/-- The pattern may end here: every group is closed, and none is too deep. -/
def isFinished (p : Progress) : Bool := p.outer.isEmpty && p.body.depth ≤ deepest

end Progress

/-- What is left of a pattern is well formed.  The fuel bounds the number of
steps. -/
def isWellFormedFrom : Nat → Progress → List Char → Bool
  | 0, _, _ => false
  | fuel + 1, p, cs =>
    match p.mode.skip cs with
    | [] => p.isFinished
    | cs =>
      match p.step cs with
      | none => false
      | some (p, cs) => isWellFormedFrom fuel p cs

/-- The pattern is well formed. -/
def isWellFormed (pattern : List Char) : Bool :=
  isWellFormedFrom (pattern.length + 1) .start pattern

end SubscriptionBilling.Log.Pattern
