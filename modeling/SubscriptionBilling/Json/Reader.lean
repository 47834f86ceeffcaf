import SubscriptionBilling.Json.Lexeme
/-!
# Reading documents

`readDocument` takes a whole document from the front of a text, objects with
their members as written, and `skipDocument` passes over one that nobody asked
for.  `read` reads a text that holds one document and nothing else.

The steps between the parts of a container (`nextItem`, `nextKey`, `readColon`,
`closeArray`, `closeObject`) are shared with the readers of typed values.
A container is entered only while `room` is left; the fuel of the recursive
readers is computed from the length of the text and never runs out.
-/

namespace SubscriptionBilling.Json

open Text

/-- How many containers may be open at once. -/
def roomAtStart : Nat := 127

/-! ## Steps inside containers -/

/-- The place of the next item of an array, or nothing before the bracket. -/
def nextItem (first : Bool) (cs : List Char) : Except Fault (Option (List Char)) :=
  match skipSpace cs with
  | [] => .error (.next .endOfArray [])
  | ']' :: _ => .ok none
  | c :: rest =>
    if first then .ok (some (c :: rest))
    else if c = ',' then
      match skipSpace rest with
      | [] => .error (.next .endOfValue [])
      | ']' :: rest => .error (.next .trailingComma (']' :: rest))
      | rest => .ok (some rest)
    else .error (.next .expectedCommaOrBracket (c :: rest))

/-- The place behind the quote that opens the next key of an object, or nothing
before the brace. -/
def nextKey (first : Bool) (cs : List Char) : Except Fault (Option (List Char)) :=
  match skipSpace cs with
  | [] => .error (.next .endOfObject [])
  | '\x7d' :: _ => .ok none
  | c :: rest =>
    if first then
      if c = '"' then .ok (some rest) else .error (.next .keyNotString (c :: rest))
    else if c = ',' then
      match skipSpace rest with
      | [] => .error (.next .endOfValue [])
      | '"' :: rest => .ok (some rest)
      | '\x7d' :: rest => .error (.next .trailingComma ('\x7d' :: rest))
      | rest => .error (.next .keyNotString rest)
    else .error (.next .expectedCommaOrBrace (c :: rest))

/-- The place behind the colon. -/
def readColon (cs : List Char) : Except Fault (List Char) :=
  match skipSpace cs with
  | [] => .error (.next .endOfObject [])
  | ':' :: rest => .ok rest
  | rest => .error (.next .expectedColon rest)

/-- The place behind the bracket that ends an array of which everything wanted
was read. -/
def closeArray (cs : List Char) : Except Fault (List Char) :=
  match skipSpace cs with
  | [] => .error (.next .endOfArray [])
  | ']' :: rest => .ok rest
  | ',' :: rest =>
    match skipSpace rest with
    | ']' :: rest => .error (.next .trailingComma (']' :: rest))
    | rest => .error (.next .trailingCharacters rest)
  | rest => .error (.next .trailingCharacters rest)

/-- The place behind the brace that ends an object. -/
def closeObject (cs : List Char) : Except Fault (List Char) :=
  match skipSpace cs with
  | [] => .error (.next .endOfObject [])
  | '\x7d' :: rest => .ok rest
  | ',' :: rest => .error (.next .trailingComma (',' :: rest))
  | rest => .error (.next .trailingCharacters rest)

/-! ## Documents -/

/-- Puts a value on what was read behind it. -/
def consRead {α : Type} (a : α) :
    Except Fault (List α × List Char) → Except Fault (List α × List Char)
  | .ok (as, rest) => .ok (a :: as, rest)
  | .error e => .error e

mutual

/-- Reads one document. -/
def readDocument : Nat → Nat → Reader Json
  | 0, _, cs => .error (.here .tooDeep cs)
  | fuel + 1, room, cs =>
    match skipSpace cs with
    | [] => .error (.next .endOfValue [])
    | 'n' :: rest => (readWord "ull".toList rest).map fun rest => (null, rest)
    | 't' :: rest => (readWord "rue".toList rest).map fun rest => (bool true, rest)
    | 'f' :: rest => (readWord "alse".toList rest).map fun rest => (bool false, rest)
    | '-' :: rest => (readNumber true rest).map fun (n, rest) => (number n, rest)
    | '"' :: rest => (readString rest).map fun (s, rest) => (string s, rest)
    | '[' :: rest =>
      match room with
      | 0 => .error (.next .tooDeep ('[' :: rest))
      | room + 1 =>
        (readItems fuel room true rest).bind fun (items, rest) =>
          (closeArray rest).map fun rest => (array items, rest)
    | '\x7b' :: rest =>
      match room with
      | 0 => .error (.next .tooDeep ('\x7b' :: rest))
      | room + 1 =>
        (readMembers fuel room true rest).bind fun (members, rest) =>
          (closeObject rest).map fun rest => (object members, rest)
    | c :: rest =>
      if c.isDigit then (readNumber false (c :: rest)).map fun (n, rest) => (number n, rest)
      else .error (.next .expectedValue (c :: rest))

/-- Reads the items up to the closing bracket. -/
def readItems : Nat → Nat → Bool → Reader (List Json)
  | 0, _, _, cs => .error (.here .tooDeep cs)
  | fuel + 1, room, first, cs =>
    match nextItem first cs with
    | .error e => .error e
    | .ok none => .ok ([], cs)
    | .ok (some cs) =>
      match readDocument fuel room cs with
      | .error e => .error e
      | .ok (item, cs) => consRead item (readItems fuel room false cs)

/-- Reads the members up to the closing brace. -/
def readMembers : Nat → Nat → Bool → Reader (List (String × Json))
  | 0, _, _, cs => .error (.here .tooDeep cs)
  | fuel + 1, room, first, cs =>
    match nextKey first cs with
    | .error e => .error e
    | .ok none => .ok ([], cs)
    | .ok (some cs) =>
      match readString cs with
      | .error e => .error e
      | .ok (key, cs) =>
        match readColon cs with
        | .error e => .error e
        | .ok cs =>
          match readDocument fuel room cs with
          | .error e => .error e
          | .ok (value, cs) => consRead (key, value) (readMembers fuel room false cs)

end

/-- Enough fuel for any document at the front of a text. -/
def fuelFor (cs : List Char) : Nat := 2 * cs.length + 2

/-! ## Documents nobody asked for -/

mutual

/-- Passes over one document, whatever its nesting. -/
def skipDocument : Nat → List Char → Except Fault (List Char)
  | 0, cs => .error (.here .tooDeep cs)
  | fuel + 1, cs =>
    match skipSpace cs with
    | [] => .error (.next .endOfValue [])
    | 'n' :: rest => readWord "ull".toList rest
    | 't' :: rest => readWord "rue".toList rest
    | 'f' :: rest => readWord "alse".toList rest
    | '-' :: rest => skipNumber rest
    | '"' :: rest => skipString rest
    | '[' :: rest => skipItems fuel true rest
    | '\x7b' :: rest => skipMembers fuel true rest
    | c :: rest =>
      if c.isDigit then skipNumber (c :: rest) else .error (.next .expectedValue (c :: rest))

/-- Passes over the items of an array and its closing bracket. -/
def skipItems : Nat → Bool → List Char → Except Fault (List Char)
  | 0, _, cs => .error (.here .tooDeep cs)
  | fuel + 1, first, cs =>
    match skipSpace cs with
    | [] => .error (.next .endOfArray [])
    | ']' :: rest => .ok rest
    | c :: rest =>
      if first then
        match skipDocument fuel (c :: rest) with
        | .error e => .error e
        | .ok rest => skipItems fuel false rest
      else if c = ',' then
        match skipDocument fuel rest with
        | .error e => .error e
        | .ok rest => skipItems fuel false rest
      else .error (.next .expectedCommaOrBracket (c :: rest))

/-- Passes over the members of an object and its closing brace. -/
def skipMembers : Nat → Bool → List Char → Except Fault (List Char)
  | 0, _, cs => .error (.here .tooDeep cs)
  | fuel + 1, first, cs =>
    match skipSpace cs with
    | [] => .error (.next .endOfObject [])
    | '\x7d' :: rest => .ok rest
    | c :: rest =>
      if first then skipMember fuel (c :: rest)
      else if c = ',' then skipMember fuel rest
      else .error (.next .expectedCommaOrBrace (c :: rest))

/-- Passes over a key, its colon and its value, and then the other members. -/
def skipMember : Nat → List Char → Except Fault (List Char)
  | 0, cs => .error (.here .tooDeep cs)
  | fuel + 1, cs =>
    match skipSpace cs with
    | [] => .error (.next .endOfObject [])
    | '"' :: rest =>
      match skipString rest with
      | .error e => .error e
      | .ok rest =>
        match readColon rest with
        | .error e => .error e
        | .ok rest =>
          match skipDocument fuel rest with
          | .error e => .error e
          | .ok rest => skipMembers fuel false rest
    | rest => .error (.next .keyNotString rest)

end

/-- Passes over one document that belongs to no known field. -/
def skip (cs : List Char) : Except Fault (List Char) := skipDocument (2 * fuelFor cs) cs

/-- Nothing but blanks is left. -/
def finish (cs : List Char) : Except Fault Unit :=
  match skipSpace cs with
  | [] => .ok ()
  | rest => .error (.next .trailingCharacters rest)

/-- Reads a text with a reader, and refuses what is left over. -/
def whole {α : Type} (reader : Reader α) (input : String) : Except Fault α :=
  match reader input.toList with
  | .error e => .error e
  | .ok (a, rest) => (finish rest).map fun _ => a

/-- Reads one document from the front of a text. -/
def reader (room : Nat) : Reader Json := fun cs => readDocument (fuelFor cs) room cs

/-- Reads a text that holds one document. -/
def read (input : String) : Except Fault Json := whole (reader roomAtStart) input

end SubscriptionBilling.Json
