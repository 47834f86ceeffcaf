import SubscriptionBilling.Json.Fault
/-!
# The smallest parts of a document

Blanks, words, strings and numbers, each read from the front of a text.

* `readString` takes what stands between quotes, the opening one already read;
  two escapes that form a surrogate pair give one character;
* `readNumber` keeps an integer that fits 64 bits as it is and rounds all other
  numbers to doubles;
* `skipString` and `skipNumber` pass over the same parts without making a value
  of them, and so refuse less.
-/

namespace SubscriptionBilling.Json

open Text

/-- The white space of documents. -/
def isSpace (c : Char) : Bool := c == ' ' || c == '\n' || c == '\t' || c == '\r'

/-- The text behind its leading white space. -/
def skipSpace (cs : List Char) : List Char := cs.dropWhile isSpace

/-- The rest of a word whose first letter was read. -/
def readWord : List Char → List Char → Except Fault (List Char)
  | [], cs => .ok cs
  | _ :: _, [] => .error (.here .endOfValue [])
  | w :: word, c :: cs =>
    if c = w then readWord word cs else .error (.next .expectedIdentifier (c :: cs))

/-! ## Strings -/

/-- The value of four hexadecimal digits. -/
def hexQuad? (a b c d : Char) : Option Nat :=
  match hexValue? a, hexValue? b, hexValue? c, hexValue? d with
  | some a, some b, some c, some d =>
    some (((a.val * 16 + b.val) * 16 + c.val) * 16 + d.val)
  | _, _, _, _ => none

/-- The fault of four bytes that are no hexadecimal digits, or of their absence. -/
def hexFault (cs : List Char) : Fault :=
  if byteCount cs < 4 then .here .endOfString []
  else ⟨.malformed .invalidEscape, byteCount cs - 4⟩

/-- A unit that must be followed by a second one. -/
def isHighSurrogate (n : Nat) : Bool := 0xD800 ≤ n && n ≤ 0xDBFF

/-- A unit that must follow a first one. -/
def isLowSurrogate (n : Nat) : Bool := 0xDC00 ≤ n && n ≤ 0xDFFF

/-- The character of a surrogate pair. -/
def pairChar (high low : Nat) : Char :=
  Char.ofNat (0x10000 + (high - 0xD800) * 0x400 + (low - 0xDC00))

/-- The character of a short escape. -/
def shortEscape? : Char → Option Char
  | '"' => some '"'
  | '\\' => some '\\'
  | '/' => some '/'
  | 'b' => some '\x08'
  | 'f' => some '\x0c'
  | 'n' => some '\n'
  | 'r' => some '\r'
  | 't' => some '\t'
  | _ => none

/-- Puts a character in front of a string that was read. -/
def consChar (c : Char) :
    Except Fault (List Char × List Char) → Except Fault (List Char × List Char)
  | .ok (s, rest) => .ok (c :: s, rest)
  | .error e => .error e

/-- The characters up to the closing quote. -/
def readChars : List Char → Except Fault (List Char × List Char)
  | [] => .error (.here .endOfString [])
  | '"' :: rest => .ok ([], rest)
  | '\\' :: [] => .error (.here .endOfString [])
  | '\\' :: 'u' :: a :: b :: c :: d :: rest =>
    match hexQuad? a b c d with
    | none => .error (hexFault (a :: b :: c :: d :: rest))
    | some n =>
      if isLowSurrogate n then .error (.here .loneSurrogate rest)
      else if isHighSurrogate n then
        match rest with
        | [] => .error (.here .endOfString [])
        | ['\\'] => .error (.here .endOfString [])
        | '\\' :: 'u' :: e :: f :: g :: h :: rest =>
          match hexQuad? e f g h with
          | none => .error (hexFault (e :: f :: g :: h :: rest))
          | some low =>
            if isLowSurrogate low then consChar (pairChar n low) (readChars rest)
            else .error (.here .loneSurrogate rest)
        | '\\' :: 'u' :: rest => .error (hexFault rest)
        | '\\' :: rest => .error (.next .unpairedSurrogate rest)
        | rest => .error (.next .unpairedSurrogate rest)
      else consChar (Char.ofNat n) (readChars rest)
  | '\\' :: 'u' :: rest => .error (hexFault rest)
  | '\\' :: c :: rest =>
    match shortEscape? c with
    | some c => consChar c (readChars rest)
    | none => .error (.next .invalidEscape (c :: rest))
  | c :: rest =>
    if c.toNat < 0x20 then .error (.here .controlCharacter rest)
    else consChar c (readChars rest)

/-- A string behind its opening quote. -/
def readString (cs : List Char) : Except Fault (String × List Char) :=
  match readChars cs with
  | .ok (s, rest) => .ok (String.ofList s, rest)
  | .error e => .error e

/-- Passes over a string behind its opening quote.  Surrogates are not paired,
and a control character is noticed before it is read. -/
def skipString : List Char → Except Fault (List Char)
  | [] => .error (.here .endOfString [])
  | '"' :: rest => .ok rest
  | '\\' :: [] => .error (.here .endOfString [])
  | '\\' :: 'u' :: a :: b :: c :: d :: rest =>
    match hexQuad? a b c d with
    | none => .error (hexFault (a :: b :: c :: d :: rest))
    | some _ => skipString rest
  | '\\' :: 'u' :: rest => .error (hexFault rest)
  | '\\' :: c :: rest =>
    if (shortEscape? c).isSome then skipString rest
    else .error (.next .invalidEscape (c :: rest))
  | c :: rest =>
    if c.toNat < 0x20 then .error (.here .controlCharacter (c :: rest)) else skipString rest

/-! ## Numbers -/

/-- Digits taken while the number they continue stays below `2 ^ 64`, and how
many were taken. -/
def takeFitting (n taken : Nat) : List Char → Nat × Nat × List Char
  | c :: cs =>
    if c.isDigit && n * 10 + digitValue c < UInt64.size then
      takeFitting (n * 10 + digitValue c) (taken + 1) cs
    else (n, taken, c :: cs)
  | [] => (n, taken, [])

/-- Digits taken while the number they continue stays below `2 ^ 31`. -/
def takeExponent (n : Nat) : List Char → Nat × List Char
  | c :: cs =>
    if c.isDigit && n * 10 + digitValue c ≤ 2147483647 then takeExponent (n * 10 + digitValue c) cs
    else (n, c :: cs)
  | [] => (n, [])

/-- The text starts with a digit. -/
def startsWithDigit : List Char → Bool
  | c :: _ => c.isDigit
  | [] => false

/-- The largest exponent that is told apart from larger ones. -/
def exponentBound : Int := 2147483647

/-- The double `± significand * 10 ^ power`, read up to `rest`. -/
def makeDouble (negative : Bool) (significand : Nat) (power : Int) (rest : List Char) :
    Except Fault (Number × List Char) :=
  match (Binary64.ofNat? significand).bind fun x => x.scaleByTen? 4 power with
  | some x => .ok (.double { x with negative := negative }, rest)
  | none => .error (.here .numberOutOfRange rest)

/-- The sign in front of an exponent, true if it is a minus, and what follows. -/
def takeSign : List Char → Bool × List Char
  | '+' :: cs => (false, cs)
  | '-' :: cs => (true, cs)
  | cs => (false, cs)

/-- The digits of an exponent, behind its sign. -/
def readPower (negative : Bool) (significand : Nat) (power : Int) (down : Bool) :
    List Char → Except Fault (Number × List Char)
  | [] => .error (.here .endOfValue [])
  | c :: cs =>
    if !c.isDigit then .error (.next .invalidNumber (c :: cs))
    else
      let (e, rest) := takeExponent (digitValue c) cs
      match rest with
      | d :: tail =>
        if d.isDigit then
          if significand ≠ 0 ∧ !down then .error (.here .numberOutOfRange tail)
          else .ok (.double (.zero negative), tail.dropWhile Char.isDigit)
        else
          makeDouble negative significand
            (if down then max (power - e) (-exponentBound) else min (power + e) exponentBound) rest
      | [] =>
        makeDouble negative significand
          (if down then max (power - e) (-exponentBound) else min (power + e) exponentBound) []

/-- The exponent of a number, behind its letter. -/
def readExponent (negative : Bool) (significand : Nat) (power : Int) (cs : List Char) :
    Except Fault (Number × List Char) :=
  let (down, cs) := takeSign cs
  readPower negative significand power down cs

/-- An exponent if there is one, or the end of the number. -/
def readScale (negative : Bool) (significand : Nat) (power : Int) (cs : List Char) :
    Except Fault (Number × List Char) :=
  match cs with
  | 'e' :: rest => readExponent negative significand power rest
  | 'E' :: rest => readExponent negative significand power rest
  | cs => makeDouble negative significand power cs

/-- The decimals of a number, behind the point.  Digits that no longer fit the
significand are passed over. -/
def readDecimals (negative : Bool) (significand : Nat) (power : Int) (cs : List Char) :
    Except Fault (Number × List Char) :=
  let (n, taken, rest) := takeFitting significand 0 cs
  if startsWithDigit rest then
    readScale negative n (power - taken) (rest.dropWhile Char.isDigit)
  else if taken = 0 then
    .error (.next (if rest.isEmpty then .endOfValue else .invalidNumber) rest)
  else readScale negative n (power - taken) rest

/-- What follows the integer part of a number. -/
def readTail (negative : Bool) (significand : Nat) (power : Int) (cs : List Char) :
    Except Fault (Number × List Char) :=
  match cs with
  | '.' :: rest => readDecimals negative significand power rest
  | cs => readScale negative significand power cs

/-- A number without point and exponent: an integer if it has 64 bits, else a
double.  A negative zero is a double. -/
def makeInteger (negative : Bool) (n : Nat) (rest : List Char) :
    Except Fault (Number × List Char) :=
  if negative ∧ n = 0 then .ok (.double (.zero true), rest)
  else
    match Integer.ofInt? (if negative then -(n : Int) else n) with
    | some i => .ok (.integer i, rest)
    | none => makeDouble negative n 0 rest

/-- A number behind its sign. -/
def readNumber (negative : Bool) : List Char → Except Fault (Number × List Char)
  | [] => .error (.here .endOfValue [])
  | c :: cs =>
    if !c.isDigit then .error (.next .invalidNumber (c :: cs))
    else if c = '0' ∧ startsWithDigit cs then .error (.next .invalidNumber cs)
    else
      let (n, _, rest) := if c = '0' then (0, 0, cs) else takeFitting (digitValue c) 0 cs
      let (extra, rest) := splitDigits rest
      match rest with
      | '.' :: _ => readTail negative n extra.length rest
      | 'e' :: _ => readTail negative n extra.length rest
      | 'E' :: _ => readTail negative n extra.length rest
      | rest =>
        if extra.isEmpty then makeInteger negative n rest
        else makeDouble negative n extra.length rest

/-- Passes over the exponent of a number, behind its letter. -/
def skipExponent (cs : List Char) : Except Fault (List Char) :=
  let (_, cs) := takeSign cs
  if startsWithDigit cs then .ok (cs.dropWhile Char.isDigit)
  else .error (.next .invalidNumber cs)

/-- Passes over an exponent, if there is one. -/
def skipScale (cs : List Char) : Except Fault (List Char) :=
  match cs with
  | 'e' :: rest => skipExponent rest
  | 'E' :: rest => skipExponent rest
  | cs => .ok cs

/-- Passes over a number behind its sign, whatever its size. -/
def skipNumber (cs : List Char) : Except Fault (List Char) :=
  match cs with
  | [] => .error (.here .invalidNumber [])
  | c :: rest =>
    if !c.isDigit then .error (.next .invalidNumber cs)
    else if c = '0' ∧ startsWithDigit rest then .error (.next .invalidNumber rest)
    else
      match rest.dropWhile Char.isDigit with
      | '.' :: rest =>
        if startsWithDigit rest then skipScale (rest.dropWhile Char.isDigit)
        else .error (.next .invalidNumber rest)
      | rest => skipScale rest

end SubscriptionBilling.Json
