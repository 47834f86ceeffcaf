import SubscriptionBilling.Json.Printer
import SubscriptionBilling.Text.Quoted
/-!
# What can be wrong with a document

Reading a typed value fails in two ways.  Either the text is no document
(`Malformation`), or it is one whose content does not fit (`Mismatch`).  A
`Fault` is one of both together with the point in the text at which it was
noticed, kept as the number of bytes that were still ahead; `Fault.message`
turns that number into a line and a column.
-/

namespace SubscriptionBilling.Json

open Text

/-- A breach of the grammar of documents. -/
inductive Malformation where
  | endOfArray
  | endOfObject
  | endOfString
  | endOfValue
  | expectedColon
  | expectedCommaOrBracket
  | expectedCommaOrBrace
  | expectedIdentifier
  | expectedValue
  | invalidEscape
  | invalidNumber
  | numberOutOfRange
  | keyNotString
  | controlCharacter
  | loneSurrogate
  | unpairedSurrogate
  | trailingComma
  | trailingCharacters
  | tooDeep
deriving DecidableEq

/-- The wording of a breach. -/
def Malformation.message : Malformation → String
  | endOfArray => "EOF while parsing a list"
  | endOfObject => "EOF while parsing an object"
  | endOfString => "EOF while parsing a string"
  | endOfValue => "EOF while parsing a value"
  | expectedColon => "expected `:`"
  | expectedCommaOrBracket => "expected `,` or `]`"
  | expectedCommaOrBrace => "expected `,` or `\x7d`"
  | expectedIdentifier => "expected ident"
  | expectedValue => "expected value"
  | invalidEscape => "invalid escape"
  | invalidNumber => "invalid number"
  | numberOutOfRange => "number out of range"
  | keyNotString => "key must be a string"
  | controlCharacter => "control character (\\u0000-\\u001F) found while parsing a string"
  | loneSurrogate => "lone leading surrogate in hex escape"
  | unpairedSurrogate => "unexpected end of hex escape"
  | trailingComma => "trailing comma"
  | trailingCharacters => "trailing characters"
  | tooDeep => "recursion limit exceeded"

/-- What was found where something else was expected. -/
inductive Found where
  | null
  | boolean (b : Bool)
  | number (n : Number)
  | text (s : String)
  | sequence
  | map
deriving DecidableEq

/-- The kind of a document, as far as a message shows it. -/
def found : Json → Found
  | null => .null
  | bool b => .boolean b
  | number n => .number n
  | string s => .text s
  | array _ => .sequence
  | object _ => .map

/-- The wording of a kind. -/
def Found.phrase : Found → String
  | null => "null"
  | boolean b => s!"boolean `{b}`"
  | number (.integer i) => s!"integer `{String.ofList (decimalInt i.val)}`"
  | number (.double x) => s!"floating point `{String.ofList (numberLayout.write x)}`"
  | text s => s!"string {quoted s}"
  | sequence => "sequence"
  | map => "map"

/-- Content that does not fit the type it is read as. -/
inductive Mismatch where
  | wrongType (found : Found) (expected : String)
  | wrongValue (found : Found) (expected : String)
  | missingField (name : String)
  | duplicateField (name : String)
  | unknownVariant (name : String) (known : List String)
  | tooShort (length : Nat) (record : String) (size : Nat)
  | tooLong (length : Nat)
  | refused (why : String)
deriving DecidableEq

/-- Names between backquotes, the way a choice between them is worded. -/
def oneOf : List String → String
  | [] => "there are no variants"
  | [a] => s!"expected `{a}`"
  | [a, b] => s!"expected `{a}` or `{b}`"
  | names => "expected one of " ++ ", ".intercalate (names.map fun n => s!"`{n}`")

/-- The wording of a mismatch. -/
def Mismatch.message : Mismatch → String
  | wrongType found expected => s!"invalid type: {found.phrase}, expected {expected}"
  | wrongValue found expected => s!"invalid value: {found.phrase}, expected {expected}"
  | missingField name => s!"missing field `{name}`"
  | duplicateField name => s!"duplicate field `{name}`"
  | unknownVariant name known => s!"unknown variant `{name}`, {oneOf known}"
  | tooShort length record size =>
    s!"invalid length {length}, expected struct {record} with {size} element"
      ++ (if size = 1 then "" else "s")
  | tooLong length => s!"invalid length {length}, expected fewer elements in array"
  | refused why => why

/-- Why a text cannot be read. -/
inductive Cause where
  | malformed (m : Malformation)
  | unfit (m : Mismatch)
deriving DecidableEq

/-- The wording of a cause. -/
def Cause.message : Cause → String
  | malformed m => m.message
  | unfit m => m.message

/-- A cause and the number of bytes behind the point where it was noticed. -/
structure Fault where
  cause : Cause
  ahead : Nat
deriving DecidableEq

namespace Fault

/-- The grammar is broken after the text read so far. -/
def here (m : Malformation) (rest : List Char) : Fault := ⟨.malformed m, byteCount rest⟩

/-- The grammar is broken by the next byte, or by the end of the text. -/
def next (m : Malformation) (rest : List Char) : Fault := ⟨.malformed m, byteCount rest - 1⟩

/-- The content read so far does not fit. -/
def unfit (m : Mismatch) (rest : List Char) : Fault := ⟨.unfit m, byteCount rest⟩

end Fault

/-- A place in a text: its line, and the bytes since the line began. -/
structure Position where
  line : Nat
  column : Nat
deriving DecidableEq

/-- The place after so many bytes. -/
def Position.after : Nat → Position → List Char → Position
  | _, start, [] => start
  | bytes, start, c :: rest =>
    if bytes < c.utf8Size then ⟨start.line, start.column + bytes⟩
    else
      let next := if c = '\n' then ⟨start.line + 1, 0⟩ else ⟨start.line, start.column + c.utf8Size⟩
      Position.after (bytes - c.utf8Size) next rest

/-- The place in a text where a fault was noticed. -/
def Fault.position (fault : Fault) (input : List Char) : Position :=
  Position.after (byteCount input - fault.ahead) ⟨1, 0⟩ input

/-- The wording of a fault, with its place. -/
def Fault.message (fault : Fault) (input : String) : String :=
  let place := fault.position input.toList
  s!"{fault.cause.message} at line {place.line} column {place.column}"

/-- A reader takes its value from the front of a text and leaves the rest. -/
abbrev Reader (α : Type) := List Char → Except Fault (α × List Char)

end SubscriptionBilling.Json
