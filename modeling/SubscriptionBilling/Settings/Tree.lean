import SubscriptionBilling.Decimal.Double
import SubscriptionBilling.OrderedMap
import SubscriptionBilling.Text.Cut
import SubscriptionBilling.Text.Lowercase
/-!
# Settings from environment variables

A variable counts if its name in lower case begins with `billing_core__`.  What
follows is a path into a tree of settings, with two underscores between its
parts, and the variable's value is put there; its type is guessed from its
text.

* `Setting.guess` types a value: a truth value, an integer, a double or a text;
* `Path.parse` reads a path of names, with list indices in brackets; whatever
  is no path is one name;
* `Setting.put?` puts a value at a path and makes the way to it, unless an index
  on it lies outside of what a list can hold;
* `Setting.ofVariables?` is the tree of all variables.
-/

namespace SubscriptionBilling.Settings

open Text

/-- A tree of settings.  A list has a length and the items that were put into
it; `absent` stands in its other places. -/
inductive Setting where
  | absent
  | truth (b : Bool)
  | integer (i : Int)
  | double (x : Double)
  | text (s : String)
  | list (length : Nat) (items : List (Nat × Setting))
  | table (entries : List (String × Setting))

instance : Inhabited Setting := ⟨.absent⟩

/-- A number has 64 bits with its sign. -/
def isWord64 (i : Int) : Bool := -9223372036854775808 ≤ i && i < 9223372036854775808

/-- An integer of 64 bits. -/
def word64? (s : String) : Option Int := (integer? s.toList).filter isWord64

/-- The value of a text, of the first type that it can be read as. -/
def Setting.guess (s : String) : Setting :=
  let word := lowercase s
  if word = "true" then truth true
  else if word = "false" then truth false
  else
    match word64? s with
    | some i => integer i
    | none =>
      match Double.ofText? s with
      | some x => double x
      | none => text s

/-! ## Paths -/

/-- One step down: to an entry of a table, or to an item of a list, counted from
the end if it is negative. -/
inductive Step where
  | entry (name : String)
  | item (index : Int)
deriving DecidableEq

/-- A way down from the top, which is a table. -/
structure Path where
  first : String
  steps : List Step
deriving DecidableEq

namespace Path

/-- Names consist of letters, digits, blanks, underscores and hyphens. -/
def isNameChar (c : Char) : Bool := c.isAlphanum || c == ' ' || c == '_' || c == '-'

/-- A name at the front, if there is one, and what follows it. -/
def name? (cs : List Char) : Option (String × List Char) :=
  match cs.takeWhile isNameChar with
  | [] => none
  | name => some (String.ofList name, cs.dropWhile isNameChar)

/-- Blanks and tabs around an index mean nothing. -/
def isPadding (c : Char) : Bool := c == ' ' || c == '\t'

/-- An index of 64 bits behind its opening bracket, with its closing one. -/
def index? (cs : List Char) : Option (Int × List Char) :=
  let (sign, cs) : Int × List Char :=
    match cs.dropWhile isPadding with
    | '-' :: cs => (-1, cs)
    | cs => (1, cs)
  let (digits, cs) := splitDigits cs
  match cs.dropWhile isPadding with
  | ']' :: cs => ((digits? digits).map (sign * Int.ofNat ·)).filter isWord64 |>.map (·, cs)
  | _ => none

/-- The steps of a text, if it consists of nothing else.  The fuel bounds their
number. -/
def steps? : Nat → List Char → Option (List Step)
  | 0, _ => none
  | _ + 1, [] => some []
  | fuel + 1, '.' :: cs =>
    match name? cs with
    | none => none
    | some (name, cs) => (steps? fuel cs).map (.entry name :: ·)
  | fuel + 1, '[' :: cs =>
    match index? cs with
    | none => none
    | some (index, cs) => (steps? fuel cs).map (.item index :: ·)
  | _ + 1, _ :: _ => none

/-- The path of a text.  What is no path is the name of a single entry. -/
def parse (cs : List Char) : Path :=
  match name? cs with
  | none => ⟨String.ofList cs, []⟩
  | some (first, rest) =>
    match steps? (rest.length + 1) rest with
    | none => ⟨String.ofList cs, []⟩
    | some steps => ⟨first, steps⟩

end Path

namespace Setting

/-- The entries of a table; anything else has none. -/
def entries : Setting → List (String × Setting)
  | table entries => entries
  | _ => []

/-- The length of a list; anything else has none. -/
def length : Setting → Nat
  | list length _ => length
  | _ => 0

/-- The items that were put into a list; anything else has none. -/
def items : Setting → List (Nat × Setting)
  | list _ items => items
  | _ => []

/-- The most places a list can have: each takes 96 bytes of at most `2 ^ 63`. -/
def longest : Nat := 96076792050570581

/-- The place of an index in a list of some length, which grows to hold it. -/
def place? (length : Nat) : Int → Option Nat
  | .ofNat n => if n < longest then some n else none
  | .negSucc n => if n < length then some (length - (n + 1)) else none

/-- Changes the value of a key, or makes it from an absent one. -/
def putUnder? {K : Type} [DecidableEq K] (f : Setting → Option Setting) (key : K) :
    List (K × Setting) → Option (List (K × Setting))
  | [] => (f absent).map fun setting => [(key, setting)]
  | (k, setting) :: rest =>
    if k = key then (f setting).map fun setting => (k, setting) :: rest
    else (putUnder? f key rest).map fun rest => (k, setting) :: rest

/-- Puts a value where steps lead; what stands in the way is replaced. -/
def put? (value : Setting) : List Step → Setting → Option Setting
  | [], _ => some value
  | .entry name :: steps, setting => (putUnder? (put? value steps) name setting.entries).map table
  | .item index :: steps, setting => do
    let place ← place? setting.length index
    let items ← putUnder? (put? value steps) place setting.items
    return list (max setting.length (place + 1)) items

/-- Puts a value at a path. -/
def putAt? (top : Setting) (path : Path) (value : Setting) : Option Setting :=
  put? value (.entry path.first :: path.steps) top

end Setting

/-! ## Variables -/

/-- Variables that can be set: their names are not empty and have no equals sign,
and neither names nor values have a null character. -/
def isVariable (name value : String) : Bool :=
  name != "" && name.toList.all (fun c => c != '=' && c != '\x00')
    && value.toList.all (· != '\x00')

/-- The environment after variables have been set one after the other, if all of
them can be. -/
def environment? (assignments : List (String × String)) : Option (OrderedMap String String) :=
  if assignments.all fun (name, value) => isVariable name value then
    some (assignments.foldl (fun vars (name, value) => vars.set name value) .empty)
  else none

/-- What the names of variables begin with. -/
def namePrefix : List Char := "billing_core__".toList

/-- A text with a point for every two underscores. -/
def pointed : List Char → List Char
  | '_' :: '_' :: cs => '.' :: pointed cs
  | c :: cs => c :: pointed cs
  | [] => []

/-- The path that the name of a variable stands for, if the variable counts. -/
def variablePath? (name : String) : Option Path :=
  (behind? namePrefix (lowercase name).toList).map fun rest => Path.parse (pointed rest)

/-- The tree of settings of some variables, the later ones last. -/
def Setting.ofVariables? (environment : OrderedMap String String) : Option Setting :=
  environment.entries.foldlM
    (fun top (name, value) =>
      match variablePath? name with
      | none => some top
      | some path => top.putAt? path (.guess value))
    (.table [])

end SubscriptionBilling.Settings
