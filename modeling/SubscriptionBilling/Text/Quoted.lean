import SubscriptionBilling.Text.Printable
import SubscriptionBilling.Text.Numeral
/-!
# Quoted text

The form in which a text is shown inside a message: between double quotes, with
a backslash before a quote or a backslash, short forms for the common controls,
and the code point in braces for all that would not show by itself.  `quoted`
writes one text, `quotedList` a list of them between brackets.
-/

namespace SubscriptionBilling.Text

/-- One character as it stands between quotes. -/
def escape (c : Char) : List Char :=
  match c with
  | '\x00' => ['\\', '0']
  | '\t' => ['\\', 't']
  | '\r' => ['\\', 'r']
  | '\n' => ['\\', 'n']
  | '"' => ['\\', '"']
  | '\\' => ['\\', '\\']
  | c =>
    if isPrintable c && !isExtending c then [c]
    else ['\\', 'u', '\x7b'] ++ hexadecimal c.toNat ++ ['\x7d']

/-- A text between double quotes. -/
def quoted (s : String) : String :=
  String.ofList ('"' :: s.toList.flatMap escape ++ ['"'])

/-- Several texts, each quoted, between brackets. -/
def quotedList (items : List String) : String :=
  "[" ++ ", ".intercalate (items.map quoted) ++ "]"

end SubscriptionBilling.Text
