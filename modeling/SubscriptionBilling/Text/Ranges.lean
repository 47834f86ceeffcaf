/-!
# Ranges of code points

Properties of the Unicode standard are kept as tables of ranges.
-/

namespace SubscriptionBilling.Text

/-- The number lies in one of the ranges, ends included. -/
def inRanges (table : List (Nat × Nat)) (n : Nat) : Bool :=
  table.any fun range => range.1 ≤ n && n ≤ range.2

end SubscriptionBilling.Text
