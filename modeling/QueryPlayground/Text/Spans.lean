/-!
Sets of characters given by intervals of code points, as the tables of character properties are.
-/
namespace QueryPlayground.Text

/-- A set of code points as closed intervals. -/
abbrev Spans := List (Nat × Nat)

def Spans.contains (spans : Spans) (n : Nat) : Bool :=
  spans.any fun (low, high) => low ≤ n && n ≤ high

end QueryPlayground.Text
