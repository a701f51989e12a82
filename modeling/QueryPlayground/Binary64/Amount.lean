import QueryPlayground.Binary64.Arithmetic
import QueryPlayground.Binary64.Conversion

/-!
Amounts: whole numbers, on which arithmetic is exact, or doubles, on which every step is rounded.
-/
namespace QueryPlayground

inductive Amount where
  | whole (n : Int)
  | real (x : Binary64)
  deriving DecidableEq, Repr

namespace Amount

/-- An amount times a factor, with an offset added to it. -/
def scale (factor offset : Int) : Amount → Amount
  | .whole n => .whole (n * factor + offset)
  | .real x => .real (x * Binary64.ofInt factor + Binary64.ofInt offset)

/-- The double nearest to an amount. -/
def toDouble : Amount → Except Binary64.ConversionFault Binary64
  | .whole n => Binary64.convertInt n
  | .real x => .ok x

end Amount
end QueryPlayground
