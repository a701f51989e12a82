import QueryPlayground.Binary64.Reading
import QueryPlayground.Text.Quoted

/-!
Conversions to double-precision numbers that may fail, and the reasons why.
-/
namespace QueryPlayground.Binary64

/-- Why a value is no number. -/
inductive ConversionFault where
  | wrongKind (kind : String)
  | unreadable (shown : String)
  | tooLarge
  deriving DecidableEq, Repr

def ConversionFault.message : ConversionFault → String
  | .wrongKind kind => s!"float() argument must be a string or a real number, not '{kind}'"
  | .unreadable shown => s!"could not convert string to float: {shown}"
  | .tooLarge => "int too large to convert to float"

/-- The double nearest to an integer, unless the integer is out of range. -/
def convertInt (n : Int) : Except ConversionFault Binary64 :=
  let x := ofInt n
  if x.isFinite then .ok x else .error .tooLarge

def convertBool (b : Bool) : Binary64 := ofInt (if b then 1 else 0)

/-- The number that a text denotes. -/
def convertText (s : String) : Except ConversionFault Binary64 :=
  match ofText? s.toList with
  | some x => .ok x
  | none => .error (.unreadable (Text.quoted s))

end QueryPlayground.Binary64
