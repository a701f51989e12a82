import QueryPlayground.Binary64.Arithmetic
import QueryPlayground.Text.IntegerText
import QueryPlayground.Text.Lowercase
import QueryPlayground.Text.Split
import QueryPlayground.Yaml.Fault

/-!
The numbers that scalars denote. Low lines in them do not count. Integers may be binary, octal or
hexadecimal, and both kinds of numbers may be written to base sixty with colons.
-/
namespace QueryPlayground.Yaml

/-- The integer that digits denote to a base. -/
def readInteger (base : Nat) (text : List Char) : Except ValueFault Int :=
  (Text.readInteger base text).mapError .integer

/-- Splits off a sign; there must be something to split. -/
def signed (text : List Char) : Except ValueFault (Bool × List Char) :=
  if text.isEmpty then .error .emptyNumber else .ok (Text.splitSign text)

def withoutLowLines (text : List Char) : List Char := text.filter (· != '_')

/-- The integer that a scalar denotes. -/
def integerOf (text : List Char) : Except ValueFault Int := do
  let (negative, bare) ← signed (withoutLowLines text)
  let n ← match bare with
    | [] => throw .emptyNumber
    | ['0'] => pure 0
    | '0' :: 'b' :: digits => readInteger 2 digits
    | '0' :: 'x' :: digits => readInteger 16 digits
    | '0' :: _ => readInteger 8 bare
    | _ =>
      if bare.contains ':' then
        (Text.pieces ':' bare).foldlM (fun n part => do return 60 * n + (← readInteger 10 part)) 0
      else readInteger 10 bare
  return if negative then -n else n

def readFloat (text : List Char) : Except ValueFault Binary64 :=
  (Binary64.convertText (String.ofList text)).mapError .float

/-- The value of parts to base sixty, the lowest part first. -/
def sixtieths : Nat → Binary64 → List Binary64 → Except ValueFault Binary64
  | _, sum, [] => .ok sum
  | base, sum, part :: rest =>
    match Binary64.convertInt base with
    | .error fault => .error (.float fault)
    | .ok factor => sixtieths (60 * base) (sum + part * factor) rest

/-- The sign and the word or number of the text of a double. -/
def floatParts (text : List Char) : Except ValueFault (Bool × List Char) :=
  signed (Text.lowerChars (withoutLowLines text))

/-- The word for what is not a number. -/
def nanWord : List Char := ".nan".toList

/-- Whether a text is the word for what is not a number; a sign does not matter. -/
def isNanWord (text : List Char) : Bool :=
  match floatParts text with
  | .ok (_, bare) => bare == nanWord
  | .error _ => false

/-- The double that a scalar denotes. -/
def floatOf (text : List Char) : Except ValueFault Binary64 := do
  let (negative, bare) ← floatParts text
  let sign := Binary64.ofInt (if negative then -1 else 1)
  if bare = ".inf".toList then return sign * .infinite false
  else if bare = nanWord then return .nan
  else if bare.contains ':' then
    return sign * (← sixtieths 1 .zero (← (Text.pieces ':' bare).mapM readFloat).reverse)
  else return sign * (← readFloat bare)

end QueryPlayground.Yaml
