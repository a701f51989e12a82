import QueryPlayground.Text.Blank
import QueryPlayground.Text.Digit
import QueryPlayground.Text.Quoted
import QueryPlayground.Text.Split

/-!
Texts of integers: how long a decimal text may be, whether it is to be read or to be written, and which
integer a text denotes.
-/
namespace QueryPlayground.Text

/-- Decimal texts of integers have at most this many digits. -/
def maxIntegerDigits : Nat := 4300

/-- Whether an integer can be written in decimal. -/
def isWritable (n : Int) : Bool := n.natAbs < Nat.pow 10 maxIntegerDigits

/-- The complaint about a longer text; how long it is, is known only when it was to be read. -/
def integerLimitMessage (digits : Option Nat) : String :=
  let length := digits.elim "" fun n => s!": value has {n} digits"
  s!"Exceeds the limit ({maxIntegerDigits} digits) for integer string conversion{length}; " ++
    "use sys.set_int_max_str_digits() to increase the limit"

/-- Why a text denotes no integer. -/
inductive IntegerFault where
  | unreadable (base : Nat) (shown : String)
  | tooLong (digits : Nat)
  deriving DecidableEq, Repr

def IntegerFault.message : IntegerFault → String
  | .unreadable base shown => s!"invalid literal for int() with base {base}: {shown}"
  | .tooLong digits => integerLimitMessage (some digits)

/-- At most this much of a text is shown when it is no integer. -/
def maxShown : Nat := 200

/-- The value of a digit to any base up to sixteen. -/
def digitOf? (base : Nat) (c : Char) : Option Nat := (hexValue? c).filter (· < base)

/-- The text behind the mark of a base, if it has one. -/
def dropBaseMark (base : Nat) (s : List Char) : List Char :=
  match s with
  | '0' :: c :: rest =>
    if [(2, 'b'), (8, 'o'), (16, 'x')].lookup base = some c.toLower then rest else s
  | _ => s

/-- The integer that a text denotes to a base. White space around it does not count, nor do low lines
between two digits. -/
def readInteger (base : Nat) (text : List Char) : Except IntegerFault Int :=
  let (negative, signless) := splitSign (plainDigits (trimBy isMargin text))
  let bare := dropBaseMark base signless
  let run := bare.takeWhile fun c => c == '_' || (digitOf? base c).isSome
  let rows := pieces '_' run
  let digits := rows.flatten
  let unreadable := IntegerFault.unreadable base (String.ofList ((quotedChars text).take maxShown))
  if rows.any List.isEmpty then .error unreadable
  else if base = 10 ∧ maxIntegerDigits < digits.length then .error (.tooLong digits.length)
  else if run.length < bare.length then .error unreadable
  else
    let n : Nat := digits.foldl (fun n c => base * n + (digitOf? base c).getD 0) 0
    .ok (if negative then -n else n)

end QueryPlayground.Text
