import QueryPlayground.Binary64.Conversion
import QueryPlayground.Settings.Calendar
import QueryPlayground.Text.IntegerText
import QueryPlayground.Text.Utf8

/-!
What can be wrong with a text of settings. Its bytes may be no text, and the text may break the rules of
the format or hold characters that are not allowed. A scalar may also name a value of its type that does not
exist.
-/
namespace QueryPlayground.Yaml

/-- A scalar without a value. -/
inductive ValueFault where
  | integer (fault : Text.IntegerFault)
  | float (fault : Binary64.ConversionFault)
  | emptyNumber
  | boolean (text : String)
  | calendar (fault : CalendarFault)
  | timestamp
  | timestampInParts
  | character
  | characterTooLarge
  | endless
  deriving DecidableEq, Repr

def ValueFault.message : ValueFault → String
  | .integer fault => fault.message
  | .float fault => fault.message
  | .emptyNumber => "string index out of range"
  | .boolean text => Text.quoted text
  | .calendar fault => fault.message
  | .timestamp => "'NoneType' object has no attribute 'groupdict'"
  | .timestampInParts => "expected string or bytes-like object, got 'list'"
  | .character => "chr() arg not in range(0x110000)"
  | .characterTooLarge => "Python int too large to convert to C int"
  | .endless => "maximum recursion depth exceeded"

/-- Why a source has no value. It is broken when its text breaks off where more of it is asked for. -/
inductive Fault where
  | malformed
  | broken
  | value (fault : ValueFault)
  deriving DecidableEq, Repr

/-- What a text breaks off at: bytes that are no text, or a character that is not allowed. -/
inductive Ending where
  | encoding (fault : Text.Utf8Fault)
  | character
  deriving DecidableEq, Repr

end QueryPlayground.Yaml
