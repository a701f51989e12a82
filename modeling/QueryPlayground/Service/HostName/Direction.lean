import QueryPlayground.Service.HostName.Mark

/-!
The direction of writing. A label that holds a character of a script from right to left must be of such
scripts altogether: it starts with one of their letters and ends with one of them or with a digit, marks
aside, and its digits are of one kind.
-/
namespace QueryPlayground.Service.HostName

/-- Letters of the scripts from right to left. -/
def leftwardSpans : Text.Spans :=
  [(0x5d0, 0x5f4), (0x620, 0x64a), (0x66e, 0x66f), (0x671, 0x6d5), (0x6e5, 0x6e6), (0x6ee, 0x6ef),
   (0x6fa, 0x710), (0x712, 0x72f), (0x74d, 0x7a5), (0x7b1, 0x7ea), (0x7f4, 0x7f5), (0x800, 0x815),
   (0x81a, 0x81a), (0x824, 0x824), (0x828, 0x828), (0x840, 0x858), (0x860, 0x88e), (0x8a0, 0x8c9),
   (0xfe73, 0xfe73), (0x10800, 0x10a00), (0x10a10, 0x10a35), (0x10a60, 0x10ae4), (0x10b00, 0x10d23),
   (0x10e80, 0x10ea9), (0x10eb0, 0x10f45), (0x10f70, 0x10f81), (0x10fb0, 0x10ff6),
   (0x1e800, 0x1e8c4), (0x1e922, 0x1e943), (0x1e94b, 0x1e959)]

/-- The digits that go with them. -/
def leftwardDigitSpans : Text.Spans :=
  [(0x660, 0x669), (0x10d30, 0x10d39)]

/-- The digits of the other kind. -/
def plainDigitSpans : Text.Spans :=
  [(0x30, 0x39), (0x6f0, 0x6f9)]

/-- Characters that have no direction. -/
def neutralSpans : Text.Spans :=
  [(0x2d, 0x2d), (0xb7, 0xb7), (0x2b9, 0x2ba), (0x2c6, 0x2cf), (0x2ec, 0x2ec), (0x375, 0x375),
   (0x200c, 0x200d), (0x2e2f, 0x2e2f), (0x30fb, 0x30fb), (0xa67f, 0xa67f), (0xa717, 0xa71f),
   (0xa788, 0xa788)]

inductive Direction where
  | leftward
  | leftwardDigit
  | plainDigit
  | mark
  | neutral
  | rightward
  deriving DecidableEq, Repr

def direction (c : Char) : Direction :=
  let n := c.toNat
  if leftwardSpans.contains n then .leftward
  else if leftwardDigitSpans.contains n then .leftwardDigit
  else if plainDigitSpans.contains n then .plainDigit
  else if isNonspacing c then .mark
  else if neutralSpans.contains n then .neutral
  else .rightward

/-- Whether the directions of a label agree. -/
def agree (directions : List Direction) : Bool :=
  if directions.any fun d => d = .leftward || d = .leftwardDigit then
    directions.head? = some .leftward &&
      !directions.contains .rightward &&
      ((directions.reverse.dropWhile (· = .mark)).head?.any fun d =>
        d = .leftward || d = .leftwardDigit || d = .plainDigit) &&
      !(directions.contains .leftwardDigit && directions.contains .plainDigit)
  else true

end QueryPlayground.Service.HostName
