import QueryPlayground.Text.Spans

/-!
Scripts, as far as a character of a host name has to stand beside one of them. The spans may run over
characters that no host name holds.
-/
namespace QueryPlayground.Service.HostName

def greekSpans : Text.Spans :=
  [(0x371, 0x3e1), (0x3f3, 0x3fc), (0x1d26, 0x1d2a), (0x1f00, 0x1ff6), (0xab65, 0xab65)]

def hebrewSpans : Text.Spans :=
  [(0x591, 0x5f4), (0xfb1e, 0xfb1e)]

/-- The scripts that are written with the middle dot: two of syllables, and one of ideographs. -/
def dottedSpans : Text.Spans :=
  [(0x3041, 0x3096), (0x309d, 0x309e), (0x1b001, 0x1b11f), (0x1b150, 0x1b152),
   (0x30a1, 0x30fa), (0x30fd, 0x30fe), (0x31f0, 0x31ff), (0x1aff0, 0x1b000), (0x1b120, 0x1b122),
   (0x1b164, 0x1b167),
   (0x3005, 0x3005), (0x3007, 0x3007), (0x3400, 0x9fff), (0xfa0e, 0xfa29), (0x16fe3, 0x16fe3),
   (0x16ff0, 0x16ff1), (0x20000, 0x3134a)]

def isGreek (c : Char) : Bool := greekSpans.contains c.toNat

def isHebrew (c : Char) : Bool := hebrewSpans.contains c.toNat

def isDotted (c : Char) : Bool := dottedSpans.contains c.toNat

end QueryPlayground.Service.HostName
