import QueryPlayground.Text.Split

/-!
Numeric hosts: four numbers with dots between them. What looks like one, by four rows of digits with any
characters between them, must be one.
-/
namespace QueryPlayground.Service.HostName

/-- The places that a character leads to from a place in the rows of digits: an even place is in front of
a row, and an odd one is within it. -/
def nextPlaces (c : Char) (place : Nat) : List Nat :=
  let within := if c.isDigit then [if place % 2 = 0 then place + 1 else place] else []
  if place % 2 = 1 ∧ place < 7 then (place + 1) :: within else within

/-- Whether a text looks like a numeric host. -/
def looksNumeric (host : List Char) : Bool :=
  (host.foldl (fun places c => (places.flatMap (nextPlaces c)).eraseDups) [0]).contains 7

/-- Whether a text is a number up to 255 without superfluous zeros. -/
def isOctet (s : List Char) : Bool :=
  !s.isEmpty && s.all Char.isDigit && s.length ≤ 3 && (s.head? != some '0' || s == ['0']) &&
    s.foldl (fun n c => 10 * n + (c.toNat - 48)) 0 ≤ 255

def isNumeric (host : List Char) : Bool :=
  let parts := Text.pieces '.' host
  parts.length == 4 && parts.all isOctet

end QueryPlayground.Service.HostName
