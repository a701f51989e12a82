import QueryPlayground.Settings.Scalar

/-!
The order in which a set shows its members. Numbers are laid out in a row of slots: each goes to the slot
that its residue names, or to a later one of its route when that is taken, and the row is read from its
start. So small numbers are shown in rising order, however they are written. A set that holds anything else
shows its members as they are written.
-/
namespace QueryPlayground

/-- Residues are taken by this prime, of which two to the power of 61 is one more. -/
def residuePrime : Nat := Nat.pow 2 61 - 1

/-- The residue of a number with its sign, so that equal numbers have one residue whatever their kinds. A
power of two has that of its exponent less a multiple of 61. -/
def Binary64.residue? : Binary64 → Option Int
  | .finite negative m e => some (signed negative (m * Nat.pow 2 (e % 61).toNat % residuePrime))
  | .infinite negative => some (signed negative 314159)
  | .nan => none

def Scalar.residue? : Scalar → Option Int
  | .bool b => some (if b then 1 else 0)
  | .int n => some (Binary64.signed (n < 0) (n.natAbs % residuePrime))
  | .float x => x.residue?
  | _ => none

namespace SetOrder

/-- What leads a residue through a row. Minus one goes the way of minus two. -/
def heading (residue : Int) : Nat := ((if residue = -1 then -2 else residue) % Int.pow 2 64).toNat

/-- The least doubling of a length above a bound. -/
def doubled (bound : Nat) : Nat → Nat → Nat
  | 0, length => length
  | rounds + 1, length => if bound < length then length else doubled bound rounds (2 * length)

/-- A row has eight slots, or more than twice as many as there are members when these are above four. -/
def rowLength (count : Nat) : Nat := if count ≤ 4 then 8 else doubled (2 * count) (2 * count) 8

/-- The first free slot on the route from a slot. Neighbours come first, where the row has them all; then
the route leaps on, and what is left of its heading turns it. -/
def freeSlot (row : Array (Option Scalar)) : Nat → Nat → Nat → Option Nat
  | 0, _, _ => none
  | leaps + 1, slot, heading =>
    let near := List.range' slot (if slot + 9 < row.size then 10 else 1)
    match near.find? fun place => row[place]? = some none with
    | some place => some place
    | none => freeSlot row leaps ((5 * slot + 1 + heading / 32) % row.size) (heading / 32)

/-- Puts a member into a row. A heading is used up after thirteen leaps, and without one the route comes
to every slot. -/
def place (row : Array (Option Scalar)) (member : Scalar) (residue : Int) : Array (Option Scalar) :=
  match freeSlot row (13 + row.size) (heading residue % row.size) (heading residue) with
  | some slot => row.set! slot (some member)
  | none => row

/-- The members of a set in the order in which they are shown. -/
def arranged (members : List Scalar) : List Scalar :=
  match members.mapM fun member => member.residue?.map (member, ·) with
  | none => members
  | some numbers =>
    let row := numbers.foldl (fun row (member, residue) => place row member residue)
      (Array.replicate (rowLength members.length) none)
    row.toList.filterMap id

end SetOrder
end QueryPlayground
