import QueryPlayground.Service.HostName.Numeric
import QueryPlayground.Text.Digit

/-!
Hosts in brackets: eight groups of hexadecimal digits with colons between them. Two colons in a row stand for
a run of groups that are zero, a numeric host may take the place of the last two groups, and the name of a
zone may follow behind a percent sign.
-/
namespace QueryPlayground.Service.HostName

/-- The number of groups. -/
def groupCount : Nat := 8

/-- Whether a text is a group of hexadecimal digits. -/
def isGroup (s : List Char) : Bool := !s.isEmpty && s.length ≤ 4 && s.all fun c => (Text.hexValue? c).isSome

/-- The groups, with those that a numeric host at the end stands for in its place. -/
def withoutNumeric? (groups : List (List Char)) : Option (List (List Char)) :=
  match groups.getLast? with
  | none => none
  | some last =>
    if '.' ∈ last then if isNumeric last then some (groups.dropLast ++ [['0'], ['0']]) else none
    else some groups

/-- Whether groups are those of an address. An empty group within stands for the run that is left out, and
beside that run there may be an empty one at either end. -/
def areGroups (groups : List (List Char)) : Bool :=
  let inner := groups.tail.dropLast
  match inner.count [] with
  | 0 => groups.length == groupCount && groups.all isGroup
  | 1 =>
    let front := groups.take (inner.idxOf [] + 1)
    let back := groups.drop (inner.idxOf [] + 2)
    let written := (if front = [[]] then [] else front) ++ if back = [[]] then [] else back
    written.length < groupCount && written.all isGroup
  | _ => false

/-- Whether a text is an address of groups. -/
def isGrouped (s : List Char) : Bool :=
  let address := s.takeWhile (· != '%')
  let zone := s.drop address.length
  let groups := Text.pieces ':' address
  (zone.isEmpty || 1 < zone.length && '%' ∉ zone.tail) && 3 ≤ groups.length &&
    (withoutNumeric? groups).any areGroups

end QueryPlayground.Service.HostName
