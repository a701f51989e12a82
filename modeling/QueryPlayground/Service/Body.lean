import QueryPlayground.Json.Reader
import QueryPlayground.Service.Encoding

/-!
Bodies of replies. A body is a JSON text in one of several encodings. Both the encoding and the escapes of
the text may give surrogates without their partners, and these are no characters. Characters that do not
occur in the value stand in for them, and who prints the value is told which ones.
-/
namespace QueryPlayground

namespace Json

mutual

/-- All characters in the strings and names of a value. -/
def characters : Json → List Char
  | .str s => s.toList
  | .arr items => itemCharacters items
  | .obj members => memberCharacters members
  | _ => []

def itemCharacters : List Json → List Char
  | [] => []
  | item :: items => characters item ++ itemCharacters items

def memberCharacters : List (String × Json) → List Char
  | [] => []
  | (name, value) :: members => name.toList ++ (characters value ++ memberCharacters members)

end

end Json

namespace Service

/-- The least surrogate. -/
def firstSurrogate : Nat := 0xd800

/-- The number of surrogates. -/
def surrogateCount : Nat := 0x800

/-- So many characters that are not in use, from below a code downwards. -/
def unused (used : List Char) : Nat → Nat → List Char
  | _, 0 => []
  | 0, _ => []
  | code + 1, count + 1 =>
    let c := Char.ofNat code
    if c ∈ used then unused used code (count + 1) else c :: unused used code count

/-- The character for a surrogate, by its place in a list. -/
def standIn (characters : List Char) (code : Nat) : Char :=
  characters.getD (code - firstSurrogate) Json.replacement

/-- The value in a body, with some characters for surrogates. -/
def readBody (standIn : Nat → Char) (body : List UInt8) : Option Json :=
  (decodeText? standIn body).bind fun s => (Json.readChars standIn s).toOption

/-- The characters that stand for the surrogates in a body. Where it makes no difference which character stands
for them there are no surrogates. -/
def bodyStandIns (body : List UInt8) : List Char :=
  match readBody (fun _ => Json.replacement) body with
  | none => []
  | some value =>
    let used := value.characters
    if (readBody (fun _ => '\x00') body).map Json.characters = some used then []
    else unused used 0x110000 surrogateCount

/-- The value in a body, if it holds a JSON text. Whether it does is not up to the characters that stand in. -/
def bodyValue? (body : List UInt8) : Option Json :=
  (readBody (fun _ => Json.replacement) body).map fun value =>
    (readBody (standIn (bodyStandIns body)) body).getD value

end Service
end QueryPlayground
