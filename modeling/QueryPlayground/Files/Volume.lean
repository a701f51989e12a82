import QueryPlayground.Files.Host

/-!
A volume: directories and files by their ways, and how a path is looked up in it name by name. Names and
whole paths may be too long to be looked up.
-/
namespace QueryPlayground

/-- What lies on a volume, each by the names that lead to it from the root, and the names that lead to the
directory where relative paths begin. -/
structure Volume where
  entries : List (List (List Char) × Found)
  current : List (List Char)

namespace Volume

/-- The longest name of a file, in bytes. -/
def maxName : Nat := 255

/-- Paths of this many bytes are too long. -/
def maxPath : Nat := 4096

def byteCount (s : List Char) : Nat := (String.ofList s).utf8ByteSize

/-- Whether a directory is at a way: it is an entry, or it leads to one. -/
def hasDirectory (volume : Volume) (way : List (List Char)) : Bool :=
  volume.entries.any fun (names, _) => way.isPrefixOf names

/-- Looks up names one after the other. `way` leads to the present directory, the last name first. -/
def walk (volume : Volume) (way : List (List Char)) : List (List Char) → Found
  | [] => .directory
  | name :: rest =>
    if name = ['.', '.'] then walk volume way.tail rest
    else if maxName < byteCount name then .nameTooLong
    else
      let inner := name :: way
      match volume.entries.lookup inner.reverse with
      | some (.file bytes) => if rest.isEmpty then .file bytes else .nothing
      | some .unreadable => if rest.isEmpty then .unreadable else .nothing
      | _ => if volume.hasDirectory inner.reverse then walk volume inner rest else .nothing

/-- What is found at a path. No name holds the character with code zero. -/
def look (volume : Volume) (path : Path) : Found :=
  let text := path.text
  if '\x00' ∈ text.toList then .nothing
  else if maxPath ≤ text.utf8ByteSize then .nameTooLong
  else volume.walk (if path.slashes = 0 then volume.current.reverse else []) path.names

end Volume
end QueryPlayground
