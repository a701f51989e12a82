import Mathlib.Data.List.Basic
import QueryPlayground.Proofs.Text.Trim
import QueryPlayground.Service.Client

/-! Addresses of endpoints. Slashes at the end of a base address do not count, nor does the one slash in front
of a relative path, so a base and a path are always joined by one slash. -/
namespace QueryPlayground

namespace Service

/-- A path without one slash in front. -/
def withoutSlash (path : String) : String :=
  if path.toList.head? = some '/' then String.ofList path.toList.tail else path

/-- Two texts of an address that differ in the number of slashes at the end. -/
def SlashesApart (base other : String) : Prop :=
  ∃ core m n, base = core ++ String.ofList (List.replicate m '/') ∧
    other = core ++ String.ofList (List.replicate n '/')

/-- Two paths that are the same, or of which one has a slash in front of what the other one is. -/
def SlashApart (path other : String) : Prop :=
  path = other ∨ isAddress path = false ∧ path.toList.head? ≠ some '/' ∧ other = "/" ++ path ∨
    isAddress other = false ∧ other.toList.head? ≠ some '/' ∧ path = "/" ++ other

theorem SlashesApart.dropTrailing_eq {base other : String} (h : SlashesApart base other) :
    Text.dropTrailing '/' other = Text.dropTrailing '/' base := by
  obtain ⟨core, m, n, rfl, rfl⟩ := h
  rw [Text.dropTrailing_append_replicate, Text.dropTrailing_append_replicate]

/-- A path that is no address is joined to the base by one slash. -/
theorem endpoint_eq (base path : String) :
    endpoint base path = if isAddress path then path else base ++ "/" ++ withoutSlash path := by
  unfold endpoint
  split
  next => rfl
  next =>
      rw [withoutSlash]
      split
      next hSlash =>
          have hPath : path = "/" ++ String.ofList path.toList.tail := by
            rw [← String.toList_inj, String.toList_append, String.toList_ofList, String.toList_ofList]
            exact List.eq_cons_of_mem_head? hSlash
          rw [String.append_assoc, ← hPath]
      next => rfl

theorem endpoint_slash {path : String} (hRelative : isAddress path = false) (hSlash : path.toList.head? ≠ some '/')
    (base : String) : endpoint base ("/" ++ path) = endpoint base path := by
  have hList : ("/" ++ path).toList = '/' :: path.toList := by
    rw [String.toList_append]
    rfl
  have hAddress : isAddress ("/" ++ path) = false := by
    rw [isAddress, hList]
    rfl
  have hFront : ("/" ++ path).toList.head? = some '/' := by rw [hList, List.head?_cons]
  have hRest : withoutSlash ("/" ++ path) = path := by
    rw [withoutSlash, if_pos hFront, hList, List.tail_cons, String.ofList_toList]
  have hSame : withoutSlash path = path := if_neg hSlash
  rw [endpoint_eq, endpoint_eq, hAddress, hRelative, hRest, hSame, if_neg Bool.false_ne_true,
    if_neg Bool.false_ne_true]

theorem SlashApart.endpoint_eq {path other : String} (h : SlashApart path other) (base : String) :
    endpoint base other = endpoint base path := by
  rcases h with rfl | ⟨hRelative, hSlash, rfl⟩ | ⟨hRelative, hSlash, rfl⟩
  · rfl
  · exact endpoint_slash hRelative hSlash base
  · exact (endpoint_slash hRelative hSlash base).symm

/-- A request goes to the normal form of an address, if that has one. -/
def GoesTo (request : Except Abort Request) (address : String) : Prop :=
  request.map Request.address = (Address.normalize address).mapError fun fault => ⟨.badAddress, fault.message⟩

theorem Client.request_goesTo (client : Client) (method : Method) (path body : String) :
    GoesTo (client.request method path body) (client.url path) := by
  unfold GoesTo Client.request
  cases Address.normalize (client.url path) <;> rfl

/-- Of a client and a path only the address of the endpoint counts. -/
theorem Client.request_eq_of_url {client other : Client} {path otherPath : String}
    (h : other.url otherPath = client.url path) (method : Method) (body : String) :
    other.request method otherPath body = client.request method path body := by
  unfold Client.request
  rw [h]

end Service
end QueryPlayground
