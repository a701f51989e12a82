import QueryPlayground.Proofs.Json.RoundTrip
import QueryPlayground.Proofs.Text.Utf8
import QueryPlayground.Service.Client

/-! Bodies of requests and replies. An object that is written as a JSON text and encoded in UTF-8 is taken for
UTF-8 by its first two bytes, and is read from its bytes as it was. -/
namespace QueryPlayground

open Service

/-- What stands behind the opening brace of an object is no character with code zero. -/
theorem Json.writeAt_obj_head (style : Style) (depth : Nat) (members : List (String × Json)) :
    ∃ c s, writeAt style depth (.obj members) = '\x7b' :: c :: s ∧ 0 < c.toNat ∧ c.toNat < 0x80 := by
  cases members with
  | nil => exact ⟨_, _, by rw [writeAt], by decide, by decide⟩
  | cons member members =>
      obtain ⟨name, value⟩ := member
      rw [writeAt, Style.lead, writeString]
      cases style.indent with
      | none => exact ⟨_, _, rfl, by decide, by decide⟩
      | some width => exact ⟨_, _, rfl, by decide, by decide⟩

namespace Service

/-- An opening brace and another byte that is not zero are the start of a text in UTF-8. -/
theorem Encoding.detect_brace {second : UInt8} (hSecond : second ≠ 0) (rest : List UInt8) :
    detect (0x7b :: second :: rest) = (.utf8, 0x7b :: second :: rest) := by
  have hZeros : ofZeros (0x7b :: second :: rest) = .utf8 := by
    unfold ofZeros
    split <;> simp_all
  have hDetect : detect (0x7b :: second :: rest) =
      (ofZeros (0x7b :: second :: rest), 0x7b :: second :: rest) := rfl
  rw [hDetect, hZeros]

theorem decodeText?_brace (standIn : Nat → Char) {c : Char} (hZero : 0 < c.toNat) (hAscii : c.toNat < 0x80)
    (s : List Char) : decodeText? standIn (Text.utf8Bytes ('\x7b' :: c :: s)) = some ('\x7b' :: c :: s) := by
  have hFirst : String.utf8EncodeChar '\x7b' = [0x7b] := rfl
  have hSecond : String.utf8EncodeChar c = [UInt8.ofNat c.toNat] := by
    rw [String.utf8EncodeChar]
    exact if_pos (show c.toNat ≤ 0x7f by omega)
  have hByte : UInt8.ofNat c.toNat ≠ 0 := by
    intro hEq
    have hNat := congrArg UInt8.toNat hEq
    rw [Text.toNat_byte (by omega)] at hNat
    exact absurd hNat (by simp; omega)
  have hBytes : Text.utf8Bytes ('\x7b' :: c :: s) = 0x7b :: UInt8.ofNat c.toNat :: Text.utf8Bytes s := by
    rw [Text.utf8Bytes_cons, Text.utf8Bytes_cons, hFirst, hSecond]
    rfl
  have hDetect := Encoding.detect_brace hByte (Text.utf8Bytes s)
  rw [← hBytes] at hDetect
  rw [decodeText?, hDetect]
  simp only [Text.readUtf8_utf8Bytes]
  rfl

/-- A written object is read from its bytes as it was, whatever stands in for surrogates. -/
theorem readBody_write (standIn : Nat → Char) {style : Json.Style} (hStyle : style.IsReadable)
    {members : List (String × Json)} (hStorable : (Json.obj members).Storable) :
    readBody standIn (Text.utf8Bytes (Json.write style (.obj members)).toList) = some (.obj members) := by
  obtain ⟨c, s, hText, hZero, hAscii⟩ := Json.writeAt_obj_head style 0 members
  have hRead := hStorable.readChars_write hStyle standIn
  rw [Json.write, hText, String.toList_ofList] at hRead
  rw [readBody, Json.write, String.toList_ofList, hText, decodeText?_brace standIn hZero hAscii, Option.bind_some,
    hRead]
  rfl

theorem bodyValue?_write {style : Json.Style} (hStyle : style.IsReadable) {members : List (String × Json)}
    (hStorable : (Json.obj members).Storable) :
    bodyValue? (Text.utf8Bytes (Json.write style (.obj members)).toList) = some (.obj members) := by
  rw [bodyValue?, readBody_write _ hStyle hStorable, readBody_write _ hStyle hStorable]
  rfl

/-- The object that asks for a statement. -/
def statementObject (sql : String) : Json := .obj [("sql", .str sql)]

theorem statementObject_storable (sql : String) : (statementObject sql).Storable :=
  .obj (by simp) (List.forall_mem_singleton.mpr (.str sql))

/-- A request that posts a statement: its body is read as the object of the statement, be it as a text or from its
bytes. -/
structure Request.Posts (request : Request) (address sql : String) : Prop where
  method : request.method = .post
  address : request.address = address
  body : Json.read request.body = .ok (statementObject sql)
  bytes : bodyValue? (Text.utf8Bytes request.body.toList) = some (statementObject sql)

theorem Client.queryRequest_posts {client : Client} {address : String}
    (hAddress : Address.normalize (client.url client.queryPath) = .ok address) (sql : String) :
    ∃ request, client.queryRequest sql = .ok request ∧ request.Posts address sql := by
  have hBody := (statementObject_storable sql).read_write Json.Style.compact_isReadable
  have hBytes := bodyValue?_write Json.Style.compact_isReadable (statementObject_storable sql)
  unfold queryRequest Client.request
  rw [hAddress]
  exact ⟨_, rfl, rfl, rfl, hBody, hBytes⟩

/-- A reply that brings a value: its body is a readable text of the value in UTF-8, or any other bytes that hold
a text of the value. -/
inductive Reply.Brings : Reply → Json → Prop where
  | written {status : Int} {style : Json.Style} {members : List (String × Json)} (hStyle : style.IsReadable)
      (hStorable : (Json.obj members).Storable) :
      Brings (.response status (Text.utf8Bytes (Json.write style (.obj members)).toList)) (.obj members)
  | read {status : Int} {body : List UInt8} {value : Json} (hBody : bodyValue? body = some value) :
      Brings (.response status body) value

theorem Reply.Brings.exists_body {reply : Reply} {value : Json} (h : reply.Brings value) :
    ∃ status body, reply = .response status body ∧ bodyValue? body = some value := by
  cases h with
  | written hStyle hStorable => exact ⟨_, _, rfl, bodyValue?_write hStyle hStorable⟩
  | read hBody => exact ⟨_, _, rfl, hBody⟩

/-- The outcome of a statement is that of the payload which its reply brings. -/
theorem Reply.Brings.readOutcome {reply : Reply} {value payload : Json} (h : reply.Brings value)
    (hPayload : Client.envelopeData? value = some payload) (client : Client) :
    client.readOutcome reply = .ok (Payload.outcome payload, []) := by
  obtain ⟨status, body, rfl, hBody⟩ := h.exists_body
  simp only [Client.readOutcome, Client.readPayload, Client.replyValue, hBody, Except.map, hPayload]

end Service
end QueryPlayground
