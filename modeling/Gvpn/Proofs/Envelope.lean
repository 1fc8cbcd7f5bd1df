import Gvpn.Data.JsonLaws
import Gvpn.Fronter.Envelope
import Gvpn.Fronter.ExitNode

/-! The envelope that the script writes, and what is read out of it. -/

namespace Gvpn

theorem FieldValue.wellFormed_toJson (value : FieldValue) : value.toJson.WellFormed := by
  cases value with
  | one text => exact .str text
  | many texts =>
    refine .arr ?_
    intro item member
    obtain ⟨text, -, rfl⟩ := List.mem_map.mp member
    exact .str text

/-- A field value is nested once at most. -/
theorem FieldValue.small_toJson (value : FieldValue) (room : Nat) :
    value.toJson.Small (room + 1) := by
  cases value with
  | one text => exact .str text
  | many texts =>
    refine .arr ?_
    intro item member
    obtain ⟨text, -, rfl⟩ := List.mem_map.mp member
    exact .str text

/-- An envelope with a number, header fields and a body. -/
def envelopeJson (literal : Text) (members : List (Text × Json)) (encoded : Text) : Json :=
  .obj [(lit "s", .num literal), (lit "h", .obj members), (lit "b", .str encoded)]

variable {members : List (Text × Json)}

theorem wellFormed_envelope {literal : Text}
    (number : (Json.num literal).WellFormed) (encoded : Text)
    (each : ∀ member ∈ members, member.2.WellFormed) :
    (envelopeJson literal members encoded).WellFormed := by
  refine .obj ?_
  intro member inside
  simp only [List.mem_cons, List.not_mem_nil, or_false] at inside
  rcases inside with rfl | rfl | rfl
  · exact number
  · exact .obj each
  · exact .str encoded

/-- An envelope of header fields is within the limits of the reader. -/
theorem holds_envelope (texts : LibraryTexts) {n : Nat} (fits : n < 2 ^ 64) (encoded : Text)
    (each : ∀ member ∈ members, member.2.Small 125) :
    texts.holds (envelopeJson (decimal n) members encoded) = true := by
  refine texts.holds_small _ (.obj ?_)
  intro member inside
  simp only [List.mem_cons, List.not_mem_nil, or_false] at inside
  rcases inside with rfl | rfl | rfl
  · exact Json.small_decimal fits _
  · exact .obj each
  · exact .str encoded

/-- An envelope is read as a record, since it has no other names. -/
theorem ofText_envelope (texts : LibraryTexts) {literal encoded : Text}
    (wellFormed : (envelopeJson literal members encoded).WellFormed) :
    RelayResponse.ofText texts (envelopeJson literal members encoded).write =
      if texts.holds (envelopeJson literal members encoded) then
        RelayResponse.ofJson (envelopeJson literal members encoded)
      else none := by
  have known : ∀ member ∈ [(lit "s", Json.num literal), (lit "h", .obj members),
      (lit "b", .str encoded)], member.1 ∈ RelayResponse.fieldNames := by
    simp [RelayResponse.fieldNames]
  unfold envelopeJson at wellFormed ⊢
  rw [RelayResponse.ofText, texts.readRecord_write _ _ wellFormed known,
    texts.readValue_write _ wellFormed]
  split <;> rfl

theorem read_jsonBody (texts : LibraryTexts) {value : Json} (wellFormed : value.WellFormed) :
    (fromUtf8 (jsonBody value)).bind texts.readValue =
      if texts.holds value then some value else none := by
  rw [jsonBody, fromUtf8_toUtf8, Option.bind_some, texts.readValue_write _ wellFormed]

theorem asU64_decimal {n : Nat} (small : n < 2 ^ 64) : (Json.num (decimal n)).asU64 = some n := by
  have digits := all_isDigit_decimal n
  simp [Json.asU64, decimal_ne_nil, digits]
  omega

theorem writeMembers_ends (members : List (Text × Json)) :
    ∃ front, Json.writeMembers members = front ++ ['}'] := by
  induction members with
  | nil => exact ⟨[], Json.writeMembers_nil⟩
  | cons member rest ih =>
    obtain ⟨front, ends⟩ := ih
    exact ⟨',' :: (Json.writeMember member ++ front), by simp [Json.writeMembers_cons, ends]⟩

theorem trim_write_obj (member : Text × Json) (rest : List (Text × Json)) :
    trim (Json.obj (member :: rest)).write = (Json.obj (member :: rest)).write := by
  obtain ⟨front, ends⟩ := writeMembers_ends rest
  rw [Json.write_obj_cons, ends, ← List.append_assoc]
  exact trim_enclosed (by decide) (by decide) _

theorem ofJson_envelope (literal : Text) (members : List (Text × Json)) (encoded : Text) :
    RelayResponse.ofJson (envelopeJson literal members encoded) =
        (RelayResponse.statusField (.num literal)).map fun status =>
          ⟨status, some (Json.byKey members), some encoded, none⟩ := by
  cases read : RelayResponse.statusField (.num literal) <;>
    simp [envelopeJson, RelayResponse.ofJson, RelayResponse.onlyMember, RelayResponse.ofFields, lit,
      RelayResponse.objectField, RelayResponse.textField, read]

variable {code : Nat}

theorem statusField_decimal (small : code < 2 ^ 16) :
    RelayResponse.statusField (.num (decimal code)) = some (some code) := by
  have number := asU64_decimal (show code < 2 ^ 64 by omega)
  simp only [RelayResponse.statusField, number, Option.bind_some, if_pos small]

def Accepts (texts : LibraryTexts) (body : Bytes) (answer : RelayResponse) (content : Bytes) :
    Prop :=
  ∃ text, fromUtf8 body = some text ∧ trim text ≠ [] ∧
    findEnvelope texts (trim text) = .ok answer ∧ answer.e = none ∧
      Base64.decode (answer.b.getD []) = some content

theorem Accepts.parse {texts : LibraryTexts} {body : Bytes} {answer : RelayResponse}
    {content : Bytes} (accepted : Accepts texts body answer content) (stripNoise : Bool) :
    parseRelayJson texts stripNoise body =
      .ok (relayedResponse texts stripNoise (answer.s.getD 200) (answer.h.getD []) content) := by
  obtain ⟨text, decoded, nonempty, found, fine, carried⟩ := accepted
  simp only [parseRelayJson, decoded, if_neg nonempty, found, fine, carried]

theorem accepts_envelope (texts : LibraryTexts) {literal encoded : Text}
    {content : Bytes} (number : (Json.num literal).WellFormed)
    (status : RelayResponse.statusField (.num literal) = some (some code))
    (each : ∀ member ∈ members, member.2.WellFormed)
    (held : texts.holds (envelopeJson literal members encoded) = true)
    (decoded : Base64.decode encoded = some content) :
    Accepts texts (jsonBody (envelopeJson literal members encoded)) ⟨some code, some (Json.byKey members), some encoded, none⟩
        content := by
  have read := ofText_envelope texts (wellFormed_envelope number encoded each)
  rw [if_pos held, ofJson_envelope, status] at read
  refine ⟨_, fromUtf8_toUtf8 _, ?_, ?_, rfl, decoded⟩
  · rw [envelopeJson, trim_write_obj]
    simp [Json.write_obj_cons]
  · rw [envelopeJson, trim_write_obj, ← envelopeJson, findEnvelope, read]
    rfl

theorem parseRelayJson_envelope (texts : LibraryTexts) (stripNoise : Bool) (small : code < 2 ^ 16)
    (each : ∀ member ∈ members, member.2.WellFormed ∧ member.2.Small 125) (content : Bytes) :
    parseRelayJson texts stripNoise
      (jsonBody (envelopeJson (decimal code) members (Base64.encode content))) =
        .ok (relayedResponse texts stripNoise code (Json.byKey members) content) :=
  (accepts_envelope texts (Json.wellFormed_decimal code) (statusField_decimal small)
    (fun member inside => (each member inside).1)
    (holds_envelope texts (by omega) _ fun member inside => (each member inside).2)
    (Base64.decode_encode content)).parse stripNoise

end Gvpn
