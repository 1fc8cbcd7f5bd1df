import Gvpn.Proofs.Envelope

/-! What the client gets through the exit node. -/

namespace Gvpn

theorem jsonBytes_jsonBody {value : Json} (wellFormed : value.WellFormed) :
    jsonBytes (jsonBody value) = jsonBody value := by
  have absent : ¬ headEnd <:+: jsonBody value := by
    intro occurs
    have carriage : (13 : UInt8) ∈ jsonBody value := occurs.subset (by simp [headEnd])
    have member := mem_of_mem_toUtf8 carriage (by decide)
    exact absurd (Json.write_printable wellFormed _ member) (by decide)
  simp [jsonBytes, cut_eq_none absent]

variable (texts : LibraryTexts)

theorem parseExitNodeResponse_jsonBody {value : Json} (wellFormed : value.WellFormed)
    (held : texts.holds value = true) (fine : value.get (lit "e") = none) :
    parseExitNodeResponse texts (jsonBody value) = envelopeResponse texts value := by
  simp only [parseExitNodeResponse, jsonBytes_jsonBody wellFormed,
    read_jsonBody texts wellFormed, held, if_true, fine, Option.bind_none]

theorem envelopeResponse_envelope (literal : Text) (members : List (Text × Json)) {encoded : Text}
    {content : Bytes} (decoded : Base64.decode encoded = some content) :
    envelopeResponse texts (envelopeJson literal members encoded) =
        .ok (toUtf8 (envelopeHead (((Json.num literal).asU64.map (· % 2 ^ 16)).getD 502)
          (some (.obj members)) content.length) ++ content) := by
  simp only [envelopeResponse, envelopeJson, Json.get, lit]
  simp [Json.asStr, decoded]

theorem envelopeHead_ends (status : Nat) (headers : Option Json) (length : Nat) :
    ∃ front, toUtf8 (envelopeHead status headers length) = front ++ headEnd := by
  have ends : toUtf8 ['\r', '\n', '\r', '\n'] = headEnd := by decide
  simp only [envelopeHead, toUtf8_append, ends]
  exact ⟨_, rfl⟩

theorem parseExitNodeResponse_doSingle {url : Text} (fetches : isHttpUrl url = true)
    {answer : Fetched} (small : answer.code < 2 ^ 16) :
    parseExitNodeResponse texts (jsonBody (doSingle url (.ok answer))) =
      .ok (toUtf8 (envelopeHead answer.code
        (some (.obj (answer.headers.map fun field => (field.1, field.2.toJson))))
          answer.content.length) ++ answer.content) := by
  simp only [doSingle, fetches, if_true]
  have each : ∀ member ∈ answer.headers.map (fun field => (field.1, field.2.toJson)),
      member.2.WellFormed ∧ member.2.Small 125 := by
    intro member inside
    obtain ⟨field, -, rfl⟩ := List.mem_map.mp inside
    exact ⟨field.2.wellFormed_toJson, field.2.small_toJson 124⟩
  have number := Json.wellFormed_decimal answer.code
  have wellFormed := wellFormed_envelope number (Base64.encode answer.content)
    fun member inside => (each member inside).1
  have held := holds_envelope texts (show answer.code < 2 ^ 64 by omega)
    (Base64.encode answer.content) fun member inside => (each member inside).2
  have status : (((Json.num (decimal answer.code)).asU64.map (· % 2 ^ 16)).getD 502) =
      answer.code := by
    rw [asU64_decimal (by omega), Option.map_some, Option.getD_some, Nat.mod_eq_of_lt small]
  rw [← envelopeJson, parseExitNodeResponse_jsonBody texts wellFormed held
      (by simp [envelopeJson, Json.get, lit]), envelopeResponse_envelope texts _ _ (Base64.decode_encode answer.content), status]

theorem length_lt_length_exitReply (answer : Destination) :
    answer.body.length < (jsonBody (exitReply (.ok answer))).length := by
  have encoded : answer.body.length ≤ (Base64.encode answer.body).length := by
    rw [Base64.encode_length]
    omega
  have escaped := Json.length_le_length_escape (Base64.encode answer.body)
  have written : (Base64.encode answer.body).length < (exitReply (.ok answer)).write.length := by
    simp only [exitReply, Json.write_obj_cons, Json.writeMembers_cons, Json.writeMember_mk,
      Json.write_str, Json.writeString, List.length_append, List.length_cons]
    omega
  have bytes := length_le_length_toUtf8 (exitReply (.ok answer)).write
  unfold jsonBody
  omega

theorem relayViaExitNode_scriptAnswer {url : Text} (fetches : isHttpUrl url = true)
    (fields : List (Text × FieldValue)) (answer : Destination) :
    relayViaExitNode texts (.ok (scriptAnswer url fields answer)) =
      .ok (toUtf8 (envelopeHead 200
        (some (.obj (fields.map fun field => (field.1, field.2.toJson))))
          (jsonBody (exitReply (.ok answer))).length) ++ jsonBody (exitReply (.ok answer))) := by
  have small : (⟨200, fields, jsonBody (exitReply (.ok answer))⟩ : Fetched).code < 2 ^ 16 := by
    simp
  have parsed := parseExitNodeResponse_doSingle texts fetches small
  simp only [relayViaExitNode, scriptAnswer, parsed]

theorem splitResponse_wrapped (status : Nat) (fields : Option Json) (length code : Nat)
    (answer : Destination) :
    ¬ ∃ headers, splitResponse (toUtf8 (envelopeHead status fields length) ++
      jsonBody (exitReply (.ok answer))) = some (code, headers, answer.body) := by
  obtain ⟨front, ends⟩ := envelopeHead_ends status fields length
  rw [ends]
  intro split
  obtain ⟨headers, split⟩ := split
  obtain ⟨before, found⟩ := cut_of_splitResponse split
  have behind := suffix_of_cut rfl found
  have longer := length_lt_length_exitReply answer
  have fits := behind.length_le
  omega

/--
The client never gets the destination's body through the exit node, whose reply the script wraps in
an envelope of its own.
-/
theorem relayViaExitNode_never_transparent (texts : LibraryTexts) (url : Text)
    (fields : List (Text × FieldValue)) (answer : Destination) (fetches : isHttpUrl url = true) :
    ∃ raw, relayViaExitNode texts (.ok (scriptAnswer url fields answer)) = .ok raw ∧
      jsonBody (exitReply (.ok answer)) <:+ raw ∧
      ¬ ∃ headers, splitResponse raw = some (answer.status, headers, answer.body) := by
  have relayed := relayViaExitNode_scriptAnswer texts fetches fields answer
  exact ⟨_, relayed, List.suffix_append _ _, splitResponse_wrapped _ _ _ _ answer⟩

theorem relayViaExitNode_empty_answer :
    ∃ raw, relayViaExitNode noTexts
        (.ok (scriptAnswer (lit "https://exit.example/") [] ⟨204, [], []⟩)) = .ok raw ∧
      jsonBody (exitReply (.ok ⟨204, [], []⟩)) <:+ raw ∧
      ¬ ∃ headers, splitResponse raw = some (204, headers, []) :=
  relayViaExitNode_never_transparent _ _ _ _ (by decide +kernel)

theorem relayViaExitNode_wraps_not_found :
    relayViaExitNode noTexts
        (.ok (scriptAnswer (lit "https://exit.example/") [] ⟨404, [], [104, 105]⟩)) =
      .ok (toUtf8 (lit "HTTP/1.1 200 OK\r\nContent-Length: 27\r\n\r\n") ++
        jsonBody (exitReply (.ok ⟨404, [], [104, 105]⟩))) ∧
    ¬ ∃ headers, splitResponse (toUtf8 (lit "HTTP/1.1 200 OK\r\nContent-Length: 27\r\n\r\n") ++
        jsonBody (exitReply (.ok ⟨404, [], [104, 105]⟩))) = some (404, headers, [104, 105]) := by
  have length : (jsonBody (exitReply (.ok ⟨404, [], [104, 105]⟩))).length = 27 := by
    decide +kernel
  have head : envelopeHead 200 (some (.obj [])) 27 =
      lit "HTTP/1.1 200 OK\r\nContent-Length: 27\r\n\r\n" := by
    decide +kernel
  have relayed := relayViaExitNode_scriptAnswer noTexts
    (by decide +kernel : isHttpUrl (lit "https://exit.example/") = true) []
    ⟨404, [], [104, 105]⟩
  have wrapped := splitResponse_wrapped 200 (some (.obj [])) 27 404 ⟨404, [], [104, 105]⟩
  rw [length, List.map_nil, head] at relayed
  rw [head] at wrapped
  exact ⟨relayed, wrapped⟩

end Gvpn
