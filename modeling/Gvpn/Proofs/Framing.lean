import Gvpn.Proofs.Envelope
import Gvpn.Proofs.Streaming
import Gvpn.Proxy.Wire

/-! What a client reads out of a response built from an envelope. -/

namespace Gvpn

open List Option

variable {answer : RelayResponse}

theorem ofText_of_findEnvelope {texts : LibraryTexts} {text : Text}
    (found : findEnvelope texts text = .ok answer) :
    ∃ source, RelayResponse.ofText texts source = some answer := by
  unfold findEnvelope at found
  repeat' split at found
  all_goals simp only [Except.ok.injEq, reduceCtorEq] at found
  all_goals
    rw [← found]
    exact ⟨_, ‹_›⟩

theorem RelayResponse.statusField_lt {value : Json} {status : Nat}
    (read : statusField value = some (some status)) : status < 2 ^ 16 := by
  cases value with
  | num literal =>
    simp only [statusField, bind_eq_some_iff] at read
    obtain ⟨n, -, kept⟩ := read
    split at kept
    · cases kept
      assumption
    · cases kept
  | _ => simp [statusField, Json.asU64] at read

theorem RelayResponse.ofFields_status {s h b e : Json}
    (read : ofFields s h b e = some answer) : answer.s.getD 200 < 2 ^ 16 := by
  unfold ofFields at read
  split at read
  · rename_i status _ _ _ here _ _ _
    cases read
    cases status with
    | none => exact (show 200 < 2 ^ 16 by decide)
    | some code => exact statusField_lt here
  · cases read

theorem Accepts.status_lt {texts : LibraryTexts} {body : Bytes}
    {content : Bytes} (accepted : Accepts texts body answer content) :
    answer.s.getD 200 < 2 ^ 16 := by
  obtain ⟨text, -, -, found, -⟩ := accepted
  obtain ⟨source, read⟩ := ofText_of_findEnvelope found
  obtain ⟨value, -, read⟩ := Option.bind_eq_some_iff.mp read
  unfold RelayResponse.ofJson at read
  split at read
  · split at read
    · exact RelayResponse.ofFields_status read
    · cases read
  · split at read
    · exact RelayResponse.ofFields_status read
    · cases read
  · cases read

def Omitted (stripNoise : Bool) (name : Text) : Prop :=
  lower name ∈ skippedHeaders ∨ (stripNoise ∧ lower name ∈ noiseResponseHeaders)

instance (stripNoise : Bool) (name : Text) : Decidable (Omitted stripNoise name) :=
  inferInstanceAs (Decidable (_ ∨ _))

def headerValues (texts : LibraryTexts) : Json → List Text
  | .arr items => items.filterMap (valueToHeaderStr texts)
  | other => (valueToHeaderStr texts other).toList

def relayedFields (texts : LibraryTexts) (stripNoise : Bool) (members : List (Text × Json)) :
    List (Text × Text) :=
  (members.filter fun member => ¬ Omitted stripNoise member.1).flatMap fun member =>
    (headerValues texts member.2).map (Prod.mk member.1)

variable (stripNoise : Bool) (texts : LibraryTexts)

theorem flatMap_relayedField (members : List (Text × Json)) :
    members.flatMap (relayedField texts stripNoise) =
      (relayedFields texts stripNoise members).flatMap fun field => headerLine field.1 field.2 := by
  induction members with
  | nil => rfl
  | cons member rest ih =>
    rw [flatMap_cons, ih]
    by_cases omitted : Omitted stripNoise member.1
    · have nothing : relayedField texts stripNoise member = [] := if_pos omitted
      simp [relayedFields, omitted, nothing]
    · have lines : relayedField texts stripNoise member =
          (headerValues texts member.2).flatMap (headerLine member.1) := by
        refine (if_neg omitted).trans ?_
        cases member.2 <;> rfl
      simp [relayedFields, omitted, lines, flatMap_map]

def relayedStatusLine (status : Nat) : Text :=
  lit "HTTP/1.1 " ++ decimal status ++ [' '] ++ statusText status

theorem relayedResponse_eq (status : Nat) (members : List (Text × Json)) (content : Bytes) :
    relayedResponse texts stripNoise status members content =
      assembleHead (relayedStatusLine status) (relayedFields texts stripNoise members ++
        [(lit "Content-Length", decimal content.length)]) ++ content := by
  have length : headerLine (lit "Content-Length") (decimal content.length) =
      lit "Content-Length: " ++ decimal content.length ++ ['\r', '\n'] := by
    simp [headerLine, lit]
  simp only [relayedResponse, flatMap_relayedField, assembleHead, relayedStatusLine,
    flatMap_append, flatMap_singleton, length]
  simp

theorem not_mem_statusText (status : Nat) : '\r' ∉ statusText status ∧ '\n' ∉ statusText status := by
  have listed : (statusTexts.lookup status).getD "OK" ∈ "OK" :: statusTexts.map Prod.snd := by
    cases found : statusTexts.lookup status with
    | none => exact mem_cons_self
    | some words =>
      obtain ⟨before, after, table, -⟩ := List.lookup_eq_some_iff.mp found
      refine mem_cons_of_mem _ (List.mem_map.mpr ⟨(status, words), ?_, rfl⟩)
      rw [table]
      exact mem_append_right _ mem_cons_self
  have table : ("OK" :: statusTexts.map Prod.snd).all
      (fun words => (lit words).all fun c => c ≠ '\r' && c ≠ '\n') = true := by
    with_unfolding_all rfl
  have words := List.all_eq_true.mp (List.all_eq_true.mp table _ listed)
  refine ⟨fun member => ?_, fun member => ?_⟩
  all_goals exact absurd (words _ member) (by decide)

theorem relayedStatusLine_read {status : Nat} (small : status < 2 ^ 16) :
    '\n' ∉ relayedStatusLine status ∧ statusCode (relayedStatusLine status) = some status := by
  obtain ⟨carriageFree, lineFree⟩ := not_mem_statusText status
  have digitsFree : ∀ mark : Char, mark.isDigit = false → mark ∉ decimal status := by
    intro mark other member
    rw [isDigit_of_mem_decimal member] at other
    cases other
  refine ⟨?_, ?_⟩
  · have versionFree : '\n' ∉ lit "HTTP/1.1 " := by with_unfolding_all decide
    simp [relayedStatusLine, versionFree, digitsFree, lineFree]
  · -- The words of the line are the version, the digits, and what the words behind them split to.
    have shape : relayedStatusLine status =
        lit "HTTP/1.1" ++ ' ' :: (decimal status ++ ' ' :: statusText status) := by
      simp [relayedStatusLine, lit]
    have kept : trimEndMatches (· = '\r') (relayedStatusLine status) = relayedStatusLine status := by
      refine trimEndMatches_of_getLast? ?_
      intro last ends
      have member : last ∈ relayedStatusLine status := mem_of_getLast? ends
      have versionFree : '\r' ∉ lit "HTTP/1.1 " := by with_unfolding_all decide
      refine decide_eq_false ?_
      rintro rfl
      simp [relayedStatusLine, versionFree, digitsFree, carriageFree] at member
    have words : (relayedStatusLine status).splitOn ' ' =
        lit "HTTP/1.1" :: decimal status :: (statusText status).splitOn ' ' := by
      have version : (lit "HTTP/1.1").splitOn ' ' = [lit "HTTP/1.1"] :=
        splitOn_eq_singleton (by with_unfolding_all decide)
      have digits : (decimal status).splitOn ' ' = [decimal status] :=
        splitOn_eq_singleton (digitsFree ' ' (by decide))
      simp only [List.splitOn] at version digits ⊢
      rw [shape, splitOnP_append_cons _ _ (by simp), splitOnP_append_cons _ _ (by simp),
        version, digits]
      rfl
    rw [statusCode, kept, words, getElem?_cons_succ, getElem?_cons_zero,
      bind_some, parseUnsigned_decimal small]

def FieldValue.values : FieldValue → List Text
  | .one text => [text]
  | .many texts => texts

def keptFields (stripNoise : Bool) (headers : List (Text × FieldValue)) : List (Text × Text) :=
  (headers.filter fun field => ¬ Omitted stripNoise field.1).flatMap fun field =>
    field.2.values.map (Prod.mk field.1)

theorem headerValues_toJson (value : FieldValue) :
    headerValues texts value.toJson = value.values := by
  cases value with
  | one text => rfl
  | many values =>
    simp only [FieldValue.toJson, headerValues, filterMap_map, FieldValue.values]
    exact filterMap_some

theorem relayedFields_toJson (headers : List (Text × FieldValue)) :
    relayedFields texts stripNoise (headers.map fun field => (field.1, field.2.toJson)) =
      keptFields stripNoise headers := by
  unfold relayedFields keptFields
  rw [List.filter_map, flatMap_map]
  simp only [headerValues_toJson]
  rfl

theorem exists_of_mem_keptFields {stripNoise : Bool} {headers : List (Text × FieldValue)}
    {kept : Text × Text} (member : kept ∈ keptFields stripNoise headers) :
    ∃ field ∈ headers, kept.1 = field.1 ∧ kept.2 ∈ field.2.values := by
  obtain ⟨field, inside, here⟩ := List.mem_flatMap.mp member
  obtain ⟨value, present, rfl⟩ := List.mem_map.mp here
  exact ⟨field, mem_of_mem_filter inside, rfl, present⟩

theorem cleanField_token {name value : Text} (token : ∀ c ∈ name, isTokenChar c = true)
    (line : '\n' ∉ value) (trimmed : trim value = value) : CleanField (name, value) where
  nameLine := fun member => absurd (token _ member) (by decide)
  nameColon := fun member => absurd (token _ member) (by decide)
  nameTrimmed := trim_eq fun c member => isBlank_of_token (token c member)
  valueLine := line
  valueTrimmed := trimmed

section

variable {texts : LibraryTexts} {body : Bytes} {answer : RelayResponse} {content : Bytes}
variable {headers : List (Text × FieldValue)}

/--
A response is read as its envelope's status, kept fields and content, exactly if no value of a kept
field has a line feed in it.
-/
theorem envelope_framing_iff (accepted : Accepts texts body answer content)
    (listed : answer.h.getD [] = headers.map fun field => (field.1, field.2.toJson))
    (named : ∀ field ∈ headers, ∀ c ∈ field.1, isTokenChar c = true)
    (trimmed : ∀ field ∈ headers, ∀ value ∈ field.2.values, trim value = value)
    (stripNoise : Bool) :
    ∃ response, parseRelayJson texts stripNoise body = .ok response ∧
      ((∃ fields, splitResponse response = some (answer.s.getD 200, fields, content) ∧
          fields.Perm (keptFields stripNoise headers ++
            [(lit "Content-Length", decimal content.length)])) ↔
        ∀ field ∈ keptFields stripNoise headers, '\n' ∉ field.2) := by
  refine ⟨_, accepted.parse stripNoise, ?_⟩
  rw [listed, relayedResponse_eq, relayedFields_toJson]
  constructor
  · -- Whatever is read out of a head is clean, so the values that were read have no line feeds.
    rintro ⟨fields, split, same⟩ field member
    have inside : field ∈ fields := same.symm.subset (mem_append_left _ member)
    exact (splitResponse_clean split field inside).valueLine
  · intro free
    obtain ⟨oneLine, number⟩ := relayedStatusLine_read accepted.status_lt
    refine ⟨_, (splitResponse_assembleHead oneLine number ?_ content).1, List.Perm.refl _⟩
    intro field member
    rcases List.mem_append.mp member with kept | added
    · obtain ⟨source, inside, name, present⟩ := exists_of_mem_keptFields kept
      exact cleanField_token (name ▸ named source inside) (free field kept)
        (trimmed source inside _ present)
    · rw [List.mem_singleton.mp added]
      exact cleanField_contentLength _

end

def plainFields : List (Text × FieldValue) := [(lit "Set-Cookie", .many [lit "a=1", lit "b=2"])]

theorem plain_fields_framed : ∃ response,
    parseRelayJson noTexts true (jsonBody (.obj [(lit "s", .num (decimal 204)),
      (lit "h", .obj (plainFields.map fun field => (field.1, field.2.toJson))),
      (lit "b", .str (Base64.encode []))])) = .ok response ∧
      ((∃ fields, splitResponse response = some (204, fields, []) ∧
          fields.Perm (keptFields true plainFields ++ [(lit "Content-Length", decimal 0)])) ↔
        ∀ field ∈ keptFields true plainFields, '\n' ∉ field.2) := by
  have each : ∀ member ∈ plainFields.map (fun field => (field.1, field.2.toJson)),
      member.2.WellFormed := by
    intro member inside
    obtain ⟨field, -, rfl⟩ := List.mem_map.mp inside
    exact field.2.wellFormed_toJson
  have named : plainFields.all (fun field => field.1.all isTokenChar) = true := by
    with_unfolding_all rfl
  have trimmed : plainFields.all (fun field => field.2.values.all fun value =>
      trim value = value) = true := by
    with_unfolding_all rfl
  have accepted := accepts_envelope noTexts (Json.wellFormed_decimal 204)
    (statusField_decimal (by decide)) each rfl (Base64.decode_encode [])
  refine envelope_framing_iff accepted ?_ ?_ ?_ true
  · rfl
  · intro field member
    exact List.all_eq_true.mp (List.all_eq_true.mp named field member)
  · intro field member value present
    have kept := List.all_eq_true.mp (List.all_eq_true.mp trimmed field member) value present
    exact of_decide_eq_true kept

theorem line_feed_adds_field : ∃ response,
    parseRelayJson noTexts true (jsonBody (.obj [(lit "s", .num (decimal 200)),
      (lit "h", .obj [(lit "X-Note", .str (lit "a\nSet-Cookie: id=1"))]),
      (lit "b", .str (Base64.encode []))])) = .ok response ∧
      splitResponse response = some (200, [(lit "X-Note", lit "a"), (lit "Set-Cookie", lit "id=1"),
        (lit "Content-Length", lit "0")], []) := by
  have each : ∀ member ∈ [(lit "X-Note", Json.str (lit "a\nSet-Cookie: id=1"))],
      member.2.WellFormed ∧ member.2.Small 125 := by
    intro member inside
    rw [List.mem_singleton.mp inside]
    exact ⟨.str _, .str _⟩
  refine ⟨_, parseRelayJson_envelope noTexts true (by decide) each [], ?_⟩
  with_unfolding_all rfl

end Gvpn
