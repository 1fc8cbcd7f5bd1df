import Gvpn.Proofs.ExitNode
import Gvpn.Proofs.Framing

/-! The two decoders of envelopes, compared. -/

namespace Gvpn

open List Option

/-- The bytes of an envelope with a number, header fields and a body. -/
def envelopeBody (literal : Text) (members : List (Text × Json)) (encoded : Text) : Bytes :=
  jsonBody (envelopeJson literal members encoded)

/-- A written value has no page in it. -/
theorem extractAppsScriptUserHtml_write (texts : LibraryTexts) {value : Json}
    (wellFormed : value.WellFormed) : extractAppsScriptUserHtml texts value.write = none := by
  unfold extractAppsScriptUserHtml
  cases opened : cut (lit "goog.script.init(\"") value.write with
  | none => rfl
  | some parts =>
    have ends : lit "\", \"\", undefined" =
        ['"', ','] ++ [' ', '"', '"'] ++ lit ", undefined" := by decide +kernel
    have absent : ¬ lit "\", \"\", undefined" <:+: parts.2 := by
      intro occurs
      refine Json.write_quiet wellFormed ?_
      rw [eq_append_of_cut opened]
      refine IsInfix.trans ?_ (occurs.trans (suffix_append _ _).isInfix)
      exact ⟨_, _, ends.symm⟩
    simp only [cut_eq_none absent]

theorem braced_write_obj (member : Text × Json) (rest : List (Text × Json)) :
    braced (Json.obj (member :: rest)).write = some (Json.obj (member :: rest)).write := by
  obtain ⟨front, ends⟩ := writeMembers_ends rest
  rw [Json.write_obj_cons, ends, ← append_assoc]
  have opened : ('{' :: (Json.writeMember member ++ front ++ ['}'])).dropWhile (· ≠ '{') =
      '{' :: (Json.writeMember member ++ front ++ ['}']) := dropWhile_cons_of_neg (by decide)
  have closed : trimEndMatches (· ≠ '}') ('{' :: (Json.writeMember member ++ front ++ ['}'])) =
      '{' :: (Json.writeMember member ++ front ++ ['}']) :=
    @trimEndMatches_append (· ≠ '}') '}' (by decide) ('{' :: (Json.writeMember member ++ front)) []
  simp only [braced, opened, closed, reduceCtorEq, if_false]

variable (texts : LibraryTexts)

/-- An envelope that is not read gives an error. -/
theorem parseRelayJson_refuses (stripNoise : Bool) {literal : Text} {members : List (Text × Json)}
    (number : (Json.num literal).WellFormed) (each : ∀ member ∈ members, member.2.WellFormed)
    (encoded : Text)
    (refused : texts.holds (envelopeJson literal members encoded) = false ∨
      RelayResponse.statusField (.num literal) = none) :
    ∃ error, parseRelayJson texts stripNoise (envelopeBody literal members encoded) =
      .error (.failed error) := by
  have wellFormed := wellFormed_envelope number encoded each
  have unread : RelayResponse.ofText texts (envelopeJson literal members encoded).write = none := by
    rw [ofText_envelope texts wellFormed, ofJson_envelope]
    rcases refused with beyond | large
    · rw [beyond, if_neg (by simp)]
    · rw [large]
      split <;> rfl
  have page := extractAppsScriptUserHtml_write texts wellFormed
  have slice := braced_write_obj (lit "s", .num literal)
    [(lit "h", .obj members), (lit "b", .str encoded)]
  have marks : (envelopeJson literal members encoded).write ≠ [] ∧
      '{' ∈ (envelopeJson literal members encoded).write ∧
      '}' ∈ (envelopeJson literal members encoded).write := by
    simp [envelopeJson, Json.write_obj_cons, Json.writeMembers_cons, Json.writeMembers_nil]
  have trimmed : trim (envelopeJson literal members encoded).write =
      (envelopeJson literal members encoded).write := trim_write_obj _ _
  rw [← envelopeJson] at slice
  obtain ⟨nonempty, opens, closes⟩ := marks
  simp only [envelopeBody, parseRelayJson, jsonBody, fromUtf8_toUtf8, trimmed, findEnvelope,
    nonempty, unread, page, slice, opens, closes, not_true, if_false]
  exact ⟨_, rfl⟩

def exitFields (members : List (Text × Json)) : List (Text × Text) :=
  (members.filter fun member => ¬ Omitted false member.1).flatMap fun member =>
    member.2.asStr.toList.map (Prod.mk member.1)

theorem mem_skipResponseHeaders_iff (name : Text) :
    lower name ∈ skipResponseHeaders ↔ Omitted false name := by
  simp only [skipResponseHeaders, Omitted, skippedHeaders, mem_cons, not_mem_nil,
    Bool.false_eq_true, false_and, or_false]
  tauto

theorem envelopeHeaders_eq (members : List (Text × Json)) :
    envelopeHeaders members =
      (exitFields (Json.byKey members)).flatMap fun field => headerLine field.1 field.2 := by
  unfold envelopeHeaders
  induction Json.byKey members with
  | nil => rfl
  | cons member rest ih =>
    rw [flatMap_cons, ih]
    by_cases omitted : Omitted false member.1
    · simp [exitFields, omitted, (mem_skipResponseHeaders_iff member.1).mpr omitted]
    · have kept : lower member.1 ∉ skipResponseHeaders :=
        fun skipped => omitted ((mem_skipResponseHeaders_iff member.1).mp skipped)
      cases text : member.2.asStr <;> simp [exitFields, omitted, kept, text]

def exitStatusLine (status : Nat) : Text :=
  lit "HTTP/1.1 " ++ decimal status ++ [' '] ++ statusReason status

theorem envelopeHead_eq (status : Nat) (members : List (Text × Json)) (length : Nat) :
    toUtf8 (envelopeHead status (some (.obj members)) length) =
      assembleHead (exitStatusLine status) (exitFields (Json.byKey members) ++
        [(lit "Content-Length", decimal length)]) := by
  have last : headerLine (lit "Content-Length") (decimal length) =
      lit "Content-Length: " ++ decimal length ++ ['\r', '\n'] := by
    simp [headerLine, lit]
  simp only [envelopeHead, bind_some, Json.asObject, getD_some, envelopeHeaders_eq,
    assembleHead, exitStatusLine, flatMap_append, flatMap_singleton, last]
  simp

def Carried (texts : LibraryTexts) (value : Json) : Prop :=
  (∃ text, value = .str text) ∨ headerValues texts value = []

theorem Carried.values {texts : LibraryTexts} {value : Json} (carried : Carried texts value) :
    value.asStr.toList = headerValues texts value := by
  rcases carried with ⟨text, rfl⟩ | none_
  · rfl
  · cases value with
    | str text => rfl
    | _ => rw [none_]; rfl

theorem exitFields_eq {texts : LibraryTexts} {members : List (Text × Json)}
    (carried : ∀ member ∈ members, ¬ Omitted false member.1 → Carried texts member.2) :
    exitFields members = relayedFields texts false members := by
  refine flatMap_congr ?_
  intro member inside
  obtain ⟨present, kept⟩ := List.mem_filter.mp inside
  rw [(carried member present (of_decide_eq_true kept)).values]

def linesLength (fields : List (Text × Text)) : Nat :=
  (fields.map fun field => (fieldBytes field).length + 2).sum

theorem length_assembleHead (statusLine : Text) (fields : List (Text × Text)) :
    (assembleHead statusLine fields).length =
      (toUtf8 statusLine).length + linesLength fields + 4 := by
  rw [assembleHead_eq, crlfHead, linesLength]
  simp only [length_append, length_flatMap, List.map_map, length_cons,
    length_nil, Function.comp_def, Nat.reduceAdd]
  omega

theorem linesLength_append (left right : List (Text × Text)) :
    linesLength (left ++ right) = linesLength left + linesLength right := by
  simp [linesLength]

theorem linesLength_eq_zero {fields : List (Text × Text)} (none_ : linesLength fields = 0) :
    fields = [] := by
  cases fields with
  | nil => rfl
  | cons field rest => simp [linesLength] at none_

theorem exitFields_cons (member : Text × Json) (rest : List (Text × Json)) :
    exitFields (member :: rest) = exitFields [member] ++ exitFields rest := by
  unfold exitFields
  rw [← flatMap_append, ← filter_append, singleton_append]

theorem relayedFields_cons (stripNoise : Bool) (member : Text × Json) (rest : List (Text × Json)) :
    relayedFields texts stripNoise (member :: rest) =
      relayedFields texts stripNoise [member] ++ relayedFields texts stripNoise rest := by
  unfold relayedFields
  rw [← flatMap_append, ← filter_append, singleton_append]

theorem linesLength_member (member : Text × Json) :
    linesLength (exitFields [member]) ≤ linesLength (relayedFields texts false [member]) ∧
      (linesLength (exitFields [member]) = linesLength (relayedFields texts false [member]) →
        ¬ Omitted false member.1 → Carried texts member.2) := by
  by_cases omitted : Omitted false member.1
  · simp [exitFields, relayedFields, omitted]
  · cases text : member.2.asStr with
    | some value =>
      have string : member.2 = .str value := by
        cases shape : member.2 with
        | str other =>
          rw [shape] at text
          exact congrArg _ (some.inj text)
        | _ => simp [shape, Json.asStr] at text
      have carried : Carried texts member.2 := .inl ⟨value, string⟩
      have same := @exitFields_eq texts [member] (by simpa using fun _ => carried)
      exact ⟨by rw [same], fun _ _ => carried⟩
    | none =>
      have nothing : exitFields [member] = [] := by simp [exitFields, omitted, text]
      rw [nothing]
      refine ⟨Nat.zero_le _, ?_⟩
      intro same _
      have empty := linesLength_eq_zero same.symm
      simp only [relayedFields, omitted, filter_cons, filter_nil, not_false_eq_true,
        decide_true, if_true, flatMap_singleton, map_eq_nil_iff] at empty
      exact .inr empty

theorem carried_of_linesLength (members : List (Text × Json)) :
    linesLength (exitFields members) ≤ linesLength (relayedFields texts false members) ∧
      (linesLength (exitFields members) = linesLength (relayedFields texts false members) →
        ∀ member ∈ members, ¬ Omitted false member.1 → Carried texts member.2) := by
  induction members with
  | nil => exact ⟨Nat.le_refl _, fun _ => by simp⟩
  | cons member rest ih =>
    obtain ⟨fewer, here⟩ := linesLength_member texts member
    obtain ⟨fewerLater, later⟩ := ih
    rw [exitFields_cons, relayedFields_cons, linesLength_append, linesLength_append]
    refine ⟨by omega, ?_⟩
    intro same
    exact List.forall_mem_cons.mpr ⟨here (by omega), later (by omega)⟩

theorem assembleHead_digits (status : Nat) (words : Text) (fields : List (Text × Text)) :
    ∃ rest, assembleHead (lit "HTTP/1.1 " ++ decimal status ++ [' '] ++ words) fields =
      toUtf8 (lit "HTTP/1.1 ") ++ (toUtf8 (decimal status) ++ 32 :: rest) := by
  have blank : toUtf8 [' '] = [32] := by decide
  refine ⟨toUtf8 (words ++ ['\r', '\n'] ++ fields.flatMap (fun field => headerLine field.1 field.2) ++
    ['\r', '\n']), ?_⟩
  simp only [assembleHead, toUtf8_append, blank]
  simp only [append_assoc, cons_append, nil_append]

theorem relayedStatusLine_inj {status status' : Nat} {fields fields' : List (Text × Text)}
    {content content' : Bytes}
    (same : assembleHead (relayedStatusLine status) fields ++ content =
      assembleHead (relayedStatusLine status') fields' ++ content') : status = status' := by
  obtain ⟨rest, left⟩ := assembleHead_digits status (statusText status) fields
  obtain ⟨rest', right⟩ := assembleHead_digits status' (statusText status') fields'
  have digits : ∀ n (behind : Bytes),
      (toUtf8 (decimal n) ++ 32 :: behind).takeWhile (· ≠ 32) = toUtf8 (decimal n) := by
    intro n behind
    rw [takeWhile_append_of_pos, takeWhile_cons_of_neg (by decide), append_nil]
    intro byte member
    refine decide_eq_true ?_
    rintro rfl
    have inside := mem_of_mem_toUtf8 member (by decide)
    exact absurd (isDigit_of_mem_decimal inside) (by decide)
  rw [relayedStatusLine, relayedStatusLine, left, right, append_assoc, append_assoc,
    append_assoc, append_assoc, cons_append, cons_append] at same
  have first := congrArg (List.takeWhile (· ≠ 32)) (append_cancel_left same)
  rw [digits, digits] at first
  have texts : decimal status = decimal status' := by
    have decoded := congrArg fromUtf8 first
    rw [fromUtf8_toUtf8, fromUtf8_toUtf8] at decoded
    exact some.inj decoded
  rw [← readDigits_decimal status, texts, readDigits_decimal]

/-- On the exit-node path, a number that is no status of 64 bits is taken for 502. -/
theorem parseExitNodeResponse_envelopeBody {literal encoded : Text} {members : List (Text × Json)}
    {content : Bytes} (number : (Json.num literal).WellFormed)
    (each : ∀ member ∈ members, member.2.WellFormed)
    (held : texts.holds (envelopeJson literal members encoded) = true)
    (decoded : Base64.decode encoded = some content) :
    parseExitNodeResponse texts (envelopeBody literal members encoded) =
      .ok (assembleHead (exitStatusLine (((Json.num literal).asU64.map (· % 2 ^ 16)).getD 502))
        (exitFields (Json.byKey members) ++
          [(lit "Content-Length", decimal content.length)]) ++ content) := by
  have wellFormed := wellFormed_envelope number encoded each
  rw [envelopeBody, parseExitNodeResponse_jsonBody texts wellFormed held
      (by simp [envelopeJson, Json.get, lit]),
    envelopeResponse_envelope texts literal members decoded, envelopeHead_eq]

/-- On the exit-node path too, an envelope beyond the limits of the reader gives an error. -/
theorem parseExitNodeResponse_beyond {literal encoded : Text} {members : List (Text × Json)}
    (number : (Json.num literal).WellFormed) (each : ∀ member ∈ members, member.2.WellFormed)
    (beyond : texts.holds (envelopeJson literal members encoded) = false) :
    ∃ error, parseExitNodeResponse texts (envelopeBody literal members encoded) =
      .error error := by
  have wellFormed := wellFormed_envelope number encoded each
  have unread := read_jsonBody texts wellFormed
  rw [beyond, if_neg (by simp)] at unread
  rw [envelopeBody, parseExitNodeResponse, jsonBytes_jsonBody wellFormed, unread]
  exact ⟨_, rfl⟩

def SameResponse (exit relayed : Bytes) : Prop :=
  ∃ status fields fields' content, fields.Perm fields' ∧
    exit = assembleHead (exitStatusLine status) fields ++ content ∧
    relayed = assembleHead (relayedStatusLine status) fields' ++ content

inductive Agree : Except FronterError Bytes → Except Stop Bytes → Prop
  | refused (error other : FronterError) : Agree (.error error) (.error (.failed other))
  | answered {exit relayed : Bytes} (same : SameResponse exit relayed) :
    Agree (.ok exit) (.ok relayed)

theorem sameResponse_iff (status : Nat) (members : List (Text × Json)) (length : Text)
    (content : Bytes) :
    SameResponse
        (assembleHead (exitStatusLine status) (exitFields members ++
          [(lit "Content-Length", length)]) ++ content)
        (assembleHead (relayedStatusLine status) (relayedFields texts false members ++
          [(lit "Content-Length", length)]) ++ content) ↔
      ∀ member ∈ members, ¬ Omitted false member.1 → Carried texts member.2 := by
  constructor
  · rintro ⟨status', fields, fields', content', reordered, exit, relayed⟩
    cases relayedStatusLine_inj relayed
    refine (carried_of_linesLength texts members).2 ?_
    have sizes : linesLength fields = linesLength fields' := (reordered.map _).sum_nat
    have exitLength := congrArg List.length exit
    have relayedLength := congrArg List.length relayed
    simp only [length_append, length_assembleHead, linesLength_append] at exitLength
    simp only [length_append, length_assembleHead, linesLength_append] at relayedLength
    omega
  · intro carried
    exact ⟨status, _, _, content, .refl _, rfl, by rw [exitFields_eq carried]⟩

theorem statusField_num_iff {literal : Text} {code : Nat} :
    RelayResponse.statusField (.num literal) = some (some code) ↔
      (Json.num literal).asU64 = some code ∧ code < 2 ^ 16 := by
  simp only [RelayResponse.statusField, bind_eq_some_iff]
  constructor
  · rintro ⟨n, number, kept⟩
    split at kept
    · cases kept
      exact ⟨number, ‹_›⟩
    · cases kept
  · rintro ⟨number, small⟩
    exact ⟨code, number, if_pos small⟩

/--
The exit-node path and the direct one make the same of an envelope, exactly if it is beyond the
limits of the reader, or its number is one of sixteen bits and every header field that is kept is a
string, or has no value at all.
-/
theorem decoders_agree_iff (texts : LibraryTexts) {literal encoded : Text}
    {members : List (Text × Json)} {content : Bytes} (number : (Json.num literal).WellFormed)
    (each : ∀ member ∈ members, member.2.WellFormed)
    (decoded : Base64.decode encoded = some content) :
    Agree (parseExitNodeResponse texts (envelopeBody literal members encoded))
        (parseRelayJson texts false (envelopeBody literal members encoded)) ↔
      texts.holds (envelopeJson literal members encoded) = false ∨
        (∃ code < 2 ^ 16, (Json.num literal).asU64 = some code) ∧
          ∀ member ∈ Json.byKey members, ¬ Omitted false member.1 → Carried texts member.2 := by
  cases held : texts.holds (envelopeJson literal members encoded) with
  | false =>
    -- Both refuse what the library cannot read.
    obtain ⟨error, exit⟩ := parseExitNodeResponse_beyond texts number each held
    obtain ⟨other, relayed⟩ := parseRelayJson_refuses texts false number each encoded (.inl held)
    rw [exit, relayed]
    exact ⟨fun _ => .inl rfl, fun _ => .refused error other⟩
  | true =>
    simp only [Bool.true_eq_false, false_or]
    rw [parseExitNodeResponse_envelopeBody texts number each held decoded]
    cases status : RelayResponse.statusField (.num literal) with
    | none =>
      obtain ⟨error, refused⟩ :=
        parseRelayJson_refuses texts false number each encoded (.inr status)
      rw [refused]
      constructor
      · rintro ⟨⟩
      · rintro ⟨⟨code, small, read⟩, -⟩
        have known := statusField_num_iff.mpr ⟨read, small⟩
        rw [status] at known
        cases known
    | some found =>
      cases found with
      | none =>
        obtain ⟨n, -, kept⟩ := Option.bind_eq_some_iff.mp status
        split at kept <;> cases kept
      | some code =>
        obtain ⟨read, small⟩ := statusField_num_iff.mp status
        have relayed : parseRelayJson texts false (envelopeBody literal members encoded) = _ :=
          (accepts_envelope texts number status each held decoded).parse false
        rw [relayed, relayedResponse_eq, read, map_some, getD_some,
          Nat.mod_eq_of_lt small]
        constructor
        · intro agreed
          cases agreed with
          | answered same =>
            exact ⟨⟨code, small, rfl⟩, (sameResponse_iff texts code _ _ content).mp same⟩
        · rintro ⟨-, carried⟩
          exact .answered ((sameResponse_iff texts code _ _ content).mpr carried)

theorem decoders_agree_page :
    Agree (parseExitNodeResponse noTexts (envelopeBody (decimal 404)
        [(lit "Content-Type", .str (lit "text/plain"))] (Base64.encode [104, 105])))
      (parseRelayJson noTexts false (envelopeBody (decimal 404)
        [(lit "Content-Type", .str (lit "text/plain"))] (Base64.encode [104, 105]))) := by
  have each : ∀ member ∈ [(lit "Content-Type", Json.str (lit "text/plain"))],
      member.2.WellFormed := by
    intro member inside
    rw [List.mem_singleton.mp inside]
    exact .str _
  refine (decoders_agree_iff noTexts (Json.wellFormed_decimal 404) each
    (Base64.decode_encode [104, 105])).mpr (.inr ⟨⟨404, by decide, asU64_decimal (by decide)⟩, ?_⟩)
  intro member inside _
  rw [List.mem_singleton.mp inside]
  exact .inl ⟨_, rfl⟩

/-- On the exit-node path, cookies in a list are lost, and a large status loses its upper bits. -/
theorem exit_node_drops_cookies :
    (∃ exit relayed, parseExitNodeResponse noTexts (envelopeBody (decimal 200)
        [(lit "Set-Cookie", .arr [.str (lit "a=1"), .str (lit "b=2")])] (Base64.encode [])) =
          .ok exit ∧
      parseRelayJson noTexts false (envelopeBody (decimal 200)
        [(lit "Set-Cookie", .arr [.str (lit "a=1"), .str (lit "b=2")])] (Base64.encode [])) =
          .ok relayed ∧
      splitResponse exit = some (200, [(lit "Content-Length", lit "0")], []) ∧
      splitResponse relayed = some (200, [(lit "Set-Cookie", lit "a=1"),
        (lit "Set-Cookie", lit "b=2"), (lit "Content-Length", lit "0")], [])) ∧
    (∃ exit error, parseExitNodeResponse noTexts (envelopeBody (decimal 65736) []
        (Base64.encode [])) = .ok exit ∧
      splitResponse exit = some (200, [(lit "Content-Length", lit "0")], []) ∧
      parseRelayJson noTexts false (envelopeBody (decimal 65736) [] (Base64.encode [])) =
        .error (.failed error)) := by
  have each : ∀ member ∈ [(lit "Set-Cookie", Json.arr [.str (lit "a=1"), .str (lit "b=2")])],
      member.2.WellFormed ∧ member.2.Small 125 := by
    intro member inside
    rw [List.mem_singleton.mp inside]
    exact ⟨FieldValue.wellFormed_toJson (.many [lit "a=1", lit "b=2"]),
      FieldValue.small_toJson (.many [lit "a=1", lit "b=2"]) 124⟩
  have empty : ∀ member ∈ ([] : List (Text × Json)), member.2.WellFormed := by simp
  constructor
  · refine ⟨_, _, parseExitNodeResponse_envelopeBody noTexts (Json.wellFormed_decimal 200)
      (fun member inside => (each member inside).1) rfl (Base64.decode_encode []),
      parseRelayJson_envelope noTexts false (by decide) each [], ?_, ?_⟩
    · decide +kernel
    · decide +kernel
  · have large : RelayResponse.statusField (.num (decimal 65736)) = none := by decide +kernel
    obtain ⟨error, refused⟩ := parseRelayJson_refuses noTexts false
      (Json.wellFormed_decimal 65736) empty (Base64.encode []) (.inr large)
    refine ⟨_, error, parseExitNodeResponse_envelopeBody noTexts (Json.wellFormed_decimal 65736)
      empty rfl (Base64.decode_encode []), ?_, refused⟩
    decide +kernel

end Gvpn
