import Gvpn.Data.JsonLaws
import Gvpn.Data.JsonMap
import Gvpn.Data.Lines
import Gvpn.Fronter.Forward

/-! Which header fields are in the payloads built for a request. -/

namespace Gvpn

open List Option

def encodings (value : Text) : List Text := (value.splitOn ',').map trim

def Undecodable (encoding : Text) : Prop :=
  lower (trim (encoding.takeWhile (· ≠ ';'))) ∈ [lit "br", lit "zstd"]

instance (encoding : Text) : Decidable (Undecodable encoding) :=
  inferInstanceAs (Decidable (_ ∈ _))

def decodable (value : Text) : List Text :=
  (encodings value).filter fun encoding => ¬ Undecodable encoding

theorem stripBrotliFromAcceptEncoding_eq (value : Text) :
    stripBrotliFromAcceptEncoding value = List.intercalate (lit ", ") (decodable value) := by
  refine congrArg (List.intercalate (lit ", ")) (filter_congr ?_)
  intro encoding _
  simp [Undecodable]

theorem encodings_clean {value encoding : Text} (member : encoding ∈ encodings value) :
    ',' ∉ encoding ∧ trim encoding = encoding := by
  obtain ⟨part, inside, rfl⟩ := List.mem_map.mp member
  exact ⟨fun comma => not_mem_of_mem_splitOn inside (mem_of_mem_trim comma), trim_trim part⟩

theorem intercalate_pad (mark blank : Char) (first : Text) (list : List Text) :
    List.intercalate [mark, blank] (first :: list) =
      List.intercalate [mark] (first :: list.map (blank :: ·)) := by
  induction list generalizing first with
  | nil => simp
  | cons next rest ih =>
    rw [map_cons, intercalate_cons_cons, intercalate_cons_cons, ih]
    cases rest with
    | nil => simp
    | cons other rest => simp [intercalate_cons_cons]

variable {list : List Text}

theorem encodings_intercalate (some_ : list ≠ [])
    (clean : ∀ encoding ∈ list, ',' ∉ encoding ∧ trim encoding = encoding) :
    encodings (List.intercalate (lit ", ") list) = list := by
  have separator : lit ", " = [',', ' '] := by decide +kernel
  cases list with
  | nil => exact absurd rfl some_
  | cons first rest =>
    obtain ⟨here, later⟩ := List.forall_mem_cons.mp clean
    rw [encodings, separator, intercalate_pad, splitOn_intercalate]
    · -- The blank in front of all but the first encoding is trimmed away.
      rw [map_cons, here.2, List.map_map]
      congr 1
      refine (map_congr_left ?_).trans (List.map_id rest)
      intro encoding member
      have start : trimStart (' ' :: encoding) = trimStart encoding := by
        simp [trimStart, show isBlank ' ' = true by decide]
      exact (later encoding member).2
    · refine List.forall_mem_cons.mpr ⟨here.1, ?_⟩
      intro padded member
      obtain ⟨encoding, inside, rfl⟩ := List.mem_map.mp member
      simp [(later encoding inside).1]
    · simp

theorem eq_nil_of_intercalate {separator : Text}
    (nothing : List.intercalate separator list = []) : ∀ text ∈ list, text = [] := by
  induction list with
  | nil => simp
  | cons first rest ih =>
    cases rest with
    | nil => simpa using nothing
    | cons next rest =>
      rw [intercalate_cons_cons, append_eq_nil_iff, append_eq_nil_iff] at nothing
      exact List.forall_mem_cons.mpr ⟨nothing.1.1, ih nothing.2⟩

def Due (field : Text × Text) (forwarded : Option (Text × Text)) : Prop :=
  if lower field.1 = lit "accept-encoding" then
    (∃ value, forwarded = some (field.1, value) ∧ encodings value = decodable field.2) ∨
      (forwarded = none ∧ ∀ encoding ∈ decodable field.2, encoding = [])
  else forwarded = some field

theorem due_forwardedField {field : Text × Text} (kept : lower field.1 ∉ skippedRequestHeaders) :
    Due field (forwardedField field) := by
  unfold Due forwardedField
  simp only [if_neg kept]
  split
  · rw [stripBrotliFromAcceptEncoding_eq]
    split
    · rename_i nothing
      exact .inr ⟨rfl, eq_nil_of_intercalate nothing⟩
    · rename_i something
      refine .inl ⟨_, rfl, encodings_intercalate ?_ ?_⟩
      · intro none_
        simp [none_] at something
      · intro encoding member
        exact encodings_clean (mem_of_mem_filter member)
  · rfl

def forwardedValues (headers : List (Text × Text)) (name : Text) : List Text :=
  ((filterForwardedHeaders headers).filter fun field => field.1 = name).map Prod.snd

def Combines (text : Text) (values : List Text) : Prop :=
  ∃ separator parts, separator ≠ [] ∧ text = List.intercalate separator parts ∧
    ∀ value, value ∈ parts ↔ value ∈ values

def payloadHeader (payload : Bytes) (name : Text) : Option Text :=
  ((((fromUtf8 payload).bind Json.read).bind (Json.get (lit "h"))).bind (Json.get name)).bind
    Json.asStr

def Represents (payload : Bytes) (headers : List (Text × Text)) : Prop :=
  ∀ field ∈ filterForwardedHeaders headers, ∃ text, payloadHeader payload field.1 = some text ∧
    Combines text (forwardedValues headers field.1)

theorem length_lt_length_intercalate {separator : Text} (some_ : separator ≠ [])
    (several : 2 ≤ list.length) : ∀ text ∈ list, text.length < (List.intercalate separator list).length := by
  have positive := length_pos_of_ne_nil some_
  induction list with
  | nil => simp at several
  | cons first rest ih =>
    cases rest with
    | nil => simp at several
    | cons next rest =>
      rw [intercalate_cons_cons, length_append, length_append]
      refine List.forall_mem_cons.mpr ⟨by omega, ?_⟩
      intro text member
      cases rest with
      | nil =>
        rw [List.mem_singleton.mp member]
        simp
        omega
      | cons other rest =>
        have longer := ih (by simp) text member
        omega

theorem combines_last_iff {values : List Text} {last : Text} (member : last ∈ values) :
    Combines last values ↔ ∀ value ∈ values, value = last := by
  constructor
  · rintro ⟨separator, parts, some_, whole, same⟩ value inside
    have here := (same last).mpr member
    have single : parts.length < 2 := by
      by_contra several
      have longer := length_lt_length_intercalate some_ (by omega) last here
      rw [← whole] at longer
      omega
    have also := (same value).mpr inside
    rcases parts with _ | ⟨part, _ | ⟨second, rest⟩⟩
    · simp at here
    · rw [List.mem_singleton.mp here, List.mem_singleton.mp also]
    · simp at single
  · intro all
    refine ⟨[','], [last], by simp, by simp, ?_⟩
    intro value
    rw [mem_singleton]
    exact ⟨fun same => same ▸ member, all value⟩

theorem get_byKey_fields (fields : List (Text × Text)) (name : Text) :
    ((Json.obj (Json.byKey (fields.map fun field => (field.1, .str field.2)))).get name).bind
        Json.asStr =
      ((fields.filter fun field => field.1 = name).map Prod.snd).getLast? := by
  rw [Json.get_byKey]
  induction fields using List.reverseRecOn with
  | nil => rfl
  | append_singleton fields field ih =>
    rw [map_append, map_singleton, Json.get_concat, filter_append, map_append]
    by_cases same : field.1 = name
    · simp [same, Json.asStr]
    · simpa [same] using ih

theorem relayRequestMembers_facts (key method url : Text) (headers : List (Text × Text))
    (body : Bytes) (raw : Bool) :
    (∀ member ∈ relayRequestMembers key method url headers body raw, member.2.WellFormed) ∧
      (Json.obj (relayRequestMembers key method url headers body raw)).get (lit "h") =
        (headerMap headers).map .obj := by
  have fields : ∀ members, headerMap headers = some members → (Json.obj members).WellFormed := by
    intro members found
    unfold headerMap at found
    split at found
    · cases found
    · cases found
      refine .obj fun member inside => ?_
      obtain ⟨field, -, rfl⟩ := List.mem_map.mp (Json.mem_of_mem_byKey inside)
      exact .str _
  constructor
  · -- All other members are strings, and the last one is a truth value.
    intro member inside
    simp only [relayRequestMembers, optionalMember, mem_append, mem_cons,
      not_mem_nil, or_false, mem_toList, map_eq_some_iff,
      ite_none_left_eq_some] at inside
    rcases inside with ((((rfl | rfl | rfl) | ⟨_, ⟨members, found, rfl⟩, rfl⟩) |
      ⟨_, ⟨-, found⟩, rfl⟩) | ⟨_, ⟨-, value, -, rfl⟩, rfl⟩) | rfl
    · exact .str _
    · exact .str _
    · exact .str _
    · exact fields members found
    · cases found
      exact .str _
    · exact .str _
    · exact .bool raw
  · unfold relayRequestMembers
    generalize headerMap headers = map, findHeader headers (lit "content-type") = type
    cases map <;> cases type <;> by_cases empty : body = [] <;>
      simp [optionalMember, Json.get, empty, lit]

def Holds (payload : Bytes) (headers : List (Text × Text)) : Prop :=
  ∃ members, payload = jsonBody (.obj members) ∧ (Json.obj members).WellFormed ∧
    (Json.obj members).get (lit "h") = (headerMap headers).map .obj

theorem holds_buildPayloadJson (keys : PayloadKeys) (pad : Bytes) (method url : Text)
    (headers : List (Text × Text)) (body : Bytes) :
    Holds (buildPayloadJson keys pad method url headers body) headers := by
  obtain ⟨each, own⟩ :=
    relayRequestMembers_facts keys.authKey method url headers body true
  have ordered := Json.ordered_byKey (relayRequestMembers keys.authKey method url headers body true)
  have plain : ∀ member ∈ Json.byKey (relayRequestMembers keys.authKey method url headers body
      true), member.2.WellFormed := fun member inside => each member (Json.mem_of_mem_byKey inside)
  refine ⟨_, rfl, ?_, ?_⟩
  · refine .obj fun member inside => ?_
    split at inside
    · exact plain member inside
    · unfold addRandomPad at inside
      split at inside
      · exact plain member inside
      · rcases (Json.mem_insertMember ordered).mp inside with rfl | ⟨before, -⟩
        · exact .str _
        · exact plain member before
  · have different : lit "h" ≠ lit "_pad" := by decide +kernel
    have base := (Json.get_byKey _ (lit "h")).trans own
    unfold addRandomPad
    split
    · exact base
    · split
      · exact base
      · exact (ordered.get_insertMember different _).trans base

theorem holds_buildExitNodeInnerPayload (keys : PayloadKeys) (method url : Text)
    (headers : List (Text × Text)) (body : Bytes) :
    Holds (buildExitNodeInnerPayload keys method url headers body) headers := by
  obtain ⟨each, own⟩ :=
    relayRequestMembers_facts keys.exitNodePsk method url headers body false
  exact ⟨_, rfl, .obj each, own⟩

theorem Holds.payloadHeader {payload : Bytes} {headers : List (Text × Text)}
    (holds : Holds payload headers) (name : Text) :
    payloadHeader payload name = (forwardedValues headers name).getLast? := by
  obtain ⟨members, rfl, wellFormed, own⟩ := holds
  unfold Gvpn.payloadHeader forwardedValues
  rw [jsonBody, fromUtf8_toUtf8, bind_some, Json.read_write wellFormed, bind_some,
    own, ← get_byKey_fields]
  unfold headerMap
  split
  · rename_i none_
    rw [none_]
    rfl
  · rfl

def Unambiguous (headers : List (Text × Text)) : Prop :=
  ∀ left ∈ filterForwardedHeaders headers, ∀ right ∈ filterForwardedHeaders headers,
    left.1 = right.1 → left.2 = right.2

theorem Holds.represents_iff {payload : Bytes} {headers : List (Text × Text)}
    (holds : Holds payload headers) : Represents payload headers ↔ Unambiguous headers := by
  have listed : ∀ field ∈ filterForwardedHeaders headers,
      field.2 ∈ forwardedValues headers field.1 := fun field member =>
    List.mem_map.mpr ⟨field, List.mem_filter.mpr ⟨member, by simp⟩, rfl⟩
  constructor
  · intro represents left first right second same
    obtain ⟨text, found, combines⟩ := represents left first
    rw [holds.payloadHeader] at found
    have all := (combines_last_iff (mem_of_getLast? found)).mp combines
    rw [all left.2 (listed left first), all right.2 (same ▸ listed right second)]
  · intro unambiguous field member
    have some_ := ne_nil_of_mem (listed field member)
    refine ⟨(forwardedValues headers field.1).getLast some_, ?_, ?_⟩
    · rw [holds.payloadHeader, getLast?_eq_some_getLast some_]
    · -- All values of the name are the value of the field.
      have same : ∀ value ∈ forwardedValues headers field.1, value = field.2 := by
        intro value inside
        obtain ⟨other, kept, rfl⟩ := List.mem_map.mp inside
        obtain ⟨present, name⟩ := List.mem_filter.mp kept
        exact unambiguous other present field member (of_decide_eq_true name)
      refine (combines_last_iff (getLast_mem some_)).mpr fun value inside => ?_
      rw [same value inside, same _ (getLast_mem some_)]

/--
Of every header field that is not skipped, what is due is forwarded, and both payloads have the
complete values of all forwarded fields exactly if no name has different ones.
-/
theorem forwarded_headers_iff (keys : PayloadKeys) (pad : Bytes) (method url : Text)
    (headers : List (Text × Text)) (body : Bytes) :
    (∀ field ∈ headers, lower field.1 ∉ skippedRequestHeaders →
      Due field (forwardedField field)) ∧
    (Represents (buildPayloadJson keys pad method url headers body) headers ↔
      Unambiguous headers) ∧
    (Represents (buildExitNodeInnerPayload keys method url headers body) headers ↔
      Unambiguous headers) :=
  ⟨fun _ _ kept => due_forwardedField kept,
    (holds_buildPayloadJson keys pad method url headers body).represents_iff,
    (holds_buildExitNodeInnerPayload keys method url headers body).represents_iff⟩

def twoCookies : List (Text × Text) := [(lit "cookie", lit "a=1"), (lit "cookie", lit "b=2")]

def plainKeys : PayloadKeys := ⟨lit "k", lit "p", true⟩

theorem first_cookie_lost :
    payloadHeader (buildPayloadJson plainKeys [] (lit "GET") (lit "https://shop.example/")
        twoCookies []) (lit "cookie") = some (lit "b=2") ∧
      payloadHeader (buildExitNodeInnerPayload plainKeys (lit "GET") (lit "https://shop.example/")
        twoCookies []) (lit "cookie") = some (lit "b=2") := by
  have last : (forwardedValues twoCookies (lit "cookie")).getLast? = some (lit "b=2") := by
    decide +kernel
  rw [(holds_buildPayloadJson _ _ _ _ twoCookies _).payloadHeader,
    (holds_buildExitNodeInnerPayload _ _ _ twoCookies _).payloadHeader]
  exact ⟨last, last⟩

end Gvpn
