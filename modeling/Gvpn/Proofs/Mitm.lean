import Gvpn.Data.Lines
import Gvpn.Proofs.Body
import Gvpn.Proofs.Head
import Gvpn.Proxy.Mitm

/-! The requests of an intercepted connection are relayed as the client sent them. -/

namespace Gvpn

open List

theorem isHead_lines {line : Bytes} (free : 13 ∉ line) (fields : List FieldLine) :
    IsHead (line ++ lineEnd ++ WireBody.fieldLines fields) := by
  have unbroken : Unbroken 13 10 line := unbroken_of_not_mem (by simp) free
  induction fields generalizing line with
  | nil =>
    refine ⟨line, ?_⟩
    have found := cut_empty_line (show (13 : UInt8) ≠ 10 by decide) unbroken []
    simpa [WireBody.fieldLines, lineEnd, headEnd] using found
  | cons field others ih =>
    have fieldFree : 13 ∉ toUtf8 field.text := not_mem_toUtf8 field.free
    obtain ⟨front, found⟩ := ih fieldFree (unbroken_of_not_mem (by simp) fieldFree)
    have further : ¬ [13, 10] <+: toUtf8 field.text ++ lineEnd ++ WireBody.fieldLines others := by
      intro opens
      cases bytes : toUtf8 field.text with
      | nil => exact field.text_ne_nil bytes
      | cons byte more =>
        rw [bytes, append_assoc, cons_append, cons_prefix_cons] at opens
        exact fieldFree (by simp [bytes, ← opens.1])
    have shape : line ++ lineEnd ++ WireBody.fieldLines (field :: others) =
        line ++ 13 :: 10 :: (toUtf8 field.text ++ lineEnd ++ WireBody.fieldLines others) := by
      simp [WireBody.fieldLines, lineEnd]
    refine ⟨line ++ 13 :: 10 :: front, ?_⟩
    rw [shape, headEnd, cut_line_end (by decide) unbroken further, ← headEnd, found]
    simp

variable {method : Text}

theorem method_free (valid : isValidHttpMethod method = true) :
    ' ' ∉ method ∧ '\r' ∉ method := by
  simp only [isValidHttpMethod, decide_eq_true_eq, mem_cons, not_mem_nil,
    or_false] at valid
  rcases valid with rfl | rfl | rfl | rfl | rfl | rfl | rfl | rfl | rfl
  all_goals with_unfolding_all decide

def versionedLine (method target version : Text) : Text :=
  method ++ ' ' :: (target ++ ' ' :: version)

theorem versionedHead_eq (method target version : Text) (fields : List FieldLine) :
    versionedHead method target version fields =
      versionedLine method target version ++ '\r' :: '\n' ::
        (fields.flatMap (fun field => field.text ++ ['\r', '\n']) ++ ['\r', '\n']) := by
  simp [versionedHead, versionedLine]

theorem toUtf8_versionedHead (method target version : Text) (fields : List FieldLine) :
    toUtf8 (versionedHead method target version fields) =
      toUtf8 (versionedLine method target version) ++ lineEnd ++ WireBody.fieldLines fields := by
  have ends : toUtf8 ['\r', '\n'] = lineEnd := by decide
  have lines : toUtf8 (fields.flatMap fun field => field.text ++ ['\r', '\n']) =
      fields.flatMap fun field => toUtf8 field.text ++ lineEnd := by
    induction fields with
    | nil => rfl
    | cons field others ih =>
      rw [flatMap_cons, flatMap_cons, toUtf8_append, toUtf8_append, ends, ih]
  have shape : versionedHead method target version fields =
      versionedLine method target version ++ ['\r', '\n'] ++
        fields.flatMap (fun field => field.text ++ ['\r', '\n']) ++ ['\r', '\n'] := by
    simp [versionedHead, versionedLine]
  rw [shape, toUtf8_append, toUtf8_append, toUtf8_append, ends, lines, WireBody.fieldLines]
  simp

theorem versionedLine_free {target version : Text} (methodFree : '\r' ∉ method)
    (targetFree : '\r' ∉ target) (versionFree : '\r' ∉ version) :
    '\r' ∉ versionedLine method target version := by
  intro member
  simp only [versionedLine, mem_append, mem_cons] at member
  rcases member with inMethod | isBlank_ | inTarget | isBlank_ | inVersion
  · exact methodFree inMethod
  · exact absurd isBlank_ (by decide)
  · exact targetFree inTarget
  · exact absurd isBlank_ (by decide)
  · exact versionFree inVersion

variable (request : WireRequest)

theorem WireRequest.isHead : IsHead request.head := by
  have free : '\r' ∉ versionedLine request.method request.target (lit "HTTP/1.1") :=
    versionedLine_free (method_free request.valid).2 request.targeted.2 (by with_unfolding_all decide)
  have bytes : request.head = _ :=
    toUtf8_versionedHead request.method request.target (lit "HTTP/1.1") request.fields
  rw [bytes]
  exact isHead_lines (not_mem_toUtf8 free) request.fields

theorem requestHeaders_lines (fields : List FieldLine) :
    requestHeaders (splitCrlf (fields.flatMap (fun field => field.text ++ ['\r', '\n']) ++
      ['\r', '\n'])) = fields.map FieldLine.field := by
  induction fields with
  | nil => simp [splitCrlf, requestHeaders]
  | cons field others ih =>
    have shape : (field :: others).flatMap (fun field => field.text ++ ['\r', '\n']) ++
        ['\r', '\n'] = field.text ++ '\r' :: '\n' ::
          (others.flatMap (fun field => field.text ++ ['\r', '\n']) ++ ['\r', '\n']) := by
      simp
    have colonFree : ':' ∉ field.name := by
      intro member
      have token := field.token ':' member
      exact absurd token (by decide)
    have nameIs : trim field.name = field.name :=
      trim_eq fun c member => isBlank_of_token (field.token c member)
    have split : splitOnce ':' field.text = some (field.name, field.value) :=
      splitOnce_append colonFree field.value
    rw [shape, splitCrlf_line (unbroken_of_not_mem (by simp) field.free)]
    cases text : field.text with
    | nil => simp [FieldLine.text] at text
    | cons first rest =>
      rw [text] at split
      rw [requestHeaders, split, ih]
      · simp only [nameIs, map_cons, FieldLine.field]
      · simp

theorem parseRequestHead_versioned {target version : Text}
    (methodFree : ' ' ∉ method ∧ '\r' ∉ method) (targetFree : ' ' ∉ target ∧ '\r' ∉ target)
    (versionFree : '\r' ∉ version) (fields : List FieldLine) :
    parseRequestHead (toUtf8 (versionedHead method target version fields)) =
      if isValidHttpMethod method then
        some ⟨method, target, version, fields.map FieldLine.field⟩
      else none := by
  have line : requestLine (versionedLine method target version) =
      some (method, target, version) := by
    rw [requestLine, versionedLine, splitOnce_append methodFree.1]
    simp only [splitOnce_append targetFree.1]
  have unbroken : Unbroken '\r' '\n' (versionedLine method target version) :=
    unbroken_of_not_mem (by simp) (versionedLine_free methodFree.2 targetFree.2 versionFree)
  rw [parseRequestHead, fromUtf8_toUtf8, versionedHead_eq]
  simp only [splitCrlf_line unbroken, line, requestHeaders_lines]

theorem WireRequest.parseRequestHead_head :
    parseRequestHead request.head =
      some ⟨request.method, request.target, lit "HTTP/1.1", request.headers⟩ := by
  have parsed := parseRequestHead_versioned (method_free request.valid) request.targeted
    (show '\r' ∉ lit "HTTP/1.1" by with_unfolding_all decide) request.fields
  rw [request.valid, if_pos rfl] at parsed
  exact parsed

/-- A request for the permission to send another one, which the proxy answers itself. -/
def isPreflight (request : WireRequest) : Bool := eqIgnoreCase request.method (lit "OPTIONS")

/-- What is relayed for a request: its method, address, header fields and decoded body. -/
def relayedAs (scheme host : Text) (port : Nat) (request : WireRequest) : RelayRequest :=
  ⟨request.method, relayTarget scheme host port request.target, request.headers,
    request.body.content⟩

/-- What one request leads to: a go-ahead if it waits for one, and then one answer or one relay. -/
def requestEvents (scheme host : Text) (port : Nat) (request : WireRequest) : List MitmEvent :=
  (if sendsContinue request.headers then [.answered continueResponse] else []) ++
    [if isPreflight request then .answered (preflightResponse request.headers)
    else .relayed (eqIgnoreCase request.method (lit "GET") && request.body.content = [])
      (relayedAs scheme host port request)]

variable {stream : Segments}

theorem handleMitmRequest_splits (scheme host : Text) (port : Nat) {request : WireRequest}
    {rest : Segments} (splits : stream.Splits request.encode rest) :
    handleMitmRequest scheme host port stream =
      { events := requestEvents scheme host port request
        next := if wantsClose request.headers then none else some rest } := by
  obtain ⟨leftover, left, after, read, payloadIs, behind⟩ :=
    readHttpHead_splits request.isHead request.small splits
  have body := readBody_splits request.announced behind payloadIs
  have parsed := request.parseRequestHead_head
  simp only [handleMitmRequest, read, parsed, body, requestEvents, WireRequest.headers]
  rfl

/-- The requests up to the first one after which the client wants to close. -/
def servedRequests : List WireRequest → List WireRequest
  | [] => []
  | request :: rest => request :: if wantsClose request.headers then [] else servedRequests rest

/-- Each request ends where a piece of the stream ends. -/
def SentSeparately : List WireRequest → Segments → Prop
  | [], stream => stream.bytes = []
  | request :: rest, stream =>
    ∃ after, stream.Splits request.encode after ∧ SentSeparately rest after

theorem handleMitmRequest_ended (scheme host : Text) (port : Nat)
    (ended : stream.bytes = []) : handleMitmRequest scheme host port stream = ⟨[], none⟩ := by
  have positive : 0 < headReadSize := by simp [headReadSize]
  have nothing : stream.read headReadSize = none := Segments.read_eq_none.mpr ended
  have unread : stream.readUntil headReadSize (· ++ ·) checkHead [] = .ended [] := by
    rw [Segments.readUntil_eq positive]
    simp [checkHead, nothing]
  simp [handleMitmRequest, readHttpHead, unread]

theorem mitmRounds_separately (scheme host : Text) (port : Nat) {requests : List WireRequest}
    {rounds : Nat} (separately : SentSeparately requests stream)
    (enough : stream.bytes.length < rounds) :
    mitmRounds scheme host port rounds stream =
      (servedRequests requests).flatMap (requestEvents scheme host port) := by
  induction requests generalizing stream rounds with
  | nil =>
    cases rounds with
    | zero => omega
    | succ rounds =>
      simp [mitmRounds, handleMitmRequest_ended scheme host port separately, servedRequests]
  | cons request others ih =>
    obtain ⟨after, splits, later⟩ := separately
    cases rounds with
    | zero => omega
    | succ rounds =>
      have step := handleMitmRequest_splits scheme host port splits
      have some_ := length_pos_of_ne_nil request.isHead.ne_nil
      have shorter : after.bytes.length < rounds := by
        rw [splits.bytes_eq, WireRequest.encode] at enough
        simp only [length_append] at enough
        omega
      cases closes : wantsClose request.headers with
      | true => simp [mitmRounds, step, closes, servedRequests]
      | false => simp [mitmRounds, step, closes, servedRequests, ih later shorter]

/-- Of the events of one request, at most one is a relay. -/
theorem relayedRequests_requestEvents (scheme host : Text) (port : Nat) :
    relayedRequests (requestEvents scheme host port request) =
      if isPreflight request then [] else [relayedAs scheme host port request] := by
  unfold requestEvents
  cases isPreflight request <;> cases sendsContinue request.headers <;> simp [relayedRequests]

/-- The answer to a preflight is a 204. -/
theorem preflightResponse_opens (headers : List (Text × Text)) :
    lit "HTTP/1.1 204 No Content\r\n" <+: preflightResponse headers := by
  have opens : lit "HTTP/1.1 204 No Content\r\n" <+:
      lit "HTTP/1.1 204 No Content\r\nAccess-Control-Allow-Origin: " := by
    with_unfolding_all decide
  simp only [preflightResponse, append_assoc]
  exact opens.trans (prefix_append _ _)

/--
Requests that each end where a read does are served as they were sent, in order, up to one after
which the client wants to close.

Each leads to its own events and to no others, so no head is read out of a body: a preflight to a
204, and every other request to one relay.
-/
theorem mitmLoop_serves (scheme host : Text) (port : Nat) (requests : List WireRequest)
    (stream : Segments) (separately : SentSeparately requests stream) :
    mitmLoop scheme host port stream =
      (servedRequests requests).flatMap (requestEvents scheme host port) ∧
    relayedRequests (mitmLoop scheme host port stream) =
      ((servedRequests requests).filter fun request => !isPreflight request).map
        (relayedAs scheme host port) ∧
    ∀ headers, lit "HTTP/1.1 204 No Content\r\n" <+: preflightResponse headers := by
  have events : mitmLoop scheme host port stream =
      (servedRequests requests).flatMap (requestEvents scheme host port) :=
    mitmRounds_separately scheme host port separately (Nat.lt_succ_self _)
  refine ⟨events, ?_, preflightResponse_opens⟩
  rw [events]
  induction servedRequests requests with
  | nil => rfl
  | cons request others ih =>
    have append : ∀ first second, relayedRequests (first ++ second) =
        relayedRequests first ++ relayedRequests second := fun _ _ => filterMap_append
    rw [flatMap_cons, append, ih, relayedRequests_requestEvents]
    cases preflight : isPreflight request <;> simp [preflight]

theorem announced_nil : WireBody.none.Announced [] := ⟨rfl, rfl⟩

theorem isValidHttpMethod_get : isValidHttpMethod (lit "GET") = true := by with_unfolding_all rfl

def bareRequest (method : Text) (valid : isValidHttpMethod method = true)
    (small : (toUtf8 (headText method (lit "/") [])).length ≤ maxHeaderBytes) : WireRequest :=
  { method := method
    target := lit "/"
    fields := []
    body := .none
    valid := valid
    targeted := by decide +kernel
    announced := announced_nil
    small := small }

def pageRequest : WireRequest :=
  bareRequest (lit "GET") isValidHttpMethod_get (by decide +kernel)

def preflightRequest : WireRequest :=
  bareRequest (lit "OPTIONS") (by decide +kernel) (by decide +kernel)

/-- A request whose body looks like the head of another one. -/
def nestedRequest : WireRequest :=
  { method := lit "POST"
    target := lit "/"
    fields := [⟨lit "Content-Length", lit "18", by decide +kernel,
      List.all_eq_true.mp (by decide +kernel), by decide +kernel⟩]
    body := .sized pageRequest.head
    valid := by decide +kernel
    targeted := by decide +kernel
    announced := ⟨by decide +kernel, lit "18", by decide +kernel⟩
    small := by decide +kernel }

/-- The pieces of three requests, the first cut within its body. -/
def nestedStream : Segments :=
  ⟨[nestedRequest.encode.take 50, nestedRequest.encode.drop 50, preflightRequest.encode,
    pageRequest.encode], by decide +kernel⟩

/-- The body is relayed as a body, the preflight is answered, and the page is relayed. -/
theorem mitmLoop_serves_nested :
    mitmLoop (lit "https") (lit "a") 443 nestedStream =
      [.relayed false ⟨lit "POST", lit "https://a/", [(lit "Content-Length", lit "18")],
        toUtf8 (lit "GET / HTTP/1.1\r\n\r\n")⟩,
        .answered (preflightResponse []), .relayed true ⟨lit "GET", lit "https://a/", [], []⟩] := by
  have separately : SentSeparately [nestedRequest, preflightRequest, pageRequest] nestedStream :=
    ⟨⟨[preflightRequest.encode, pageRequest.encode], by decide +kernel⟩, ⟨[_, _], rfl, by simp⟩,
      ⟨[pageRequest.encode], by decide +kernel⟩, ⟨[_], rfl, by simp⟩, .empty, ⟨[_], rfl, by simp⟩,
      rfl⟩
  rw [(mitmLoop_serves _ _ _ _ _ separately).1]
  decide +kernel

-- Of two requests in one piece, only the first is relayed.
example : relayedRequests (mitmLoop (lit "https") (lit "a") 443
    ⟨[pageRequest.encode ++ pageRequest.encode], by with_unfolding_all decide⟩) =
      [relayedAs (lit "https") (lit "a") 443 pageRequest] := by
  with_unfolding_all rfl

theorem mitmLoop_keeps_preflight :
    SentSeparately [preflightRequest] ⟨[preflightRequest.encode], by decide +kernel⟩ ∧
      relayedRequests (mitmLoop (lit "https") (lit "a") 443
        ⟨[preflightRequest.encode], by decide +kernel⟩) ≠
          [relayedAs (lit "https") (lit "a") 443 preflightRequest] := by
  refine ⟨⟨.empty, ⟨[preflightRequest.encode], rfl, by simp⟩, rfl⟩, ?_⟩
  decide +kernel

end Gvpn
