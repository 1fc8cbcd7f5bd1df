import Gvpn.Proxy.Wire
import Gvpn.Update.Https

/-! How many requests a release takes, and when it is stored completely. -/

namespace Gvpn

open List

variable {network : Nat → Text → Text → Exchange} {route : UpdateRoute} {binary : Bool}
variable {fuel made count : Nat} {host path : Text} {result : Except Text Bytes} {body : Bytes}

theorem lt_of_httpsRawGet
    (returned : httpsRawGet network route binary fuel made host path = some (count, result)) :
    made < count := by
  induction fuel generalizing made host path with
  | zero => cases returned
  | succ fuel ih =>
    rw [httpsRawGet] at returned
    split at returned
    · cases returned
      exact Nat.lt_succ_self made
    · exact (Nat.lt_succ_self made).trans (ih returned)

/-- A call makes at most two requests exactly when its first two are not both redirected. -/
theorem httpsRawGet_two_requests_iff (network : Nat → Text → Text → Exchange) (route : UpdateRoute)
    (binary : Bool) (host path : Text) :
    (∃ fuel count result, httpsRawGet network route binary fuel 0 host path = some (count, result) ∧
        count ≤ 2) ↔
      ¬ ∃ newHost newPath lastHost lastPath,
        requestOnce route binary (network 0 host path) host = .redirected newHost newPath ∧
          requestOnce route binary (network 1 newHost newPath) newHost =
            .redirected lastHost lastPath := by
  constructor
  · rintro ⟨fuel, count, result, returned, few⟩ ⟨newHost, newPath, lastHost, lastPath, first, second⟩
    rcases fuel with _ | _ | fuel
    · cases returned
    · simp [httpsRawGet, first] at returned
    · simp only [httpsRawGet, first, second] at returned
      have more := lt_of_httpsRawGet returned
      omega
  · intro unlike
    cases first : requestOnce route binary (network 0 host path) host with
    | finished result => exact ⟨1, 1, result, by simp [httpsRawGet, first], by decide⟩
    | redirected newHost newPath =>
      cases second : requestOnce route binary (network 1 newHost newPath) newHost with
      | finished result => exact ⟨2, 2, result, by simp [httpsRawGet, first, second], by decide⟩
      | redirected lastHost lastPath =>
        exact absurd ⟨newHost, newPath, lastHost, lastPath, first, second⟩ unlike

def plainExchange (response : Segments) : Exchange where
  untrusted := none
  tcp := .done
  unasked := none
  greeting := .empty
  greetingEnding := .closed
  badHost := none
  tls := .done
  unwritten := none
  response := response
  ending := .closed

def circle : Segments :=
  ⟨[toUtf8 (lit "HTTP/1.1 302 Found\r\nLocation: /a\r\n\r\n")], by with_unfolding_all decide⟩

theorem httpsRawGet_runs_in_a_circle :
    requestOnce .direct false (plainExchange circle) ['h'] = .redirected ['h'] ['/', 'a'] ∧
      ∀ fuel, httpsRawGet (fun _ _ _ => plainExchange circle) .direct false fuel 0 ['h']
        ['/', 'a'] = none := by
  have again : requestOnce .direct false (plainExchange circle) ['h'] =
      .redirected ['h'] ['/', 'a'] := by
    with_unfolding_all rfl
  have forever : ∀ fuel made, httpsRawGet (fun _ _ _ => plainExchange circle) .direct false fuel
      made ['h'] ['/', 'a'] = none := by
    intro fuel
    induction fuel with
    | zero => exact fun _ => rfl
    | succ fuel ih =>
      intro made
      rw [httpsRawGet, again]
      exact ih (made + 1)
  exact ⟨again, fun fuel => forever fuel 0⟩

def Responded (exchange : Exchange) (head received : Bytes) : Prop :=
  cut headEnd exchange.response.bytes = some (head, received) ∧ exchange.ending = .closed

theorem eq_bytes_of_fetchRelease {exchange : Exchange} {buf : Bytes}
    (fetched : fetchRelease route binary exchange = .ok buf) :
    buf = exchange.response.bytes ∧ exchange.ending = .closed := by
  simp only [fetchRelease, bind_eq_ok_iff] at fetched
  obtain ⟨-, -, -, -, -, -, -, -, read⟩ := fetched
  unfold readToEnd at read
  split at read
  · cases read
  · rename_i collected ended
    have all := (Segments.readUntil_ended (by decide) ended).1
    split at read
    · rename_i closed
      cases read
      exact ⟨all, closed⟩
    all_goals cases read

theorem cut_of_parseResponse {buf : Bytes}
    (ended : parseResponse buf host = .finished (.ok body)) :
    ∃ head, cut headEnd buf = some (head, body) := by
  unfold parseResponse at ended
  split at ended
  · cases ended
  · rename_i head rest found
    split at ended
    · cases ended
    · split at ended
      · cases ended
      · split_ifs at ended
        · cases ended
          exact ⟨head, found⟩
        · split at ended
          all_goals cases ended
        · cases ended

theorem received_of_requestOnce {exchange : Exchange}
    (ended : requestOnce route binary exchange host = .finished (.ok body)) :
    ∃ head, Responded exchange head body := by
  unfold requestOnce at ended
  split at ended
  · cases ended
  · rename_i buf fetched
    obtain ⟨rfl, closed⟩ := eq_bytes_of_fetchRelease fetched
    obtain ⟨head, found⟩ := cut_of_parseResponse ended
    exact ⟨head, found, closed⟩

theorem received_of_httpsRawGet
    (returned : httpsRawGet network route binary fuel made host path = some (count, .ok body)) :
    ∃ last host path head, last + 1 = count ∧ Responded (network last host path) head body := by
  induction fuel generalizing made host path with
  | zero => cases returned
  | succ fuel ih =>
    rw [httpsRawGet] at returned
    split at returned
    · rename_i result ended
      cases returned
      obtain ⟨head, received⟩ := received_of_requestOnce ended
      exact ⟨made, host, path, head, rfl, received⟩
    · exact ih returned

def headFields (head : Bytes) : List (Text × Text) := (headerLines (head.splitOn 10).tail).getD []

def IsChunked (fields : List (Text × Text)) : Prop :=
  ∃ encoding, headerGet fields (lit "transfer-encoding") = some encoding ∧
    listHas (lit "chunked") encoding = true

structure Complete (fields : List (Text × Text)) (received body : Bytes) : Prop where
  chunked : IsChunked fields → ∃ chunks last trailers rest,
    received = (WireBody.chunked chunks last trailers).encode ++ rest ∧
      (∀ chunk ∈ chunks, chunk.data ≠ []) ∧ last.data = [] ∧
      body = (WireBody.chunked chunks last trailers).content
  sized : ¬ IsChunked fields → ∀ length, headerGet fields (lit "content-length") = some length →
    parseUnsigned (2 ^ 64) length = some body.length ∧ body <+: received
  unsized : ¬ IsChunked fields → headerGet fields (lit "content-length") = none → body = received

theorem content_shorter (chunks : List Chunk) (last : Chunk) (trailers : List FieldLine) :
    (WireBody.chunked chunks last trailers).content.length <
      (WireBody.chunked chunks last trailers).encode.length := by
  have each : (chunks.flatMap Chunk.data).length ≤
      (chunks.flatMap fun chunk => chunk.line ++ chunk.data ++ lineEnd).length := by
    induction chunks with
    | nil => simp
    | cons chunk chunks ih =>
      simp only [flatMap_cons, length_append] at ih ⊢
      omega
  have marked : 0 < last.line.length := by simp [Chunk.line, lineEnd]
  simp only [WireBody.content, WireBody.encode, length_append]
  omega

theorem complete_iff {fields : List (Text × Text)} :
    Complete fields body body ↔ ¬ IsChunked fields ∧
      ∀ length, headerGet fields (lit "content-length") = some length →
        parseUnsigned (2 ^ 64) length = some body.length := by
  constructor
  · intro complete
    have whole : ¬ IsChunked fields := by
      intro chunked
      obtain ⟨chunks, last, trailers, rest, received, -, -, content⟩ := complete.chunked chunked
      have shorter := content_shorter chunks last trailers
      rw [← content, received, length_append] at shorter
      omega
    exact ⟨whole, fun length said => (complete.sized whole length said).1⟩
  · rintro ⟨whole, said⟩
    exact ⟨fun chunked => absurd chunked whole,
      fun _ length given => ⟨said length given, prefix_rfl⟩, fun _ _ => rfl⟩

/--
A release is whatever came behind the head until the connection closed, complete exactly if it was
not in chunks and has the announced length.
-/
theorem httpsRawGet_complete_iff (network : Nat → Text → Text → Exchange) (route : UpdateRoute)
    (binary : Bool) (fuel : Nat) :
    (∀ host path count body,
      httpsRawGet network route binary fuel 0 host path = some (count, .ok body) →
      ∃ last host path head, last + 1 = count ∧ Responded (network last host path) head body ∧
        (Complete (headFields head) body body ↔ ¬ IsChunked (headFields head) ∧
          ∀ length, headerGet (headFields head) (lit "content-length") = some length →
            parseUnsigned (2 ^ 64) length = some body.length)) ∧
    ∀ assetUrl outPath unstored body count,
      downloadAsset network route fuel assetUrl outPath unstored = some (.ok (body, count)) →
      count = body.length ∧ ∃ host path requests,
        httpsRawGet network route true fuel 0 host path = some (requests, .ok body) := by
  constructor
  · intro host path count body returned
    obtain ⟨last, host, path, head, counted, received⟩ := received_of_httpsRawGet returned
    exact ⟨last, host, path, head, counted, received, complete_iff⟩
  · intro assetUrl outPath unstored body count stored
    unfold downloadAsset at stored
    split at stored
    · cases stored
    · rename_i host path _
      obtain ⟨⟨requests, reply⟩, returned, made⟩ := Option.map_eq_some_iff.mp stored
      simp only [bind_eq_ok_iff, pure_eq_ok, Except.ok.injEq, Prod.mk.injEq] at made
      obtain ⟨_, rfl, -, -, rfl, rfl⟩ := made
      exact ⟨rfl, host, path, requests, returned⟩

def cutShort : Segments :=
  ⟨[toUtf8 (lit "HTTP/1.1 200 OK\r\nContent-Length: 9\r\n\r\nabc")], by with_unfolding_all decide⟩

theorem httpsRawGet_cutShort :
    httpsRawGet (fun _ _ _ => plainExchange cutShort) .direct true 1 0 ['h'] ['/'] =
      some (1, .ok [97, 98, 99]) := by
  with_unfolding_all rfl

theorem httpsRawGet_complete_iff_cutShort :
    ∃ last host path head, last + 1 = 1 ∧
      Responded ((fun _ _ _ => plainExchange cutShort : Nat → Text → Text → Exchange)
        last host path) head [97, 98, 99] ∧
      (Complete (headFields head) [97, 98, 99] [97, 98, 99] ↔ ¬ IsChunked (headFields head) ∧
        ∀ length, headerGet (headFields head) (lit "content-length") = some length →
          parseUnsigned (2 ^ 64) length = some 3) :=
  (httpsRawGet_complete_iff _ .direct true 1).1 ['h'] ['/'] 1 _ httpsRawGet_cutShort

theorem httpsRawGet_returns_part :
    httpsRawGet (fun _ _ _ => plainExchange cutShort) .direct true 1 0 ['h'] ['/'] =
        some (1, .ok [97, 98, 99]) ∧
      ∃ head, Responded (plainExchange cutShort) head [97, 98, 99] ∧
        headerGet (headFields head) (lit "content-length") = some ['9'] ∧
        ¬ Complete (headFields head) [97, 98, 99] [97, 98, 99] := by
  have said : headerGet (headFields (toUtf8 (lit "HTTP/1.1 200 OK\r\nContent-Length: 9")))
      (lit "content-length") = some ['9'] := by
    with_unfolding_all rfl
  refine ⟨httpsRawGet_cutShort, _, ⟨by with_unfolding_all rfl, rfl⟩, said, fun complete => ?_⟩
  have nine := (complete_iff.mp complete).2 _ said
  exact absurd nine (by decide)

end Gvpn
