import Gvpn.Fronter.Response
import Gvpn.Proofs.Head

/-! Which bytes are taken for a response's body, when others follow. -/

namespace Gvpn

theorem readSized_eq {ending : Ending} {length rounds : Nat} :
    ∀ {body : Bytes} {stream : Segments}, stream.bytes.length < rounds → body.length ≤ length →
      length ≤ (body ++ stream.bytes).length →
      readSized ending length rounds body stream = .ok ((body ++ stream.bytes).take length) := by
  induction rounds with
  | zero =>
    intro body stream enough
    omega
  | succ rounds ih =>
    intro body stream enough short long
    unfold readSized
    split
    · have same : body.length = length := by omega
      rw [← same, List.take_left]
    · have positive : 0 < min (length - body.length) responseReadSize := by
        unfold responseReadSize
        omega
      cases taken : stream.read (min (length - body.length) responseReadSize) with
      | none =>
        rw [Segments.read_eq_none.mp taken] at long
        simp at long
        omega
      | some parts =>
        have shorter := Segments.read_shorter positive taken
        obtain ⟨-, fits, split⟩ := Segments.read_eq_some positive taken
        rw [split, ← List.append_assoc] at long ⊢
        refine ih (by omega) ?_ long
        rw [List.length_append]
        omega

structure SizedHead where
  front : Bytes
  status : Nat
  headers : List (Text × Text)
  length : Nat
  -- The first empty line ends the head.
  whole : cut headEnd (front ++ headEnd) = some (front, [])
  parsed : parseResponseHead front = .ok (status, headers)
  sized : (headerGet headers (lit "content-length")).bind (parseUnsigned (2 ^ 64)) = some length
  unchunked : headerGet headers (lit "transfer-encoding") = none
  unencoded : headerGet headers (lit "content-encoding") = none

def SizedHead.bytes (head : SizedHead) : Bytes := head.front ++ headEnd

def readLength (stream : Segments) (count : Nat) : Nat :=
  (stream.readTimes responseReadSize count).1.length

def EndsInBody (stream : Segments) (head body : Nat) : Prop :=
  (∃ count, head ≤ readLength stream count ∧ readLength stream count ≤ head + body) ∧
    ∀ count, readLength stream count < head → readLength stream count ≤ maxResponseHead

theorem awaits_checkResponseHead (head : SizedHead) :
    Segments.Awaits checkResponseHead maxResponseHead head.bytes (fun extra => .ok (head.front, extra))
      (.error (.badResponse (lit "headers too large"))) where
  complete extra := by
    rw [checkResponseHead, SizedHead.bytes, cut_append head.whole]
    rfl
  growing begins shorter := by
    rw [checkResponseHead, cut_shorter begins shorter head.whole]

theorem readHttpResponse_of_head {inflate : Bytes → Option Bytes} {ending : Ending}
    {stream rest : Segments} {head : SizedHead} {leftover : Bytes}
    (done : stream.readUntil responseReadSize (· ++ ·) checkResponseHead [] =
      .done (.ok (head.front, leftover)) rest) :
    readHttpResponse inflate ending stream =
      (readSized ending head.length (rest.bytes.length + 1) leftover rest).bind fun body =>
        .ok (head.status, head.headers, body) := by
  have plain : contains (lit "chunked") (lower []) = false := by decide +kernel
  simp only [readHttpResponse, done, head.parsed, readResponseBody, head.unchunked,
    Option.getD_none, plain, head.sized, decodeBody, head.unencoded]
  rfl

/--
A body is read exactly if and only if some read ends within it and the head is within its limit
whenever a read ends: what comes with the head is taken for the body.
-/
theorem readHttpResponse_exact_iff (inflate : Bytes → Option Bytes) (ending : Ending)
    (head : SizedHead) {content more : Bytes} {stream : Segments}
    (length : content.length = head.length)
    (bytes : stream.bytes = head.bytes ++ (content ++ more)) :
    readHttpResponse inflate ending stream = .ok (head.status, head.headers, content) ↔
      EndsInBody stream head.bytes.length content.length := by
  rcases (awaits_checkResponseHead head).readUntil (show 0 < responseReadSize by decide) bytes with
    ⟨count, done, long, within⟩ | ⟨count, extra, done, takenIs, payloadIs, first⟩
  · -- The reads stopped within the head, which is for its length alone.
    refine iff_of_false (by simp [readHttpResponse, done]) ?_
    intro ends
    exact absurd (ends.2 count within) (Nat.not_le.mpr long)
  · rw [readHttpResponse_of_head done]
    by_cases beyond : head.length < extra.length
    · -- All that came in is the body, which is too long.
      refine iff_of_false ?_ ?_
      · rw [readSized, if_pos beyond.le]
        intro same
        simp only [Checked.bind_ok, Checked.ok.injEq, Prod.mk.injEq, true_and] at same
        rw [← same] at length
        omega
      · rintro ⟨⟨other, behind, within⟩, -⟩
        have lengths := first other
        unfold readLength at behind within
        omega
    · refine iff_of_true ?_ ?_
      · have whole := congrArg List.length payloadIs
        rw [List.length_append, List.length_append] at whole
        rw [readSized_eq (Nat.lt_succ_self _) (by omega) (by rw [List.length_append]; omega),
          ← payloadIs, ← length, List.take_left]
        rfl
      · refine ⟨⟨count, ?_⟩, ?_⟩
        · rw [readLength, takenIs, List.length_append]
          omega
        · intro other within
          have lengths := first other
          unfold readLength at within ⊢
          omega

def oneByteHead : SizedHead where
  front := toUtf8 (lit "HTTP/1.1 200 OK\r\nContent-Length: 1")
  status := 200
  headers := [(lit "Content-Length", lit "1")]
  length := 1
  whole := by decide +kernel
  parsed := by decide +kernel
  sized := by decide +kernel
  unchunked := by decide +kernel
  unencoded := by decide +kernel

def arrivingApart : Segments := ⟨[oneByteHead.bytes ++ [97], [98]], by decide +kernel⟩

theorem readHttpResponse_exact_apart :
    readHttpResponse (fun _ => none) .closed arrivingApart =
      .ok (200, [(lit "Content-Length", lit "1")], [97]) := by
  refine (@readHttpResponse_exact_iff (fun _ => none) .closed oneByteHead [97] [98] arrivingApart
    rfl (by decide +kernel)).mpr ⟨⟨1, by decide +kernel⟩, ?_⟩
  intro count within
  have small : oneByteHead.bytes.length ≤ maxResponseHead := by decide +kernel
  exact within.le.trans small

theorem next_byte_joins_body :
    readHttpResponse (fun _ => none) .closed
        ⟨[oneByteHead.bytes ++ [97, 98]], by decide +kernel⟩ =
      .ok (200, [(lit "Content-Length", lit "1")], [97, 98]) := by
  decide +kernel

end Gvpn
