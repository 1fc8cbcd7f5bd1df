import Gvpn.Data.Lines
import Gvpn.Proxy.Cors

/-! Rewriting the head of a response neither moves its end nor touches its body. -/

namespace Gvpn

open List Option

theorem stripHeadEnd_append (head : Bytes) : stripHeadEnd (head ++ headEnd) = head := by
  have ends : headEnd.isSuffixOf (head ++ headEnd) = true := by
    rw [isSuffixOf_iff_suffix]
    exact suffix_append _ _
  rw [stripHeadEnd, if_pos ends, length_append, Nat.add_sub_cancel, take_left]

theorem writeResponse_transformHead (corsOrigin : Option Text) (response : Bytes) :
    (writeResponseWithHeadTransform (transformHead corsOrigin) response).writes.flatten =
      transformResponse corsOrigin response := by
  cases found : cut headEnd response with
  | none =>
    cases corsOrigin with
    | none => simp [writeResponseWithHeadTransform, transformResponse, found]
    | some origin =>
      simp [writeResponseWithHeadTransform, transformResponse, injectCorsResponseHeaders, found]
  | some parts =>
    obtain ⟨head, body⟩ := parts
    have whole := eq_append_of_cut found
    have written : (writeResponseWithHeadTransform (transformHead corsOrigin) response).writes.flatten
        = transformHead corsOrigin (head ++ headEnd) ++ body := by
      simp [writeResponseWithHeadTransform, found]
    rw [written]
    cases corsOrigin with
    | none => exact whole.symm
    | some origin =>
      simp only [transformHead, transformResponse, injectCorsResponseHeaders, found]
      cases injectCorsIntoHead (head ++ headEnd) origin with
      | none => exact whole.symm
      | some rewritten => rfl

theorem isCorsLine_of_mem {origin line : Text} (member : line ∈ corsLines origin) :
    isCorsLine line = true := by
  have opened : ∀ start rest : Text, isCorsLine start = true →
      isCorsLine (start ++ rest) = true := by
    intro start rest known
    unfold isCorsLine at known ⊢
    rw [List.isPrefixOf_iff_prefix] at known ⊢
    rw [lower, map_append]
    exact known.trans (prefix_append _ _)
  simp only [corsLines, mem_cons, not_mem_nil, or_false] at member
  rcases member with rfl | rfl | rfl | rfl | rfl
  · exact opened _ origin (by with_unfolding_all rfl)
  all_goals with_unfolding_all rfl

theorem unbroken_of_mem_corsLines {origin line : Text} (oneLine : '\n' ∉ origin)
    (member : line ∈ corsLines origin ++ [varyLine]) : Unbroken '\r' '\n' line := by
  have isMark : '\n' ∈ ['\r', '\n'] := by simp
  have free : '\n' ∉ lit "Access-Control-Allow-Origin: " ++ origin := by
    rw [mem_append, not_or]
    exact ⟨by with_unfolding_all decide, oneLine⟩
  simp only [corsLines, mem_append, mem_cons, not_mem_nil, or_false] at member
  rcases member with (rfl | rfl | rfl | rfl | rfl) | rfl
  · exact unbroken_of_not_mem isMark free
  all_goals
    refine unbroken_of_not_mem isMark ?_
    with_unfolding_all decide

theorem solid_of_cut {response body : Bytes} {head : Text}
    (found : cut headEnd response = some (toUtf8 head, body)) :
    ∀ line ∈ (splitCrlf head).tail, line ≠ [] := by
  rintro line member rfl
  obtain ⟨front, back, doubled⟩ := exists_doubled_of_mem_tail member
  have bytes := congrArg toUtf8 doubled
  have marks : toUtf8 ['\r', '\n'] = [13, 10] := by decide
  have four : toUtf8 ['\r', '\n', '\r', '\n'] = headEnd := by decide
  rw [toUtf8_append, toUtf8_append, toUtf8_append, marks, four] at bytes
  have whole : response = toUtf8 front ++ headEnd ++ (toUtf8 back ++ [13, 10] ++ body) := by
    have split := eq_append_of_cut found
    have ends : headEnd = [13, 10] ++ [13, 10] := rfl
    calc response = (toUtf8 head ++ [13, 10]) ++ ([13, 10] ++ body) := by
          rw [split]
          nth_rewrite 1 [ends]
          simp
      _ = _ := by
          rw [bytes]
          simp
  obtain ⟨before, after, earlier, short⟩ := exists_cut_of_eq_append whole
  rw [found, some.injEq, Prod.mk.injEq] at earlier
  have length := congrArg List.length bytes
  simp only [length_append, length_cons, length_nil, headEnd] at length
  rw [← earlier.1] at short
  omega

theorem filter_isCorsLine (lines : List Text) (origin : Text) :
    ((lines.filter fun line => !isCorsLine line) ++ corsLines origin ++ [varyLine]).filter
      isCorsLine = corsLines origin := by
  have kept : (lines.filter fun line => !isCorsLine line).filter isCorsLine = [] := by
    rw [filter_eq_nil_iff]
    intro line member
    simpa using (List.mem_filter.mp member).2
  have added : (corsLines origin).filter isCorsLine = corsLines origin :=
    List.filter_eq_self.mpr fun _ member => isCorsLine_of_mem member
  have vary : [varyLine].filter isCorsLine = [] := by with_unfolding_all rfl
  rw [filter_append, filter_append, kept, added, vary, nil_append, append_nil]

theorem unbroken_of_mem_rewrittenLines {head origin line : Text} (oneLine : '\n' ∉ origin)
    (member : line ∈ rewrittenLines head origin) : Unbroken '\r' '\n' line := by
  unfold rewrittenLines at member
  rw [append_assoc, mem_append] at member
  rcases member with kept | added
  · -- A line that is kept is one of the old head.
    apply @unbroken_of_mem_splitCrlf line head
    split at kept
    · simp at kept
    · rename_i status lines parts
      rw [parts, mem_cons]
      rcases List.mem_cons.mp kept with first | later
      · exact .inl first
      · exact .inr (List.mem_filter.mp later).1
  · exact unbroken_of_mem_corsLines oneLine added

theorem solid_of_mem_rewrittenLines {head origin : Text}
    (solid : ∀ line ∈ (splitCrlf head).tail, line ≠ []) :
    ∀ line ∈ (rewrittenLines head origin).tail, line ≠ [] := by
  obtain ⟨status, lines, parts⟩ := exists_cons_of_ne_nil (splitCrlf_ne_nil head)
  intro line member
  rw [parts, tail_cons] at solid
  simp only [rewrittenLines, parts, cons_append, tail_cons, append_assoc,
    mem_append] at member
  rcases member with kept | added
  · exact solid line (List.mem_filter.mp kept).1
  · rintro rfl
    simp [corsLines, varyLine, lit] at added

/--
Rewriting the head of a response neither moves its end nor touches its body or any line that is not
about other origins.
-/
theorem cors_injection_frame {response body : Bytes} {head origin : Text}
    (found : cut headEnd response = some (toUtf8 head, body))
    (oneLine : '\r' ∉ origin ∧ '\n' ∉ origin) :
    ∃ rewritten status lines,
      injectCorsIntoHead (toUtf8 head ++ headEnd) origin = some (toUtf8 rewritten ++ headEnd) ∧
      injectCorsResponseHeaders response origin = toUtf8 rewritten ++ headEnd ++ body ∧
      cut headEnd (injectCorsResponseHeaders response origin) = some (toUtf8 rewritten, body) ∧
      splitCrlf head = status :: lines ∧
      splitCrlf rewritten = status ::
        ((lines.filter fun line => !isCorsLine line) ++ corsLines origin ++ [varyLine]) ∧
      (splitCrlf rewritten).tail.filter isCorsLine = corsLines origin ∧
      (writeResponseWithHeadTransform (transformHead (some origin)) response).writes.flatten =
        injectCorsResponseHeaders response origin := by
  obtain ⟨status, lines, parts⟩ := exists_cons_of_ne_nil (splitCrlf_ne_nil head)
  let others := status :: (lines.filter fun line => !isCorsLine line) ++ corsLines origin
  have linesAre : rewrittenLines head origin = others ++ [varyLine] := by
    simp only [rewrittenLines, parts, others]
  have unbroken : ∀ line ∈ others ++ [varyLine], Unbroken '\r' '\n' line := by
    rw [← linesAre]
    exact fun line member => unbroken_of_mem_rewrittenLines oneLine.2 member
  have solid : ∀ line ∈ (others ++ [varyLine]).tail, line ≠ [] := by
    rw [← linesAre]
    exact solid_of_mem_rewrittenLines (solid_of_cut found)
  let rewritten := others.flatMap (· ++ ['\r', '\n']) ++ varyLine
  have injected : injectCorsIntoHead (toUtf8 head ++ headEnd) origin =
      some (toUtf8 rewritten ++ headEnd) := by
    have four : toUtf8 ['\r', '\n', '\r', '\n'] = headEnd := by decide
    rw [injectCorsIntoHead, stripHeadEnd_append, fromUtf8_toUtf8, map_some, linesAre,
      ← four, ← toUtf8_append]
    simp [rewritten]
  have replaced : injectCorsResponseHeaders response origin =
      toUtf8 rewritten ++ headEnd ++ body := by
    simp only [injectCorsResponseHeaders, found, injected]
  have splitAgain : splitCrlf rewritten = others ++ [varyLine] := by
    have last := splitCrlf_of_unbroken (unbroken varyLine (by simp))
    rw [splitCrlf_lines fun line member => unbroken line (by simp [member]), last]
  refine ⟨rewritten, status, lines, injected, replaced, ?_, parts, splitAgain, ?_, ?_⟩
  · rw [replaced]
    exact cut_toUtf8_lines unbroken solid body
  · rw [splitAgain]
    exact filter_isCorsLine lines origin
  · exact writeResponse_transformHead (some origin) response

def corsSample : Text := lit "HTTP/1.1 200 OK\r\naccess-control-allow-origin: *\r\nEtag: 1"

theorem cors_injection_frame_sample :
    cut headEnd (toUtf8 corsSample ++ headEnd ++ toUtf8 (lit "a\r\n\r\nb")) =
        some (toUtf8 corsSample, toUtf8 (lit "a\r\n\r\nb")) ∧
      ∃ rewritten,
        cut headEnd (injectCorsResponseHeaders
            (toUtf8 corsSample ++ headEnd ++ toUtf8 (lit "a\r\n\r\nb")) (lit "https://x.org")) =
          some (toUtf8 rewritten, toUtf8 (lit "a\r\n\r\nb")) ∧
        (splitCrlf rewritten).tail.filter isCorsLine = corsLines (lit "https://x.org") := by
  have found : cut headEnd (toUtf8 corsSample ++ headEnd ++ toUtf8 (lit "a\r\n\r\nb")) =
      some (toUtf8 corsSample, toUtf8 (lit "a\r\n\r\nb")) := by
    with_unfolding_all rfl
  obtain ⟨rewritten, status, lines, -, -, cutAgain, -, -, about, -⟩ :=
    cors_injection_frame found (show '\r' ∉ lit "https://x.org" ∧ '\n' ∉ lit "https://x.org" by
      with_unfolding_all decide)
  exact ⟨found, rewritten, cutAgain, about⟩

end Gvpn
