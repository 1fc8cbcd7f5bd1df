import Gvpn.Data.Scanner
import Gvpn.Proofs.UdpgwFrame

/-! What a udpgw session handles and holds, however its stream is split. -/

namespace Gvpn

open List Option

namespace Udpgw

def nextFrame (buf : Bytes) : Option (Option Frame × Nat) :=
  match tryParseFrame buf with
  | .ok none => none
  | .ok (some (frame, consumed)) => some (some frame, consumed)
  | .error _ => some (none, 2 + bodyLength buf)

theorem bodyLength_append (n : UInt16) (behind : Bytes) :
    bodyLength (u16ToBe n ++ behind) = n.toNat :=
  congrArg UInt16.toNat (u16FromBe_u16ToBe n)

variable {buf : Bytes}

theorem nextFrame_eq_some_iff {unit : Option Frame} {size : Nat} :
    nextFrame buf = some (unit, size) ↔
      ∃ n body rest, buf = u16ToBe n ++ (body ++ rest) ∧ body.length = n.toNat ∧
        unit = (parseBody body).toOption ∧ size = 2 + n.toNat := by
  have there : ∀ (n : UInt16) (body rest : Bytes), body.length = n.toNat →
      nextFrame (u16ToBe n ++ (body ++ rest)) =
        some ((parseBody body).toOption, 2 + n.toNat) := by
    intro n body rest sized
    rw [nextFrame, tryParseFrame_append rest sized, bodyLength_append]
    cases parseBody body <;> rfl
  constructor
  · intro found
    rcases buffer_cases buf with tiny | ⟨n, part, rfl, short⟩ | ⟨n, body, rest, rfl, sized⟩
    · simp [nextFrame, tryParseFrame_tiny tiny] at found
    · simp [nextFrame, tryParseFrame_short short] at found
    · rw [there n body rest sized] at found
      obtain ⟨rfl, rfl⟩ := Prod.mk.inj (some.inj found)
      exact ⟨n, body, rest, rfl, sized, rfl, rfl⟩
  · rintro ⟨n, body, rest, rfl, sized, rfl, rfl⟩
    exact there n body rest sized

def frameScanner : Scanner UInt8 Frame where
  next := nextFrame
  positive found := by
    obtain ⟨n, body, rest, -, -, -, rfl⟩ := nextFrame_eq_some_iff.mp found
    omega
  within found := by
    obtain ⟨n, body, rest, rfl, sized, -, rfl⟩ := nextFrame_eq_some_iff.mp found
    simp only [length_append, length_u16ToBe]
    omega
  stable more found := by
    obtain ⟨n, body, rest, rfl, sized, rfl, rfl⟩ := nextFrame_eq_some_iff.mp found
    exact nextFrame_eq_some_iff.mpr ⟨n, body, rest ++ more, by simp, sized, rfl, rfl⟩
  exact found := by
    obtain ⟨n, body, rest, rfl, sized, rfl, rfl⟩ := nextFrame_eq_some_iff.mp found
    refine nextFrame_eq_some_iff.mpr ⟨n, body, [], ?_, sized, rfl, rfl⟩
    rw [← append_assoc, take_left' (by simp [sized]), append_nil]

theorem length_lt_of_unfinished (unfinished : frameScanner.next buf = none) :
    buf.length < readLimit + 1 := by
  have limit : readLimit = 65536 := rfl
  rcases buffer_cases buf with tiny | ⟨n, part, rfl, short⟩ | ⟨n, body, rest, rfl, sized⟩
  · omega
  · have := n.toNat_lt
    rw [length_append, length_u16ToBe]
    omega
  · have found := nextFrame_eq_some_iff.mpr ⟨n, body, rest, rfl, sized, rfl, rfl⟩
    change nextFrame _ = none at unfinished
    simp [found] at unfinished

theorem parseLoop_eq_serve {fuel : Nat} (enough : buf.length ≤ fuel) :
    parseLoop fuel buf = ((frameScanner.serve buf).handled, (frameScanner.serve buf).rest) := by
  induction fuel generalizing buf with
  | zero =>
    obtain rfl := List.length_eq_zero_iff.mp (Nat.le_zero.mp enough)
    rw [Scanner.serve_of_none frameScanner.next_nil]
    rfl
  | succ fuel ih =>
    match found : frameScanner.next buf with
    | none =>
      have short := length_lt_of_unfinished found
      have kept : ¬ bufMax ≤ buf.length := by
        have : bufMax = 4 * readLimit := rfl
        have : readLimit = 65536 := rfl
        omega
      rw [Scanner.serve_of_none found, parseLoop]
      change nextFrame buf = none at found
      unfold nextFrame at found
      split at found
      · rename_i parsed
        simp [parsed, kept]
      · contradiction
      · contradiction
    | some (none, size) =>
      have within := frameScanner.within found
      rw [Scanner.serve_of_malformed found, parseLoop]
      change nextFrame buf = some (none, size) at found
      unfold nextFrame at found
      split at found
      · contradiction
      · simp at found
      · rename_i message parsed
        obtain ⟨-, rfl⟩ := Prod.mk.inj (some.inj found)
        have two : 2 ≤ buf.length := by omega
        simp [parsed, two, Nat.min_eq_left within]
    | some (some frame, size) =>
      have shorter := frameScanner.length_drop_lt found
      rw [Scanner.serve_of_frame found, parseLoop]
      change nextFrame buf = some (some frame, size) at found
      unfold nextFrame at found
      split at found
      · contradiction
      · rename_i parsed
        obtain ⟨rfl, rfl⟩ := found
        simp [parsed, ih (Nat.le_of_lt_succ (shorter.trans_le enough))]
      · simp at found

theorem readLoop_eq_feed (buf : Bytes) (reads : List Bytes) :
    readLoop buf reads = frameScanner.feed buf reads := by
  induction reads generalizing buf with
  | nil => rfl
  | cons read reads ih =>
    rw [readLoop, onRead, parseLoop_eq_serve le_rfl, Scanner.feed, ih]

def wellFormedFrames (stream : Bytes) : List Frame := frameScanner.units stream

def malformedFrames (buf : Bytes) : Nat := frameScanner.malformed buf

def RoomBehindMalformed (stream : Bytes) : Prop := frameScanner.Spaced readLimit stream

/--
How a stream is split does not matter exactly where there is room behind its malformed frames.
-/
theorem splitting_does_not_matter_iff (stream : Bytes) :
    ((∀ left right, Scanner.Splits readLimit stream left → Scanner.Splits readLimit stream right →
        (readLoop [] left).1 = (readLoop [] right).1) ↔ RoomBehindMalformed stream) ∧
    ((∀ reads, Scanner.Splits readLimit stream reads →
        (readLoop [] reads).1 = wellFormedFrames stream) ↔ RoomBehindMalformed stream) := by
  have positive : 0 < readLimit := by decide
  have every := frameScanner.feed_eq_units_forall_iff positive stream
  simp only [readLoop_eq_feed]
  refine ⟨⟨fun same => every.mp fun reads splits => ?_, fun room left right first second => ?_⟩,
    every⟩
  · -- One byte at a time handles everything, and so does every other splitting.
    rw [same reads _ splits (Scanner.splits_singles positive stream), Scanner.feed_singles]
  · rw [every.mpr room left first, every.mpr room right second]

def keepaliveBehindMalformed : Bytes := [0, 0, 0, 3, 1, 0, 7]

theorem keepalive_behind_malformed_is_lost :
    (readLoop [] [keepaliveBehindMalformed]).1 = [] ∧
    (readLoop [] (keepaliveBehindMalformed.map fun byte => [byte])).1 =
      [{ flags := 1, connId := 7, addr := none, payload := [] }] := by
  decide +kernel

theorem readLoop_bounded {reads : List Bytes} (short : ∀ read ∈ reads, read.length ≤ readLimit)
    (single : ∀ front read back, reads = front ++ read :: back →
      malformedFrames ((readLoop [] front).2 ++ read) ≤ 1) :
    malformedFrames (readLoop [] reads).2 = 0 ∧ (readLoop [] reads).2.length ≤ readLimit := by
  induction reads using List.reverseRecOn with
  | nil => exact ⟨Scanner.malformed_of_none frameScanner.next_nil, Nat.zero_le _⟩
  | append_singleton reads read ih =>
    have before := ih (fun read member => short read (by simp [member]))
      fun front other back split => single front other (back ++ [read]) (by rw [split]; simp)
    have now := single reads read [] rfl
    have limit := short read (by simp)
    rw [readLoop_eq_feed, Scanner.feed_append, ← readLoop_eq_feed]
    simp only [Scanner.feed]
    cases stopped : (frameScanner.serve ((readLoop [] reads).2 ++ read)).stopped with
    | false =>
      have settled := frameScanner.next_rest _ stopped
      refine ⟨Scanner.malformed_of_none settled, ?_⟩
      have := length_lt_of_unfinished settled
      omega
    | true =>
      have less := frameScanner.length_rest_lt _ _ stopped before.1
      have one := frameScanner.malformed_of_stopped _ stopped
      unfold malformedFrames at now ⊢
      exact ⟨by omega, by omega⟩

theorem buffer_stays_small {reads : List Bytes} (short : ∀ read ∈ reads, read.length ≤ readLimit)
    (single : ∀ front read back, reads = front ++ read :: back →
      malformedFrames ((readLoop [] front).2 ++ read) ≤ 1) :
    ∀ front read back, reads = front ++ read :: back →
      ((readLoop [] front).2 ++ read).length ≤ bufMax + readLimit := by
  intro front read back split
  have limit : bufMax = 4 * readLimit := rfl
  have before : malformedFrames (readLoop [] front).2 = 0 ∧
      (readLoop [] front).2.length ≤ readLimit := by
    refine readLoop_bounded (fun read member => short read (by simp [split, member])) ?_
    intro first other more earlier
    exact single first other (more ++ read :: back) (by rw [split, earlier]; simp)
  have now := short read (by simp [split])
  rw [length_append]
  omega

theorem buffer_stays_small_once :
    ((readLoop [] [keepaliveBehindMalformed]).2 ++ [0]).length ≤ bufMax + readLimit := by
  have left : (readLoop [] [keepaliveBehindMalformed]).2 = [0, 3, 1, 0, 7] := by decide +kernel
  have first : malformedFrames keepaliveBehindMalformed = 1 := by
    rw [malformedFrames, Scanner.malformed,
      Scanner.cuts_of_some (show frameScanner.next _ = some (none, 2) from rfl),
      Scanner.cuts_of_some (show frameScanner.next _ = some (some ⟨1, 7, none, []⟩, 5) from rfl),
      Scanner.cuts_of_none rfl]
    rfl
  have second : malformedFrames [0, 3, 1, 0, 7, 0] = 0 := by
    rw [malformedFrames, Scanner.malformed,
      Scanner.cuts_of_some (show frameScanner.next _ = some (some ⟨1, 7, none, []⟩, 5) from rfl),
      Scanner.cuts_of_none rfl]
    rfl
  have once : ∀ front read back, [keepaliveBehindMalformed, [0]] = front ++ read :: back →
      malformedFrames ((readLoop [] front).2 ++ read) ≤ 1 := by
    intro front read back split
    rcases front with _ | ⟨other, _ | ⟨another, more⟩⟩
    · obtain ⟨rfl, -⟩ := cons.inj split
      exact first.le
    · obtain ⟨rfl, behind⟩ := cons.inj split
      obtain ⟨rfl, -⟩ := cons.inj behind
      exact second.trans_le (Nat.zero_le 1)
    · simp at split
  exact buffer_stays_small (by decide) once [keepaliveBehindMalformed] [0] [] rfl

theorem onRead_zeros (held count : Nat) :
    onRead (List.replicate held 0) (List.replicate (count + 2) 0) =
      ([], List.replicate (held + count) 0) := by
  rw [onRead, replicate_append_replicate, length_replicate,
    show held + (count + 2) = held + count + 1 + 1 by omega]
  simp [replicate_succ, parseLoop, tryParseFrame, parseBody, u16FromBe, bodyLength]

theorem readLoop_zeros (reads count held : Nat) :
    (readLoop (List.replicate held 0) (List.replicate reads (List.replicate (count + 2) 0))).2 =
      List.replicate (held + reads * count) 0 := by
  induction reads generalizing held with
  | zero => simp [readLoop]
  | succ reads ih =>
    rw [replicate_succ, readLoop, onRead_zeros]
    rw [ih, Nat.succ_mul]
    congr 1
    omega

theorem zeros_exceed_the_bound :
    (List.replicate readLimit (0 : UInt8)).length ≤ readLimit ∧
    bufMax + readLimit <
      ((readLoop [] (List.replicate 5 (List.replicate readLimit 0))).2 ++
        List.replicate readLimit 0).length := by
  have left := readLoop_zeros 5 65534 0
  rw [length_append, show readLimit = 65534 + 2 from rfl]
  rw [show List.replicate 0 (0 : UInt8) = [] from rfl] at left
  rw [left, length_replicate, length_replicate]
  decide

end Udpgw

end Gvpn
