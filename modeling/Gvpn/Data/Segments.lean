import Gvpn.Data.Basic
import Mathlib.Data.List.Infix

/-! A byte stream that arrives in pieces, and loops that read it until they have enough. -/

namespace Gvpn

open List Option

def atLeast (want : Nat) (buffer : Bytes) : Option Bytes :=
  if want ≤ buffer.length then some buffer else none

structure Segments where
  chunks : List Bytes
  solid : ∀ chunk ∈ chunks, chunk ≠ []
  deriving DecidableEq

namespace Segments

def bytes (stream : Segments) : Bytes := stream.chunks.flatten

def empty : Segments := ⟨[], by simp⟩

def read (cap : Nat) : Segments → Option (Bytes × Segments)
  | ⟨[], _⟩ => none
  | ⟨chunk :: rest, solid⟩ =>
    if fits : chunk.length ≤ cap then
      some (chunk, ⟨rest, fun piece member => solid piece (by simp [member])⟩)
    else
      some (chunk.take cap, ⟨chunk.drop cap :: rest, by
        intro piece member
        rcases List.mem_cons.mp member with rfl | inside
        · simp only [ne_eq, drop_eq_nil_iff]
          exact fits
        · exact solid piece (by simp [inside])⟩)

def readTimes (cap : Nat) : Nat → Segments → Bytes × Segments
  | 0, stream => ([], stream)
  | count + 1, stream =>
    match stream.read cap with
    | none => ([], stream)
    | some (got, rest) => (got ++ (readTimes cap count rest).1, (readTimes cap count rest).2)

inductive Pumped (β : Type) where
  -- The loop has what it wants.
  | done (result : β) (rest : Segments)
  -- The stream ended first.
  | ended (buffer : Bytes)

def pump {β : Type} (cap : Nat) (absorb : Bytes → Bytes → Bytes) (check : Bytes → Option β) :
    Nat → Bytes → Segments → Pumped β
  | 0, buffer, _ => .ended buffer
  | rounds + 1, buffer, stream =>
    match check buffer with
    | some result => .done result stream
    | none =>
      match stream.read cap with
      | none => .ended buffer
      | some (got, rest) => pump cap absorb check rounds (absorb buffer got) rest

def readUntil {β : Type} (cap : Nat) (absorb : Bytes → Bytes → Bytes)
    (check : Bytes → Option β) (buffer : Bytes) (stream : Segments) : Pumped β :=
  pump cap absorb check (stream.bytes.length + 1) buffer stream

theorem exists_bytes_eq (bytes : Bytes) : ∃ stream : Segments, stream.bytes = bytes := by
  by_cases nothing : bytes = []
  · exact ⟨empty, by simp [empty, Segments.bytes, nothing]⟩
  · exact ⟨⟨[bytes], by simpa using nothing⟩, by simp [Segments.bytes]⟩

variable {stream : Segments}

theorem bytes_eq_nil_iff : stream.bytes = [] ↔ stream.chunks = [] := by
  obtain ⟨chunks, solid⟩ := stream
  cases chunks with
  | nil => simp [bytes]
  | cons chunk rest =>
    have some_ := solid chunk (by simp)
    simp [bytes, some_]

theorem read_eq_none {cap : Nat} :
    stream.read cap = none ↔ stream.bytes = [] := by
  rw [bytes_eq_nil_iff]
  obtain ⟨chunks, solid⟩ := stream
  cases chunks with
  | nil => simp [read]
  | cons chunk rest =>
    rw [read]
    split <;> simp

theorem read_eq_some {cap : Nat} {rest : Segments} {got : Bytes} (positive : 0 < cap)
    (taken : stream.read cap = some (got, rest)) :
    got ≠ [] ∧ got.length ≤ cap ∧ stream.bytes = got ++ rest.bytes := by
  obtain ⟨chunks, solid⟩ := stream
  cases chunks with
  | nil => simp [read] at taken
  | cons chunk others =>
    have some_ := solid chunk (by simp)
    rw [read] at taken
    split at taken
    · rename_i fits
      cases taken
      exact ⟨some_, fits, by simp [bytes]⟩
    · cases taken
      have nonempty : chunk.take cap ≠ [] := by
        simp only [ne_eq, take_eq_nil_iff, not_or]
        exact ⟨by omega, some_⟩
      refine ⟨nonempty, by simp, ?_⟩
      simp only [bytes, flatten_cons]
      rw [← append_assoc, take_append_drop]

def Splits (stream : Segments) (current : Bytes) (rest : Segments) : Prop :=
  ∃ pieces, stream.chunks = pieces ++ rest.chunks ∧ pieces.flatten = current

section

variable {β : Type} {cap : Nat} {absorb : Bytes → Bytes → Bytes} {check : Bytes → Option β}

theorem readTimes_bytes (positive : 0 < cap) (count : Nat) (stream : Segments) :
    stream.bytes = (readTimes cap count stream).1 ++ (readTimes cap count stream).2.bytes := by
  induction count generalizing stream with
  | zero => simp [readTimes]
  | succ count ih =>
    cases taken : stream.read cap with
    | none => simp [readTimes, taken]
    | some parts =>
      obtain ⟨got, rest⟩ := parts
      obtain ⟨-, -, split⟩ := read_eq_some positive taken
      simp only [readTimes, taken, append_assoc]
      rw [← ih rest]
      exact split

theorem readTimes_isPrefix {count more : Nat} (fewer : count ≤ more) (stream : Segments) :
    (readTimes cap count stream).1 <+: (readTimes cap more stream).1 := by
  induction count generalizing stream more with
  | zero => exact nil_prefix
  | succ count ih =>
    cases more with
    | zero => omega
    | succ more =>
      cases taken : stream.read cap with
      | none => simp [readTimes, taken]
      | some parts =>
        obtain ⟨got, rest⟩ := parts
        simp only [readTimes, taken]
        exact (prefix_append_right_inj got).mpr (ih (by omega) rest)

variable {first : Bytes} {others : List Bytes}

theorem readTimes_cons
    (solid : ∀ chunk ∈ first :: others, chunk ≠ []) (solidOthers : ∀ chunk ∈ others, chunk ≠ [])
    (count : Nat) :
    (readTimes cap count ⟨first :: others, solid⟩).1 <+: first ∨
      ∃ further, (readTimes cap count ⟨first :: others, solid⟩).1 =
        first ++ (readTimes cap further ⟨others, solidOthers⟩).1 := by
  induction count generalizing first with
  | zero => exact .inl (by simp [readTimes])
  | succ count ih =>
    by_cases fits : first.length ≤ cap
    · refine .inr ⟨count, ?_⟩
      simp [readTimes, read, fits]
    · have left : ∀ chunk ∈ first.drop cap :: others, chunk ≠ [] := by
        intro chunk member
        rcases List.mem_cons.mp member with rfl | inside
        · simpa using fits
        · exact solidOthers chunk inside
      have step : (readTimes cap (count + 1) ⟨first :: others, solid⟩).1 =
          first.take cap ++ (readTimes cap count ⟨first.drop cap :: others, left⟩).1 := by
        simp [readTimes, read, fits]
      rw [step]
      rcases ih left with inside | ⟨further, beyond⟩
      · refine .inl ?_
        have whole := (prefix_append_right_inj (first.take cap)).mpr inside
        rwa [take_append_drop] at whole
      · refine .inr ⟨further, ?_⟩
        rw [beyond, ← append_assoc, take_append_drop]

theorem isPrefix_readTimes_succ
    (solid : ∀ chunk ∈ first :: others, chunk ≠ []) (fits : first.length ≤ cap) (count : Nat) :
    first <+: (readTimes cap (count + 1) ⟨first :: others, solid⟩).1 := by
  simp [readTimes, read, fits]

theorem exists_readTimes_first (positive : 0 < cap)
    (solid : ∀ chunk ∈ first :: others, chunk ≠ []) :
    ∃ count, (readTimes cap count ⟨first :: others, solid⟩).1 = first := by
  induction length : first.length using Nat.strong_induction_on generalizing first with
  | _ size ih =>
    by_cases fits : first.length ≤ cap
    · exact ⟨1, by simp [readTimes, read, fits]⟩
    · have left : ∀ chunk ∈ first.drop cap :: others, chunk ≠ [] := by
        intro chunk member
        rcases List.mem_cons.mp member with rfl | inside
        · simpa using fits
        · exact solid chunk (by simp [inside])
      obtain ⟨count, takenIs⟩ := ih (first.drop cap).length (by simp; omega) left rfl
      refine ⟨count + 1, ?_⟩
      simp only [readTimes, read, fits, dite_false, takenIs, take_append_drop]

variable {stream : Segments}

theorem exists_readTimes (positive : 0 < cap) {length : Nat}
    (inside : length < stream.bytes.length) :
    ∃ count, length < (readTimes cap count stream).1.length ∧
      (readTimes cap count stream).1.length ≤ length + cap := by
  induction length using Nat.strong_induction_on generalizing stream with
  | _ length ih =>
    cases taken : stream.read cap with
    | none =>
      rw [read_eq_none.mp taken] at inside
      simp at inside
    | some parts =>
      obtain ⟨got, rest⟩ := parts
      obtain ⟨nonempty, small, split⟩ := read_eq_some positive taken
      have some_ := length_pos_of_ne_nil nonempty
      by_cases passed : length < got.length
      · refine ⟨1, ?_⟩
        simp only [readTimes, taken, append_nil]
        omega
      · rw [split, length_append] at inside
        obtain ⟨count, beyond, close⟩ := @ih (length - got.length) (by omega) rest (by omega)
        refine ⟨count + 1, ?_⟩
        simp only [readTimes, taken, length_append]
        omega

variable {rest : Segments} {buffer : Bytes}

theorem read_shorter (positive : 0 < cap) {got : Bytes}
    (taken : stream.read cap = some (got, rest)) : rest.bytes.length < stream.bytes.length := by
  obtain ⟨nonempty, -, split⟩ := read_eq_some positive taken
  have some_ := length_pos_of_ne_nil nonempty
  rw [split, length_append]
  omega

theorem pump_enough (positive : 0 < cap) {rounds more : Nat} (enough : stream.bytes.length < rounds)
    (alsoEnough : stream.bytes.length < more) :
    pump cap absorb check rounds buffer stream = pump cap absorb check more buffer stream := by
  induction rounds generalizing buffer stream more with
  | zero => omega
  | succ rounds ih =>
    cases more with
    | zero => omega
    | succ more =>
      rw [pump, pump]
      cases check buffer with
      | some result => rfl
      | none =>
        cases taken : stream.read cap with
        | none => rfl
        | some parts =>
          have shorter := read_shorter positive taken
          exact ih (by omega) (by omega)

theorem readUntil_eq (positive : 0 < cap) (buffer : Bytes) (stream : Segments) :
    readUntil cap absorb check buffer stream =
      match check buffer with
      | some result => .done result stream
      | none =>
        match stream.read cap with
        | none => .ended buffer
        | some (got, rest) => readUntil cap absorb check (absorb buffer got) rest := by
  rw [readUntil, pump]
  cases check buffer with
  | some result => rfl
  | none =>
    cases taken : stream.read cap with
    | none => rfl
    | some parts =>
      have shorter := read_shorter positive taken
      exact pump_enough positive shorter (Nat.lt_succ_self _)

theorem readUntil_done (positive : 0 < cap) {result : β}
    (done : readUntil cap (· ++ ·) check buffer stream = .done result rest) :
    ∃ count, (readTimes cap count stream).2 = rest ∧
      check (buffer ++ (readTimes cap count stream).1) = some result ∧
      ∀ fewer < count, check (buffer ++ (readTimes cap fewer stream).1) = none := by
  induction length : stream.bytes.length using Nat.strong_induction_on generalizing buffer stream with
  | _ size ih =>
    rw [readUntil_eq positive] at done
    cases checked : check buffer with
    | some found =>
      simp only [checked, Pumped.done.injEq] at done
      obtain ⟨rfl, rfl⟩ := done
      exact ⟨0, rfl, by simp [readTimes, checked], fun fewer small => by omega⟩
    | none =>
      cases taken : stream.read cap with
      | none => simp [checked, taken] at done
      | some parts =>
        obtain ⟨got, after⟩ := parts
        simp only [checked, taken] at done
        have shorter := read_shorter positive taken
        obtain ⟨count, behind, found, earlier⟩ :=
          ih after.bytes.length (by omega) done rfl
        refine ⟨count + 1, ?_, ?_, ?_⟩
        · simp [readTimes, taken, behind]
        · simp only [readTimes, taken]
          rw [← append_assoc]
          exact found
        · intro fewer small
          cases fewer with
          | zero => simp [readTimes, checked]
          | succ fewer =>
            simp only [readTimes, taken]
            rw [← append_assoc]
            exact earlier fewer (by omega)

theorem readUntil_ended (positive : 0 < cap) {collected : Bytes}
    (ended : readUntil cap (· ++ ·) check buffer stream = .ended collected) :
    collected = buffer ++ stream.bytes ∧ check collected = none := by
  induction length : stream.bytes.length using Nat.strong_induction_on generalizing buffer stream with
  | _ size ih =>
    rw [readUntil_eq positive] at ended
    cases checked : check buffer with
    | some found => simp [checked] at ended
    | none =>
      cases taken : stream.read cap with
      | none =>
        simp only [checked, taken, Pumped.ended.injEq] at ended
        rw [← ended, read_eq_none.mp taken]
        simp [checked]
      | some parts =>
        obtain ⟨got, after⟩ := parts
        simp only [checked, taken] at ended
        have shorter := read_shorter positive taken
        obtain ⟨-, -, split⟩ := read_eq_some positive taken
        have whole := ih after.bytes.length (by omega) ended rfl
        rw [split, ← append_assoc]
        exact whole

theorem readUntil_of_known (positive : 0 < cap) (known : check stream.bytes ≠ none) :
    ∃ count result,
      readUntil cap (· ++ ·) check [] stream = .done result (readTimes cap count stream).2 ∧
        check (readTimes cap count stream).1 = some result ∧
        ∀ fewer < count, check (readTimes cap fewer stream).1 = none := by
  cases pumped : readUntil cap (· ++ ·) check [] stream with
  | done result rest =>
    obtain ⟨count, behind, found, earlier⟩ := readUntil_done positive pumped
    exact ⟨count, result, by rw [behind], by simpa using found, by simpa using earlier⟩
  | ended collected =>
    obtain ⟨collectedIs, unknown⟩ := readUntil_ended positive pumped
    rw [collectedIs, nil_append] at unknown
    exact absurd unknown known

theorem taken_cases {head payload taken rest : Bytes}
    (split : head ++ payload = taken ++ rest) :
    (taken <+: head ∧ taken.length < head.length) ∨
      ∃ extra, taken = head ++ extra ∧ payload = extra ++ rest := by
  rcases List.append_eq_append_iff.mp split with ⟨extra, takenIs, payloadIs⟩ |
    ⟨missing, headIs, restIs⟩
  · exact .inr ⟨extra, takenIs, payloadIs⟩
  · by_cases nothing : missing = []
    · rw [nothing, append_nil] at headIs
      rw [nothing, nil_append] at restIs
      exact .inr ⟨[], by simp [headIs], by simp [restIs]⟩
    · refine .inl ⟨⟨missing, headIs.symm⟩, ?_⟩
      have some_ := length_pos_of_ne_nil nothing
      rw [headIs, length_append]
      omega

structure Awaits (check : Bytes → Option β) (limit : Nat) (head : Bytes) (found : Bytes → β)
    (refused : β) : Prop where
  complete : ∀ extra, check (head ++ extra) = some (found extra)
  growing : ∀ {taken}, taken <+: head → taken.length < head.length →
    check taken = if limit < taken.length then some refused else none

theorem Awaits.readUntil {limit : Nat} {head payload : Bytes} {found : Bytes → β} {refused : β}
    (awaits : Awaits check limit head found refused) (positive : 0 < cap)
    (bytes : stream.bytes = head ++ payload) :
    (∃ count, stream.readUntil cap (· ++ ·) check [] = .done refused (readTimes cap count stream).2 ∧
      limit < (readTimes cap count stream).1.length ∧
      (readTimes cap count stream).1.length < head.length) ∨
    ∃ count extra,
      stream.readUntil cap (· ++ ·) check [] = .done (found extra) (readTimes cap count stream).2 ∧
      (readTimes cap count stream).1 = head ++ extra ∧
      payload = extra ++ (readTimes cap count stream).2.bytes ∧
      ∀ other, ((readTimes cap other stream).1.length < head.length ∧
          (readTimes cap other stream).1.length ≤ limit) ∨
        head.length + extra.length ≤ (readTimes cap other stream).1.length := by
  obtain ⟨count, result, done, checked, earlier⟩ := readUntil_of_known positive
    (show check stream.bytes ≠ none by simp [bytes, awaits.complete])
  have splits := fun count => bytes ▸ readTimes_bytes positive count stream
  rcases taken_cases (splits count) with ⟨begins, shorter⟩ | ⟨extra, takenIs, payloadIs⟩
  · rw [awaits.growing begins shorter] at checked
    obtain ⟨long, same⟩ := Option.ite_none_right_eq_some.mp checked
    exact .inl ⟨count, by rw [done, some.inj same], long, shorter⟩
  · rw [takenIs, awaits.complete] at checked
    refine .inr ⟨count, extra, by rw [done, some.inj checked], takenIs, payloadIs, ?_⟩
    intro other
    by_cases before : other < count
    · -- An earlier read was not enough for the check.
      have unknown := earlier other before
      rcases taken_cases (splits other) with ⟨begins, shorter⟩ | ⟨otherExtra, otherIs, -⟩
      · rw [awaits.growing begins shorter] at unknown
        exact .inl ⟨shorter, by simpa using unknown⟩
      · simp [otherIs, awaits.complete] at unknown
    · have further := (@readTimes_isPrefix cap _ _ (Nat.not_lt.mp before) stream).length_le
      rw [takenIs, length_append] at further
      exact .inr further

theorem Splits.bytes_eq {current : Bytes} (splits : stream.Splits current rest) :
    stream.bytes = current ++ rest.bytes := by
  obtain ⟨pieces, chunks, rfl⟩ := splits
  simp [bytes, chunks]

theorem Splits.eq_rest (splits : stream.Splits [] rest) : stream = rest := by
  obtain ⟨pieces, chunks, nothing⟩ := splits
  cases pieces with
  | nil =>
    cases stream
    simp_all
  | cons piece others =>
    have some_ := stream.solid piece (by simp [chunks])
    simp [some_] at nothing

theorem Splits.read (positive : 0 < cap) {current : Bytes} (splits : stream.Splits current rest)
    (some_ : current ≠ []) :
    ∃ got left after, stream.read cap = some (got, after) ∧ got ≠ [] ∧
      current = got ++ left ∧ after.Splits left rest := by
  obtain ⟨pieces, chunks, rfl⟩ := splits
  obtain ⟨list, solid⟩ := stream
  subst chunks
  cases pieces with
  | nil => simp at some_
  | cons piece others =>
    have nonempty := solid piece (by simp)
    by_cases fits : piece.length ≤ cap
    · exact ⟨piece, others.flatten, _, by simp [Segments.read, fits]; rfl, nonempty, by simp,
        others, rfl, rfl⟩
    · refine ⟨piece.take cap, piece.drop cap ++ others.flatten, _,
        by simp [Segments.read, fits]; rfl, ?_, ?_, piece.drop cap :: others, rfl, by simp⟩
      · simp only [ne_eq, take_eq_nil_iff, not_or]
        exact ⟨by omega, nonempty⟩
      · rw [← append_assoc, take_append_drop, flatten_cons]

theorem Splits.readUntil (positive : 0 < cap) {current : Bytes}
    (splits : stream.Splits current rest) (there : check (buffer ++ current) ≠ none) :
    ∃ taken left result after,
      stream.readUntil cap (· ++ ·) check buffer = .done result after ∧
      current = taken ++ left ∧ check (buffer ++ taken) = some result ∧
      after.Splits left rest := by
  induction length : current.length using Nat.strong_induction_on
    generalizing buffer current stream with
  | _ size ih =>
    rw [readUntil_eq positive]
    cases checked : check buffer with
    | some result => exact ⟨[], current, result, stream, rfl, rfl, by simp [checked], splits⟩
    | none =>
      have some_ : current ≠ [] := by
        intro nothing
        simp [nothing, checked] at there
      obtain ⟨got, left, after, taken, nonempty, rfl, behind⟩ := splits.read positive some_
      rw [← append_assoc] at there
      have shorter := length_pos_of_ne_nil nonempty
      rw [length_append] at length
      obtain ⟨more, remaining, result, final, done, leftIs, found, finalSplits⟩ :=
        ih left.length (by omega) behind there rfl
      refine ⟨got ++ more, remaining, result, final, ?_, ?_, ?_, finalSplits⟩
      · simp only [taken]
        exact done
      · rw [leftIs, append_assoc]
      · rw [← append_assoc]
        exact found

end

end Segments

end Gvpn
