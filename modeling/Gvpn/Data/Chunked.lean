import Gvpn.Data.Lines
import Gvpn.Data.Segments

/-! Bodies in chunks, read with machine numbers from a peer that may do anything. -/

namespace Gvpn

open List Option

inductive Ending where
  | closed
  | truncated (reason : Text)
  | failed (reason : Text)
  -- Nothing more is heard of the peer.
  | silent
  deriving DecidableEq

inductive Fault where
  -- A sum does not fit into a machine word.
  | overflow
  -- A slice reaches beyond its buffer.
  | slice
  | capacity
  deriving DecidableEq

inductive Checked (ε α : Type) where
  | ok (value : α)
  | error (problem : ε)
  | fault (broken : Fault)
  -- It waits for a peer that stays silent.
  | waiting
  deriving DecidableEq

namespace Checked

variable {ε α β : Type}

def bind (outcome : Checked ε α) (next : α → Checked ε β) : Checked ε β :=
  match outcome with
  | .ok value => next value
  | .error problem => .error problem
  | .fault broken => .fault broken
  | .waiting => .waiting

@[simp]
theorem bind_ok (value : α) (next : α → Checked ε β) : (ok value).bind next = next value := rfl

@[simp]
theorem bind_error (problem : ε) (next : α → Checked ε β) :
    (error problem).bind next = .error problem := rfl

@[simp]
theorem bind_fault (broken : Fault) (next : α → Checked ε β) :
    (fault broken : Checked ε α).bind next = .fault broken := rfl

@[simp]
theorem bind_waiting (next : α → Checked ε β) : (waiting : Checked ε α).bind next = .waiting := rfl

def stopped : Option ε → Checked ε α
  | some problem => .error problem
  | none => .waiting

def add (left right : Nat) : Checked ε Nat :=
  if left + right < 2 ^ 64 then .ok (left + right) else .fault .overflow

def slice (first last : Nat) (bytes : Bytes) : Checked ε Bytes :=
  if first ≤ last ∧ last ≤ bytes.length then .ok ((bytes.drop first).take (last - first))
  else .fault .slice

def drain (count : Nat) (bytes : Bytes) : Checked ε Bytes :=
  if count ≤ bytes.length then .ok (bytes.drop count) else .fault .slice

theorem slices_of_chunk {size : Nat} {buffer : Bytes} (long : size + 2 ≤ buffer.length) :
    (slice size (size + 2) buffer : Checked ε Bytes) = .ok ((buffer.drop size).take 2) ∧
      (slice 0 size buffer : Checked ε Bytes) = .ok (buffer.take size) ∧
      (drain (size + 2) buffer : Checked ε Bytes) = .ok (buffer.drop (size + 2)) := by
  refine ⟨?_, ?_, ?_⟩
  · rw [slice, if_pos ⟨by omega, long⟩, Nat.add_sub_cancel_left]
  · rw [slice, if_pos ⟨by omega, by omega⟩, drop_zero, Nat.sub_zero]
  · rw [drain, if_pos long]

theorem chunk_of_start {size : Nat} {buffer more : Bytes} (long : size + 2 ≤ buffer.length) :
    (buffer.drop size).take 2 = ((buffer ++ more).drop size).take 2 ∧
      buffer.take size = (buffer ++ more).take size ∧
      buffer.drop (size + 2) ++ more = (buffer ++ more).drop (size + 2) := by
  refine ⟨?_, ?_, ?_⟩
  · rw [drop_append_of_le_length (by omega),
      take_append_of_le_length (by rw [length_drop]; omega)]
  · rw [take_append_of_le_length (by omega)]
  · rw [drop_append_of_le_length long]

def Ends (ending : Ending) : Checked ε α → Prop
  | .ok _ => True
  | .error _ => True
  | .fault _ => False
  | .waiting => ending = .silent

end Checked

inductive SizeLine (ε : Type) where
  -- Nothing, so that it is passed over.
  | skipped
  | bad (error : ε)
  | size (count : Nat)

structure ChunkReader (ε : Type) where
  readSize : Nat
  sizeOf : Bytes → SizeLine ε
  lineEnded : Ending → Option ε
  dataEnded : Ending → Option ε
  badEnd : ε
  positive : 0 < readSize

namespace ChunkReader

variable {ε : Type} (reader : ChunkReader ε) (ending : Ending)

def readLine (buffer : Bytes) (stream : Segments) : Checked ε (Bytes × Bytes × Segments) :=
  match stream.readUntil reader.readSize (· ++ ·) (cut [13, 10]) buffer with
  | .done (line, rest) after => .ok (line, rest, after)
  | .ended _ => .stopped (reader.lineEnded ending)

def fill (want : Nat) (buffer : Bytes) (stream : Segments) : Checked ε (Bytes × Segments) :=
  match stream.readUntil reader.readSize (· ++ ·) (atLeast want) buffer with
  | .done filled after => .ok (filled, after)
  | .ended _ => .stopped (reader.dataEnded ending)

def readTrailers : Nat → Bytes → Segments → Checked ε Unit
  | 0, _, _ => .waiting
  | rounds + 1, buffer, stream =>
    (reader.readLine ending buffer stream).bind fun (line, rest, after) =>
      if line = [] then .ok () else readTrailers rounds rest after

def readChunks : Nat → Bytes → Bytes → Segments → Checked ε Bytes
  | 0, _, _, _ => .waiting
  | rounds + 1, out, buffer, stream =>
    (reader.readLine ending buffer stream).bind fun (line, rest, after) =>
      match reader.sizeOf line with
      | .skipped => readChunks rounds out rest after
      | .bad error => .error error
      | .size 0 =>
        (reader.readTrailers ending (rest.length + after.bytes.length + 1) rest after).bind
          fun _ => .ok out
      | .size size =>
        (Checked.add size 2).bind fun want =>
          (reader.fill ending want rest after).bind fun (filled, behind) =>
            (Checked.slice size want filled).bind fun mark =>
              if mark ≠ [13, 10] then .error reader.badEnd
              else
                (Checked.slice 0 size filled).bind fun data =>
                  (Checked.drain want filled).bind fun kept =>
                    readChunks rounds (out ++ data) kept behind

def read (buffer : Bytes) (stream : Segments) : Checked ε Bytes :=
  reader.readChunks ending (buffer.length + stream.bytes.length + 1) [] buffer stream

def parseTrailers : Nat → Bytes → Checked ε Unit
  | 0, _ => .waiting
  | rounds + 1, bytes =>
    match cut [13, 10] bytes with
    | none => .stopped (reader.lineEnded ending)
    | some (line, rest) => if line = [] then .ok () else parseTrailers rounds rest

def parse : Nat → Bytes → Bytes → Checked ε Bytes
  | 0, _, _ => .waiting
  | rounds + 1, out, bytes =>
    match cut [13, 10] bytes with
    | none => .stopped (reader.lineEnded ending)
    | some (line, rest) =>
      match reader.sizeOf line with
      | .skipped => parse rounds out rest
      | .bad error => .error error
      | .size 0 => (reader.parseTrailers ending (rest.length + 1) rest).bind fun _ => .ok out
      | .size size =>
        if 2 ^ 64 ≤ size + 2 then .fault .overflow
        else if rest.length < size + 2 then .stopped (reader.dataEnded ending)
        else if (rest.drop size).take 2 ≠ [13, 10] then .error reader.badEnd
        else parse rounds (out ++ rest.take size) (rest.drop (size + 2))

theorem readLine_eq (buffer : Bytes) (stream : Segments) :
    match cut [13, 10] (buffer ++ stream.bytes) with
    | none => reader.readLine ending buffer stream = .stopped (reader.lineEnded ending)
    | some (line, rest) => ∃ kept after,
      reader.readLine ending buffer stream = .ok (line, kept, after) ∧
        kept ++ after.bytes = rest := by
  unfold readLine
  cases pumped : stream.readUntil reader.readSize (· ++ ·) (cut [13, 10]) buffer with
  | done result after =>
    obtain ⟨line, kept⟩ := result
    obtain ⟨count, behind, found, -⟩ := Segments.readUntil_done reader.positive pumped
    have split := Segments.readTimes_bytes reader.positive count stream
    have whole := cut_append found (stream.readTimes reader.readSize count).2.bytes
    rw [append_assoc, ← split] at whole
    rw [whole]
    exact ⟨kept, after, rfl, by rw [behind]⟩
  | ended collected =>
    obtain ⟨collectedIs, missing⟩ := Segments.readUntil_ended reader.positive pumped
    rw [collectedIs] at missing
    rw [missing]

theorem fill_eq (want : Nat) (buffer : Bytes) (stream : Segments) :
    if (buffer ++ stream.bytes).length < want then
      reader.fill ending want buffer stream = .stopped (reader.dataEnded ending)
    else ∃ filled after, reader.fill ending want buffer stream = .ok (filled, after) ∧
      want ≤ filled.length ∧ filled ++ after.bytes = buffer ++ stream.bytes := by
  unfold fill
  cases pumped : stream.readUntil reader.readSize (· ++ ·) (atLeast want) buffer with
  | done filled after =>
    obtain ⟨count, behind, found, -⟩ := Segments.readUntil_done reader.positive pumped
    have split := Segments.readTimes_bytes reader.positive count stream
    simp only [atLeast, ite_none_right_eq_some, some.injEq] at found
    obtain ⟨long, filledIs⟩ := found
    have whole : filled ++ after.bytes = buffer ++ stream.bytes := by
      rw [← filledIs, ← behind, append_assoc, ← split]
    have enough : ¬ (buffer ++ stream.bytes).length < want := by
      rw [← whole, length_append, ← filledIs]
      omega
    rw [if_neg enough]
    exact ⟨filled, after, rfl, by rw [← filledIs]; exact long, whole⟩
  | ended collected =>
    obtain ⟨collectedIs, missing⟩ := Segments.readUntil_ended reader.positive pumped
    rw [collectedIs] at missing
    have short : (buffer ++ stream.bytes).length < want := by
      by_contra long
      rw [atLeast, if_pos (Nat.not_lt.mp long)] at missing
      simp at missing
    rw [if_pos short]

theorem readTrailers_eq (rounds : Nat) (buffer : Bytes) (stream : Segments) :
    reader.readTrailers ending rounds buffer stream =
      reader.parseTrailers ending rounds (buffer ++ stream.bytes) := by
  induction rounds generalizing buffer stream with
  | zero => rfl
  | succ rounds ih =>
    have line := reader.readLine_eq ending buffer stream
    rw [readTrailers, parseTrailers]
    cases found : cut [13, 10] (buffer ++ stream.bytes) with
    | none =>
      rw [found] at line
      simp only [line]
      cases reader.lineEnded ending <;> rfl
    | some parts =>
      rw [found] at line
      obtain ⟨kept, after, read, restIs⟩ := line
      simp only [read, Checked.bind_ok, ih, restIs]

theorem readChunks_eq (rounds : Nat) (out buffer : Bytes) (stream : Segments) :
    reader.readChunks ending rounds out buffer stream =
      reader.parse ending rounds out (buffer ++ stream.bytes) := by
  induction rounds generalizing out buffer stream with
  | zero => rfl
  | succ rounds ih =>
    have line := reader.readLine_eq ending buffer stream
    rw [readChunks, parse]
    cases found : cut [13, 10] (buffer ++ stream.bytes) with
    | none =>
      rw [found] at line
      simp only [line]
      cases reader.lineEnded ending <;> rfl
    | some parts =>
      rw [found] at line
      obtain ⟨kept, after, read, restIs⟩ := line
      simp only [read, Checked.bind_ok]
      cases size : reader.sizeOf parts.1 with
      | skipped => rw [ih, restIs]
      | bad error => rfl
      | size count =>
        cases count with
        | zero =>
          simp only [readTrailers_eq, restIs]
          rw [← length_append, restIs]
        | succ count =>
          simp only [Checked.add]
          by_cases large : 2 ^ 64 ≤ count + 1 + 2
          · rw [if_neg (by omega), if_pos large]
            rfl
          · rw [if_pos (by omega), if_neg large, Checked.bind_ok]
            have filled := reader.fill_eq ending (count + 1 + 2) kept after
            rw [restIs] at filled
            by_cases short : parts.2.length < count + 1 + 2
            · rw [if_pos short] at filled ⊢
              rw [filled]
              cases reader.dataEnded ending <;> rfl
            · rw [if_neg short] at filled ⊢
              obtain ⟨full, behind, fillIs, long, whole⟩ := filled
              obtain ⟨first, second, third⟩ := @Checked.slices_of_chunk ε _ _ long
              obtain ⟨mark, data, left⟩ := @Checked.chunk_of_start _ _ behind.bytes long
              rw [whole] at mark data left
              simp only [fillIs, Checked.bind_ok, first, second, third, mark, data, ih, left]

theorem read_eq (buffer : Bytes) (stream : Segments) :
    reader.read ending buffer stream =
      reader.parse ending ((buffer ++ stream.bytes).length + 1) [] (buffer ++ stream.bytes) := by
  rw [read, readChunks_eq, length_append]

inductive Meets : Bytes → Nat → Prop where
  | here {bytes line rest : Bytes} {size : Nat} (found : cut [13, 10] bytes = some (line, rest))
      (sized : reader.sizeOf line = .size size) : Meets bytes size
  | skipped {bytes line rest : Bytes} {size : Nat}
      (found : cut [13, 10] bytes = some (line, rest)) (sized : reader.sizeOf line = .skipped)
      (later : Meets rest size) : Meets bytes size
  | further {bytes line rest : Bytes} {count size : Nat}
      (found : cut [13, 10] bytes = some (line, rest)) (sized : reader.sizeOf line = .size count)
      (positive : 0 < count) (full : count + 2 ≤ rest.length)
      (ended : (rest.drop count).take 2 = [13, 10])
      (later : Meets (rest.drop (count + 2)) size) : Meets bytes size

variable {reader}

variable {bytes : Bytes}

theorem length_lt_of_cut {line rest : Bytes}
    (found : cut [13, 10] bytes = some (line, rest)) : rest.length + 2 ≤ bytes.length := by
  have whole := congrArg List.length (eq_append_of_cut found)
  simp only [length_append, length_cons, length_nil] at whole
  omega

theorem parseTrailers_ne_fault (rounds : Nat) (bytes : Bytes) (broken : Fault) :
    reader.parseTrailers ending rounds bytes ≠ .fault broken := by
  induction rounds generalizing bytes with
  | zero => simp [parseTrailers]
  | succ rounds ih =>
    rw [parseTrailers]
    cases cut [13, 10] bytes with
    | none => cases reader.lineEnded ending <;> simp [Checked.stopped]
    | some parts =>
      simp only
      split
      · simp
      · exact ih parts.2

variable {rounds : Nat}

theorem exists_meets_of_fault {out : Bytes} {broken : Fault}
    (faulty : reader.parse ending rounds out bytes = .fault broken) :
    ∃ size, reader.Meets bytes size ∧ 2 ^ 64 ≤ size + 2 := by
  induction rounds generalizing out bytes with
  | zero => simp [parse] at faulty
  | succ rounds ih =>
    rw [parse] at faulty
    cases found : cut [13, 10] bytes with
    | none =>
      rw [found] at faulty
      cases stops : reader.lineEnded ending <;> simp [stops, Checked.stopped] at faulty
    | some parts =>
      obtain ⟨line, rest⟩ := parts
      simp only [found] at faulty
      cases sized : reader.sizeOf line with
      | skipped =>
        simp only [sized] at faulty
        obtain ⟨size, later, huge⟩ := ih faulty
        exact ⟨size, .skipped found sized later, huge⟩
      | bad problem => simp [sized] at faulty
      | size count =>
        cases count with
        | zero =>
          simp only [sized] at faulty
          cases trailers : reader.parseTrailers ending (rest.length + 1) rest with
          | fault other => exact absurd trailers (parseTrailers_ne_fault ending _ _ other)
          | ok _ => simp [trailers] at faulty
          | error problem => simp [trailers] at faulty
          | waiting => simp [trailers] at faulty
        | succ count =>
          simp only [sized] at faulty
          split at faulty
          · rename_i huge
            exact ⟨count + 1, .here found sized, huge⟩
          · split at faulty
            · cases stops : reader.dataEnded ending <;> simp [stops, Checked.stopped] at faulty
            · split at faulty
              · simp at faulty
              · rename_i ended
                obtain ⟨size, later, huge⟩ := ih faulty
                exact ⟨size, .further found sized (by omega) (by omega) (not_not.mp ended) later,
                  huge⟩

theorem fault_of_meets {size : Nat} (met : reader.Meets bytes size)
    (huge : 2 ^ 64 ≤ size + 2) (enough : bytes.length < rounds) (out : Bytes) :
    reader.parse ending rounds out bytes = .fault .overflow := by
  induction met generalizing rounds out with
  | here found sized =>
    cases rounds with
    | zero => omega
    | succ rounds =>
      rename_i size
      cases size with
      | zero => omega
      | succ count => simp only [parse, found, sized, huge, if_true]
  | skipped found sized later ih =>
    have shorter := length_lt_of_cut found
    cases rounds with
    | zero => omega
    | succ rounds =>
      simp only [parse, found, sized]
      exact ih huge (by omega) out
  | further found sized positive full ended later ih =>
    have shorter := length_lt_of_cut found
    cases rounds with
    | zero => omega
    | succ rounds =>
      rename_i bytes line rest count size
      cases count with
      | zero => omega
      | succ count =>
        simp only [parse, found, sized]
        by_cases early : 2 ^ 64 ≤ count + 1 + 2
        · rw [if_pos early]
        · rw [if_neg early, if_neg (by omega), if_neg (not_not.mpr ended)]
          exact ih huge (by rw [length_drop]; omega) _

theorem parseTrailers_waiting (enough : bytes.length < rounds)
    (waits : reader.parseTrailers ending rounds bytes = .waiting) :
    reader.lineEnded ending = none := by
  induction rounds generalizing bytes with
  | zero => omega
  | succ rounds ih =>
    rw [parseTrailers] at waits
    cases found : cut [13, 10] bytes with
    | none =>
      rw [found] at waits
      cases stops : reader.lineEnded ending with
      | none => rfl
      | some problem => simp [stops, Checked.stopped] at waits
    | some parts =>
      have shorter := length_lt_of_cut found
      simp only [found] at waits
      split at waits
      · simp at waits
      · exact ih (by omega) waits

theorem parse_waiting {out : Bytes} (enough : bytes.length < rounds)
    (waits : reader.parse ending rounds out bytes = .waiting) :
    reader.lineEnded ending = none ∨ reader.dataEnded ending = none := by
  induction rounds generalizing out bytes with
  | zero => omega
  | succ rounds ih =>
    rw [parse] at waits
    cases found : cut [13, 10] bytes with
    | none =>
      rw [found] at waits
      cases stops : reader.lineEnded ending with
      | none => exact .inl rfl
      | some problem => simp [stops, Checked.stopped] at waits
    | some parts =>
      obtain ⟨line, rest⟩ := parts
      have shorter := length_lt_of_cut found
      simp only [found] at waits
      cases sized : reader.sizeOf line with
      | skipped =>
        simp only [sized] at waits
        exact ih (by omega) waits
      | bad problem => simp [sized] at waits
      | size count =>
        cases count with
        | zero =>
          simp only [sized] at waits
          cases trailers : reader.parseTrailers ending (rest.length + 1) rest with
          | waiting => exact .inl (parseTrailers_waiting ending (by omega) trailers)
          | ok _ => simp [trailers] at waits
          | error problem => simp [trailers] at waits
          | fault broken => simp [trailers] at waits
        | succ count =>
          simp only [sized] at waits
          split at waits
          · simp at waits
          · split at waits
            · cases stops : reader.dataEnded ending with
              | none => exact .inr rfl
              | some problem => simp [stops, Checked.stopped] at waits
            · split at waits
              · simp at waits
              · exact ih (by rw [length_drop]; omega) waits

theorem read_ends_iff (quiet : reader.lineEnded ending = none ∨ reader.dataEnded ending = none →
      ending = .silent) (buffer : Bytes) (stream : Segments) :
    (reader.read ending buffer stream).Ends ending ↔
      ∀ size, reader.Meets (buffer ++ stream.bytes) size → size + 2 < 2 ^ 64 := by
  rw [read_eq]
  constructor
  · intro ends size met
    by_contra huge
    rw [fault_of_meets ending met (by omega) (Nat.lt_succ_self _)] at ends
    exact ends
  · intro small
    cases result : reader.parse ending ((buffer ++ stream.bytes).length + 1) []
      (buffer ++ stream.bytes) with
    | ok _ => trivial
    | error _ => trivial
    | fault broken =>
      obtain ⟨size, met, huge⟩ := exists_meets_of_fault ending result
      have fits := small size met
      omega
    | waiting => exact quiet (parse_waiting ending (Nat.lt_succ_self _) result)

theorem parseTrailers_lines {trailers : List Bytes}
    (lines : ∀ trailer ∈ trailers, trailer ≠ [] ∧ Unbroken 13 10 trailer) (rest : Bytes)
    (enough : trailers.length < rounds) :
    reader.parseTrailers ending rounds (trailers.flatMap (· ++ [13, 10]) ++ [13, 10] ++ rest) =
      .ok () := by
  have marks : (13 : UInt8) ≠ 10 := by decide
  induction trailers generalizing rounds with
  | nil =>
    cases rounds with
    | zero => omega
    | succ rounds =>
      have found := cut_first_end marks (show Unbroken 13 10 ([] : Bytes) by simp [Unbroken]) rest
      rw [parseTrailers]
      rw [flatMap_nil]
      simp only [found, if_true]
  | cons trailer others ih =>
    rw [length_cons] at enough
    cases rounds with
    | zero => omega
    | succ rounds =>
      obtain ⟨⟨some_, unbroken⟩, later⟩ := List.forall_mem_cons.mp lines
      have found := cut_first_end marks unbroken
        (others.flatMap (· ++ [13, 10]) ++ [13, 10] ++ rest)
      have shape : (trailer :: others).flatMap (· ++ [13, 10]) ++ [13, 10] ++ rest =
          trailer ++ [13, 10] ++ (others.flatMap (· ++ [13, 10]) ++ [13, 10] ++ rest) := by
        simp
      rw [parseTrailers, shape, found]
      simp only [some_, if_false]
      exact ih later (by omega)

structure Encodes (line data : Bytes) : Prop where
  unbroken : Unbroken 13 10 line
  sized : reader.sizeOf line = .size data.length
  full : data ≠ []
  fits : data.length + 2 < 2 ^ 64

theorem parse_chunk {line data : Bytes} (encodes : reader.Encodes line data) (rounds : Nat)
    (out more : Bytes) :
    reader.parse ending (rounds + 1) out (line ++ [13, 10] ++ (data ++ [13, 10] ++ more)) =
      reader.parse ending rounds (out ++ data) more := by
  have found := cut_first_end (show (13 : UInt8) ≠ 10 by decide) encodes.unbroken
    (data ++ [13, 10] ++ more)
  have fits : data.length + 2 < 2 ^ 64 := encodes.fits
  have positive : 0 < data.length := length_pos_of_ne_nil encodes.full
  have long : ¬ (data ++ [13, 10] ++ more).length < data.length + 2 := by
    simp only [length_append, length_cons, length_nil]
    omega
  have mark : ((data ++ [13, 10] ++ more).drop data.length).take 2 = [13, 10] := by
    simp
  have taken : (data ++ [13, 10] ++ more).take data.length = data := by simp
  have left : (data ++ [13, 10] ++ more).drop (data.length + 2) = more := by
    rw [← drop_drop, append_assoc, drop_left]
    rfl
  rw [parse, found]
  simp only [encodes.sized]
  cases length : data.length with
  | zero => omega
  | succ count =>
    rw [length] at fits long mark taken left
    simp only
    rw [if_neg (by omega), if_neg long, if_neg (not_not.mpr mark), taken, left]

theorem parse_chunks {chunks : List (Bytes × Bytes)} {last : Bytes} {trailers : List Bytes}
    (encodes : ∀ chunk ∈ chunks, reader.Encodes chunk.1 chunk.2)
    (lastUnbroken : Unbroken 13 10 last) (lastSized : reader.sizeOf last = .size 0)
    (lines : ∀ trailer ∈ trailers, trailer ≠ [] ∧ Unbroken 13 10 trailer)
    (rest out : Bytes) (enough : chunks.length < rounds) :
    reader.parse ending rounds out
        ((chunks.flatMap fun chunk => chunk.1 ++ [13, 10] ++ chunk.2 ++ [13, 10]) ++
          (last ++ [13, 10] ++ (trailers.flatMap (· ++ [13, 10]) ++ [13, 10] ++ rest))) =
      .ok (out ++ chunks.flatMap Prod.snd) := by
  have marks : (13 : UInt8) ≠ 10 := by decide
  induction chunks generalizing rounds out with
  | nil =>
    cases rounds with
    | zero => omega
    | succ rounds =>
      have found := cut_first_end marks lastUnbroken
        (trailers.flatMap (· ++ [13, 10]) ++ [13, 10] ++ rest)
      have count : trailers.length <
          (trailers.flatMap (· ++ [13, 10]) ++ [13, 10] ++ rest).length + 1 := by
        have each : trailers.length ≤ (trailers.flatMap (· ++ [13, 10])).length :=
          length_le_length_flatMap trailers (by simp)
        simp only [length_append]
        omega
      rw [flatMap_nil, nil_append, parse, found]
      simp only [lastSized, parseTrailers_lines ending lines rest count, Checked.bind_ok,
        flatMap_nil, append_nil]
  | cons chunk others ih =>
    obtain ⟨line, data⟩ := chunk
    rw [length_cons] at enough
    cases rounds with
    | zero => omega
    | succ rounds =>
      obtain ⟨here, later⟩ := List.forall_mem_cons.mp encodes
      have shape : (((line, data) :: others).flatMap
          fun chunk => chunk.1 ++ [13, 10] ++ chunk.2 ++ [13, 10]) ++
          (last ++ [13, 10] ++ (trailers.flatMap (· ++ [13, 10]) ++ [13, 10] ++ rest)) =
          line ++ [13, 10] ++ (data ++ [13, 10] ++
            ((others.flatMap fun chunk => chunk.1 ++ [13, 10] ++ chunk.2 ++ [13, 10]) ++
              (last ++ [13, 10] ++ (trailers.flatMap (· ++ [13, 10]) ++ [13, 10] ++ rest)))) := by
        simp
      rw [shape, parse_chunk ending here, ih later (out ++ data) (by omega), flatMap_cons,
        append_assoc]

end ChunkReader

end Gvpn
