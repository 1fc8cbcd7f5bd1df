import Mathlib.Data.List.Basic
import Mathlib.Order.Lattice

/-! Streams of units, fed in pieces to a reader that stops behind a malformed unit. -/

namespace Gvpn

open List

variable {α β : Type}

structure Scanner (β α : Type) where
  next : List β → Option (Option α × Nat)
  positive : ∀ {bytes unit size}, next bytes = some (unit, size) → 0 < size
  within : ∀ {bytes unit size}, next bytes = some (unit, size) → size ≤ bytes.length
  stable : ∀ {bytes unit size} (more : List β), next bytes = some (unit, size) →
    next (bytes ++ more) = some (unit, size)
  exact : ∀ {bytes unit size}, next bytes = some (unit, size) →
    next (bytes.take size) = some (unit, size)

theorem Scanner.length_drop_lt (scan : Scanner β α) {bytes : List β} {unit : Option α} {size : Nat}
    (found : scan.next bytes = some (unit, size)) : (bytes.drop size).length < bytes.length := by
  have positive := scan.positive found
  have within := scan.within found
  rw [length_drop]
  omega

structure Served (α β : Type) where
  handled : List α
  rest : List β
  stopped : Bool

namespace Scanner

variable (scan : Scanner β α)

def cuts (bytes : List β) : List (Option α × List β) :=
  match _found : scan.next bytes with
  | none => []
  | some (unit, size) => (unit, bytes.drop size) :: cuts (bytes.drop size)
termination_by bytes.length
decreasing_by exact scan.length_drop_lt _found

def units (bytes : List β) : List α := (scan.cuts bytes).filterMap Prod.fst

def malformed (bytes : List β) : Nat := (scan.cuts bytes).countP (·.1.isNone)

def serve (bytes : List β) : Served α β :=
  match _found : scan.next bytes with
  | none => ⟨[], bytes, false⟩
  | some (none, size) => ⟨[], bytes.drop size, true⟩
  | some (some unit, size) =>
    let later := serve (bytes.drop size)
    ⟨unit :: later.handled, later.rest, later.stopped⟩
termination_by bytes.length
decreasing_by exact scan.length_drop_lt _found

def feed (buffer : List β) : List (List β) → List α × List β
  | [] => ([], buffer)
  | read :: reads =>
    let served := scan.serve (buffer ++ read)
    let later := feed served.rest reads
    (served.handled ++ later.1, later.2)

def needed (bytes : List β) : Nat :=
  match _found : scan.next bytes with
  | none => 0
  | some (none, size) =>
    if needed (bytes.drop size) = 0 then 0 else needed (bytes.drop size) + 1
  | some (some _, size) => max 1 (needed (bytes.drop size))
termination_by bytes.length
decreasing_by all_goals exact scan.length_drop_lt _found

section Equations

variable {scan} {bytes : List β} {unit : Option α} {frame : α} {size : Nat}

theorem cuts_of_none (found : scan.next bytes = none) : scan.cuts bytes = [] := by
  rw [cuts]
  split
  · rfl
  · rename_i other
    simp [found] at other

theorem malformed_of_none (found : scan.next bytes = none) : scan.malformed bytes = 0 := by
  rw [malformed, cuts_of_none found, countP_nil]

theorem cuts_of_some (found : scan.next bytes = some (unit, size)) :
    scan.cuts bytes = (unit, bytes.drop size) :: scan.cuts (bytes.drop size) := by
  rw [cuts]
  split
  · rename_i other
    simp [found] at other
  · rename_i other
    obtain ⟨rfl, rfl⟩ := Prod.mk.inj (Option.some.inj (found.symm.trans other))
    rfl

theorem serve_of_none (found : scan.next bytes = none) :
    scan.serve bytes = ⟨[], bytes, false⟩ := by
  rw [serve]
  split <;> simp_all

theorem serve_of_malformed (found : scan.next bytes = some (none, size)) :
    scan.serve bytes = ⟨[], bytes.drop size, true⟩ := by
  rw [serve]
  split <;> simp_all

theorem serve_of_frame (found : scan.next bytes = some (some frame, size)) :
    scan.serve bytes = ⟨frame :: (scan.serve (bytes.drop size)).handled,
      (scan.serve (bytes.drop size)).rest, (scan.serve (bytes.drop size)).stopped⟩ := by
  rw [serve]
  split <;> simp_all

theorem needed_of_none (found : scan.next bytes = none) : scan.needed bytes = 0 := by
  rw [needed]
  split <;> simp_all

theorem needed_of_malformed (found : scan.next bytes = some (none, size)) :
    scan.needed bytes =
      if scan.needed (bytes.drop size) = 0 then 0 else scan.needed (bytes.drop size) + 1 := by
  rw [needed]
  split <;> simp_all

theorem needed_of_frame (found : scan.next bytes = some (some frame, size)) :
    scan.needed bytes = max 1 (scan.needed (bytes.drop size)) := by
  rw [needed]
  split <;> simp_all

end Equations

theorem induction_on {holds : List β → Prop}
    (unfinished : ∀ bytes, scan.next bytes = none → holds bytes)
    (malformed : ∀ bytes size, scan.next bytes = some (none, size) → holds (bytes.drop size) →
      holds bytes)
    (frame : ∀ bytes unit size, scan.next bytes = some (some unit, size) →
      holds (bytes.drop size) → holds bytes) (bytes : List β) : holds bytes := by
  induction length : bytes.length using Nat.strongRecOn generalizing bytes with
  | _ n ih =>
    match found : scan.next bytes with
    | none => exact unfinished bytes found
    | some (none, size) =>
      exact malformed bytes size found
        (ih _ (length ▸ scan.length_drop_lt found) (bytes.drop size) rfl)
    | some (some unit, size) =>
      exact frame bytes unit size found
        (ih _ (length ▸ scan.length_drop_lt found) (bytes.drop size) rfl)

variable {scan}

variable {bytes : List β} {unit : Option α}

theorem drop_append {size : Nat} (found : scan.next bytes = some (unit, size)) (more : List β) :
    (bytes ++ more).drop size = bytes.drop size ++ more :=
  drop_append_of_le_length (scan.within found)

theorem next_nil (scan : Scanner β α) : scan.next [] = none := by
  match found : scan.next [] with
  | none => rfl
  | some (unit, size) =>
    have positive := scan.positive found
    have within := scan.within found
    rw [length_nil] at within
    omega

theorem needed_eq_zero_iff (bytes : List β) : scan.needed bytes = 0 ↔ scan.units bytes = [] := by
  induction bytes using scan.induction_on with
  | unfinished bytes found => simp [needed_of_none found, units, cuts_of_none found]
  | malformed bytes size found ih =>
    have units_eq : scan.units bytes = scan.units (bytes.drop size) := by
      simp [units, cuts_of_some found]
    rw [needed_of_malformed found, units_eq, ← ih]
    split <;> simp_all
  | frame bytes unit size found ih =>
    rw [needed_of_frame found]
    simp [units, cuts_of_some found]

theorem needed_drop_le {size : Nat} (found : scan.next bytes = some (unit, size)) :
    scan.needed (bytes.drop size) ≤ scan.needed bytes := by
  cases unit with
  | none =>
    rw [needed_of_malformed found]
    split <;> omega
  | some frame =>
    rw [needed_of_frame found]
    exact le_max_right _ _

theorem needed_lt_of_mem {rest : List β} (member : (none, rest) ∈ scan.cuts bytes)
    (some_ : 0 < scan.needed rest) : scan.needed rest < scan.needed bytes := by
  induction bytes using scan.induction_on with
  | unfinished bytes found => simp [cuts_of_none found] at member
  | malformed bytes size found ih =>
    rw [cuts_of_some found, mem_cons] at member
    rcases member with here | later
    · obtain rfl : rest = bytes.drop size := (Prod.mk.inj here).2
      rw [needed_of_malformed found, if_neg (by omega)]
      omega
    · exact (ih later).trans_le (needed_drop_le found)
  | frame bytes unit size found ih =>
    rw [cuts_of_some found, mem_cons] at member
    rcases member with here | later
    · simp at here
    · exact (ih later).trans_le (needed_drop_le found)

theorem length_lt_of_mem_cuts {rest : List β}
    (member : (unit, rest) ∈ scan.cuts bytes) : rest.length < bytes.length := by
  have behind : ∀ {bytes : List β} {first : Option α} {size : Nat},
      scan.next bytes = some (first, size) →
      ((unit, rest) ∈ scan.cuts (bytes.drop size) → rest.length < (bytes.drop size).length) →
      (unit, rest) ∈ scan.cuts bytes → rest.length < bytes.length := by
    intro bytes first size found ih member
    have less := scan.length_drop_lt found
    rw [cuts_of_some found, mem_cons] at member
    rcases member with here | later
    · rwa [(Prod.mk.inj here).2]
    · exact (ih later).trans less
  induction bytes using scan.induction_on with
  | unfinished bytes found => simp [cuts_of_none found] at member
  | malformed bytes size found ih => exact behind found ih member
  | frame bytes unit size found ih => exact behind found ih member

section Serve

variable (scan) (bytes more : List β)

theorem cuts_append : ∃ front, front.filterMap Prod.fst = (scan.serve bytes).handled ∧
    (∀ cut ∈ front, cut.1 ≠ none ∧ more.length ≤ cut.2.length) ∧
    scan.cuts (bytes ++ more) = front ++
      ((if (scan.serve bytes).stopped then [(none, (scan.serve bytes).rest ++ more)] else []) ++
        scan.cuts ((scan.serve bytes).rest ++ more)) := by
  induction bytes using scan.induction_on with
  | unfinished bytes found => exact ⟨[], by simp [serve_of_none found]⟩
  | malformed bytes size found ih =>
    refine ⟨[], by simp [serve_of_malformed found], by simp, ?_⟩
    rw [serve_of_malformed found, cuts_of_some (scan.stable more found), drop_append found more]
    rfl
  | frame bytes unit size found ih =>
    obtain ⟨front, handled, behind, cuts⟩ := ih
    refine ⟨(some unit, bytes.drop size ++ more) :: front, ?_, ?_, ?_⟩
    · simp [serve_of_frame found, handled]
    · exact forall_mem_cons.mpr ⟨⟨nofun, by simp⟩, behind⟩
    · rw [serve_of_frame found, cuts_of_some (scan.stable more found), drop_append found more, cuts]
      rfl

theorem units_append :
    scan.units (bytes ++ more) =
      (scan.serve bytes).handled ++ scan.units ((scan.serve bytes).rest ++ more) := by
  obtain ⟨front, handled, -, cuts⟩ := scan.cuts_append bytes more
  rw [units, cuts, filterMap_append, handled, filterMap_append]
  split <;> rfl

theorem needed_append_le :
    scan.needed (bytes ++ more) ≤ scan.needed ((scan.serve bytes).rest ++ more) + 1 := by
  induction bytes using scan.induction_on with
  | unfinished bytes found =>
    rw [serve_of_none found]
    exact Nat.le_succ _
  | malformed bytes size found ih =>
    rw [serve_of_malformed found, needed_of_malformed (scan.stable more found),
      drop_append found more]
    dsimp only
    split <;> omega
  | frame bytes unit size found ih =>
    rw [serve_of_frame found, needed_of_frame (scan.stable more found), drop_append found more]
    dsimp only
    omega

theorem next_rest (through : (scan.serve bytes).stopped = false) :
    scan.next (scan.serve bytes).rest = none := by
  induction bytes using scan.induction_on with
  | unfinished bytes found => rwa [serve_of_none found]
  | malformed bytes size found ih => simp [serve_of_malformed found] at through
  | frame bytes unit size found ih =>
    rw [serve_of_frame found] at through ⊢
    exact ih through

theorem mem_cuts_of_stopped (stopped : (scan.serve bytes).stopped = true) :
    (none, (scan.serve bytes).rest ++ more) ∈ scan.cuts (bytes ++ more) := by
  obtain ⟨front, -, -, cuts⟩ := scan.cuts_append bytes more
  simp [cuts, stopped]

theorem malformed_of_stopped (stopped : (scan.serve bytes).stopped = true) :
    scan.malformed bytes = scan.malformed (scan.serve bytes).rest + 1 := by
  obtain ⟨front, -, passed, cuts⟩ := scan.cuts_append bytes []
  have none_ : front.countP (·.1.isNone) = 0 := by
    simpa [Option.isSome_iff_ne_none] using fun cut member => (passed cut member).1
  simp only [append_nil, stopped] at cuts
  simp [malformed, cuts, none_, Nat.add_comm]

theorem cuts_rest_subset :
    scan.cuts ((scan.serve bytes).rest ++ more) ⊆ scan.cuts (bytes ++ more) := by
  obtain ⟨front, -, -, cuts⟩ := scan.cuts_append bytes more
  rw [cuts, ← append_assoc]
  exact subset_append_right _ _

theorem mem_cuts_rest {rest : List β} (member : (unit, rest) ∈ scan.cuts (bytes ++ more))
    (later : rest.length < more.length) :
    (unit, rest) ∈ scan.cuts ((scan.serve bytes).rest ++ more) := by
  obtain ⟨front, -, passed, cuts⟩ := scan.cuts_append bytes more
  rw [cuts, mem_append, mem_append] at member
  rcases member with handled | stopped | behind
  · exact absurd (passed _ handled).2 (Nat.not_le.mpr later)
  · split at stopped
    · obtain rfl := (Prod.mk.inj (mem_singleton.mp stopped)).2
      rw [length_append] at later
      omega
    · cases stopped
  · exact behind

theorem length_rest_le : (scan.serve bytes).rest.length ≤ bytes.length := by
  induction bytes using scan.induction_on with
  | unfinished bytes found => simp [serve_of_none found]
  | malformed bytes size found ih =>
    rw [serve_of_malformed found]
    exact (scan.length_drop_lt found).le
  | frame bytes unit size found ih =>
    rw [serve_of_frame found]
    exact ih.trans (scan.length_drop_lt found).le

theorem next_of_append {size : Nat} (found : scan.next (bytes ++ more) = some (unit, size))
    (inside : size ≤ bytes.length) : scan.next bytes = some (unit, size) := by
  have own := scan.exact found
  rw [take_append_of_le_length inside] at own
  have whole := scan.stable (bytes.drop size) own
  rwa [take_append_drop] at whole

theorem length_rest_lt (stopped : (scan.serve (bytes ++ more)).stopped = true)
    (none_ : scan.malformed bytes = 0) :
    (scan.serve (bytes ++ more)).rest.length < more.length := by
  induction length : bytes.length using Nat.strongRecOn generalizing bytes with
  | _ n ih =>
    match found : scan.next (bytes ++ more) with
    | none => simp [serve_of_none found] at stopped
    | some (unit, size) =>
      have within := scan.within found
      rw [length_append] at within
      by_cases inside : size ≤ bytes.length
      · have early := scan.next_of_append bytes more found inside
        cases unit with
        | none => simp [malformed, cuts_of_some early] at none_
        | some frame =>
          rw [serve_of_frame found, drop_append early more] at stopped ⊢
          refine ih _ (length ▸ scan.length_drop_lt early) (bytes.drop size) stopped ?_ rfl
          simpa [malformed, cuts_of_some early] using none_
      · -- The unit ends in what was read, and so does whatever follows it.
        have behind : ((bytes ++ more).drop size).length < more.length := by
          rw [length_drop, length_append]
          omega
        cases unit with
        | none => rwa [serve_of_malformed found]
        | some frame =>
          rw [serve_of_frame found]
          exact (scan.length_rest_le _).trans_lt behind

end Serve

section Feed

variable (scan) (buffer : List β) (reads : List (List β))

theorem units_feed (more : List β) :
    scan.units (buffer ++ reads.flatten ++ more) =
      (scan.feed buffer reads).1 ++ scan.units ((scan.feed buffer reads).2 ++ more) := by
  induction reads generalizing buffer with
  | nil => simp [feed]
  | cons read reads ih =>
    have first := scan.units_append (buffer ++ read) (reads.flatten ++ more)
    have later := ih (scan.serve (buffer ++ read)).rest
    rw [append_assoc] at later
    rw [flatten_cons, feed, append_assoc, append_assoc, ← append_assoc buffer,
      first, later, append_assoc]

theorem needed_feed_le :
    scan.needed (buffer ++ reads.flatten) ≤
      scan.needed (scan.feed buffer reads).2 + reads.length := by
  induction reads generalizing buffer with
  | nil => simp [feed]
  | cons read reads ih =>
    have first := scan.needed_append_le (buffer ++ read) reads.flatten
    have later := ih (scan.serve (buffer ++ read)).rest
    rw [flatten_cons, feed, ← append_assoc, length_cons]
    dsimp only
    omega

theorem feed_append (later : List (List β)) :
    scan.feed buffer (reads ++ later) =
      ((scan.feed buffer reads).1 ++ (scan.feed (scan.feed buffer reads).2 later).1,
        (scan.feed (scan.feed buffer reads).2 later).2) := by
  induction reads generalizing buffer with
  | nil => simp [feed]
  | cons read reads ih => simp [feed, ih]

theorem mem_cuts_feed {rest more : List β}
    (member : (unit, rest) ∈ scan.cuts (buffer ++ reads.flatten ++ more))
    (later : rest.length < more.length) :
    (unit, rest) ∈ scan.cuts ((scan.feed buffer reads).2 ++ more) := by
  induction reads generalizing buffer with
  | nil => simpa [feed] using member
  | cons read reads ih =>
    apply ih
    rw [append_assoc]
    apply scan.mem_cuts_rest
    · simpa [append_assoc] using member
    · rw [length_append]
      omega

theorem serve_concat {buffer : List β} (unfinished : scan.next buffer = none) (byte : β) :
    scan.next (scan.serve (buffer ++ [byte])).rest = none := by
  match found : scan.next (buffer ++ [byte]) with
  | none => rwa [serve_of_none found]
  | some (unit, size) =>
    have all : (buffer ++ [byte]).drop size = [] := by
      have longer : buffer.length < size := by
        by_contra inside
        have early := scan.next_of_append buffer [byte] found (Nat.le_of_not_lt inside)
        simp [unfinished] at early
      rw [drop_eq_nil_iff, length_append, length_singleton]
      omega
    cases unit with
    | none => rw [serve_of_malformed found, all, scan.next_nil]
    | some frame => rw [serve_of_frame found, all, serve_of_none scan.next_nil, scan.next_nil]

theorem next_feed_singles {buffer : List β} (unfinished : scan.next buffer = none)
    (bytes : List β) : scan.next (scan.feed buffer (bytes.map fun byte => [byte])).2 = none := by
  induction bytes generalizing buffer with
  | nil => exact unfinished
  | cons byte bytes ih => exact ih (scan.serve_concat unfinished byte)

end Feed

structure Splits (limit : Nat) (bytes : List β) (reads : List (List β)) : Prop where
  joined : reads.flatten = bytes
  sized : ∀ read ∈ reads, read ≠ [] ∧ read.length ≤ limit

theorem exists_splits (limit count : Nat)
    (fits : bytes.length ≤ limit * count) : ∃ reads, Splits limit bytes reads ∧
      reads.length ≤ count := by
  induction count generalizing bytes with
  | zero =>
    obtain rfl := List.length_eq_zero_iff.mp (by omega : bytes.length = 0)
    exact ⟨[], ⟨rfl, by simp⟩, le_rfl⟩
  | succ count ih =>
    by_cases empty : bytes = []
    · exact ⟨[], ⟨empty ▸ rfl, by simp⟩, Nat.zero_le _⟩
    · have behind : (bytes.drop limit).length ≤ limit * count := by
        rw [length_drop]
        rw [Nat.mul_succ] at fits
        omega
      obtain ⟨reads, splits, few⟩ := ih behind
      have some_ : bytes.take limit ≠ [] := by
        have := List.length_pos_iff.mpr empty
        have positive : 0 < limit := by
          by_contra zero
          obtain rfl : limit = 0 := by omega
          omega
        simp [empty, positive.ne']
      refine ⟨bytes.take limit :: reads, ⟨?_, ?_⟩, Nat.succ_le_succ few⟩
      · rw [flatten_cons, splits.joined, take_append_drop]
      · intro read member
        rcases List.mem_cons.mp member with rfl | later
        · exact ⟨some_, by simp⟩
        · exact splits.sized read later

theorem splits_singles {limit : Nat} (positive : 0 < limit) (bytes : List β) :
    Splits limit bytes (bytes.map fun byte => [byte]) where
  joined := by
    induction bytes with
    | nil => rfl
    | cons byte bytes ih => rw [map_cons, flatten_cons, ih, singleton_append]
  sized := by
    intro read member
    obtain ⟨byte, -, rfl⟩ := List.mem_map.mp member
    exact ⟨by simp, positive⟩

theorem feed_singles (bytes : List β) :
    (scan.feed [] (bytes.map fun byte => [byte])).1 = scan.units bytes := by
  have all := scan.units_feed [] (bytes.map fun byte => [byte]) []
  have settled := scan.next_feed_singles scan.next_nil bytes
  rw [(splits_singles Nat.one_pos bytes).joined, nil_append, append_nil,
    append_nil] at all
  rw [all, units, cuts_of_none settled, filterMap_nil, append_nil]

def Spaced (scan : Scanner β α) (limit : Nat) (bytes : List β) : Prop :=
  ∀ rest, (none, rest) ∈ scan.cuts bytes → limit * scan.needed rest ≤ rest.length

section Split

variable {limit : Nat} {stream : List β}

def Follows (scan : Scanner β α) (limit : Nat) (stream buffer future : List β) : Prop :=
  scan.next buffer = none ∨ ∃ rest passed, (none, rest) ∈ scan.cuts stream ∧
    rest.length < future.length + limit * (passed + 1) ∧
    (0 < scan.needed (buffer ++ future) →
      scan.needed (buffer ++ future) + passed ≤ scan.needed rest)

theorem follows_serve {buffer read future : List β}
    (inside : scan.cuts (buffer ++ (read ++ future)) ⊆ scan.cuts stream)
    (follows : Follows scan limit stream buffer (read ++ future)) (short : read.length ≤ limit) :
    Follows scan limit stream (scan.serve (buffer ++ read)).rest future := by
  cases stopped : (scan.serve (buffer ++ read)).stopped with
  | false => exact .inl (scan.next_rest _ stopped)
  | true =>
    have member := scan.mem_cuts_of_stopped (buffer ++ read) future stopped
    rcases follows with settled | ⟨rest, passed, cut, late, costs⟩
    · -- The malformed unit came with this read, so all that follows it came with it too.
      have less := scan.length_rest_lt buffer read stopped (malformed_of_none settled)
      refine .inr ⟨_, 0, inside ?_, ?_, fun _ => le_rfl⟩
      · rwa [append_assoc] at member
      · rw [length_append]
        omega
    · -- One more malformed unit was passed, and one more read has come.
      refine .inr ⟨rest, passed + 1, cut, ?_, fun some_ => ?_⟩
      · rw [length_append] at late
        have : limit * (passed + 1 + 1) = limit * (passed + 1) + limit := Nat.mul_succ _ _
        omega
      · have more := needed_lt_of_mem member some_
        rw [append_assoc] at more
        omega

theorem feed_of_spaced (spaced : scan.Spaced limit stream) {buffer : List β}
    {reads : List (List β)} (short : ∀ read ∈ reads, read.length ≤ limit)
    (inside : scan.cuts (buffer ++ reads.flatten) ⊆ scan.cuts stream)
    (follows : Follows scan limit stream buffer reads.flatten) :
    scan.needed (scan.feed buffer reads).2 = 0 := by
  induction reads generalizing buffer with
  | nil =>
    rcases follows with settled | ⟨rest, passed, cut, late, costs⟩
    · exact needed_of_none settled
    · by_contra left
      simp only [flatten_nil, append_nil, length_nil, Nat.zero_add] at costs late
      have enough := costs (Nat.pos_of_ne_zero left)
      have room := spaced rest cut
      have : limit * (passed + 1) ≤ limit * scan.needed rest :=
        Nat.mul_le_mul_left _ (le_trans (by simp only [feed] at left; omega) enough)
      omega
  | cons read reads ih =>
    obtain ⟨first, later⟩ := List.forall_mem_cons.mp short
    refine ih later ?_ (follows_serve inside follows first)
    have subset := scan.cuts_rest_subset (buffer ++ read) reads.flatten
    rw [append_assoc] at subset
    exact Subset.trans subset inside

theorem feed_eq_units_iff {reads : List (List β)} (splits : Splits limit stream reads) :
    (scan.feed [] reads).1 = scan.units stream ↔ scan.needed (scan.feed [] reads).2 = 0 := by
  have all := scan.units_feed [] reads []
  rw [splits.joined, nil_append, append_nil, append_nil] at all
  rw [all, needed_eq_zero_iff]
  constructor
  · intro same
    exact List.append_right_eq_self.mp same.symm
  · intro nothing
    rw [nothing, append_nil]

theorem exists_splits_left (positive : 0 < limit) {rest : List β}
    (cut : (none, rest) ∈ scan.cuts stream) (narrow : rest.length < limit * scan.needed rest) :
    ∃ reads, Splits limit stream reads ∧ 0 < scan.needed (scan.feed [] reads).2 := by
  have shorter := length_lt_of_mem_cuts cut
  set front := stream.take (stream.length - (rest.length + 1)) with frontIs
  set back := stream.drop (stream.length - (rest.length + 1)) with backIs
  have whole : front ++ back = stream := take_append_drop _ _
  have backLength : back.length = rest.length + 1 := by
    rw [backIs, length_drop]
    omega
  obtain ⟨late, lateSplits, few⟩ :=
    exists_splits limit (scan.needed rest) (show back.length ≤ _ by omega)
  have earlySplits := splits_singles positive front
  refine ⟨front.map (fun byte => [byte]) ++ late, ⟨?_, ?_⟩, ?_⟩
  · rw [flatten_append, earlySplits.joined, lateSplits.joined, whole]
  · intro read member
    rcases List.mem_append.mp member with early | late
    · exact earlySplits.sized read early
    · exact lateSplits.sized read late
  · -- The unit is left by the reads of the front, and the others are too few for what follows it.
    have left : (none, rest) ∈
        scan.cuts ((scan.feed [] (front.map fun byte => [byte])).2 ++ back) := by
      apply scan.mem_cuts_feed
      · rwa [earlySplits.joined, nil_append, whole]
      · omega
    have costs := needed_lt_of_mem left (Nat.pos_of_ne_zero fun zero => by
      rw [zero] at narrow
      omega)
    have passed := scan.needed_feed_le (scan.feed [] (front.map fun byte => [byte])).2 late
     
    rw [lateSplits.joined] at passed
    rw [scan.feed_append]
    dsimp only
    omega

theorem feed_eq_units_forall_iff (scan : Scanner β α) (positive : 0 < limit) (stream : List β) :
    (∀ reads, Splits limit stream reads → (scan.feed [] reads).1 = scan.units stream) ↔
      scan.Spaced limit stream := by
  constructor
  · intro every rest cut
    by_contra narrow
    obtain ⟨reads, splits, left⟩ := exists_splits_left positive cut (Nat.lt_of_not_le narrow)
    have nothing := (feed_eq_units_iff splits).mp (every reads splits)
    omega
  · intro spaced reads splits
    rw [feed_eq_units_iff splits]
    apply feed_of_spaced spaced
    · exact fun read member => (splits.sized read member).2
    · rw [splits.joined, nil_append]
      exact Subset.refl _
    · exact .inl scan.next_nil

end Split

end Scanner

end Gvpn
