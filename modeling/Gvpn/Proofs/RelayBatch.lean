import Gvpn.AppsScript.Relay

/-! Which response each item of a relay batch is given. -/

namespace Gvpn

open List Option

section

variable (engine : Engine) (service : UrlFetch)

def batchFetches (items : List Json) : List (FetchArgs × Text) :=
  items.filterMap fun item => (prepareItem engine item).toOption

def aloneOutcomes : Nat → List (FetchArgs × Text) → List (Except Text Fetched)
  | _, [] => []
  | j, fetch :: rest => replayFetch service j fetch.1 fetch.2 :: aloneOutcomes (j + 1) rest

def aloneResponses (items : List Json) : List (Option Fetched) :=
  (aloneOutcomes service 0 (batchFetches engine items)).map Except.toOption

def FetchedFor (items : List Json) (i : Nat) (response : Fetched) : Prop :=
  ∃ item args method, items[i]? = some item ∧ prepareItem engine item = .ok (args, method) ∧
    let j := (batchFetches engine (items.take i)).length
    match service.fetchAll ((batchFetches engine items).map Prod.fst) with
    | .ok responses => responses[j]? = some response
    | .error _ => replayFetch service j args method = .ok response

def BatchAligned (items : List Json) (answer : Json) : Prop :=
  ∃ results, answer = .obj [(lit "q", .arr results)] ∧ results.length = items.length ∧
    ∀ (i : Nat) entry, results[i]? = some entry →
      (∃ reason, entry = errorEntry reason) ∨
        ∃ response, FetchedFor engine service items i response ∧ entry = responseEntry response

def NoShift (items : List Json) : Prop :=
  (∃ responses, service.fetchAll ((batchFetches engine items).map Prod.fst) = .ok responses) ∨
    ∀ (k : Nat) placed own, (aloneResponses engine service items)[k]? = some (some placed) →
      ((aloneResponses engine service items).filterMap id)[k]? = some own →
        responseEntry placed = responseEntry own

end

def failureOf {α : Type} : Except Text α → Option Text
  | .ok _ => none
  | .error reason => some reason

def itemSlots (engine : Engine) (items : List Json) : List (Option Text) :=
  items.map fun item => failureOf (prepareItem engine item)

def filledEntry : Except Text (Option (Option Fetched)) → Json
  | .error reason => errorEntry reason
  | .ok filled => fetchedEntry filled.join

section

variable {engine : Engine} {service : UrlFetch}

variable {item : Json} {rest : List Json} {reason : Text} {fetch : FetchArgs × Text}

theorem batchFetches_of_error (prepared : prepareItem engine item = .error reason) :
    batchFetches engine (item :: rest) = batchFetches engine rest := by
  simp [batchFetches, prepared, Except.toOption]

theorem batchFetches_of_ok (prepared : prepareItem engine item = .ok fetch) :
    batchFetches engine (item :: rest) = fetch :: batchFetches engine rest := by
  simp [batchFetches, prepared, Except.toOption]

theorem itemSlots_of_error (prepared : prepareItem engine item = .error reason) :
    itemSlots engine (item :: rest) = some reason :: itemSlots engine rest := by
  simp [itemSlots, prepared, failureOf]

theorem itemSlots_of_ok (prepared : prepareItem engine item = .ok fetch) :
    itemSlots engine (item :: rest) = none :: itemSlots engine rest := by
  simp [itemSlots, prepared, failureOf]

variable {items : List Json} {i : Nat}

theorem mergeResults_eq_fill {errorMap : List (Nat × Text)} {responses : List (Option Fetched)}
    {slots : List (Option Text)} {cursor : Nat}
    (sized : slots.length = items.length)
    (errors : ∀ n, errorMap.lookup (i + n) = slots[n]?.join) :
    mergeResults errorMap responses i cursor items =
      (fill responses cursor slots).map filledEntry := by
  induction items generalizing slots i cursor with
  | nil =>
    rw [length_nil, length_eq_zero_iff] at sized
    subst sized
    rfl
  | cons item rest ih =>
    cases slots with
    | nil => simp at sized
    | cons slot slots =>
      have here : errorMap.lookup i = slot := by simpa using errors 0
      have later : ∀ n, errorMap.lookup (i + 1 + n) = slots[n]?.join := by
        intro n
        have step := errors (n + 1)
        rwa [getElem?_cons_succ, show i + (n + 1) = i + 1 + n by omega] at step
      have left : slots.length = rest.length := by simpa using sized
      cases slot with
      | some reason => simp [mergeResults, here, fill, filledEntry, ih left later]
      | none => simp [mergeResults, here, fill, filledEntry, ih left later]

theorem planBatch_fetches (i : Nat) (items : List Json) :
    (planBatch engine i items).fetches.map (fun planned => (planned.args, planned.method)) =
      batchFetches engine items := by
  induction items generalizing i with
  | nil => rfl
  | cons item rest ih =>
    cases prepared : prepareItem engine item with
    | error reason =>
      rw [batchFetches_of_error prepared, ← ih (i + 1)]
      simp only [planBatch, prepared]
    | ok fetch =>
      rw [batchFetches_of_ok prepared, ← ih (i + 1)]
      simp only [planBatch, prepared, map_cons]

theorem planBatch_lookup_before {k : Nat} (before : k < i) (items : List Json) :
    (planBatch engine i items).errorMap.lookup k = none := by
  induction items generalizing i with
  | nil => rfl
  | cons item rest ih =>
    have other := ih (show k < i + 1 by omega)
    cases prepared : prepareItem engine item with
    | error reason =>
      have different : (k == i) = false := by simpa using Nat.ne_of_lt before
      simp only [planBatch, prepared, lookup_cons, different, other]
    | ok fetch => simpa only [planBatch, prepared] using other

theorem planBatch_lookup (i n : Nat) (items : List Json) :
    (planBatch engine i items).errorMap.lookup (i + n) = (itemSlots engine items)[n]?.join := by
  induction items generalizing i n with
  | nil => rfl
  | cons item rest ih =>
    cases n with
    | zero =>
      have others := @planBatch_lookup_before engine _ _ (Nat.lt_succ_self i) rest
      cases prepared : prepareItem engine item with
      | error reason => simp [planBatch, prepared, itemSlots_of_error prepared]
      | ok fetch => simpa [planBatch, prepared, itemSlots_of_ok prepared] using others
    | succ n =>
      have step := ih (i + 1) n
      rw [show i + 1 + n = i + (n + 1) by omega] at step
      cases prepared : prepareItem engine item with
      | error reason =>
        have different : (i + (n + 1) == i) = false := by simp
        simp only [planBatch, prepared, lookup_cons, different, step,
          itemSlots_of_error prepared, getElem?_cons_succ]
      | ok fetch =>
        simp only [planBatch, prepared, step, itemSlots_of_ok prepared, getElem?_cons_succ]

theorem replayBatch_responses (j : Nat) (fetches : List PlannedFetch) :
    (replayBatch service j fetches).1 =
      (aloneOutcomes service j (fetches.map fun planned => (planned.args, planned.method))).map
        Except.toOption := by
  induction fetches generalizing j with
  | nil => rfl
  | cons planned rest ih =>
    cases outcome : replayFetch service j planned.args planned.method with
    | ok response =>
      simp [replayBatch, outcome, aloneOutcomes, Except.toOption, ih (j + 1)]
    | error reason =>
      simp [replayBatch, outcome, aloneOutcomes, Except.toOption, ih (j + 1)]

theorem replayBatch_lookup_before {k : Nat} (before : k < i) (j : Nat) (items : List Json) :
    (replayBatch service j (planBatch engine i items).fetches).2.lookup k = none := by
  induction items generalizing i j with
  | nil => rfl
  | cons item rest ih =>
    cases prepared : prepareItem engine item with
    | error reason =>
      have other := ih (show k < i + 1 by omega) j
      simpa only [planBatch, prepared] using other
    | ok fetch =>
      have other := ih (show k < i + 1 by omega) (j + 1)
      have different : (k == i) = false := by simpa using Nat.ne_of_lt before
      cases outcome : replayFetch service j fetch.1 fetch.2 with
      | ok response => simpa only [planBatch, prepared, replayBatch, outcome] using other
      | error reason =>
        simp only [planBatch, prepared, replayBatch, outcome, lookup_cons, different, other]

theorem replayBatch_lookup (i j n : Nat) (items : List Json) :
    ((replayBatch service j (planBatch engine i items).fetches).2 ++
        (planBatch engine i items).errorMap).lookup (i + n) =
      (spread (itemSlots engine items)
        ((aloneOutcomes service j (batchFetches engine items)).map failureOf))[n]?.join := by
  induction items generalizing i j n with
  | nil => rfl
  | cons item rest ih =>
    cases prepared : prepareItem engine item with
    | error reason =>
      rw [batchFetches_of_error prepared, itemSlots_of_error prepared, spread]
      simp only [planBatch, prepared]
      cases n with
      | zero =>
        have others := @replayBatch_lookup_before engine service _ _ (Nat.lt_succ_self i) j rest
        simp [lookup_append, others]
      | succ n =>
        have step := ih (i + 1) j n
        rw [show i + 1 + n = i + (n + 1) by omega, lookup_append] at step
        have different : (i + (n + 1) == i) = false := by simp
        rw [lookup_append, lookup_cons, different, getElem?_cons_succ]
        exact step
    | ok fetch =>
      obtain ⟨args, method⟩ := fetch
      rw [batchFetches_of_ok prepared, itemSlots_of_ok prepared, aloneOutcomes, map_cons,
        spread]
      simp only [planBatch, prepared, replayBatch]
      cases n with
      | zero =>
        have others := @replayBatch_lookup_before engine service _ _ (Nat.lt_succ_self i) (j + 1)
          rest
        have items := @planBatch_lookup_before engine _ _ (Nat.lt_succ_self i) rest
        cases outcome : replayFetch service j args method with
        | ok response => simp [lookup_append, others, items, failureOf]
        | error reason => simp [failureOf]
      | succ n =>
        have step := ih (i + 1) (j + 1) n
        rw [show i + 1 + n = i + (n + 1) by omega] at step
        have different : (i + (n + 1) == i) = false := by simp
        rw [getElem?_cons_succ, ← step]
        cases outcome : replayFetch service j args method with
        | ok response => rfl
        | error reason => simp only [cons_append, lookup_cons, different]

theorem openBefore_itemSlots (items : List Json) (i : Nat) :
    openBefore (itemSlots engine items) i = (batchFetches engine (items.take i)).length := by
  induction items generalizing i with
  | nil => simp [itemSlots, openBefore, batchFetches]
  | cons item rest ih =>
    cases i with
    | zero => simp [batchFetches]
    | succ i =>
      rw [take_succ_cons]
      cases prepared : prepareItem engine item with
      | error reason =>
        rw [itemSlots_of_error prepared, batchFetches_of_error prepared, openBefore_some, ih]
      | ok fetch =>
        rw [itemSlots_of_ok prepared, batchFetches_of_ok prepared, openBefore_none, ih,
          length_cons]

theorem aloneOutcomes_getElem? (j k : Nat) (fetches : List (FetchArgs × Text)) :
    (aloneOutcomes service j fetches)[k]? =
      fetches[k]?.map fun fetch => replayFetch service (j + k) fetch.1 fetch.2 := by
  induction fetches generalizing j k with
  | nil => rfl
  | cons fetch rest ih =>
    cases k with
    | zero => rfl
    | succ k =>
      rw [aloneOutcomes, getElem?_cons_succ, getElem?_cons_succ, ih,
        show j + 1 + k = j + (k + 1) by omega]

theorem batchFetches_getElem? {j : Nat} :
    (batchFetches engine items)[j]? = some fetch ↔
      ∃ (i : Nat) (item : Json), items[i]? = some item ∧ prepareItem engine item = .ok fetch ∧
        (batchFetches engine (items.take i)).length = j := by
  have kept : ∀ item, (prepareItem engine item).toOption = some fetch ↔
      prepareItem engine item = .ok fetch := by
    intro item
    cases prepareItem engine item <;> simp [Except.toOption]
  rw [batchFetches, getElem?_filterMap]
  simp only [kept]
  rfl

theorem itemSlots_open (isOpen : (itemSlots engine items)[i]? = some none) :
    ∃ item fetch, items[i]? = some item ∧ prepareItem engine item = .ok fetch := by
  rw [itemSlots, getElem?_map, map_eq_some_iff] at isOpen
  obtain ⟨item, found, unfailed⟩ := isOpen
  cases prepared : prepareItem engine item with
  | error reason => simp [prepared, failureOf] at unfailed
  | ok fetch => exact ⟨item, fetch, found, prepared⟩

theorem batchAligned_filled {responses : List (Option Fetched)}
    {slots : List (Option Text)} (sized : slots.length = items.length) :
    BatchAligned engine service items
        (.obj [(lit "q", .arr ((fill responses 0 slots).map filledEntry))]) ↔
      ∀ (i : Nat) response, slots[i]? = some none →
        responses[openBefore slots i]? = some (some response) →
          ∃ own, FetchedFor engine service items i own ∧
            responseEntry response = responseEntry own := by
  constructor
  · rintro ⟨results, answer, -, each⟩ i response isOpen there
    simp only [Json.obj.injEq, cons.injEq, Prod.mk.injEq, true_and, and_true,
      Json.arr.injEq] at answer
    have entry : results[i]? = some (responseEntry response) := by
      rw [← answer, getElem?_map, fill_getElem?, isOpen]
      simp [there, filledEntry, fetchedEntry]
    rcases each i _ entry with ⟨reason, failed⟩ | own
    · simp [responseEntry, errorEntry] at failed
    · exact own
  · intro owns
    refine ⟨_, rfl, by simp [sized], ?_⟩
    intro i entry at_
    rw [getElem?_map, fill_getElem?, Option.map_map, map_eq_some_iff] at at_
    obtain ⟨slot, isSlot, rfl⟩ := at_
    cases slot with
    | some reason => exact Or.inl ⟨reason, rfl⟩
    | none =>
      simp only [Function.comp, filledEntry, Nat.zero_add]
      cases there : responses[openBefore slots i]?.join with
      | none => exact Or.inl ⟨_, rfl⟩
      | some response =>
        rw [join_eq_some_iff] at there
        exact Or.inr (owns i response isSlot there)

theorem planBatch_args (items : List Json) :
    (planBatch engine 0 items).fetches.map PlannedFetch.args =
      (batchFetches engine items).map Prod.fst := by
  rw [← planBatch_fetches 0 items, List.map_map]
  rfl

theorem planBatch_fetches_eq_nil (items : List Json) :
    (planBatch engine 0 items).fetches = [] ↔ batchFetches engine items = [] := by
  rw [← planBatch_fetches 0 items, map_eq_nil_iff]

theorem doBatch_of_fetchAll {responses : List Fetched} (some_ : batchFetches engine items ≠ [])
    (fetched : service.fetchAll ((batchFetches engine items).map Prod.fst) = .ok responses) :
    doBatch engine service items = .obj [(lit "q", .arr
      ((fill (responses.map some) 0 (itemSlots engine items)).map filledEntry))] := by
  rw [doBatch, fetchPlanned, if_neg (mt (planBatch_fetches_eq_nil items).mp some_),
    planBatch_args, fetched]
  simp only
  rw [mergeResults_eq_fill (by simp [itemSlots]) fun n => planBatch_lookup 0 n items]

theorem doBatch_of_replay (some_ : batchFetches engine items ≠ [])
    (failed : service.fetchAll ((batchFetches engine items).map Prod.fst) = .error reason) :
    doBatch engine service items = .obj [(lit "q", .arr
      ((fill (aloneResponses engine service items) 0 (spread (itemSlots engine items)
        ((aloneOutcomes service 0 (batchFetches engine items)).map failureOf))).map
          filledEntry))] := by
  rw [doBatch, fetchPlanned, if_neg (mt (planBatch_fetches_eq_nil items).mp some_),
    planBatch_args, failed]
  simp only
  rw [mergeResults_eq_fill (by simp [itemSlots]) fun n => replayBatch_lookup 0 0 n items,
    replayBatch_responses, planBatch_fetches]
  rfl

theorem doBatch_of_nothing (nothing : batchFetches engine items = []) :
    doBatch engine service items = .obj [(lit "q", .arr
      ((fill [] 0 (itemSlots engine items)).map filledEntry))] := by
  rw [doBatch, fetchPlanned, if_pos ((planBatch_fetches_eq_nil items).mpr nothing)]
  simp only
  rw [mergeResults_eq_fill (by simp [itemSlots]) fun n => planBatch_lookup 0 n items]

theorem openBefore_failures {outcomes : List (Except Text Fetched)} (j : Nat) :
    openBefore (outcomes.map failureOf) j =
      (((outcomes.map Except.toOption).take j).filterMap id).length := by
  induction outcomes generalizing j with
  | nil => simp [openBefore]
  | cons outcome rest ih =>
    cases j with
    | zero => rfl
    | succ j => cases outcome <;> simp [failureOf, Except.toOption, ih]

theorem aloneResponses_getElem? {j : Nat} {response : Fetched} :
    (aloneResponses engine service items)[j]? = some (some response) ↔
      ∃ fetch, (batchFetches engine items)[j]? = some fetch ∧
        replayFetch service j fetch.1 fetch.2 = .ok response := by
  have kept : ∀ outcome : Except Text Fetched, outcome.toOption = some response ↔
      outcome = .ok response := by
    intro outcome
    cases outcome <;> simp [Except.toOption]
  rw [aloneResponses, getElem?_map, aloneOutcomes_getElem?]
  simp [kept]

theorem spread_open_iff :
    (spread (itemSlots engine items)
        ((aloneOutcomes service 0 (batchFetches engine items)).map failureOf))[i]? = some none ↔
      ∃ item fetch own, items[i]? = some item ∧ prepareItem engine item = .ok fetch ∧
        replayFetch service (batchFetches engine (items.take i)).length fetch.1 fetch.2 =
          .ok own := by
  have failure : ∀ {item fetch}, items[i]? = some item → prepareItem engine item = .ok fetch →
      (spread (itemSlots engine items)
        ((aloneOutcomes service 0 (batchFetches engine items)).map failureOf))[i]? =
          some (failureOf (replayFetch service (batchFetches engine (items.take i)).length
            fetch.1 fetch.2)) := by
    intro item fetch found prepared
    have isOpen : (itemSlots engine items)[i]? = some none := by
      simp [itemSlots, found, prepared, failureOf]
    have number := batchFetches_getElem?.mpr ⟨i, item, found, prepared, rfl⟩
    rw [spread_getElem? isOpen, openBefore_itemSlots, getElem?_map, aloneOutcomes_getElem?,
      number, Nat.zero_add]
    rfl
  constructor
  · intro stays
    have isOpen : (itemSlots engine items)[i]? = some none := by
      cases slot : (itemSlots engine items)[i]? with
      | none =>
        rw [getElem?_eq_none (by simpa using slot)] at stays
        cases stays
      | some taken =>
        cases taken with
        | none => rfl
        | some reason =>
          rw [spread_taken slot] at stays
          cases stays
    obtain ⟨item, fetch, found, prepared⟩ := itemSlots_open isOpen
    rw [failure found prepared, some.injEq] at stays
    cases outcome : replayFetch service (batchFetches engine (items.take i)).length fetch.1
        fetch.2 with
    | error reason => simp [outcome, failureOf] at stays
    | ok own => exact ⟨item, fetch, own, found, prepared, outcome⟩
  · rintro ⟨item, fetch, own, found, prepared, outcome⟩
    rw [failure found prepared, outcome]
    rfl

theorem openBefore_replayed :
    openBefore (spread (itemSlots engine items)
        ((aloneOutcomes service 0 (batchFetches engine items)).map failureOf)) i =
      (((aloneResponses engine service items).take
        (batchFetches engine (items.take i)).length).filterMap id).length := by
  have counted : ∀ j (fetches : List (FetchArgs × Text)),
      (aloneOutcomes service j fetches).length = fetches.length := by
    intro j fetches
    induction fetches generalizing j with
    | nil => rfl
    | cons fetch rest ih => simp [aloneOutcomes, ih]
  have enough : openBefore (itemSlots engine items) i ≤
      ((aloneOutcomes service 0 (batchFetches engine items)).map failureOf).length := by
    rw [openBefore_itemSlots, length_map, counted]
    exact ((take_sublist i items).filterMap _).length_le
  rw [openBefore_spread enough, openBefore_itemSlots, openBefore_failures]
  rfl

end

/--
Every item of a batch is given an error or the response of its own fetch, exactly when all fetches
are made at once or no success takes the place of another one.
-/
theorem doBatch_aligned_iff (engine : Engine) (service : UrlFetch) (items : List Json) :
    BatchAligned engine service items (doBatch engine service items) ↔
      NoShift engine service items := by
  by_cases nothing : batchFetches engine items = []
  · rw [doBatch_of_nothing nothing, batchAligned_filled (by simp [itemSlots])]
    refine iff_of_true ?_ (Or.inr ?_)
    · intro i response _ there
      simp at there
    · intro k placed own there
      simp [aloneResponses, nothing, aloneOutcomes] at there
  · cases fetched : service.fetchAll ((batchFetches engine items).map Prod.fst) with
    | ok responses =>
      rw [doBatch_of_fetchAll nothing fetched, batchAligned_filled (by simp [itemSlots])]
      refine iff_of_true ?_ (Or.inl ⟨responses, fetched⟩)
      intro i response isOpen there
      obtain ⟨item, fetch, found, prepared⟩ := itemSlots_open isOpen
      rw [openBefore_itemSlots, getElem?_map, map_eq_some_iff] at there
      obtain ⟨same, there, is⟩ := there
      cases is
      refine ⟨response, ⟨item, fetch.1, fetch.2, found, prepared, ?_⟩, rfl⟩
      simpa only [fetched] using there
    | error reason =>
      rw [doBatch_of_replay nothing fetched, batchAligned_filled (by simp [itemSlots])]
      constructor
      · intro owns
        refine Or.inr ?_
        intro k placed own there success
        obtain ⟨j, value, response, is, counted⟩ := getElem?_filterMap.mp success
        cases is
        obtain ⟨fetch, number, outcome⟩ := aloneResponses_getElem?.mp response
        obtain ⟨i, item, found, prepared, rfl⟩ := batchFetches_getElem?.mp number
        have stays := spread_open_iff.mpr ⟨item, fetch, own, found, prepared, outcome⟩
        obtain ⟨other, ⟨_, args, method, same, again, alone⟩, entries⟩ :=
          owns i placed stays (by rw [openBefore_replayed, counted]; exact there)
        rw [found, some.injEq] at same
        rw [← same, prepared, Except.ok.injEq] at again
        rw [again] at outcome
        simp only [fetched, outcome, Except.ok.injEq] at alone
        rw [entries, alone]
      · rintro (⟨responses, other⟩ | unmoved)
        · simp [fetched] at other
        · intro i placed stays there
          obtain ⟨item, fetch, own, found, prepared, outcome⟩ := spread_open_iff.mp stays
          have number := batchFetches_getElem?.mpr ⟨i, item, found, prepared, rfl⟩
          have response := aloneResponses_getElem?.mpr ⟨fetch, number, outcome⟩
          rw [openBefore_replayed] at there
          refine ⟨own, ⟨item, fetch.1, fetch.2, found, prepared, ?_⟩, ?_⟩
          · simpa only [fetched] using outcome
          · exact unmoved _ placed own there
              (getElem?_filterMap.mpr ⟨_, some own, response, rfl, rfl⟩)

def oneByOne : UrlFetch where
  fetchAll _ := .error (lit "Limit exceeded")
  fetch j _ _ := .ok ⟨200, [], [UInt8.ofNat j]⟩

def relayItem (method url : Text) : Json :=
  .obj [(lit "m", .str method), (lit "u", .str url)]

def mixedItems : List Json :=
  [relayItem (lit "POST") (lit "http://a.example/"),
    relayItem (lit "GET") (lit "http://b.example/"),
    relayItem (lit "GET") (lit "http://c.example/")]

theorem doBatch_shifts :
    doBatch plainEngine oneByOne mixedItems = .obj [(lit "q", .arr
      [errorEntry (lit "batch fetchAll failed; unsafe method not replayed"),
        errorEntry (lit "fetch failed"), responseEntry ⟨200, [], [1]⟩])] ∧
    FetchedFor plainEngine oneByOne mixedItems 1 ⟨200, [], [1]⟩ ∧
    FetchedFor plainEngine oneByOne mixedItems 2 ⟨200, [], [2]⟩ ∧
    ¬ BatchAligned plainEngine oneByOne mixedItems (doBatch plainEngine oneByOne mixedItems) := by
  have answer : doBatch plainEngine oneByOne mixedItems = .obj [(lit "q", .arr
      [errorEntry (lit "batch fetchAll failed; unsafe method not replayed"),
        errorEntry (lit "fetch failed"), responseEntry ⟨200, [], [1]⟩])] := by
    with_unfolding_all rfl
  have second : (batchFetches plainEngine (mixedItems.take 1)).length = 1 := by decide +kernel
  have third : (batchFetches plainEngine (mixedItems.take 2)).length = 2 := by decide +kernel
  refine ⟨answer, ?_, ?_, ?_⟩
  · refine ⟨_, _, _, rfl, by with_unfolding_all rfl, ?_⟩
    with_unfolding_all rfl
  · refine ⟨_, _, _, rfl, by with_unfolding_all rfl, ?_⟩
    with_unfolding_all rfl
  · rw [answer]
    rintro ⟨results, is, -, each⟩
    simp only [Json.obj.injEq, cons.injEq, Prod.mk.injEq, true_and, and_true,
      Json.arr.injEq] at is
    rcases each 2 (responseEntry ⟨200, [], [1]⟩) (by rw [← is]; rfl) with
      ⟨reason, failed⟩ | ⟨own, ⟨item, args, method, -, -, alone⟩, same⟩
    · simp [responseEntry, errorEntry] at failed
    · -- Whatever the third fetch asks for, its response has the number two.
      rw [third] at alone
      simp only [oneByOne, replayFetch] at alone
      split at alone
      · cases alone
        simp [responseEntry, Base64.encode] at same
        exact absurd same (by decide)
      · cases alone

end Gvpn
