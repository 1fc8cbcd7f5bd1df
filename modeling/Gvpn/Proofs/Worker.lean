import Gvpn.AppsScript.Worker
import Gvpn.Data.JsonLaws
import Mathlib.Data.List.Forall2

/-! Batches behind a worker keep their order, an object one value per field. -/

namespace Gvpn

open List Option

section

variable {value : Json}

theorem wellFormed_errorEntry (reason : Text) : (errorEntry reason).WellFormed :=
  .obj (by simpa using Json.WellFormed.str reason)

theorem wellFormed_of_get {key : Text} {found : Json} (wellFormed : value.WellFormed)
    (is : value.get key = some found) : found.WellFormed := by
  cases wellFormed with
  | obj each =>
    obtain ⟨member, first, rfl⟩ := Option.map_eq_some_iff.mp is
    exact each member (List.mem_reverse.mp (mem_of_find?_eq_some first))
  | _ => cases is

theorem wellFormed_member (engine : Engine) (key : Text) (wellFormed : value.WellFormed) :
    ((engine.member value key).getD .null).WellFormed := by
  unfold Engine.member
  cases found : (value.get key).filter engine.truthy with
  | none => exact .null
  | some inner => exact wellFormed_of_get wellFormed (Option.filter_eq_some_iff.mp found).1

theorem wellFormed_ownEntries (wellFormed : value.WellFormed) :
    ∀ entry ∈ ownEntries value, entry.2.WellFormed := by
  intro entry inside
  cases wellFormed with
  | arr each =>
    obtain ⟨⟨item, i⟩, numbered, rfl⟩ := List.mem_map.mp inside
    exact each item (fst_mem_of_mem_zipIdx numbered)
  | obj each =>
    obtain ⟨name, -, found⟩ := List.mem_filterMap.mp inside
    obtain ⟨inner, is, rfl⟩ := Option.map_eq_some_iff.mp found
    exact wellFormed_of_get (.obj each) is
  | _ => cases inside

end

def IsErrorEntry (entry : Json) : Prop := ∃ reason, entry = .obj [(lit "e", reason)]

def WorkerPost.received (post : WorkerPost) : WorkerRequest where
  method := lit "POST"
  relayHop := none
  body := post.payload

def Worker.reply (worker : Worker) (post : WorkerPost) : WorkerReply where
  code := (worker.answer post.received).1
  text := (worker.answer post.received).2.write

def Delivered (worker : Worker) (post : WorkerPost) (reply : WorkerReply) : Prop :=
  reply = worker.reply post ∨
    ∀ entries, (Json.read reply.text).bind (Json.get (lit "q")) ≠ some (.arr entries)

namespace WorkerScript

structure Reaches (script : WorkerScript) (worker : Worker) : Prop where
  fetch {post : WorkerPost} {reply : WorkerReply} :
    script.fetch post = .ok reply → Delivered worker post reply
  fetchAll {posts : List WorkerPost} {replies : List WorkerReply} :
    script.fetchAll posts = .ok replies → List.Forall₂ (Delivered worker) posts replies

structure Sendable (script : WorkerScript) (item : Json) : Prop where
  method {value : Json} : script.engine.member item (lit "m") = some value →
    ∃ text, value = .str text
  headers {fields : Json} : (item.get (lit "h")).filter isObject = some fields →
    fields.get (lit "hasOwnProperty") = none

def Answers (worker : Worker) (normal entry : Json) : Prop :=
  IsErrorEntry entry ∨ worker.processOne normal = .ok entry

def AnswersItem (script : WorkerScript) (worker : Worker) (item entry : Json) : Prop :=
  IsErrorEntry entry ∨ ∃ url normal, script.itemAddress item = .ok (some url) ∧
    script.normalizeItem url item = .ok normal ∧ worker.processOne normal = .ok entry

variable {script : WorkerScript} {worker : Worker} {item normal : Json} {url : Text}

theorem normalizeItem_eq_ok_iff : script.normalizeItem url item = .ok normal ↔
    ∃ method headers, upperMethod script.engine item = .ok method ∧
      script.scrubHeaders (item.get (lit "h")) = .ok headers ∧
      normal = .obj [(lit "u", .str url), (lit "m", .str method), (lit "h", .obj headers),
        (lit "b", (script.engine.member item (lit "b")).getD .null),
        (lit "ct", (script.engine.member item (lit "ct")).getD .null),
        (lit "r", .bool (buildOpts.followsRedirects item))] := by
  unfold normalizeItem
  cases upperMethod script.engine item with
  | error reason => simp
  | ok method =>
    cases script.scrubHeaders (item.get (lit "h")) with
    | error reason => simp
    | ok headers => simp [eq_comm]

theorem wellFormed_normalizeItem (wellFormed : item.WellFormed)
    (normalized : script.normalizeItem url item = .ok normal) : normal.WellFormed := by
  obtain ⟨method, headers, -, scrubbed, rfl⟩ := normalizeItem_eq_ok_iff.mp normalized
  have fields : ∀ field ∈ headers, field.2.WellFormed := by
    unfold scrubHeaders at scrubbed
    split at scrubbed
    · cases scrubbed
      simp
    · rename_i fields given
      split at scrubbed
      · cases scrubbed
      · cases scrubbed
        intro field kept
        have inner := wellFormed_of_get wellFormed (Option.filter_eq_some_iff.mp given).1
        exact wellFormed_ownEntries inner field (List.mem_filter.mp kept).1
  refine .obj ?_
  simp only [forall_mem_cons]
  exact ⟨.str url, .str method, .obj fields, wellFormed_member _ _ wellFormed,
    wellFormed_member _ _ wellFormed, .bool _, by simp⟩

theorem exists_normalizeItem_iff :
    (∃ normal, script.normalizeItem url item = .ok normal) ↔ script.Sendable item := by
  simp only [normalizeItem_eq_ok_iff]
  constructor
  · rintro ⟨-, method, headers, named, scrubbed, -⟩
    constructor
    · intro value is
      unfold upperMethod at named
      rw [is] at named
      cases value <;> first | exact ⟨_, rfl⟩ | cases named
    · intro fields is
      unfold scrubHeaders at scrubbed
      rw [is] at scrubbed
      by_contra hidden
      simp [Option.isSome_iff_ne_none.mpr hidden] at scrubbed
  · intro sendable
    obtain ⟨method, named⟩ : ∃ method, upperMethod script.engine item = .ok method := by
      unfold upperMethod
      split
      · exact ⟨_, rfl⟩
      · exact ⟨_, rfl⟩
      · rename_i value other is
        obtain ⟨text, same⟩ := sendable.method is
        exact absurd same (other text)
    obtain ⟨headers, scrubbed⟩ : ∃ headers,
        script.scrubHeaders (item.get (lit "h")) = .ok headers := by
      unfold scrubHeaders
      split
      · exact ⟨_, rfl⟩
      · rename_i fields given
        exact ⟨_, if_neg (by simp [sendable.headers given])⟩
    exact ⟨_, method, headers, named, scrubbed, rfl⟩

/-! The worker answers each item of a request in its place. -/

theorem wellFormed_processOne {entry : Json} (processed : worker.processOne item = .ok entry) :
    entry.WellFormed := by
  unfold Worker.processOne at processed
  repeat' split at processed
  all_goals cases processed
  all_goals try exact wellFormed_errorEntry _
  -- What is left is the entry for a response.
  refine .obj ?_
  simp only [forall_mem_cons]
  refine ⟨Json.wellFormed_decimal _, .obj ?_, .str _, by simp⟩
  intro field inside
  obtain ⟨copied, -, rfl⟩ := List.mem_map.mp inside
  exact .str copied.2

theorem wellFormed_settled (worker : Worker) (item : Json) : (worker.settled item).WellFormed := by
  unfold Worker.settled
  split
  · exact wellFormed_processOne ‹_›
  · exact wellFormed_errorEntry _

theorem answers_settled (worker : Worker) (normal : Json) :
    Answers worker normal (worker.settled normal) := by
  unfold Worker.settled
  split
  · exact .inr ‹_›
  · exact .inl ⟨_, rfl⟩

variable {chunk : List Json}

theorem reply_cases (wellFormed : ∀ item ∈ chunk, item.WellFormed) :
    ∃ body, (worker.reply (script.workerFetchOptions chunk)).text = Json.write body ∧
      ((∃ reason, body = errorEntry reason) ∨
        body = .obj [(lit "q", .arr (chunk.map worker.settled))]) := by
  refine ⟨(worker.answer (script.workerFetchOptions chunk).received).2, rfl, ?_⟩
  unfold Worker.answer
  split
  · exact .inl ⟨_, rfl⟩
  · have envelope : (Json.obj [(lit "k", .str script.authKey), (lit "q", .arr chunk)]).WellFormed :=
      .obj (by simp [Json.WellFormed.str, Json.WellFormed.arr wellFormed])
    rw [if_neg (by simp [WorkerPost.received]), if_neg (by simp [WorkerPost.received])]
    simp only [WorkerPost.received, workerFetchOptions, Json.read_write envelope]
    split
    · exact .inl ⟨_, rfl⟩
    · have batch : (Json.obj [(lit "k", .str script.authKey), (lit "q", .arr chunk)]).get
          (lit "q") = some (.arr chunk) := by
        simp [Json.get]
      unfold Worker.serve
      rw [batch]
      dsimp only
      split
      · exact .inl ⟨_, rfl⟩
      · exact .inr rfl

theorem get_errorEntry (reason : Text) : (errorEntry reason).get (lit "q") = none := by
  have other : lit "e" ≠ lit "q" := by with_unfolding_all decide
  simp [errorEntry, Json.get, other]

theorem forall₂_replicate {entry : Json} (error : IsErrorEntry entry) (items : List Json) :
    List.Forall₂ (Answers worker) items (List.replicate items.length entry) := by
  induction items with
  | nil => exact .nil
  | cons first rest ih => exact .cons (.inl error) ih

theorem chunkResults_noList {reply : WorkerReply}
    (noList : ∀ entries, (parseWorkerJson reply).get (lit "q") ≠ some (.arr entries)) :
    List.Forall₂ (Answers worker) chunk (script.chunkResults chunk reply) := by
  unfold chunkResults
  dsimp only
  split
  · rename_i entries is
    exact absurd is (noList entries)
  · split
    · exact forall₂_replicate ⟨_, rfl⟩ chunk
    · exact forall₂_replicate ⟨_, rfl⟩ chunk

theorem chunkResults_delivered {reply : WorkerReply}
    (wellFormed : ∀ item ∈ chunk, item.WellFormed)
    (delivered : Delivered worker (script.workerFetchOptions chunk) reply) :
    List.Forall₂ (Answers worker) chunk (script.chunkResults chunk reply) := by
  rcases delivered with rfl | noList
  · obtain ⟨body, text, error | list⟩ := @reply_cases script worker _ wellFormed
    · obtain ⟨reason, rfl⟩ := error
      apply chunkResults_noList
      intro entries
      rw [parseWorkerJson, text, Json.read_write (wellFormed_errorEntry reason)]
      simp [get_errorEntry]
    · have entries : body.WellFormed := by
        rw [list]
        exact .obj (by simp [Json.WellFormed.arr, wellFormed_settled])
      have parsed : parseWorkerJson (worker.reply (script.workerFetchOptions chunk)) = body := by
        rw [parseWorkerJson, text, Json.read_write entries]
        rfl
      have found : body.get (lit "q") = some (.arr (chunk.map worker.settled)) := by
        rw [list]
        simp [Json.get]
      unfold chunkResults
      simp only [parsed, found]
      rw [forall₂_map_right_iff, forall₂_same]
      exact fun normal _ => answers_settled worker normal
  · apply chunkResults_noList
    intro entries is
    unfold parseWorkerJson at is
    cases read : Json.read reply.text with
    | none =>
      rw [read] at is
      simp [get_errorEntry] at is
    | some value =>
      rw [read] at is
      exact noList entries (by rw [read]; exact is)

theorem results_delivered {parts : List (List Json)} {replies : List WorkerReply}
    (wellFormed : ∀ item ∈ parts.flatten, item.WellFormed)
    (delivered : List.Forall₂ (Delivered worker) (parts.map script.workerFetchOptions) replies) :
    List.Forall₂ (Answers worker) parts.flatten
      (List.zipWith script.chunkResults parts replies).flatten := by
  rw [forall₂_map_left_iff] at delivered
  induction delivered with
  | nil => exact .nil
  | cons here _ ih =>
    simp only [flatten_cons, forall_mem_append] at wellFormed
    exact rel_append (chunkResults_delivered wellFormed.1 here) (ih wellFormed.2)

theorem chunks_flatten {rounds : Nat} {items : List Json} (enough : items.length ≤ rounds) :
    (chunks rounds items).flatten = items := by
  induction rounds generalizing items with
  | zero =>
    rw [List.length_eq_zero_iff.mp (Nat.le_zero.mp enough)]
    rfl
  | succ rounds ih =>
    cases items with
    | nil => rfl
    | cons first rest =>
      have shorter : ((first :: rest).drop workerBatchChunk).length ≤ rounds := by
        have most : workerBatchChunk = 40 := rfl
        rw [length_drop]
        omega
      rw [chunks, flatten_cons, ih shorter, take_append_drop]
      simp

theorem forall₂_postAll {posts : List WorkerPost} {replies : List WorkerReply}
    (reaches : script.Reaches worker) (posted : script.postAll posts = .ok replies) :
    List.Forall₂ (Delivered worker) posts replies := by
  unfold postAll at posted
  split at posted
  · rename_i post
    cases fetched : script.fetch post with
    | error reason =>
      rw [fetched] at posted
      cases posted
    | ok reply =>
      rw [fetched] at posted
      cases posted
      exact .cons (reaches.fetch fetched) .nil
  · exact reaches.fetchAll posted

theorem forall₂_workerResults (reaches : script.Reaches worker) {validItems : List Json}
    (wellFormed : ∀ item ∈ validItems, item.WellFormed) :
    List.Forall₂ (Answers worker) validItems (script.workerResults validItems) := by
  unfold workerResults
  split
  · rename_i empty
    rw [List.isEmpty_iff.mp empty]
    exact .nil
  · dsimp only
    split
    · exact forall₂_replicate ⟨_, rfl⟩ validItems
    · rename_i replies posted
      have whole := chunks_flatten (Nat.le_refl validItems.length)
      have results := results_delivered (by rwa [whole]) (forall₂_postAll reaches posted)
      rwa [whole] at results

/-! The entries are put back into the places of their items. -/

variable {items validItems : List Json} {errorMap : List (Nat × Text)} {i : Nat}

theorem sortItems_cons_iff : script.sortItems i (item :: items) = .ok (validItems, errorMap) ↔
    (script.itemAddress item = .ok none ∧ ∃ rest, errorMap = (i, lit "bad url") :: rest ∧
      script.sortItems (i + 1) items = .ok (validItems, rest)) ∨
    (∃ url normal rest, script.itemAddress item = .ok (some url) ∧
      script.normalizeItem url item = .ok normal ∧ validItems = normal :: rest ∧
      script.sortItems (i + 1) items = .ok (rest, errorMap)) := by
  rw [sortItems]
  cases script.itemAddress item with
  | error reason => simp
  | ok address =>
    cases address with
    | none =>
      simp only [ok_bind]
      cases script.sortItems (i + 1) items with
      | error reason => simp
      | ok sorted => simp [Prod.ext_iff, eq_comm, and_comm]
    | some url =>
      simp only [ok_bind]
      cases named : script.normalizeItem url item with
      | error reason => simp [named]
      | ok normal =>
        cases script.sortItems (i + 1) items with
        | error reason => simp
        | ok sorted => simp [named, Prod.ext_iff, eq_comm, and_comm]

theorem exists_sortItems_iff (objects : ∀ item ∈ items, ∃ members, item = .obj members) :
    (∃ sorted, script.sortItems i items = .ok sorted) ↔
      ∀ item ∈ items, ∀ url, script.itemAddress item = .ok (some url) → script.Sendable item := by
  induction items generalizing i with
  | nil => simp [sortItems]
  | cons first rest ih =>
    rw [forall_mem_cons] at objects ⊢
    rw [← @ih (i + 1) objects.2]
    simp only [Prod.exists, sortItems_cons_iff]
    constructor
    · rintro ⟨validItems, errorMap, ⟨unaddressed, errors, -, sorted⟩ |
        ⟨url, normal, valid, -, normalized, -, sorted⟩⟩
      · exact ⟨fun url is => by simp [unaddressed] at is, _, _, sorted⟩
      · exact ⟨fun _ _ => exists_normalizeItem_iff.mp ⟨normal, normalized⟩, _, _, sorted⟩
    · rintro ⟨sendable, validItems, errorMap, sorted⟩
      obtain ⟨members, rfl⟩ := objects.1
      obtain ⟨address, is⟩ : ∃ address, script.itemAddress (.obj members) = .ok address := by
        unfold itemAddress
        split
        · contradiction
        · split <;> exact ⟨_, rfl⟩
      cases address with
      | none => exact ⟨_, _, .inl ⟨is, _, rfl, sorted⟩⟩
      | some url =>
        obtain ⟨normal, normalized⟩ := exists_normalizeItem_iff.mpr (sendable url is)
        exact ⟨_, _, .inr ⟨url, normal, _, is, normalized, rfl, sorted⟩⟩

theorem wellFormed_sortItems (wellFormed : ∀ item ∈ items, item.WellFormed)
    (sorted : script.sortItems i items = .ok (validItems, errorMap)) :
    ∀ normal ∈ validItems, normal.WellFormed := by
  induction items generalizing i validItems errorMap with
  | nil =>
    cases sorted
    simp
  | cons first rest ih =>
    rw [forall_mem_cons] at wellFormed
    rcases sortItems_cons_iff.mp sorted with ⟨-, errors, -, later⟩ |
      ⟨url, normal, valid, -, normalized, rfl, later⟩
    · exact ih wellFormed.2 later
    · rw [forall_mem_cons]
      exact ⟨wellFormed_normalizeItem wellFormed.1 normalized, ih wellFormed.2 later⟩

theorem lookup_sortItems (sorted : script.sortItems i items = .ok (validItems, errorMap)) {j : Nat}
    (before : j < i) : errorMap.lookup j = none := by
  induction items generalizing i validItems errorMap with
  | nil =>
    cases sorted
    rfl
  | cons first rest ih =>
    rcases sortItems_cons_iff.mp sorted with ⟨-, errors, rfl, later⟩ |
      ⟨url, normal, valid, -, -, -, later⟩
    · rw [lookup_cons, beq_false_of_ne (Nat.ne_of_lt before)]
      exact ih later (Nat.lt_succ_of_lt before)
    · exact ih later (Nat.lt_succ_of_lt before)

theorem forall₂_reassemble {allErrors : List (Nat × Text)} {results : List Json} {wi : Nat}
    (sorted : script.sortItems i items = .ok (validItems, errorMap))
    (same : ∀ j ≥ i, allErrors.lookup j = errorMap.lookup j)
    (answers : List.Forall₂ (Answers worker) validItems (results.drop wi)) :
    List.Forall₂ (script.AnswersItem worker) items
      (script.reassemble allErrors results i wi items) := by
  induction items generalizing i wi validItems errorMap with
  | nil => exact .nil
  | cons first rest ih =>
    rw [reassemble]
    have here := same i (Nat.le_refl i)
    rcases sortItems_cons_iff.mp sorted with ⟨-, errors, rfl, later⟩ |
      ⟨url, normal, valid, is, normalized, rfl, later⟩
    · rw [lookup_cons_self] at here
      rw [here]
      refine .cons (.inl ⟨_, rfl⟩) (ih later ?_ answers)
      intro j behind
      rw [same j (Nat.le_of_succ_le behind), lookup_cons,
        beq_false_of_ne (Nat.ne_of_gt behind)]
    · rw [lookup_sortItems later (Nat.lt_succ_self i)] at here
      rw [here]
      obtain ⟨entry, left, answer, others, dropped⟩ := List.forall₂_cons_left_iff.mp answers
      have next : results[wi]? = some entry := by
        rw [← Nat.add_zero wi, ← getElem?_drop, dropped]
        rfl
      rw [next]
      refine .cons ?_ (ih later (fun j behind => same j (Nat.le_of_succ_le behind)) ?_)
      · -- An entry that does not count as true is replaced by an error.
        by_cases counts : script.engine.truthy entry = true
        · rw [filter_some, if_pos counts]
          exact answer.imp id fun processed => ⟨url, normal, is, normalized, processed⟩
        · rw [filter_some, if_neg counts]
          exact .inl ⟨_, rfl⟩
      · rw [← drop_drop, dropped]
        exact others

end WorkerScript

/--
The script and the worker answer a batch of objects with one entry per item, in their order, exactly
if each item with an address can be brought into the form for the worker.
-/
theorem worker_batch_aligned_iff {script : WorkerScript} {worker : Worker}
    (reaches : script.Reaches worker) {items : List Json}
    (objects : ∀ item ∈ items, ∃ members, item = .obj members)
    (wellFormed : ∀ item ∈ items, item.WellFormed) :
    (∃ entries, script.doBatch items = .ok (.obj [(lit "q", .arr entries)]) ∧
      List.Forall₂ (script.AnswersItem worker) items entries) ↔
    ∀ item ∈ items, ∀ url, script.itemAddress item = .ok (some url) → script.Sendable item := by
  rw [← @WorkerScript.exists_sortItems_iff script _ 0 objects]
  unfold WorkerScript.doBatch
  cases sorted : script.sortItems 0 items with
  | error reason => simp
  | ok both =>
    refine iff_of_true ⟨_, rfl, ?_⟩ ⟨_, rfl⟩
    apply WorkerScript.forall₂_reassemble sorted (fun _ _ => rfl)
    exact WorkerScript.forall₂_workerResults reaches
      (WorkerScript.wellFormed_sortItems wellFormed sorted)

def emptyPages : Worker where
  authKey := lit "key"
  selfHost := lit "worker"
  engine := plainEngine
  parseUrl url := some (url, url)
  fieldOf name value := value.asStr.map fun text => (name, text)
  atob value := value.asStr.bind Base64.decode
  fetch _ := .ok (.ok ⟨200, [], []⟩)

def emptyPagesScript : WorkerScript where
  authKey := lit "key"
  workerUrl := lit "https://worker"
  engine := plainEngine
  noAddress := lit "TypeError"
  fetch post := .ok (emptyPages.reply post)
  fetchAll posts := .ok (posts.map emptyPages.reply)

theorem worker_batch_aligned_pair :
    (lit "http://a/").length = 9 ∧
      ∃ entries, emptyPagesScript.doBatch [.obj [], .obj [(lit "u", .str (lit "http://a/"))]] =
          .ok (.obj [(lit "q", .arr entries)]) ∧
        List.Forall₂ (emptyPagesScript.AnswersItem emptyPages)
          [.obj [], .obj [(lit "u", .str (lit "http://a/"))]] entries := by
  refine ⟨by with_unfolding_all rfl, (worker_batch_aligned_iff ⟨?_, ?_⟩ ?_ ?_).mpr ?_⟩
  · intro post reply is
    exact .inl (Except.ok.inj is).symm
  · intro posts replies is
    rw [← Except.ok.inj is, forall₂_map_right_iff, forall₂_same]
    exact fun _ _ => .inl rfl
  · simp
  · simp only [forall_mem_cons]
    exact ⟨.obj (by simp), .obj (by simpa using Json.WellFormed.str _), by simp⟩
  · have others : lit "u" ≠ lit "m" ∧ lit "u" ≠ lit "h" := by with_unfolding_all decide
    intro item inside url _
    constructor
    · intro value is
      simp only [mem_cons, not_mem_nil, or_false] at inside
      rcases inside with rfl | rfl <;> simp [Engine.member, Json.get, others] at is
    · intro fields is
      simp only [mem_cons, not_mem_nil, or_false] at inside
      rcases inside with rfl | rfl <;> simp [Json.get, others] at is

theorem batch_ended_by_field :
    (emptyPagesScript.doBatch [.obj [(lit "u", .str (lit "http://a/"))]]).isOk = true ∧
      (emptyPagesScript.doBatch [.obj [(lit "u", .str (lit "http://a/"))],
        .obj [(lit "u", .str (lit "http://b/")),
          (lit "h", .obj [(lit "hasOwnProperty", .str (lit "1"))])]]).isOk = false := by
  with_unfolding_all decide

theorem exists_lookup_copied {skip : Text → Prop} [DecidablePred skip] {name : Text}
    (passed : ¬ skip name) {headers : List (Text × Text)}
    (given : ∃ value, (name, value) ∈ headers) :
    ∃ value, (name, value) ∈ headers ∧
      (headers.foldl (fun copied field =>
        if skip field.1 then copied else assign field.1 field.2 copied) []).lookup name =
          some value := by
  induction headers using List.reverseRecOn with
  | nil => simp at given
  | append_singleton headers last ih =>
    rw [foldl_concat]
    by_cases here : name = last.1
    · subst here
      refine ⟨last.2, by simp, ?_⟩
      rw [if_neg passed, lookup_assign, if_pos rfl]
    · obtain ⟨value, inside⟩ := given
      have before : (name, value) ∈ headers := by
        rcases List.mem_append.mp inside with earlier | isLast
        · exact earlier
        · exact absurd (congrArg Prod.fst (List.mem_singleton.mp isLast)) here
      obtain ⟨kept, member, is⟩ := ih ⟨value, before⟩
      refine ⟨kept, mem_append_left _ member, ?_⟩
      split
      · exact is
      · rw [lookup_assign, if_neg here, is]

def KeepsCookies (headers copied : List (Text × Text)) : Prop :=
  ∀ value, (lit "set-cookie", value) ∈ headers → copied.lookup (lit "set-cookie") = some value

def OneCookie (headers : List (Text × Text)) : Prop :=
  ∀ value other, (lit "set-cookie", value) ∈ headers → (lit "set-cookie", other) ∈ headers →
    value = other

theorem keepsCookies_iff {skip : Text → Prop} [DecidablePred skip]
    (passed : ¬ skip (lit "set-cookie")) (headers : List (Text × Text)) :
    KeepsCookies headers (headers.foldl (fun copied field =>
      if skip field.1 then copied else assign field.1 field.2 copied) []) ↔ OneCookie headers := by
  constructor
  · intro keeps value other inside alsoInside
    exact some.inj ((keeps value inside).symm.trans (keeps other alsoInside))
  · intro one value inside
    obtain ⟨kept, member, is⟩ := exists_lookup_copied passed ⟨value, inside⟩
    rw [is, one kept value member inside]

theorem cookies_kept_iff (headers : List (Text × Text)) :
    (KeepsCookies headers (Worker.responseHeaders headers) ↔ OneCookie headers) ∧
      (KeepsCookies headers (exitHeaders headers) ↔ OneCookie headers) := by
  constructor
  · have passed : ¬ lit "set-cookie" = lit "__proto__" := by with_unfolding_all decide
    exact @keepsCookies_iff (· = lit "__proto__") _ passed headers
  · have passed : ¬ (lower (lit "set-cookie") = lit "content-encoding" ∨
        lower (lit "set-cookie") = lit "content-length") := by
      with_unfolding_all decide
    exact @keepsCookies_iff (fun name => lower name = lit "content-encoding" ∨
      lower name = lit "content-length") _ passed headers

theorem first_cookie_overwritten :
    Worker.responseHeaders [(lit "set-cookie", lit "a=1"), (lit "set-cookie", lit "b=2")] =
        [(lit "set-cookie", lit "b=2")] ∧
      exitHeaders [(lit "set-cookie", lit "a=1"), (lit "set-cookie", lit "b=2")] =
        [(lit "set-cookie", lit "b=2")] := by
  with_unfolding_all decide

end Gvpn
