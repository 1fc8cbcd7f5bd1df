import Gvpn.AppsScript.TunnelBatch
import Gvpn.Data.JsonLaws

/-! Every operation of a tunnel batch gets its own result back. -/

namespace Gvpn

open List Option

section

variable (engine : Engine) (services : BatchServices) (ops : List Json)

/-- The operation at a position is a query that has been prepared. -/
def AsksAt (i : Nat) (prep : Prepared) : Prop :=
  ∃ op d, ops[i]? = some op ∧ dnsQuery engine op = some d ∧
    engine.base64Decode d = .ok prep.bytes ∧ edgeDnsPrepare engine services.sha256 d = some prep

/-- A resolver gives a reply to the query of the operation at a position. -/
def Resolves (i : Nat) (prep : Prepared) (message : Bytes) : Prop :=
  ∃ url ∈ edgeDnsResolvers, edgeDnsDoh (services.doh i) url prep.bytes = some message

/-- An entry of the cache, or the reply of a resolver to a query of the batch with the same key. -/
def EntryUnder (key text : Text) : Prop :=
  (∃ keys entries, key ∈ keys ∧ services.getAll keys = some entries ∧
      entries.lookup key = some text) ∨
    ∃ k prep reply, AsksAt engine services ops k prep ∧ prep.key = key ∧
      Resolves services k prep reply ∧ text = Base64.encode reply

/--
A result is the answer to the query at a position: what a resolver gave to that query or what was
stored under its key, with the id of the query.
-/
def DnsAnswerFor (i : Nat) (result : Json) : Prop :=
  ∃ prep message sid packet, AsksAt engine services ops i prep ∧
    (Resolves services i prep message ∨
      ∃ text, EntryUnder engine services ops prep.key text ∧ cachedReply engine text = some message) ∧
    result = edgeDnsResult sid packet ∧ 12 ≤ packet.length ∧
    wordAt packet 0 = wordAt prep.bytes 0 ∧ packet.drop 2 = message.drop 2

end

structure NodeAnswers (node : Json → Except Text (Nat × Text))
    (readReply : Text → Option (List Json)) (answers : List Json → List Json) : Prop where
  responds : ∀ request, ∃ code text, node request = .ok (code, text)
  counts : ∀ ops, (answers ops).length = ops.length
  carries : ∀ ops zc text, node (batchRequest ops zc) = .ok (200, text) →
    readReply text = some (answers ops)
  plain : ∀ ops text, node (batchRequest ops none) = .ok (200, text) →
    ∃ reply, Json.read text = some reply ∧ reply.get (lit "r") = some (.arr (answers ops))

/--
The results of a batch, without holes: what the tunnel node gave for the operations that were
forwarded, and for the others an answer to their own query.
-/
def Spliced (engine : Engine) (services : BatchServices) (answers : List Json → List Json)
    (ops results : List Json) : Prop :=
  results.length = ops.length ∧ ∃ forwarded : List (Nat × Json),
    (forwarded.map Prod.fst).Nodup ∧ (∀ i op, (i, op) ∈ forwarded → ops[i]? = some op) ∧
    (∀ (j i : Nat) op, forwarded[j]? = some (i, op) →
      ∃ result, results[i]? = some result ∧
        (answers (forwarded.map Prod.snd))[j]? = some result) ∧
    ∀ (i : Nat) op, ops[i]? = some op → i ∉ forwarded.map Prod.fst →
      ∃ result, results[i]? = some result ∧ DnsAnswerFor engine services ops i result

def outputResults (readReply : Text → Option (List Json)) : BatchOutput → Option (List Json)
  | .json value =>
    match value.get (lit "r") with
    | some (.arr results) => some results
    | _ => none
  | .passed text => readReply text

theorem outputResults_batchResultsJson (readReply : Text → Option (List Json))
    (results : List (Option Json)) :
    outputResults readReply (batchResultsJson results) =
      some (results.map fun result => result.getD .null) := by
  simp [outputResults, batchResultsJson, Json.get]

theorem byteAt_lt (bytes : Bytes) (i : Nat) : byteAt bytes i < 256 := by
  unfold byteAt
  cases bytes[i]? with
  | none => decide
  | some byte => simpa using byte.toNat_lt

theorem wordAt_dnsRewriteTxid {txid : Nat} (small : txid < 65536) (bytes : Bytes) :
    wordAt (dnsRewriteTxid bytes txid) 0 = txid := by
  simp only [wordAt, byteAt, dnsRewriteTxid, getElem?_cons_zero, map_some,
    getD_some, Nat.zero_add, getElem?_cons_succ, UInt8.toNat_ofNat']
  omega

theorem dnsRewriteTxid_length {bytes : Bytes} (two : 2 ≤ bytes.length) (txid : Nat) :
    (dnsRewriteTxid bytes txid).length = bytes.length := by
  simp only [dnsRewriteTxid, length_cons, length_drop]
  omega

section

variable {engine : Engine}

variable {prep : Prepared} {i : Nat}

/-- What is prepared are the bytes of the query, and the id they begin with. -/
theorem edgeDnsPrepare_txid {sha256 : Text → Bytes} {d : Json}
    (prepared : edgeDnsPrepare engine sha256 d = some prep) :
    engine.base64Decode d = .ok prep.bytes ∧ prep.question.txid = wordAt prep.bytes 0 := by
  unfold edgeDnsPrepare at prepared
  cases decoded : engine.base64Decode d with
  | error reason => simp [decoded] at prepared
  | ok query =>
    simp only [decoded] at prepared
    split at prepared
    · cases prepared
    · cases parsed : dnsParseQuestion query with
      | none => simp [parsed] at prepared
      | some question =>
        have txid : question.txid = wordAt query 0 := by
          unfold dnsParseQuestion at parsed
          split at parsed
          · cases parsed
          · split at parsed
            · cases parsed
            · split at parsed
              · cases parsed
              · split at parsed
                · cases parsed
                · cases parsed
                  rfl
        simp only [parsed] at prepared
        split at prepared
        · cases prepared
        · cases prepared
          exact ⟨rfl, txid⟩

/-- A usable entry has a whole header. -/
theorem length_of_cachedReply {text : Text} {message : Bytes}
    (usable : cachedReply engine text = some message) : 12 ≤ message.length := by
  unfold cachedReply at usable
  split at usable
  · cases usable
  · split at usable
    · split at usable
      · cases usable
        assumption
      · cases usable
    · cases usable

/-- So has a usable reply of a resolver. -/
theorem length_of_edgeDnsDoh {fetch : Text → Except Text Fetched} {url : Text}
    {query message : Bytes} (usable : edgeDnsDoh fetch url query = some message) :
    12 ≤ message.length := by
  unfold edgeDnsDoh at usable
  split at usable
  · cases usable
  · split at usable
    · cases usable
    · split at usable
      · cases usable
      · cases usable
        omega

/-- An answer is an entry at hand or the reply of a resolver, with the id of the query. -/
theorem edgeDnsResolve_result {fetch : Text → Except Text Fetched} {cacheWorks : Bool}
    {localMap : List (Text × Text)} {synth : Json}
    (answered : (edgeDnsResolve engine fetch cacheWorks localMap prep).result = some synth) :
    ∃ sid message, 12 ≤ message.length ∧
      synth = edgeDnsResult sid (dnsRewriteTxid message prep.question.txid) ∧
      ((∃ url ∈ edgeDnsResolvers, edgeDnsDoh fetch url prep.bytes = some message) ∨
        ∃ text, localMap.lookup prep.key = some text ∧ cachedReply engine text = some message) := by
  unfold edgeDnsResolve at answered
  cases hit : (localMap.lookup prep.key).bind (cachedReply engine) with
  | some message =>
    simp only [hit, some.injEq] at answered
    obtain ⟨text, found, usable⟩ := Option.bind_eq_some_iff.mp hit
    exact ⟨_, message, length_of_cachedReply usable, answered.symm, .inr ⟨text, found, usable⟩⟩
  | none =>
    simp only [hit] at answered
    cases found : edgeDnsResolvers.findSome? fun url => edgeDnsDoh fetch url prep.bytes with
    | none => simp [found] at answered
    | some reply =>
      simp only [found, some.injEq] at answered
      obtain ⟨url, listed, usable⟩ := exists_of_findSome?_eq_some found
      exact ⟨_, reply, length_of_edgeDnsDoh usable, answered.symm, .inl ⟨url, listed, usable⟩⟩

/-- The entries at hand afterwards are those before, and the reply under the key of the query. -/
theorem edgeDnsResolve_localMap {fetch : Text → Except Text Fetched} {cacheWorks : Bool}
    {localMap : List (Text × Text)} {key text : Text}
    (found : (edgeDnsResolve engine fetch cacheWorks localMap prep).localMap.lookup key =
      some text) :
    localMap.lookup key = some text ∨ key = prep.key ∧ ∃ reply, text = Base64.encode reply ∧
      ∃ url ∈ edgeDnsResolvers, edgeDnsDoh fetch url prep.bytes = some reply := by
  unfold edgeDnsResolve at found
  split at found
  · exact .inl found
  · split at found
    · exact .inl found
    · rename_i reply resolved
      simp only [lookup_assign] at found
      split at found
      · obtain ⟨url, listed, usable⟩ := exists_of_findSome?_eq_some resolved
        exact .inr ⟨‹_›, reply, (some.inj found).symm, url, listed, usable⟩
      · exact .inl found

variable {services : BatchServices}

theorem routeOps_eq (i : Nat) (ops : List Json) :
    routeOps engine services i ops =
      ⟨(ops.zipIdx i).filterMap fun (op, k) =>
          if (dnsQuery engine op).bind (edgeDnsPrepare engine services.sha256) = none then
            some (k, op)
          else none,
        (ops.zipIdx i).filterMap fun (op, k) =>
          ((dnsQuery engine op).bind (edgeDnsPrepare engine services.sha256)).map (k, op, ·)⟩ := by
  induction ops generalizing i with
  | nil => rfl
  | cons first rest ih =>
    rw [routeOps, ih, zipIdx_cons]
    cases prepared : (dnsQuery engine first).bind (edgeDnsPrepare engine services.sha256) <;>
      simp only [filterMap_cons, prepared, if_true, reduceCtorEq, if_false, map_none, map_some]

theorem mem_routeOps_forward {ops : List Json} {op : Json}
    (member : (i, op) ∈ (routeOps engine services 0 ops).forward) : ops[i]? = some op := by
  rw [routeOps_eq, mem_filterMap] at member
  obtain ⟨⟨first, k⟩, paired, is⟩ := member
  obtain ⟨-, rfl, rfl⟩ : _ ∧ k = i ∧ first = op := by simpa using is
  exact List.mk_mem_zipIdx_iff_getElem?.mp paired

theorem mem_routeOps_candidates {ops : List Json} {op : Json}
    (member : (i, op, prep) ∈ (routeOps engine services 0 ops).candidates) :
    ops[i]? = some op ∧
      ∃ d, dnsQuery engine op = some d ∧ edgeDnsPrepare engine services.sha256 d = some prep := by
  rw [routeOps_eq, mem_filterMap] at member
  obtain ⟨⟨first, k⟩, paired, is⟩ := member
  obtain ⟨ready, prepared, same⟩ := Option.map_eq_some_iff.mp is
  cases same
  exact ⟨List.mk_mem_zipIdx_iff_getElem?.mp paired, Option.bind_eq_some_iff.mp prepared⟩

theorem routeOps_perm (i : Nat) (ops : List Json) :
    ((routeOps engine services i ops).forward.map Prod.fst ++
      (routeOps engine services i ops).candidates.map Prod.fst).Perm
        (List.range' i ops.length) := by
  induction ops generalizing i with
  | nil => simp [routeOps]
  | cons op rest ih =>
    unfold routeOps
    cases (dnsQuery engine op).bind (edgeDnsPrepare engine services.sha256) with
    | none => exact (ih (i + 1)).cons i
    | some prep => exact List.perm_middle.trans ((ih (i + 1)).cons i)

theorem resolveAll_perm (cacheWorks : Bool) (cacheMap : List (Text × Text))
    (candidates : List (Nat × Json × Prepared)) :
    ((resolveAll engine services cacheWorks cacheMap candidates).forward.map Prod.fst ++
      (resolveAll engine services cacheWorks cacheMap candidates).results.map Prod.fst).Perm
        (candidates.map Prod.fst) := by
  induction candidates generalizing cacheMap with
  | nil => simp [resolveAll]
  | cons candidate rest ih =>
    obtain ⟨i, op, prep⟩ := candidate
    have step := ih (edgeDnsResolve engine (services.doh i) cacheWorks cacheMap prep).localMap
    cases answered : (edgeDnsResolve engine (services.doh i) cacheWorks cacheMap prep).result with
    | none =>
      simp only [resolveAll, answered, map_cons]
      exact step.cons i
    | some synth =>
      simp only [resolveAll, answered, map_cons]
      exact List.perm_middle.trans (step.cons i)

theorem resolveAll_forward_sublist (cacheWorks : Bool) (cacheMap : List (Text × Text))
    (candidates : List (Nat × Json × Prepared)) :
    (resolveAll engine services cacheWorks cacheMap candidates).forward <+
      candidates.map fun candidate => (candidate.1, candidate.2.1) := by
  induction candidates generalizing cacheMap with
  | nil => simp [resolveAll]
  | cons candidate rest ih =>
    unfold resolveAll
    dsimp only
    split
    · exact (ih _).cons _
    · exact (ih _).cons_cons _

/-- A result is made of the reply of a resolver or of a known entry, with the id of the query. -/
def MadeFrom (engine : Engine) (services : BatchServices) (Entry : Text → Text → Prop) (k : Nat)
    (prep : Prepared) (synth : Json) : Prop :=
  ∃ sid message, 12 ≤ message.length ∧
    synth = edgeDnsResult sid (dnsRewriteTxid message prep.question.txid) ∧
    (Resolves services k prep message ∨
      ∃ text, Entry prep.key text ∧ cachedReply engine text = some message)

/-- Every answer of a batch comes from a resolver or from an entry, given or added on the way. -/
theorem mem_resolveAll_results {Entry : Text → Text → Prop} {cacheWorks : Bool}
    {cacheMap : List (Text × Text)} {candidates : List (Nat × Json × Prepared)} {k : Nat}
    {synth : Json} (given : ∀ key text, cacheMap.lookup key = some text → Entry key text)
    (added : ∀ i op prep reply, (i, op, prep) ∈ candidates → Resolves services i prep reply →
      Entry prep.key (Base64.encode reply))
    (member : (k, synth) ∈ (resolveAll engine services cacheWorks cacheMap candidates).results) :
    ∃ op prep, (k, op, prep) ∈ candidates ∧ MadeFrom engine services Entry k prep synth := by
  induction candidates generalizing cacheMap with
  | nil => simp [resolveAll] at member
  | cons candidate rest ih =>
    obtain ⟨i, first, ready⟩ := candidate
    -- The entries that the later candidates find are given ones, or the reply to this one.
    have later : ∀ key text, (edgeDnsResolve engine (services.doh i) cacheWorks cacheMap
        ready).localMap.lookup key = some text → Entry key text := by
      intro key text found
      rcases edgeDnsResolve_localMap found with before | ⟨rfl, reply, rfl, resolved⟩
      · exact given key text before
      · exact added i first ready reply mem_cons_self resolved
    have further := ih later fun i op prep reply below =>
      added i op prep reply (mem_cons_of_mem _ below)
    unfold resolveAll at member
    cases answered : (edgeDnsResolve engine (services.doh i) cacheWorks cacheMap ready).result with
    | none =>
      simp only [answered] at member
      obtain ⟨op, prep, found, made⟩ := further member
      exact ⟨op, prep, mem_cons_of_mem _ found, made⟩
    | some other =>
      simp only [answered, mem_cons, Prod.mk.injEq] at member
      rcases member with ⟨rfl, rfl⟩ | inside
      · obtain ⟨sid, message, long, is, source⟩ := edgeDnsResolve_result answered
        refine ⟨first, ready, mem_cons_self, sid, message, long, is, source.imp_right ?_⟩
        rintro ⟨text, found, usable⟩
        exact ⟨text, given _ _ found, usable⟩
      · obtain ⟨op, prep, found, made⟩ := further inside
        exact ⟨op, prep, mem_cons_of_mem _ found, made⟩

def forwardedOps (engine : Engine) (services : BatchServices) (ops : List Json) :
    List (Nat × Json) :=
  let routed := routeOps engine services 0 ops
  let (cacheMap, cacheWorks) := lookupAll services routed.candidates
  routed.forward ++ (resolveAll engine services cacheWorks cacheMap routed.candidates).forward

def answeredOps (engine : Engine) (services : BatchServices) (ops : List Json) :
    List (Nat × Json) :=
  let routed := routeOps engine services 0 ops
  let (cacheMap, cacheWorks) := lookupAll services routed.candidates
  (resolveAll engine services cacheWorks cacheMap routed.candidates).results

theorem forwarded_answered_perm (ops : List Json) :
    ((forwardedOps engine services ops).map Prod.fst ++
      (answeredOps engine services ops).map Prod.fst).Perm (List.range ops.length) := by
  have first := @routeOps_perm engine services 0 ops
  have second := @resolveAll_perm engine services
    (lookupAll services (routeOps engine services 0 ops).candidates).2
    (lookupAll services (routeOps engine services 0 ops).candidates).1
    (routeOps engine services 0 ops).candidates
  rw [range_eq_range', forwardedOps, answeredOps, map_append, append_assoc]
  exact (second.append_left _).trans first

theorem mem_forwardedOps {ops : List Json} {op : Json}
    (member : (i, op) ∈ forwardedOps engine services ops) : ops[i]? = some op := by
  rw [forwardedOps, mem_append] at member
  rcases member with early | late
  · exact mem_routeOps_forward early
  · obtain ⟨candidate, inside, is⟩ :=
      List.mem_map.mp ((resolveAll_forward_sublist _ _ _).subset late)
    cases is
    exact (mem_routeOps_candidates inside).1

/-- A candidate asks what has been prepared for it. -/
theorem asksAt_candidate {ops : List Json} {op : Json}
    (candidate : (i, op, prep) ∈ (routeOps engine services 0 ops).candidates) :
    AsksAt engine services ops i prep := by
  obtain ⟨found, d, query, prepared⟩ := mem_routeOps_candidates candidate
  exact ⟨op, d, found, query, (edgeDnsPrepare_txid prepared).1, prepared⟩

/-- An operation that is answered gets the answer to its own query. -/
theorem mem_answeredOps {ops : List Json} {synth : Json}
    (member : (i, synth) ∈ answeredOps engine services ops) :
    DnsAnswerFor engine services ops i synth := by
  set candidates := (routeOps engine services 0 ops).candidates with candidatesIs
  -- Entries are found under keys of candidates, and those were asked for.
  have given : ∀ key text, (lookupAll services candidates).1.lookup key = some text →
      (∃ candidate ∈ candidates, candidate.2.2.key = key) →
        EntryUnder engine services ops key text := by
    intro key text found asked
    unfold lookupAll at found
    split at found
    · simp at found
    · split at found
      · rename_i entries listed
        exact .inl ⟨_, entries, List.mem_map.mpr asked, listed, found⟩
      · simp at found
  have added : ∀ i op prep reply, (i, op, prep) ∈ candidates → Resolves services i prep reply →
      (∃ candidate ∈ candidates, candidate.2.2.key = prep.key) →
        EntryUnder engine services ops prep.key (Base64.encode reply) :=
    fun i op prep reply candidate resolved _ =>
      .inr ⟨i, prep, reply, asksAt_candidate candidate, rfl, resolved, rfl⟩
  obtain ⟨op, prep, candidate, sid, message, long, is, source⟩ :=
    mem_resolveAll_results given added member
  obtain ⟨-, d, -, -, -, prepared⟩ := asksAt_candidate candidate
  have txid := (edgeDnsPrepare_txid prepared).2
  have small : prep.question.txid < 65536 := by
    have high := byteAt_lt prep.bytes 0
    have low := byteAt_lt prep.bytes (0 + 1)
    rw [txid, wordAt]
    omega
  refine ⟨prep, message, sid, _, asksAt_candidate candidate, ?_, is, ?_, ?_, ?_⟩
  · rcases source with resolved | ⟨text, entry, usable⟩
    · exact .inl resolved
    · exact .inr ⟨text, entry ⟨_, candidate, rfl⟩, usable⟩
  · rw [dnsRewriteTxid_length (by omega)]
    exact long
  · rw [wordAt_dnsRewriteTxid small, txid]
  · rfl

theorem getElem?_withoutHoles {slots : List (Option Json)} {result : Json}
    (there : slots[i]? = some (some result)) :
    (slots.map fun slot => slot.getD .null)[i]? = some result := by
  simp [there]

theorem spliced_scatter {answers : List Json → List Json} {ops : List Json}
    (counts : (answers ((forwardedOps engine services ops).map Prod.snd)).length =
      (forwardedOps engine services ops).length) :
    Spliced engine services answers ops
      ((spliceTunnelResults ((forwardedOps engine services ops).map Prod.fst)
        (answers ((forwardedOps engine services ops).map Prod.snd))
        (scatter (answeredOps engine services ops) (List.replicate ops.length none))).map
          fun slot => slot.getD .null) := by
  have covers := @forwarded_answered_perm engine services ops
  have distinct := covers.nodup_iff.mpr nodup_range
  obtain ⟨forwardDistinct, answeredDistinct, disjoint⟩ := List.nodup_append.mp distinct
  set forwarded := forwardedOps engine services ops with forwardedIs
  set results := answers (forwarded.map Prod.snd) with resultsIs
  have firsts : ((forwarded.map Prod.fst).zip results).map Prod.fst = forwarded.map Prod.fst := by
    rw [map_fst_zip]
    rw [length_map, counts]
  refine ⟨by simp [spliceTunnelResults], forwarded, forwardDistinct,
    fun i op member => mem_forwardedOps member, ?_, ?_⟩
  · intro j i op at_
    have member : (i, op) ∈ forwarded := mem_of_getElem? at_
    have inside : i < ops.length := (List.getElem?_eq_some_iff.mp (mem_forwardedOps member)).1
    obtain ⟨bound, -⟩ := List.getElem?_eq_some_iff.mp at_
    have result : results[j]? = some (results[j]) := getElem?_eq_getElem (by omega)
    refine ⟨results[j], getElem?_withoutHoles ?_, result⟩
    refine scatter_mem (by rw [firsts]; exact forwardDistinct) ?_ (by simpa using inside)
    refine mem_of_getElem? (i := j) ?_
    rw [getElem?_zip_eq_some]
    exact ⟨by simp [at_], result⟩
  · intro i op at_ elsewhere
    have inside : i < ops.length := (List.getElem?_eq_some_iff.mp at_).1
    have answered : i ∈ (answeredOps engine services ops).map Prod.fst := by
      have either := covers.mem_iff.mpr (List.mem_range.mpr inside)
      rw [mem_append] at either
      exact either.resolve_left elsewhere
    obtain ⟨⟨_, synth⟩, member, rfl⟩ := List.mem_map.mp answered
    refine ⟨synth, getElem?_withoutHoles ?_, mem_answeredOps member⟩
    rw [spliceTunnelResults, scatter_other (by rw [firsts]; exact elsewhere)]
    exact scatter_mem answeredDistinct member (by simpa using inside)

theorem spliced_forwarded {answers : List Json → List Json} {ops : List Json}
    (counts : (answers ops).length = ops.length) :
    Spliced engine services answers ops (answers ops) := by
  have seconds : (ops.zipIdx.map Prod.swap).map Prod.snd = ops := by
    simp [Function.comp_def]
  have firsts : (ops.zipIdx.map Prod.swap).map Prod.fst = List.range ops.length := by
    simp [Function.comp_def, range_eq_range']
  refine ⟨counts, ops.zipIdx.map Prod.swap, by rw [firsts]; exact nodup_range, ?_, ?_, ?_⟩
  · intro i op member
    obtain ⟨⟨_, _⟩, paired, swapped⟩ := List.mem_map.mp member
    cases swapped
    exact List.mk_mem_zipIdx_iff_getElem?.mp paired
  · intro j i op at_
    rw [getElem?_map, getElem?_zipIdx, Option.map_map, map_eq_some_iff] at at_
    obtain ⟨_, found, swapped⟩ := at_
    simp only [Function.comp_apply, Prod.swap_prod_mk, Nat.zero_add, Prod.mk.injEq] at swapped
    obtain ⟨rfl, -⟩ := swapped
    have inside : j < (answers ops).length := counts ▸ (List.getElem?_eq_some_iff.mp found).1
    rw [seconds]
    exact ⟨(answers ops)[j], getElem?_eq_getElem inside, getElem?_eq_getElem inside⟩
  · intro i op at_ elsewhere
    rw [firsts, mem_range] at elsewhere
    exact absurd (List.getElem?_eq_some_iff.mp at_).1 elsewhere

theorem edgeDnsBatch_eq {ops : List Json} {forward answered : List (Nat × Json)}
    (forwards : forwardedOps engine services ops = forward)
    (answers : answeredOps engine services ops = answered) (zc : Option Json) :
    edgeDnsBatch engine services ops zc =
      if forward.length = 0 then
        .ok (batchResultsJson (scatter answered (List.replicate ops.length none)))
      else if forward.length = ops.length then doTunnelBatchForward services ops zc
      else do
        match ← doTunnelBatchFetch services (forward.map Prod.snd) with
        | .error reason => return batchError reason
        | .ok forwarded =>
          if forwarded.length ≠ forward.length then
            return batchError (lit "tunnel batch length mismatch")
          else
            return batchResultsJson (spliceTunnelResults (forward.map Prod.fst) forwarded
              (scatter answered (List.replicate ops.length none))) := by
  subst forwards answers
  rfl

end

/--
A batch that is not packed gets one error, or for each operation an answer to its own query with
that query's id or what the tunnel node gave for it.
-/
theorem doTunnelBatch_spliced (engine : Engine) (services : BatchServices)
    (readReply : Text → Option (List Json)) (answers : List Json → List Json)
    (node : NodeAnswers services.node readReply answers) (req : Json) (ops : List Json)
    (uncompressed : engine.member req (lit "zops") = none)
    (listed : req.get (lit "ops") = some (.arr ops)) :
    ∃ output, doTunnelBatch engine services req = .ok output ∧
      ((∃ reason, output = batchError reason) ∨
        ∃ results, outputResults readReply output = some results ∧
          Spliced engine services answers ops results) := by
  have batch : doTunnelBatch engine services req =
      edgeDnsBatch engine services ops (engine.member req (lit "zc")) := by
    simp only [doTunnelBatch, uncompressed, listed, enableEdgeDnsCache, if_true]
  have whole := @spliced_scatter engine services answers ops
    ((node.counts _).trans (length_map _))
  generalize forwards : forwardedOps engine services ops = forward at whole
  rw [batch, edgeDnsBatch_eq forwards rfl]
  by_cases served : forward.length = 0
  · -- Nothing is left for the tunnel node.
    rw [if_pos served]
    rw [length_eq_zero_iff] at served
    rw [served] at whole
    exact ⟨_, rfl, Or.inr ⟨_, outputResults_batchResultsJson _ _, whole⟩⟩
  · rw [if_neg served]
    by_cases all : forward.length = ops.length
    · -- The tunnel node gets the operations in their own order.
      rw [if_pos all]
      obtain ⟨code, text, response⟩ :=
        node.responds (batchRequest ops (engine.member req (lit "zc")))
      by_cases good : code = 200
      · subst good
        refine ⟨.passed text, ?_, Or.inr ⟨answers ops, ?_, spliced_forwarded (node.counts ops)⟩⟩
        · simp [doTunnelBatchForward, passNodeText, response]
        · exact node.carries _ _ _ response
      · refine ⟨batchError (lit "tunnel batch HTTP " ++ decimal code), ?_, Or.inl ⟨_, rfl⟩⟩
        simp [doTunnelBatchForward, passNodeText, response, good]
    · rw [if_neg all]
      obtain ⟨code, text, response⟩ := node.responds (batchRequest (forward.map Prod.snd) none)
      by_cases good : code = 200
      · subst good
        obtain ⟨reply, parsed, results⟩ := node.plain _ _ response
        have fetched : doTunnelBatchFetch services (forward.map Prod.snd) =
            .ok (.ok (answers (forward.map Prod.snd))) := by
          simp [doTunnelBatchFetch, response, parsed, results]
        have counts : (answers (forward.map Prod.snd)).length = forward.length :=
          (node.counts _).trans (length_map _)
        refine ⟨_, ?_, Or.inr ⟨_, outputResults_batchResultsJson _ _, whole⟩⟩
        simp [fetched, counts]
      · have failed : doTunnelBatchFetch services (forward.map Prod.snd) =
            .ok (.error (lit "tunnel batch HTTP " ++ decimal code)) := by
          simp [doTunnelBatchFetch, response, good]
        refine ⟨batchError (lit "tunnel batch HTTP " ++ decimal code), ?_, Or.inl ⟨_, rfl⟩⟩
        simp [failed]

def silentNode (request : Json) : Except Text (Nat × Text) :=
  match request.get (lit "ops") with
  | some (.arr ops) => .ok (200, Json.write (.obj [(lit "r", .arr (ops.map fun _ => .null))]))
  | _ => .ok (400, [])

def readPlainReply (text : Text) : Option (List Json) :=
  (Json.read text).bind fun reply =>
    match reply.get (lit "r") with
    | some (.arr results) => some results
    | _ => none

theorem nodeAnswers_silentNode :
    NodeAnswers silentNode readPlainReply (fun ops => ops.map fun _ => .null) := by
  have wellFormed : ∀ ops : List Json,
      Json.WellFormed (.obj [(lit "r", .arr (ops.map fun _ => .null))]) := by
    intro ops
    refine .obj ?_
    simp only [mem_singleton, forall_eq]
    refine .arr ?_
    intro item member
    obtain ⟨_, -, rfl⟩ := List.mem_map.mp member
    exact .null
  have request : ∀ ops zc, (batchRequest ops zc).get (lit "ops") = some (.arr ops) := by
    have packed : lit "zc" ≠ lit "ops" := by decide +kernel
    intro ops zc
    cases zc <;> simp [batchRequest, Json.get, packed]
  have results : ∀ ops : List Json, Json.get (lit "r")
      (.obj [(lit "r", .arr (ops.map fun _ => .null))]) =
        some (.arr (ops.map fun _ => .null)) := by
    intro ops
    simp [Json.get]
  refine ⟨?_, fun ops => length_map _, ?_, ?_⟩
  · intro asked
    unfold silentNode
    split
    · exact ⟨_, _, rfl⟩
    · exact ⟨_, _, rfl⟩
  · intro ops zc text response
    rw [silentNode, request, Except.ok.injEq, Prod.mk.injEq] at response
    rw [← response.2, readPlainReply, Json.read_write (wellFormed ops), bind_some, results]
  · intro ops text response
    rw [silentNode, request, Except.ok.injEq, Prod.mk.injEq] at response
    exact ⟨_, by rw [← response.2, Json.read_write (wellFormed ops)], results ops⟩

/-- A lookup of the root, with an id of two bytes. -/
def rootQuery (high low : UInt8) : Bytes :=
  [high, low, 1, 0, 0, 1, 0, 0, 0, 0, 0, 0, 0, 0, 1, 0, 1]

/-- An empty cache, and resolvers that answer with a header and an id of their own. -/
def headerServices : BatchServices where
  sha256 := toUtf8
  getAll _ := some []
  doh _ _ := .ok ⟨200, [], [9, 9, 129, 128, 0, 1, 0, 0, 0, 0, 0, 0]⟩
  node := silentNode

/-- Two lookups of one name with an operation for the tunnel node between them. -/
def lookupOps : List Json :=
  [.obj [(lit "op", .str (lit "udp_open")), (lit "port", .num (lit "53")),
      (lit "d", .str (Base64.encode (rootQuery 1 2)))], .null,
    .obj [(lit "op", .str (lit "udp_open")), (lit "port", .num (lit "53")),
      (lit "d", .str (Base64.encode (rootQuery 3 4)))]]

/-- What the batch gives: both lookups are answered, each with its own id. -/
def lookupResults : List Json :=
  [edgeDnsResult (lit "edns-doh") [1, 2, 129, 128, 0, 1, 0, 0, 0, 0, 0, 0], .null,
    edgeDnsResult (lit "edns-cache") [3, 4, 129, 128, 0, 1, 0, 0, 0, 0, 0, 0]]

/-- The second lookup is answered by what the first one brought. -/
theorem doTunnelBatch_spliced_lookup :
    doTunnelBatch plainEngine headerServices (.obj [(lit "ops", .arr lookupOps)]) =
        .ok (.json (.obj [(lit "r", .arr lookupResults)])) ∧
      Spliced plainEngine headerServices (fun ops => ops.map fun _ => .null) lookupOps
        lookupResults := by
  have answered : doTunnelBatch plainEngine headerServices (.obj [(lit "ops", .arr lookupOps)]) =
      .ok (.json (.obj [(lit "r", .arr lookupResults)])) := by
    with_unfolding_all rfl
  refine ⟨answered, ?_⟩
  obtain ⟨output, ran, ⟨reason, failed⟩ | ⟨results, shown, spliced⟩⟩ :=
    doTunnelBatch_spliced plainEngine headerServices readPlainReply _ nodeAnswers_silentNode
      (.obj [(lit "ops", .arr lookupOps)]) lookupOps (by with_unfolding_all rfl)
      (by with_unfolding_all rfl)
  · rw [answered, failed] at ran
    simp [batchError] at ran
  · have given : outputResults readPlainReply (.json (.obj [(lit "r", .arr lookupResults)])) =
        some lookupResults := by simp [outputResults, Json.get]
    rw [answered] at ran
    cases ran
    rw [given] at shown
    cases shown
    exact spliced

end Gvpn
