import Gvpn.Proofs.Alignment

/-! How many bytes the answer to a batch carries. -/

namespace Gvpn

open List

def tcpBytes (response : TunnelResponse) : Nat := ((response.d.bind Base64.decode).getD []).length

def udpBytes (response : TunnelResponse) : Nat :=
  ((response.pkts.getD []).map fun packet => ((Base64.decode packet).getD []).length).sum

def WithinCaps (answers : List TunnelResponse) : Prop :=
  (∀ response ∈ answers, tcpBytes response ≤ tcpDrainMaxBytes) ∧
    (answers.map fun response => tcpBytes response + udpBytes response).sum ≤ batchResponseBudget

def offeredTogether (views : Nat → Views) (drains : List (Nat × Text × Option Nat)) : Nat :=
  (drains.map fun drain => offered (views drain.1).all).sum

def queuedTogether (views : Nat → List Bytes × Bool)
    (drains : List (Nat × Text × Option Nat)) : Nat :=
  (drains.map fun drain => ((views drain.1).1.map List.length).sum).sum

def udpDrains (env : BatchEnv) (entries : List Entry) : List (Nat × Text × Option Nat) :=
  (joined env entries).filterMap Entry.udp

def LittleOffered (env : BatchEnv) (entries : List Entry) : Prop :=
  (∀ before drain after, tcpDrains env entries = before ++ drain :: after →
    offered (env.tcpViews drain.1).all ≤ tcpDrainMaxBytes ∨
      batchResponseBudget ≤ offeredTogether env.tcpViews before + tcpDrainMaxBytes) ∧
  (queuedTogether env.udpView (udpDrains env entries) = 0 ∨
    offeredTogether env.tcpViews (tcpDrains env entries) +
      queuedTogether env.udpView (udpDrains env entries) ≤ batchResponseBudget)

def Bare (response : TunnelResponse) : Prop := response.d = none ∧ response.pkts = none

theorem Bare.bytes {response : TunnelResponse} (bare : Bare response) :
    tcpBytes response = 0 ∧ udpBytes response = 0 := by
  simp [tcpBytes, udpBytes, bare.1, bare.2]

variable (eof : Bool) (seq : Option Nat) (sid : Text)

@[simp]
theorem tcpBytes_tcpDrainResponse (data : Bytes) :
    tcpBytes (tcpDrainResponse sid data eof seq) = data.length := by
  cases data with
  | nil => rfl
  | cons first rest => simp [tcpBytes, tcpDrainResponse]

@[simp]
theorem udpBytes_tcpDrainResponse (data : Bytes) :
    udpBytes (tcpDrainResponse sid data eof seq) = 0 := by
  simp [udpBytes, tcpDrainResponse]

@[simp]
theorem tcpBytes_udpDrainResponse (packets : List Bytes) :
    tcpBytes (udpDrainResponse sid packets eof seq) = 0 := by
  simp [tcpBytes, udpDrainResponse]

@[simp]
theorem udpBytes_udpDrainResponse (packets : List Bytes) :
    udpBytes (udpDrainResponse sid packets eof seq) = (packets.map List.length).sum := by
  cases packets with
  | nil => rfl
  | cons first rest => simp [udpBytes, udpDrainResponse, Function.comp_def]

section

variable {decodeError : Text → Text}

theorem handleClose_bare (state : AppState) (sid : Option Text) :
    Bare (handleClose state sid).1 := by
  unfold handleClose
  split
  · exact ⟨rfl, rfl⟩
  · exact ⟨rfl, rfl⟩

variable {state : AppState} {op : BatchOp} {response : TunnelResponse}

theorem phase1Data_bare
    (answered : (phase1Data decodeError state op).1 = .answered response) : Bare response := by
  unfold phase1Data at answered
  split at answered
  · cases answered
    exact ⟨rfl, rfl⟩
  · split at answered
    · cases answered
      exact ⟨rfl, rfl⟩
    · split at answered
      · cases answered
        exact ⟨rfl, rfl⟩
      · -- A payload that can be read leads to a drain.
        split at answered
        · cases answered
        · cases answered

theorem phase1UdpData_bare
    (answered : (phase1UdpData decodeError state op).1 = .answered response) : Bare response := by
  unfold phase1UdpData at answered
  split at answered
  · cases answered
    exact ⟨rfl, rfl⟩
  · split at answered
    · cases answered
      exact ⟨rfl, rfl⟩
    · split at answered
      · cases answered
        exact ⟨rfl, rfl⟩
      · split at answered
        · cases answered
        · cases answered

theorem phase1_bare
    (answered : (phase1 decodeError state op).1 = .answered response) : Bare response := by
  unfold phase1 at answered
  split at answered
  · cases answered
  · cases answered
  · cases answered
  · exact phase1Data_bare answered
  · exact phase1UdpData_bare answered
  · cases answered
    exact handleClose_bare state op.sid
  · cases answered
    exact ⟨rfl, rfl⟩

theorem validateHostPort_bare {host : Option Text} {port : Option UInt16}
    (refused : validateHostPort host port = .error response) :
    Bare response := by
  unfold validateHostPort at refused
  split at refused
  · split at refused
    · split at refused
      · cases refused
      · cases refused
        exact ⟨rfl, rfl⟩
    · cases refused
      exact ⟨rfl, rfl⟩
  · cases refused
    exact ⟨rfl, rfl⟩

theorem sendFirst_bare {dial : Dial} {failed : Text} {d : Option Text}
    (refused : sendFirst decodeError dial failed d = .error response) : Bare response := by
  unfold sendFirst at refused
  split at refused
  · cases refused
    exact ⟨rfl, rfl⟩
  · cases refused
  · split at refused
    · cases refused
      exact ⟨rfl, rfl⟩
    · cases refused

theorem newConn_bare {dial : Dial}
    (answered : newConn decodeError dial op = .answered response) : Bare response := by
  unfold newConn at answered
  split at answered
  · split at answered
    · cases answered
    · rename_i refused
      cases answered
      unfold handleConnectDataPhase1 at refused
      split at refused
      · rename_i invalid
        cases refused
        exact validateHostPort_bare invalid
      · split at refused
        · cases refused
          exact ⟨rfl, rfl⟩
        · exact sendFirst_bare refused
  · split at answered
    · cases answered
    · rename_i refused
      cases answered
      unfold handleUdpOpenPhase1 at refused
      split at refused
      · rename_i invalid
        cases refused
        exact validateHostPort_bare invalid
      · split at refused
        · cases refused
          exact ⟨rfl, rfl⟩
        · exact sendFirst_bare refused
  · cases answered
    unfold handleConnect
    split
    · rename_i invalid
      exact validateHostPort_bare invalid
    · split
      · exact ⟨rfl, rfl⟩
      · exact ⟨rfl, rfl⟩

theorem phase1Loop_bare {env : BatchEnv} {i : Nat} {ops : List BatchOp}
    {entry : Entry} (member : entry ∈ phase1Loop decodeError env i state ops)
    (answered : entry.outcome = .answered response) :
    Bare response := by
  induction ops generalizing i state with
  | nil => simp [phase1Loop] at member
  | cons op rest ih =>
    simp only [phase1Loop, mem_cons] at member
    rcases member with rfl | later
    · cases decided : (phase1 decodeError (env.interfere i state) op).1 with
      | answered direct =>
        simp only [decided, Outcome.answered.injEq] at answered
        exact phase1_bare (answered ▸ decided)
      | tcpDrain sid inner => simp [decided] at answered
      | udpDrain sid inner => simp [decided] at answered
      | spawned =>
        simp only [decided] at answered
        exact newConn_bare answered
    · exact ih later

end

theorem tcpDrainPass_total (views : Nat → Views) {budget : Nat} (positive : 0 < budget)
    (drains : List (Nat × Text × Option Nat)) :
    ((tcpDrainPass views budget drains).map fun answer => tcpBytes answer.2).sum =
      min budget (offeredTogether views drains) := by
  induction drains generalizing budget with
  | nil => simp [tcpDrainPass, offeredTogether]
  | cons drain rest ih =>
    obtain ⟨i, sid, seq⟩ := drain
    have drained := drainLoop_length_start (views i).all positive
    have sum : offeredTogether views ((i, sid, seq) :: rest) =
        offered (views i).all + offeredTogether views rest := by
      simp [offeredTogether]
    simp only [tcpDrainPass, map_cons, sum_cons, tcpBytes_tcpDrainResponse, sum]
    split
    · simp only [map_nil, sum_nil]
      omega
    · rw [ih (by omega), drained]
      omega

theorem forall_place_cons_iff {α : Type} {first : α} {rest : List α} {P : List α → α → Prop} :
    (∀ before item after, first :: rest = before ++ item :: after → P before item) ↔
      P [] first ∧
        ∀ before item after, rest = before ++ item :: after → P (first :: before) item := by
  constructor
  · intro everywhere
    refine ⟨everywhere [] first rest rfl, ?_⟩
    intro before item after place
    exact everywhere (first :: before) item after (by rw [place, cons_append])
  · rintro ⟨atHead, later⟩ before item after place
    cases before with
    | nil =>
      obtain ⟨rfl, -⟩ := cons.inj place
      exact atHead
    | cons head before =>
      obtain ⟨rfl, tail⟩ := cons.inj place
      exact later before item after tail

theorem tcpDrainPass_capped_iff (views : Nat → Views) {budget : Nat} (positive : 0 < budget)
    (drains : List (Nat × Text × Option Nat)) :
    (∀ answer ∈ tcpDrainPass views budget drains, tcpBytes answer.2 ≤ tcpDrainMaxBytes) ↔
      ∀ before drain after, drains = before ++ drain :: after →
        offered (views drain.1).all ≤ tcpDrainMaxBytes ∨
          budget ≤ offeredTogether views before + tcpDrainMaxBytes := by
  induction drains generalizing budget with
  | nil => simp [tcpDrainPass]
  | cons drain rest ih =>
    obtain ⟨i, sid, seq⟩ := drain
    have drained := drainLoop_length_start (views i).all positive
    have sum : ∀ before, offeredTogether views ((i, sid, seq) :: before) =
        offered (views i).all + offeredTogether views before := by
      intro before
      simp [offeredTogether]
    have none_ : offeredTogether views [] = 0 := by simp [offeredTogether]
    rw [forall_place_cons_iff]
    simp only [tcpDrainPass, forall_mem_cons, tcpBytes_tcpDrainResponse, drained, sum, none_]
    refine and_congr (by omega) ?_
    split
    · -- It has used the budget up, and no other session is reached.
      simp only [not_mem_nil, false_implies, implies_true, true_iff]
      intro before drain after _
      omega
    · have whole : budget - min budget (offered (views i).all) = budget - offered (views i).all := by
        omega
      rw [whole, ih (by omega)]
      refine forall_congr' fun before => forall_congr' fun drain => forall_congr' fun after =>
        imp_congr_right fun _ => ?_
      omega

theorem udpDrainPass_total (views : Nat → List Bytes × Bool)
    (drains : List (Nat × Text × Option Nat)) :
    ((udpDrainPass views drains).map fun answer => udpBytes answer.2).sum =
      queuedTogether views drains := by
  simp [udpDrainPass, queuedTogether, Function.comp_def]

theorem handleBatch_perm (decodeError : Text → Text) (env : BatchEnv) (state : AppState)
    (ops : List BatchOp) :
    (handleBatch decodeError env state ops).Perm
      ((batchResults env (phase1Loop decodeError env 0 state ops)).map Prod.snd) :=
  (perm_insertionSort _ _).map _

theorem withinCaps_of_perm {answers others : List TunnelResponse} (same : answers.Perm others) :
    WithinCaps answers ↔ WithinCaps others := by
  unfold WithinCaps
  rw [(same.map _).sum_eq]
  refine and_congr_left fun _ => ?_
  exact forall_congr' fun response => imp_congr_left same.mem_iff

section

variable (decodeError : Text → Text) (env : BatchEnv) (state : AppState)

variable (ops : List BatchOp)

theorem phase1_results_bare {answer : Nat × TunnelResponse}
    (member : answer ∈ (joined env (phase1Loop decodeError env 0 state ops)).filterMap Entry.result) :
    Bare answer.2 := by
  obtain ⟨entry, inside, isResult⟩ := List.mem_filterMap.mp member
  have original := (joined_perm env _).subset inside
  unfold Entry.result at isResult
  split at isResult
  · rename_i response answered
    cases isResult
    exact phase1Loop_bare original answered
  · cases isResult

theorem batchResults_capped_iff :
    (∀ response ∈ (batchResults env (phase1Loop decodeError env 0 state ops)).map Prod.snd,
      tcpBytes response ≤ tcpDrainMaxBytes) ↔
      ∀ answer ∈ tcpDrainPass env.tcpViews batchResponseBudget
        (tcpDrains env (phase1Loop decodeError env 0 state ops)),
        tcpBytes answer.2 ≤ tcpDrainMaxBytes := by
  simp only [batchResults, forall_mem_map, forall_mem_append]
  constructor
  · rintro ⟨⟨-, drained⟩, -⟩
    exact drained
  · intro drained
    refine ⟨⟨?_, drained⟩, ?_⟩
    · intro answer member
      rw [(phase1_results_bare decodeError env state ops member).bytes.1]
      exact Nat.zero_le _
    · intro answer member
      obtain ⟨drain, -, rfl⟩ := List.mem_map.mp member
      simp

theorem batchResults_total :
    (((batchResults env (phase1Loop decodeError env 0 state ops)).map Prod.snd).map
      fun response => tcpBytes response + udpBytes response).sum =
      min batchResponseBudget
        (offeredTogether env.tcpViews (tcpDrains env (phase1Loop decodeError env 0 state ops))) +
      queuedTogether env.udpView (udpDrains env (phase1Loop decodeError env 0 state ops)) := by
  set entries := phase1Loop decodeError env 0 state ops with entriesAre
  have positive : 0 < batchResponseBudget := by decide
  have answered : (((joined env entries).filterMap Entry.result).map fun answer =>
      tcpBytes answer.2 + udpBytes answer.2).sum = 0 := by
    refine sum_eq_zero fun bytes member => ?_
    obtain ⟨answer, inside, rfl⟩ := List.mem_map.mp member
    have bare := (phase1_results_bare decodeError env state ops inside).bytes
    simp only [bare.1, bare.2, Nat.add_zero]
  have streams : ((tcpDrainPass env.tcpViews batchResponseBudget (tcpDrains env entries)).map
      fun answer => tcpBytes answer.2 + udpBytes answer.2).sum =
      min batchResponseBudget (offeredTogether env.tcpViews (tcpDrains env entries)) := by
    rw [← tcpDrainPass_total env.tcpViews positive]
    refine congrArg List.sum (map_congr_left fun answer member => ?_)
    obtain ⟨sid, seq, left, -, responseIs⟩ := mem_tcpDrainPass member
    simp only [responseIs, udpBytes_tcpDrainResponse, Nat.add_zero]
  have datagrams : ((udpDrainPass env.udpView (udpDrains env entries)).map
      fun answer => tcpBytes answer.2 + udpBytes answer.2).sum =
      queuedTogether env.udpView (udpDrains env entries) := by
    rw [← udpDrainPass_total env.udpView]
    refine congrArg List.sum (map_congr_left fun answer member => ?_)
    obtain ⟨drain, -, rfl⟩ := List.mem_map.mp member
    simp only [tcpBytes_udpDrainResponse, Nat.zero_add]
  rw [map_map, batchResults, map_append, map_append, sum_append,
    sum_append]
  exact congrArg₂ (· + ·) ((congrArg₂ (· + ·) answered streams).trans (Nat.zero_add _)) datagrams

/--
The answer to a batch keeps its bounds exactly if its sessions have little enough: drains of a
session add up, and datagrams are not counted.
-/
theorem handleBatch_withinCaps_iff (ops : List BatchOp) :
    WithinCaps (handleBatch decodeError env state ops) ↔
      LittleOffered env (phase1Loop decodeError env 0 state ops) := by
  have positive : 0 < batchResponseBudget := by decide
  rw [withinCaps_of_perm (handleBatch_perm decodeError env state ops), WithinCaps,
    batchResults_capped_iff, batchResults_total, tcpDrainPass_capped_iff _ positive, LittleOffered]
  refine and_congr_right fun _ => ?_
  omega

end

def refilledEnv (buffer : Bytes) : BatchEnv where
  interfere _ state := state
  dial _ := { name := [] }
  joinOrder := id
  joins := .refl
  tcpViews _ := ⟨⟨false, buffer⟩, [⟨false, buffer⟩]⟩
  udpView _ := ([[1, 2, 3]], false)

def refilledState : AppState where
  sessions name := if name = ['a'] then some {} else none
  udpSessions name := if name = ['u'] then some {} else none

def refilledOps : List BatchOp :=
  [{ op := .data, sid := some ['a'] }, { op := .udpData, sid := some ['u'] }]

variable {buffer : Bytes}

theorem drainLoop_refilled (almost : buffer.length + 1 = tcpDrainMaxBytes) :
    drainLoop batchResponseBudget [] false [⟨false, buffer⟩, ⟨false, buffer⟩] =
      (buffer ++ buffer, false) := by
  have budgetIs : batchResponseBudget = tcpDrainMaxBytes + tcpDrainMaxBytes := rfl
  have large : 1 < tcpDrainMaxBytes := by decide
  have some_ : buffer ≠ [] := by
    intro empty
    rw [empty, length_nil] at almost
    omega
  have notCapped : ¬ tcpDrainMaxBytes ≤ buffer.length := by omega
  have notSpent : ¬ batchResponseBudget ≤ buffer.length := by omega
  have fits : buffer.length ≤ batchResponseBudget ∧ buffer.length ≤ tcpDrainMaxBytes := by omega
  have fitsAgain : buffer.length ≤ batchResponseBudget - buffer.length ∧
      buffer.length ≤ tcpDrainMaxBytes := by omega
  simp [drainLoop, drainNow, some_, notCapped, notSpent, fits, fitsAgain]

theorem handleBatch_refilled (almost : buffer.length + 1 = tcpDrainMaxBytes) :
    handleBatch id (refilledEnv buffer) refilledState refilledOps =
      [tcpDrainResponse ['a'] (buffer ++ buffer) false none,
        udpDrainResponse ['u'] [[1, 2, 3]] false none] := by
  have entries : phase1Loop id (refilledEnv buffer) 0 refilledState refilledOps =
      [⟨0, false, .tcpDrain ['a'] none⟩, ⟨1, false, .udpDrain ['u'] none⟩] := rfl
  have results : batchResults (refilledEnv buffer)
      (phase1Loop id (refilledEnv buffer) 0 refilledState refilledOps) =
      [(0, tcpDrainResponse ['a'] (buffer ++ buffer) false none),
        (1, udpDrainResponse ['u'] [[1, 2, 3]] false none)] := by
    rw [entries]
    simp [batchResults, joined, refilledEnv, Entry.result, Entry.tcp, Entry.udp, tcpDrainPass,
      filterMap_cons, udpDrainPass, Views.all, drainLoop_refilled almost]
  simp [handleBatch, results, List.insertionSort]

theorem handleBatch_refilled_over (almost : buffer.length + 1 = tcpDrainMaxBytes) :
    (∃ response ∈ handleBatch id (refilledEnv buffer) refilledState refilledOps,
      tcpDrainMaxBytes < tcpBytes response) ∧
    batchResponseBudget < ((handleBatch id (refilledEnv buffer) refilledState refilledOps).map
      fun response => tcpBytes response + udpBytes response).sum := by
  have large : 2 < tcpDrainMaxBytes := by decide
  have budgetIs : batchResponseBudget = tcpDrainMaxBytes + tcpDrainMaxBytes := rfl
  rw [handleBatch_refilled almost]
  constructor
  · refine ⟨_, mem_cons_self, ?_⟩
    rw [tcpBytes_tcpDrainResponse, length_append]
    omega
  · simp only [map_cons, map_nil, sum_cons, sum_nil, tcpBytes_tcpDrainResponse,
      udpBytes_tcpDrainResponse, tcpBytes_udpDrainResponse, udpBytes_udpDrainResponse,
      length_append, length_cons, length_nil]
    omega

theorem handleBatch_overfull :
    let answers := handleBatch id (refilledEnv (List.replicate (tcpDrainMaxBytes - 1) 0))
      refilledState refilledOps
    (∃ response ∈ answers, tcpDrainMaxBytes < tcpBytes response) ∧
      batchResponseBudget <
        (answers.map fun response => tcpBytes response + udpBytes response).sum := by
  intro answers
  have positive := tcpDrainMaxBytes_pos
  have almost : (List.replicate (tcpDrainMaxBytes - 1) (0 : UInt8)).length + 1 =
      tcpDrainMaxBytes := by
    rw [length_replicate, Nat.sub_add_cancel positive]
  exact handleBatch_refilled_over almost

end Gvpn
