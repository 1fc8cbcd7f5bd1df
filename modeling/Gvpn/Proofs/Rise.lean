import Gvpn.TunnelClient.TunnelLoop

/-! How a session comes to look for a permit, to take it, and to lose it. -/

namespace Gvpn

namespace TunnelLoop

def downloaded (response : TunnelResponse) : Nat :=
  (response.d.map fun d => (toUtf8 d).length * 3 / 4).getD 0

structure Heavy (response : TunnelResponse) : Prop where
  wrote : ∃ bytes, writeTunnelResponse response = .wrote bytes
  numbered : response.seq.isSome
  fine : response.e = none
  goesOn : response.isEof = false
  large : 16384 ≤ downloaded response

theorem exists_heavy : ∃ response, Heavy response := by
  -- The zeros are never counted one by one.
  obtain ⟨zeros, length⟩ : ∃ zeros : Bytes, zeros.length = 24576 :=
    ⟨List.replicate 24576 0, List.length_replicate⟩
  obtain ⟨byte, bytes, rfl⟩ := List.exists_cons_of_length_pos (by omega : 0 < zeros.length)
  refine ⟨{ d := some (Base64.encode (byte :: bytes)), seq := some 0 }, ?_, rfl, rfl, rfl, ?_⟩
  · exact ⟨byte :: bytes, by simp [writeTunnelResponse]⟩
  · have encoded := Base64.encode_length (byte :: bytes)
    have written := length_le_length_toUtf8 (Base64.encode (byte :: bytes))
    show 16384 ≤ (toUtf8 (Base64.encode (byte :: bytes))).length * 3 / 4
    omega

def passHeavy (loop : TunnelLoop) (rest : List InflightMeta) (response : TunnelResponse) :
    TunnelLoop :=
  { loop with
    inflight := rest
    consecutiveEmpty := 0
    idleTier := loop.idleTier / 2
    consecutiveData := saturatingSucc loop.consecutiveData
    totalDownloadBytes := loop.totalDownloadBytes + downloaded response
    nextWriteSeq := loop.nextWriteSeq + 1 }

def once (response : TunnelResponse) : TunnelLoop :=
  { (start [] none).passHeavy [{ seq := 1, wasEmptyPoll := true }] response with
    refillArmed := true }

def twice (response : TunnelResponse) : TunnelLoop :=
  { (once response).passHeavy [] response with stage := .loading }

def adding (response : TunnelResponse) : TunnelLoop := { twice response with stage := .adding }

def raised (response : TunnelResponse) : TunnelLoop :=
  { twice response with isElevated := true, maxInflight := 3, stage := .top }

theorem step_reply {maxElevated taken : Nat} {loop : TunnelLoop} {info : InflightMeta}
    {rest : List InflightMeta} {outcome : ReplyOutcome} {working : Option Nat}
    (top : loop.stage = .top) (open_ : loop.eofSeen = false) (awaits : loop.inflight = info :: rest)
    (made : working.isSome →
      (onReply { loop with inflight := rest } info outcome working).1.stage = .returned) :
    loop.step maxElevated taken (.reply 0 outcome working) =
      some (onReply { loop with inflight := rest } info outcome working) := by
  have taking : loop.takeInflight 0 = some (info, { loop with inflight := rest }) := by
    simp [takeInflight, awaits]
  have here : loop.step maxElevated taken (.reply 0 outcome working) =
      loop.stepTop (.reply 0 outcome working) := by
    unfold step
    simp only [top]
  rw [here]
  unfold stepTop
  rw [if_neg (by simp [awaits]), if_neg (by simp [open_]), if_neg (by simp [awaits])]
  simp only [taking]
  rw [if_neg fun refused => refused.2 (made refused.1)]

section Rise

variable {response : TunnelResponse} (heavy : Heavy response) (maxElevated taken : Nat)
include heavy

theorem step_heavy {loop : TunnelLoop} {info : InflightMeta} {rest : List InflightMeta}
    (top : loop.stage = .top) (open_ : loop.eofSeen = false)
    (awaits : loop.inflight = info :: rest) (turn : info.seq = loop.nextWriteSeq)
    (noneHeld : loop.pendingWrites = SeqMap.empty) (nothing : loop.bufferedUpload = none) :
    loop.step maxElevated taken (.reply 0 (.ok response) none) =
      some (passHeavy loop rest response).manageDepth := by
  obtain ⟨⟨bytes, wrote⟩, numbered, fine, goesOn, large⟩ := heavy
  have big : 1024 ≤ downloaded response := by omega
  have unlimited : response.seq.isNone = false := by simpa using numbered
  have passed : ({ loop with inflight := rest } : TunnelLoop).deliver info response none =
      passHeavy loop rest response := by
    have rounds : loop.pendingWrites.entries.length = 0 := by rw [noneHeld]; rfl
    simp only [deliver, turn, wrote, rounds, if_true]
    simp only [downloaded] at big
    simp [flush, countData, passReply, big, open_, goesOn, downloaded, passHeavy]
  have unsent : (passHeavy loop rest response).sendBuffered = passHeavy loop rest response := by
    unfold sendBuffered
    simp only [passHeavy, nothing]
  have handled : onReply { loop with inflight := rest } info (.ok response) none =
      (passHeavy loop rest response).manageDepth := by
    have stays : (passHeavy loop rest response).stage = .top := top
    simp only [onReply, onOk, unlimited, fine, passed, stays, numbered, unsent, Bool.false_eq_true,
      if_false, if_true, Option.isSome_none, ne_eq, not_true_eq_false]
  rw [step_reply top open_ awaits (by simp), handled]

theorem step_start :
    (start [] none).step maxElevated taken (.reply 0 (.ok response) none) =
      some (once response, .keep) := by
  rw [step_heavy heavy maxElevated taken rfl rfl rfl rfl rfl rfl]
  rfl

theorem step_once :
    (once response).step maxElevated taken (.reply 0 (.ok response) none) =
      some (twice response, .keep) := by
  rw [step_heavy heavy maxElevated taken rfl rfl rfl rfl rfl rfl]
  set loop := (once response).passHeavy [] response with loopIs
  have calm : loop.consecutiveEmpty = 0 := rfl
  have depth : loop.maxInflight = inflightOptimist := rfl
  have streak : loop.consecutiveData = 2 := rfl
  have enough : 32 * 1024 ≤ loop.totalDownloadBytes := by
    show 32 * 1024 ≤ 0 + downloaded response + downloaded response
    have := heavy.large
    omega
  unfold manageDepth
  rw [if_neg (by simp [calm]), if_neg (by simp [depth]),
    if_pos ⟨streak.ge, depth.ge, by rw [depth]; decide, enough⟩]
  rfl

theorem step_failing {loop : TunnelLoop} {info : InflightMeta} {rest : List InflightMeta}
    (top : loop.stage = .top) (open_ : loop.eofSeen = false)
    (awaits : loop.inflight = info :: rest) (turn : info.seq = loop.nextWriteSeq) :
    loop.step maxElevated taken (.reply 0 (.ok response) (some 0)) =
      some ({ loop with inflight := rest, stage := .returned }, .keep) := by
  obtain ⟨⟨bytes, wrote⟩, numbered, fine, -, -⟩ := heavy
  have unlimited : response.seq.isNone = false := by simpa using numbered
  have handled : onReply { loop with inflight := rest } info (.ok response) (some 0) =
      ({ loop with inflight := rest, stage := .returned }, .keep) := by
    simp [onReply, onOk, deliver, unlimited, fine, turn, wrote]
  rw [step_reply top open_ awaits (fun _ => by rw [handled]), handled]

end Rise

theorem step_twice (response : TunnelResponse) {maxElevated taken : Nat}
    (free : taken < maxElevated) :
    (twice response).step maxElevated taken .load = some (adding response, .keep) := by
  show (if taken < maxElevated then some _ else some _) = _
  rw [if_pos free]
  rfl

theorem step_adding (response : TunnelResponse) (maxElevated taken : Nat) :
    (adding response).step maxElevated taken .add = some (raised response, .acquire) := rfl

end TunnelLoop

end Gvpn
