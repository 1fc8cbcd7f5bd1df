import Gvpn.Proofs.LoopSteps

/-! What a step of a session's loop does to its permit for more depth. -/

namespace Gvpn

theorem Permit.apply_release {taken : Nat} (positive : 0 < taken) :
    Permit.release.apply taken + 1 = taken := by
  obtain ⟨fewer, rfl⟩ := Nat.exists_eq_succ_of_ne_zero positive.ne'
  rfl

namespace TunnelLoop

def Steady (loop after : TunnelLoop) : Prop :=
  after.isElevated = loop.isElevated ∧ (after.stage = loop.stage ∨ after.stage = .leaving)

variable {loop after : TunnelLoop}

theorem Sends.steady (sends : Sends loop after) : Steady loop after :=
  ⟨sends.isElevated, .inl sends.stage⟩

theorem steady_onGrace (loop : TunnelLoop) (info : InflightMeta) (outcome : ReplyOutcome) :
    Steady loop (loop.onGrace info outcome) :=
  ⟨(keeps_onGrace loop info outcome).isElevated, stage_onGrace loop info outcome⟩

inductive ReplyEffect (loop after : TunnelLoop) (working : Option Nat) : Permit → Prop
  | steady (steady : Steady loop after) : ReplyEffect loop after working .keep
  -- The session looks for a permit.
  | rises (same : after.isElevated = loop.isElevated) (without : loop.isElevated = false)
      (loading : after.stage = .loading) : ReplyEffect loop after working .keep
  | fails (same : after.isElevated = loop.isElevated) (returned : after.stage = .returned)
      (given : working ≠ none) : ReplyEffect loop after working .keep
  -- The session gives its permit back.
  | lowers (elevated : loop.isElevated = true) (without : after.isElevated = false)
      (same : after.stage = loop.stage) : ReplyEffect loop after working .release

theorem replyEffect_manageDepth (loop : TunnelLoop) (working : Option Nat) :
    ReplyEffect loop loop.manageDepth.1 working loop.manageDepth.2 := by
  have refilled : ∀ other : TunnelLoop, other.isElevated = loop.isElevated →
      other.stage = loop.stage → ReplyEffect loop other.scheduleRefill working .keep := by
    intro other elevated stage
    exact .steady ⟨(isElevated_scheduleRefill other).trans elevated,
      .inl ((stage_scheduleRefill other).trans stage)⟩
  unfold manageDepth
  split
  · cases elevated : loop.isElevated with
    | true =>
      exact .lowers elevated (isElevated_scheduleRefill _) (stage_scheduleRefill _)
    | false => exact refilled _ elevated.symm rfl
  · split
    · exact refilled _ rfl rfl
    · split
      · split
        · exact refilled _ rfl rfl
        · rename_i without
          exact .rises rfl (Bool.eq_false_iff.mpr without) rfl
      · exact refilled _ rfl rfl

variable {permit : Permit}

theorem ReplyEffect.of_same {other : TunnelLoop} {working : Option Nat}
    (effect : ReplyEffect other after working permit)
    (elevated : other.isElevated = loop.isElevated) (stage : other.stage = loop.stage) :
    ReplyEffect loop after working permit := by
  cases effect with
  | steady steady => exact .steady ⟨steady.1.trans elevated, stage ▸ steady.2⟩
  | rises same without loading =>
    exact .rises (same.trans elevated) (elevated ▸ without) loading
  | fails same returned given => exact .fails (same.trans elevated) returned given
  | lowers held without same => exact .lowers (elevated ▸ held) without (same.trans stage)

theorem replyEffect_onOk (loop : TunnelLoop) (info : InflightMeta) (response : TunnelResponse)
    (working : Option Nat) (top : loop.stage = .top) :
    ReplyEffect loop (loop.onOk info response working).1 working
      (loop.onOk info response working).2 := by
  obtain ⟨-, sameStage, narrowed⟩ := narrow_fields loop response
  have delivered := narrowed.trans (keeps_deliver (loop.narrow response) info response working)
  have sent := sends_sendBuffered ((loop.narrow response).deliver info response working)
  have elevated := sent.isElevated.trans delivered.isElevated
  have handled := handled_onOk loop info response working
  generalize loop.onOk info response working = result at handled ⊢
  cases handled with
  | error => exact .steady ⟨narrowed.isElevated, .inr rfl⟩
  | out fine out =>
    rcases stage_deliver (loop.narrow response) info response working with
      same | leaves | ⟨failed, given⟩
    · exact absurd ((same.trans sameStage).trans top) out
    · exact .steady ⟨delivered.isElevated, .inr leaves⟩
    · exact .fails delivered.isElevated failed given
  | numbered fine stays =>
    exact (replyEffect_manageDepth _ working).of_same elevated
      ((sent.stage.trans stays).trans top.symm)
  | unnumbered fine stays =>
    exact .steady ⟨(isElevated_scheduleRefill _).trans elevated,
      .inl ((stage_scheduleRefill _).trans ((sent.stage.trans stays).trans top.symm))⟩

theorem replyEffect_onReply (loop : TunnelLoop) (info : InflightMeta) (outcome : ReplyOutcome)
    (working : Option Nat) (top : loop.stage = .top) :
    ReplyEffect loop (loop.onReply info outcome working).1 working
      (loop.onReply info outcome working).2 := by
  cases outcome with
  | ok response => exact replyEffect_onOk loop info response working top
  | timeout => exact .steady ⟨rfl, .inl rfl⟩
  | batchErr | dropped => exact .steady ⟨rfl, .inr rfl⟩

inductive Effect (maxElevated taken : Nat) (loop after : TunnelLoop) (event : LoopEvent) :
    Permit → Prop
  | steady (top : loop.stage = .top) (same : after.isElevated = loop.isElevated)
      (stage : after.stage = .top ∨ after.stage = .leaving) (through : event.fails = false) :
      Effect maxElevated taken loop after event .keep
  | rises (top : loop.stage = .top) (same : after.isElevated = loop.isElevated)
      (without : loop.isElevated = false) (loading : after.stage = .loading)
      (through : event.fails = false) : Effect maxElevated taken loop after event .keep
  | fails (top : loop.stage = .top) (same : after.isElevated = loop.isElevated)
      (returned : after.stage = .returned) (fails : event.fails = true) :
      Effect maxElevated taken loop after event .keep
  | lowers (top : loop.stage = .top) (elevated : loop.isElevated = true)
      (without : after.isElevated = false) (stays : after.stage = .top)
      (through : event.fails = false) : Effect maxElevated taken loop after event .release
  | loadFree (loading : loop.stage = .loading) (same : after.isElevated = loop.isElevated)
      (free : taken < maxElevated) (adding : after.stage = .adding) (load : event = .load) :
      Effect maxElevated taken loop after event .keep
  | loadFull (loading : loop.stage = .loading) (same : after.isElevated = loop.isElevated)
      (full : maxElevated ≤ taken) (stays : after.stage = .top) (load : event = .load) :
      Effect maxElevated taken loop after event .keep
  | add (adding : loop.stage = .adding) (elevated : after.isElevated = true)
      (stays : after.stage = .top) (add : event = .add) :
      Effect maxElevated taken loop after event .acquire
  | leave (leaving : loop.stage = .leaving) (same : after.isElevated = loop.isElevated)
      (ended : after.stage = .ended) (leave : event = .leave) :
      Effect maxElevated taken loop after event (if loop.isElevated then .release else .keep)

variable {maxElevated taken : Nat} {event : LoopEvent}

theorem Steady.effect {other : TunnelLoop} (steady : Steady other after) (top : other.stage = .top)
    (stage : loop.stage = other.stage) (elevated : other.isElevated = loop.isElevated)
    (through : event.fails = false) : Effect maxElevated taken loop after event .keep :=
  .steady (stage.trans top) (steady.1.trans elevated) (top ▸ steady.2) through

theorem ReplyEffect.effect {working : Option Nat} (effect : ReplyEffect loop after working permit)
    (top : loop.stage = .top) (made : working.isSome → after.stage = .returned)
    (told : event.fails = working.isSome) : Effect maxElevated taken loop after event permit := by
  have through (other : after.stage ≠ .returned) : event.fails = false := by
    rw [told]
    exact Bool.eq_false_iff.mpr fun given => other (made given)
  cases effect with
  | steady steady =>
    have stage : after.stage = .top ∨ after.stage = .leaving := top ▸ steady.2
    refine .steady top steady.1 stage (through ?_)
    rcases stage with stage | stage <;> simp [stage]
  | rises same without loading =>
    exact .rises top same without loading (through (by simp [loading]))
  | fails same returned given =>
    exact .fails top same returned (told.trans (Option.isSome_iff_ne_none.mpr given))
  | lowers elevated without same =>
    exact .lowers top elevated without (same.trans top) (through (by simp [same, top]))

theorem effect_of_step (steps : loop.step maxElevated taken event = some (after, permit)) :
    Effect maxElevated taken loop after event permit := by
  cases change_of_step steps with
  | finish top | graceOver top => exact .steady top rfl (.inr rfl) rfl
  | grace top => exact (steady_onGrace _ _ _).effect top rfl rfl rfl
  | idle top idle =>
    rcases sends_onIdle idle with sends | rfl
    · exact sends.steady.effect top rfl rfl rfl
    · exact .steady top rfl (.inr rfl) rfl
  | refill top => exact (sends_onRefill loop).steady.effect top rfl rfl rfl
  | read top => exact (sends_onRead loop _).steady.effect top rfl rfl rfl
  | @reply id outcome working info top open_ found made =>
    have effect := replyEffect_onReply { loop with inflight := loop.inflight.eraseIdx id } info
      outcome working top
    have effect : ReplyEffect loop _ working _ := effect.of_same rfl rfl
    exact effect.effect top made (by cases working <;> rfl)
  | loadFree loading free => exact .loadFree loading rfl free rfl rfl
  | loadFull loading full =>
    exact .loadFull loading (isElevated_scheduleRefill _) full (stage_scheduleRefill _) rfl
  | add adding =>
    exact .add adding (isElevated_scheduleRefill _) (stage_scheduleRefill _) rfl
  | leave leaving => exact .leave leaving rfl rfl rfl

def keepsPermit (loop : TunnelLoop) : Bool := loop.isElevated && loop.stage ≠ .ended

def Unraised (loop : TunnelLoop) : Prop :=
  loop.stage = .loading ∨ loop.stage = .adding → loop.isElevated = false

theorem Effect.unraised (effect : Effect maxElevated taken loop after event permit)
    (unraised : loop.Unraised) : after.Unraised := by
  intro waits
  cases effect with
  | steady top same stage =>
    rcases stage with stage | stage <;> simp [stage] at waits
  | rises top same without => exact same.trans without
  | fails top same returned => simp [returned] at waits
  | lowers top elevated without => exact without
  | loadFree loading same => exact same.trans (unraised (.inl loading))
  | loadFull loading same full stays => simp [stays] at waits
  | add adding elevated stays => simp [stays] at waits
  | leave leaving same ended => simp [ended] at waits

theorem Effect.apply_add (effect : Effect maxElevated taken loop after event permit)
    (unraised : loop.Unraised) (covered : loop.keepsPermit → 0 < taken) :
    permit.apply taken + (if loop.keepsPermit then 1 else 0) =
      taken + (if after.keepsPermit then 1 else 0) := by
  cases effect with
  | steady top same stage =>
    rcases stage with stage | stage <;> simp [keepsPermit, top, same, stage, Permit.apply]
  | rises top same without loading => simp [keepsPermit, top, same, loading, Permit.apply]
  | fails top same returned => simp [keepsPermit, top, same, returned, Permit.apply]
  | lowers top elevated without stays =>
    have positive := covered (by simp [keepsPermit, elevated, top])
    simpa [keepsPermit, top, elevated, without] using Permit.apply_release positive
  | loadFree loading same free adding =>
    simp [keepsPermit, loading, same, adding, Permit.apply]
  | loadFull loading same full stays => simp [keepsPermit, loading, same, stays, Permit.apply]
  | add adding elevated stays =>
    simp [keepsPermit, adding, unraised (.inr adding), elevated, stays, Permit.apply]
  | leave leaving same ended =>
    cases elevated : loop.isElevated with
    | false => simp [keepsPermit, elevated, same, Permit.apply]
    | true =>
      have positive := covered (by simp [keepsPermit, elevated, leaving])
      simpa [keepsPermit, leaving, elevated, ended] using Permit.apply_release positive

end TunnelLoop

end Gvpn
