import Mathlib.Data.List.Basic

/-! Tries made one after another until one settles the matter. -/

namespace Gvpn

section

variable {α σ : Type} (sent : α → List σ) (again : α → Bool)

def sentInTurn : List α → List σ
  | [] => []
  | try_ :: rest => sent try_ ++ if again try_ then sentInTurn rest else []

def SentOnce (excused : σ → Prop) (sends : List σ) : Prop := ∀ send ∈ sends.dropLast, excused send

variable (goesOut arrives retried : α → Prop)

def Quiet : List α → Prop
  | [] => True
  | try_ :: rest => ¬ goesOut try_ ∧ (retried try_ → Quiet rest)

def NoReplay : List α → Prop
  | [] => True
  | try_ :: rest =>
    retried try_ → (arrives try_ → Quiet goesOut retried rest) ∧ NoReplay rest

end

variable {α σ : Type} {sent : α → List σ} {again : α → Bool} {excused : σ → Prop}
  {goesOut arrives retried : α → Prop}

@[simp] theorem sentInTurn_singleton (try_ : α) : sentInTurn sent again [try_] = sent try_ := by
  simp [sentInTurn]

theorem sentOnce_append {first second : List σ} (more : second ≠ []) :
    SentOnce excused (first ++ second) ↔
      (∀ send ∈ first, excused send) ∧ SentOnce excused second := by
  unfold SentOnce
  rw [List.dropLast_append_of_ne_nil more]
  simp only [List.mem_append, or_imp, forall_and]

theorem sentInTurn_eq_nil_iff (out : ∀ try_, sent try_ = [] ↔ ¬ goesOut try_)
    (next : ∀ try_, again try_ = true ↔ retried try_) (tries : List α) :
    sentInTurn sent again tries = [] ↔ Quiet goesOut retried tries := by
  induction tries with
  | nil => simp [sentInTurn, Quiet]
  | cons try_ rest ih =>
    rw [sentInTurn, List.append_eq_nil_iff, out, Quiet, ← next, ← ih]
    simp

theorem sentOnce_sentInTurn_iff (each : ∀ try_, SentOnce excused (sent try_))
    (out : ∀ try_, sent try_ = [] ↔ ¬ goesOut try_)
    (arrive : ∀ try_, (∀ send ∈ sent try_, excused send) ↔ ¬ arrives try_)
    (next : ∀ try_, again try_ = true ↔ retried try_) (tries : List α) :
    SentOnce excused (sentInTurn sent again tries) ↔
      NoReplay goesOut arrives retried tries := by
  induction tries with
  | nil => simp [sentInTurn, SentOnce, NoReplay]
  | cons try_ rest ih =>
    have quiet := sentInTurn_eq_nil_iff out next rest
    rw [sentInTurn, NoReplay, ← next, ← ih, ← quiet]
    by_cases goesOn : again try_ = true
    · rw [if_pos goesOn]
      by_cases nothing : sentInTurn sent again rest = []
      · -- What the later tries leave unsent cannot break the rule.
        have none_ : SentOnce excused ([] : List σ) := by simp [SentOnce]
        simp [nothing, each try_, none_]
      · rw [sentOnce_append nothing, arrive]
        simp [goesOn, nothing]
    · simp [goesOn, each try_]

end Gvpn
