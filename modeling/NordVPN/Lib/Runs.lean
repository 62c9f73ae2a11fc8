/-!
Runs of a state machine.

A machine is a step function `σ → ι → σ`. `Reaches step cond s₀ s` says that `s` is
reached from `s₀` by a run each of whose steps meets `cond`, a condition on the state
before the step and on the step's input.
-/

inductive Reaches {σ ι : Type} (step : σ → ι → σ) (cond : σ → ι → Prop) (s₀ : σ) : σ → Prop where
  | refl : Reaches step cond s₀ s₀
  | tail {s : σ} (i : ι) : Reaches step cond s₀ s → cond s i → Reaches step cond s₀ (step s i)

namespace Reaches

variable {σ ι : Type} {step : σ → ι → σ} {cond : σ → ι → Prop} {s₀ s : σ}

/-- What holds at the start and is kept by every step that meets the condition
holds in every state reached. -/
theorem invariant {I : σ → Prop} (h : Reaches step cond s₀ s) (init : I s₀)
    (keep : ∀ s i, I s → cond s i → I (step s i)) : I s := by
  induction h with
  | refl => exact init
  | tail i _ hc ih => exact keep _ i ih hc

end Reaches

section

variable {σ ι : Type} (step : σ → ι → σ) (cond : σ → ι → Prop) (s₀ : σ)

/-- The state after the given inputs, the latest first. -/
def runAll : List ι → σ
  | [] => s₀
  | i :: earlier => step (runAll earlier) i

/-- Every step of the run meets the condition. -/
def AllMeet : List ι → Prop
  | [] => True
  | i :: earlier => AllMeet earlier ∧ cond (runAll step s₀ earlier) i

variable {step cond s₀}

theorem reaches_runAll {inputs : List ι} (h : AllMeet step cond s₀ inputs) :
    Reaches step cond s₀ (runAll step s₀ inputs) := by
  induction inputs with
  | nil => exact .refl
  | cons i earlier ih => exact .tail i (ih h.1) h.2

end
