import Mathlib.Tactic.Common

/-!
Shared records that are written as a whole.

A record has fields, read with `get`. Each write was asked to change some of them; the log of writes
is kept latest first. The record is settled if the value of every field is the one left by the last
write that was asked to change it, or the initial one. A write that leaves the other fields as it
finds them keeps the record settled.
-/

variable {σ φ : Type} {V : φ → Type}

/-- A write: the fields it was asked to change, and the record right after it. -/
structure Write (σ φ : Type) where
  asked : φ → Bool
  after : σ

namespace Write

/-- The value of a field after the writes, as far as they were asked to change it. -/
def lastValue (get : ∀ f, σ → V f) (init : σ) (f : φ) : List (Write σ φ) → V f
  | [] => get f init
  | w :: log => if w.asked f then get f w.after else lastValue get init f log

/-- No write was lost. -/
def Settled (get : ∀ f, σ → V f) (init : σ) (log : List (Write σ φ)) (s : σ) : Prop :=
  ∀ f, get f s = lastValue get init f log

variable {get : ∀ f, σ → V f} {init s t : σ} {log : List (Write σ φ)} {asked : φ → Bool}

theorem settled_nil : Settled get init [] init := fun _ => rfl

theorem Settled.write (h : Settled get init log s)
    (hkeep : ∀ f, asked f = false → get f t = get f s) :
    Settled get init (⟨asked, t⟩ :: log) t := by
  intro f
  unfold lastValue
  split
  · rfl
  · rename_i hasked
    rw [hkeep f (Bool.not_eq_true _ ▸ hasked)]
    exact h f

end Write
