import Mathlib.Logic.Function.Basic

/-!
Programs made of atomic operations.

A `Script` performs operations one at a time and goes on with what each is answered. What an
operation does to the store is given by `exec`, which also reads how the world behaves at that
moment. A script can be run from its start to its end (`Script.run`), or be one of several whose
operations interleave (`Pool`).
-/

inductive Script (Op : Type) (Ans : Op → Type) (α : Type) : Type where
  | done (a : α)
  | step (op : Op) (next : Ans op → Script Op Ans α)

namespace Script

variable {Op : Type} {Ans : Op → Type} {α β : Type}

def bind : Script Op Ans α → (α → Script Op Ans β) → Script Op Ans β
  | done a, f => f a
  | step op next, f => step op fun answer => (next answer).bind f

instance : Monad (Script Op Ans) where
  pure := done
  bind := bind

@[simp] theorem pure_eq (a : α) : (pure a : Script Op Ans α) = done a := rfl

@[simp] theorem done_bind (a : α) (f : α → Script Op Ans β) : (done a >>= f) = f a := rfl

@[simp] theorem step_bind (op : Op) (next : Ans op → Script Op Ans α) (f : α → Script Op Ans β) :
    (step op next >>= f) = step op fun answer => next answer >>= f := rfl

/-! ### What holds along every path -/

/-- Every operation that the script can come to satisfies `P`, and what it ends with `Q`, whatever
the answers are. -/
def All (P : Op → Prop) (Q : α → Prop) : Script Op Ans α → Prop
  | done a => Q a
  | step op next => P op ∧ ∀ answer, (next answer).All P Q

/-- Whatever the answers are, the script comes to an operation answered as `P` says, after which it
satisfies `R`, or it ends with a value in `Q` before that. -/
def Until (P : (op : Op) → Ans op → Prop) (R : Script Op Ans α → Prop) (Q : α → Prop) :
    Script Op Ans α → Prop
  | done a => Q a
  | step op next => ∀ answer, (P op answer → R (next answer)) ∧
      (¬ P op answer → (next answer).Until P R Q)

/-- Nothing is left to do. -/
def Ended (m : Script Op Ans α) : Prop := ∃ a, m = done a

variable {P : Op → Prop} {Q : α → Prop} {R : β → Prop} {m : Script Op Ans α}

theorem All.mono {P' : Op → Prop} {Q' : α → Prop} (h : m.All P Q) (hP : ∀ op, P op → P' op)
    (hQ : ∀ a, Q a → Q' a) : m.All P' Q' := by
  induction m with
  | done a => exact hQ a h
  | step op next ih => exact ⟨hP op h.1, fun answer => ih answer (h.2 answer)⟩

theorem All.bind {f : α → Script Op Ans β} (h : m.All P Q) (hf : ∀ a, Q a → (f a).All P R) :
    (m >>= f).All P R := by
  induction m with
  | done a => exact hf a h
  | step op next ih => exact ⟨h.1, fun answer => ih answer (h.2 answer)⟩

theorem Until.of_all {S : (op : Op) → Ans op → Prop} {N : Script Op Ans β → Prop}
    {f : α → Script Op Ans β} (hm : m.All (fun op => ∀ answer, ¬ S op answer) Q)
    (hf : ∀ a, Q a → (f a).Until S N R) : (m >>= f).Until S N R := by
  induction m with
  | done a => exact hf a hm
  | step op next ih =>
    intro answer
    exact ⟨fun h => absurd h (hm.1 answer), fun _ => ih answer (hm.2 answer)⟩

theorem Until.map {S : (op : Op) → Ans op → Prop} (h : m.Until S Ended Q) {f : α → β}
    (hf : ∀ a, Q a → R (f a)) : (m >>= fun a => pure (f a)).Until S Ended R := by
  induction m with
  | done a => exact hf a h
  | step op next ih =>
    intro answer
    constructor
    · intro hS
      obtain ⟨a, ha⟩ := (h answer).1 hS
      refine ⟨f a, ?_⟩
      change (next answer).bind _ = _
      rw [ha]
      rfl
    · intro hS
      exact ih answer ((h answer).2 hS)

end Script

/-! ### One script on its own -/

section Run

variable {ρ σ ι Op : Type} {Ans : Op → Type} {α β : Type}

/-- What a run ends with: the value, the store, and the operations of each owner with their
answers, the first one first. -/
structure Ran (σ ι Op : Type) (Ans : Op → Type) (α : Type) where
  value : α
  store : σ
  history : ι → List ((op : Op) × Ans op)

variable [DecidableEq ι] (exec : ρ → (op : Op) → σ → Ans op × σ) (owner : Op → ι)
  (world : ι → Nat → ρ)

/-- The run of a script. How the world behaves is chosen for each owner and for each of the owner's
operations. -/
def Script.run : Script Op Ans α → σ → (ι → List ((op : Op) × Ans op)) → Ran σ ι Op Ans α
  | done a, s, history => ⟨a, s, history⟩
  | step op next, s, history =>
    let past := history (owner op)
    let (answer, s') := exec (world (owner op) past.length) op s
    (next answer).run s' (Function.update history (owner op) (past ++ [⟨op, answer⟩]))

variable {exec owner world}

theorem Script.run_bind (m : Script Op Ans α) (f : α → Script Op Ans β) (s : σ)
    (history : ι → List ((op : Op) × Ans op)) :
    (m >>= f).run exec owner world s history =
      (f (m.run exec owner world s history).value).run exec owner world
        (m.run exec owner world s history).store (m.run exec owner world s history).history := by
  induction m generalizing s history with
  | done a => rfl
  | step op next ih => exact ih _ _ _

section View

variable {ν : Type} (exec owner) (view : σ → ν) (i : ι)

/-- An operation of somebody else, which leaves the part `view` of the store alone. -/
def Spares (op : Op) : Prop :=
  owner op ≠ i ∧ ∀ r s, view (exec r op s).2 = view s

/-- An operation of `i` that neither reads nor writes anything but the part `view` of the store. -/
def Confined (op : Op) : Prop :=
  owner op = i ∧ ∀ r s s', view s = view s' →
    (exec r op s).1 = (exec r op s').1 ∧ view (exec r op s).2 = view (exec r op s').2

variable {exec owner view i}

theorem Script.run_spares {m : Script Op Ans α} (h : m.All (Spares exec owner view i) fun _ => True)
    (s : σ) (history : ι → List ((op : Op) × Ans op)) :
    view (m.run exec owner world s history).store = view s ∧
      (m.run exec owner world s history).history i = history i := by
  induction m generalizing s history with
  | done a => exact ⟨rfl, rfl⟩
  | step op next ih =>
    obtain ⟨⟨hne, hview⟩, hnext⟩ := h
    obtain ⟨hstore, hpast⟩ := ih _ (hnext _) (exec (world (owner op) _) op s).2
      (Function.update history (owner op) (history (owner op) ++ [⟨op, _⟩]))
    constructor
    · exact hstore.trans (hview _ _)
    · exact hpast.trans (Function.update_of_ne hne.symm _ _)

theorem Script.run_confined {world' : ι → Nat → ρ} {m : Script Op Ans α}
    (h : m.All (Confined exec owner view i) fun _ => True) {s s' : σ}
    {history history' : ι → List ((op : Op) × Ans op)} (hworld : world i = world' i)
    (hview : view s = view s') (hpast : history i = history' i) :
    (m.run exec owner world s history).value = (m.run exec owner world' s' history').value ∧
      view (m.run exec owner world s history).store =
        view (m.run exec owner world' s' history').store ∧
      (m.run exec owner world s history).history i =
        (m.run exec owner world' s' history').history i := by
  induction m generalizing s s' history history' with
  | done a => exact ⟨rfl, hview, hpast⟩
  | step op next ih =>
    obtain ⟨⟨rfl, hlocal⟩, hnext⟩ := h
    have hsame := hlocal (world (owner op) (history (owner op)).length) s s' hview
    simp only [Script.run, ← hworld, ← hpast, ← hsame.1]
    apply ih _ (hnext _) hsame.2
    simp

end View

end Run

/-! ### What the operations of a run find -/

section Along

variable {ρ σ Op : Type} {Ans : Op → Type} {α β : Type}

/-- When the script runs alone in the world `r`, each operation finds a store that `P` asks for, and
the end satisfies `Q`. -/
def Script.Along (exec : ρ → (op : Op) → σ → Ans op × σ) (r : ρ) (P : σ → Op → Prop)
    (Q : α → σ → Prop) : Script Op Ans α → σ → Prop
  | done a, s => Q a s
  | step op next, s => P s op ∧ (next (exec r op s).1).Along exec r P Q (exec r op s).2

theorem Script.along_bind {exec : ρ → (op : Op) → σ → Ans op × σ} {r : ρ} {P : σ → Op → Prop}
    {Q : β → σ → Prop} (m : Script Op Ans α) (f : α → Script Op Ans β) (s : σ) :
    (m >>= f).Along exec r P Q s ↔ m.Along exec r P (fun a => (f a).Along exec r P Q) s := by
  induction m generalizing s with
  | done a => exact Iff.rfl
  | step op next ih => exact and_congr_right fun _ => ih _ _

end Along

/-! ### Scripts that interleave -/

section Interleaving

variable {ρ σ ι Op : Type} {Ans : Op → Type} {α : Type}

/-- A store with the scripts that work on it. -/
structure Pool (σ ι Op : Type) (Ans : Op → Type) (α : Type) where
  store : σ
  script : ι → Script Op Ans α

variable [DecidableEq ι]

/-- The next operation of the script `i`; a script that has ended does nothing. -/
def Pool.advance (exec : ρ → (op : Op) → σ → Ans op × σ) (pool : Pool σ ι Op Ans α)
    (move : ι × ρ) : Pool σ ι Op Ans α :=
  match pool.script move.1 with
  | .done _ => pool
  | .step op next =>
    let (answer, store) := exec move.2 op pool.store
    { store, script := Function.update pool.script move.1 (next answer) }

variable {exec : ρ → (op : Op) → σ → Ans op × σ} {pool : Pool σ ι Op Ans α} {move : ι × ρ}

theorem Pool.advance_done {a : α} (h : pool.script move.1 = .done a) :
    pool.advance exec move = pool := by
  unfold Pool.advance
  rw [h]

theorem Pool.advance_step {op : Op} {next : Ans op → Script Op Ans α}
    (h : pool.script move.1 = .step op next) :
    pool.advance exec move =
      { store := (exec move.2 op pool.store).2
        script := Function.update pool.script move.1 (next (exec move.2 op pool.store).1) } := by
  unfold Pool.advance
  rw [h]

end Interleaving
