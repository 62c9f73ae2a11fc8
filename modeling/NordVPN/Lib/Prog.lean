import Mathlib.Data.List.Basic

/-!
Imperative procedures with error returns, as a shallow embedding.

`Prog ρ σ ε α` is a procedure that reads an environment `ρ`, updates a state `σ`
in place and returns a value or an error. An error does not roll the state back:
what was written before the failing call stays written, as in a language whose
errors are ordinary return values. A run also records every state it passed
through, so that a property can be stated of each intermediate state and not of
the last one only.

`wp m r A Q s` is the weakest precondition: started in `s` under `r`, every state
visited by `m` satisfies `A`, and the result and the final state satisfy `Q`. The
`wp_*` lemmas give it for each constructor; a proof about a procedure rewrites
with them and cites one lemma for each procedure it calls.
-/

/-- What a run of a procedure leaves: its result, the final state, and the states
it passed through, oldest first. -/
structure Outcome (σ ε α : Type) where
  result : Except ε α
  final : σ
  visited : List σ

/-- A procedure reading `ρ`, updating `σ`, failing with `ε` or returning `α`. -/
def Prog (ρ σ ε α : Type) : Type := ρ → σ → Outcome σ ε α

namespace Prog

variable {ρ ρ' σ σ' ε ε' α β : Type}

/-! ### Constructors -/

/-- Return a value and touch nothing. -/
def ret (a : α) : Prog ρ σ ε α := fun _ s => ⟨.ok a, s, []⟩

/-- Run `m`; on success continue with its value, on failure stop with its error. -/
def andThen (m : Prog ρ σ ε α) (f : α → Prog ρ σ ε β) : Prog ρ σ ε β := fun r s =>
  match m r s with
  | ⟨.ok a, t, seen⟩ => ⟨(f a r t).result, (f a r t).final, seen ++ (f a r t).visited⟩
  | ⟨.error e, t, seen⟩ => ⟨.error e, t, seen⟩

instance : Monad (Prog ρ σ ε) where
  pure := ret
  bind := andThen

instance : LawfulMonad (Prog ρ σ ε) := by
  refine LawfulMonad.mk' _ (fun m => ?_) (fun a f => ?_) (fun m f g => ?_)
  · funext r s
    change andThen m ret r s = m r s
    unfold andThen ret
    rcases m r s with ⟨result, t, seen⟩
    cases result <;> simp
  · rfl
  · funext r s
    change andThen (andThen m f) g r s = andThen m (fun a => andThen (f a) g) r s
    unfold andThen
    rcases m r s with ⟨result, t, seen⟩
    cases result with
    | ok a =>
      dsimp only
      rcases f a r t with ⟨result', u, seen'⟩
      cases result' <;> simp
    | error e => rfl

variable {f : α → Prog ρ σ ε β}

theorem bind_of_ok {m : Prog ρ σ ε α} {r : ρ} {s : σ} {a : α} (h : (m r s).result = .ok a) :
    (m >>= f) r s = ⟨(f a r (m r s).final).result, (f a r (m r s).final).final,
      (m r s).visited ++ (f a r (m r s).final).visited⟩ := by
  change andThen m f r s = _
  unfold andThen
  rcases hm : m r s with ⟨result, t, seen⟩
  rw [hm] at h
  obtain rfl : result = .ok a := h
  rfl

theorem bind_of_error {m : Prog ρ σ ε α} {r : ρ} {s : σ} {e : ε} (h : (m r s).result = .error e) :
    (m >>= f) r s = ⟨.error e, (m r s).final, (m r s).visited⟩ := by
  change andThen m f r s = _
  unfold andThen
  rcases hm : m r s with ⟨result, t, seen⟩
  rw [hm] at h
  obtain rfl : result = .error e := h
  rfl

/-- Fail with `e` and touch nothing. -/
def fail (e : ε) : Prog ρ σ ε α := fun _ s => ⟨.error e, s, []⟩

/-- The environment. -/
def env : Prog ρ σ ε ρ := fun r s => ⟨.ok r, s, []⟩

/-- The current state. -/
def state : Prog ρ σ ε σ := fun _ s => ⟨.ok s, s, []⟩

/-- One atomic update of the state. -/
def update (f : σ → σ) : Prog ρ σ ε Unit := fun _ s => ⟨.ok (), f s, [f s]⟩

/-- Run `m` and hand its error back as a value. -/
def attempt (m : Prog ρ σ ε α) : Prog ρ σ ε (Except ε α) := fun r s =>
  ⟨.ok (m r s).result, (m r s).final, (m r s).visited⟩

/-- Run `m` and forget both its value and its error. -/
def ignore (m : Prog ρ σ ε α) : Prog ρ σ ε Unit := andThen (attempt m) fun _ => ret ()

/-- A result in which the errors that satisfy `p` count as success. -/
def forgive (p : ε → Bool) : Except ε Unit → Except ε Unit
  | .ok _ => .ok ()
  | .error e => if p e then .ok () else .error e

/-- Run `m`; the errors that satisfy `p` count as success. -/
def tolerate (p : ε → Bool) (m : Prog ρ σ ε Unit) : Prog ρ σ ε Unit := fun r s =>
  ⟨forgive p (m r s).result, (m r s).final, (m r s).visited⟩

/-- Run `m`; if it fails, run `recover` before the error is passed on. -/
def onError (recover : Prog ρ σ ε Unit) (m : Prog ρ σ ε α) : Prog ρ σ ε α := fun r s =>
  match m r s with
  | ⟨.ok a, t, seen⟩ => ⟨.ok a, t, seen⟩
  | ⟨.error e, t, seen⟩ => ⟨.error e, (recover r t).final, seen ++ (recover r t).visited⟩

/-- Rewrite the error of `m`. -/
def mapError (f : ε → ε') (m : Prog ρ σ ε α) : Prog ρ σ ε' α := fun r s =>
  ⟨(m r s).result.mapError f, (m r s).final, (m r s).visited⟩

/-- Run `m` only if `c` holds. -/
def when (c : Bool) (m : Prog ρ σ ε Unit) : Prog ρ σ ε Unit := if c then m else ret ()

/-- Run `f` on each element in order, stopping at the first failure. -/
def forEach (f : α → Prog ρ σ ε Unit) : List α → Prog ρ σ ε Unit
  | [] => ret ()
  | x :: xs => andThen (f x) fun _ => forEach f xs

/-- Run a procedure over a component of the state. -/
def zoom (sub : ρ → ρ') (get : σ → σ') (set : σ' → σ → σ) (m : Prog ρ' σ' ε α) :
    Prog ρ σ ε α := fun r s =>
  ⟨(m (sub r) (get s)).result, set (m (sub r) (get s)).final s,
    (m (sub r) (get s)).visited.map fun t => set t s⟩

/-! ### Weakest preconditions -/

/-- No condition on the states. -/
@[simp] abbrev any (_ : σ) : Prop := True

/-- Started in `s` under `r`, every state `m` visits satisfies `A`, and its result
and final state satisfy `Q`. -/
def wp (m : Prog ρ σ ε α) (r : ρ) (A : σ → Prop) (Q : Except ε α → σ → Prop) (s : σ) : Prop :=
  (∀ t ∈ (m r s).visited, A t) ∧ Q (m r s).result (m r s).final

/-- The postcondition of a sequence after its first half: a success continues with
`k`, an error ends the sequence. -/
def onOk (Q : Except ε β → σ → Prop) (k : α → σ → Prop) : Except ε α → σ → Prop
  | .ok a, t => k a t
  | .error e, t => Q (.error e) t

@[simp] theorem onOk_ok (Q : Except ε β → σ → Prop) (k : α → σ → Prop) (a : α) (t : σ) :
    onOk Q k (.ok a) t = k a t := rfl

@[simp] theorem onOk_error (Q : Except ε β → σ → Prop) (k : α → σ → Prop) (e : ε) (t : σ) :
    onOk Q k (.error e) t = Q (.error e) t := rfl

/-- The postcondition under a recovery: a success is passed on, an error goes to
the recovery `k` first. -/
def onFail (Q : Except ε α → σ → Prop) (k : ε → σ → Prop) : Except ε α → σ → Prop
  | .ok a, t => Q (.ok a) t
  | .error e, t => k e t

@[simp] theorem onFail_ok (Q : Except ε α → σ → Prop) (k : ε → σ → Prop) (a : α) (t : σ) :
    onFail Q k (.ok a) t = Q (.ok a) t := rfl

@[simp] theorem onFail_error (Q : Except ε α → σ → Prop) (k : ε → σ → Prop) (e : ε) (t : σ) :
    onFail Q k (.error e) t = k e t := rfl

@[simp] theorem forgive_ok (p : ε → Bool) (u : Unit) : forgive p (.ok u) = .ok () := rfl

@[simp] theorem forgive_error (p : ε → Bool) (e : ε) :
    forgive p (.error e) = if p e then .ok () else .error e := rfl

@[simp] theorem mapError_ok (f : ε → ε') (a : α) :
    (Except.ok a : Except ε α).mapError f = .ok a := rfl

@[simp] theorem mapError_error (f : ε → ε') (e : ε) :
    (Except.error e : Except ε α).mapError f = .error (f e) := rfl

theorem mapError_id (m : Prog ρ σ ε α) : mapError id m = m := by
  funext r s
  unfold mapError
  rcases m r s with ⟨result, t, seen⟩
  cases result <;> rfl

variable {recover : Prog ρ σ ε Unit} {m' : Prog ρ σ ε α} {c : Bool} {p : ε → Bool}

section Rules

variable {m : Prog ρ σ ε α} {r : ρ} {A A' : σ → Prop} {Q Q' : Except ε α → σ → Prop} {s : σ}

theorem wp_mono (h : wp m r A Q s) (hA : ∀ t, A t → A' t) (hQ : ∀ x t, Q x t → Q' x t) :
    wp m r A' Q' s :=
  ⟨fun t ht => hA t (h.1 t ht), hQ _ _ h.2⟩

theorem wp_true : wp m r any (fun _ _ => True) s := ⟨fun _ _ => trivial, trivial⟩

/-- Weaken the postcondition only. -/
theorem wp_post (h : wp m r A Q s) (hQ : ∀ x t, Q x t → Q' x t) : wp m r A Q' s :=
  wp_mono h (fun _ => id) hQ

theorem wp_and (h : wp m r A Q s) (h' : wp m r A' Q' s) :
    wp m r (fun t => A t ∧ A' t) (fun x t => Q x t ∧ Q' x t) s :=
  ⟨fun t ht => ⟨h.1 t ht, h'.1 t ht⟩, h.2, h'.2⟩

/-- Two postconditions; the states in between are not of interest. -/
theorem wp_both (h : wp m r A Q s) (h' : wp m r A' Q' s) :
    wp m r any (fun x t => Q x t ∧ Q' x t) s :=
  wp_mono (wp_and h h') (fun _ _ => trivial) fun _ _ h => h

@[simp] theorem wp_ret {a : α} : wp (ret a) r A Q s ↔ Q (.ok a) s := by simp [wp, ret]

@[simp] theorem wp_pure {a : α} : wp (pure a : Prog ρ σ ε α) r A Q s ↔ Q (.ok a) s :=
  wp_ret

@[simp] theorem wp_fail {e : ε} : wp (fail e) r A Q s ↔ Q (.error e) s := by simp [wp, fail]

@[simp] theorem wp_env {Q : Except ε ρ → σ → Prop} : wp env r A Q s ↔ Q (.ok r) s := by
  simp [wp, env]

@[simp] theorem wp_state {Q : Except ε σ → σ → Prop} : wp state r A Q s ↔ Q (.ok s) s := by
  simp [wp, state]

@[simp] theorem wp_update {f : σ → σ} {Q : Except ε Unit → σ → Prop} :
    wp (update f) r A Q s ↔ A (f s) ∧ Q (.ok ()) (f s) := by simp [wp, update]

theorem wp_andThen {Q : Except ε β → σ → Prop} :
    wp (andThen m f) r A Q s ↔ wp m r A (onOk Q fun a t => wp (f a) r A Q t) s := by
  simp only [wp, andThen]
  rcases m r s with ⟨result, t, seen⟩
  cases result with
  | ok a =>
    simp only [List.mem_append, onOk_ok]
    constructor
    · rintro ⟨hA, hQ⟩
      exact ⟨fun u hu => hA u (.inl hu), fun u hu => hA u (.inr hu), hQ⟩
    · rintro ⟨hA, hA', hQ⟩
      exact ⟨fun u hu => hu.elim (hA u) (hA' u), hQ⟩
  | error e => rfl

@[simp] theorem wp_bind {Q : Except ε β → σ → Prop} :
    wp (m >>= f) r A Q s ↔ wp m r A (onOk Q fun a t => wp (f a) r A Q t) s :=
  wp_andThen

theorem wp_pure_bind {a : β} {f : β → Prog ρ σ ε α} :
    wp (pure a >>= f) r A Q s ↔ wp (f a) r A Q s := by
  rw [wp_bind, wp_pure, onOk_ok]

theorem wp_env_bind {f : ρ → Prog ρ σ ε α} : wp (env >>= f) r A Q s ↔ wp (f r) r A Q s := by
  rw [wp_bind, wp_env, onOk_ok]

theorem wp_state_bind {f : σ → Prog ρ σ ε α} : wp (state >>= f) r A Q s ↔ wp (f s) r A Q s := by
  rw [wp_bind, wp_state, onOk_ok]

theorem wp_update_bind {g : σ → σ} {f : Unit → Prog ρ σ ε α} :
    wp (update g >>= f) r A Q s ↔ A (g s) ∧ wp (f ()) r A Q (g s) := by
  rw [wp_bind, wp_update, onOk_ok]

variable {P : Except ε α → σ → Prop}

/-- The rule of sequence: `P` is what the first half leaves. -/
theorem wp_seq {Q : Except ε β → σ → Prop} (h : wp m r A P s)
    (ok : ∀ a t, P (.ok a) t → wp (f a) r A Q t) (error : ∀ e t, P (.error e) t → Q (.error e) t) :
    wp (m >>= f) r A Q s := by
  refine wp_bind.mpr (wp_post h fun x t ht => ?_)
  cases x with
  | ok a => exact ok a t ht
  | error e => exact error e t ht

/-- The rule of sequence where only success matters. -/
theorem wp_seqOk {b : β} {R : σ → Prop} (h : wp m r A P s)
    (ok : ∀ a t, P (.ok a) t → wp (f a) r A (fun x u => x = .ok b → R u) t) :
    wp (m >>= f) r A (fun x u => x = .ok b → R u) s :=
  wp_seq h ok fun _ _ _ => nofun

/-- The rule of sequence where the first half returns `a`. -/
theorem wp_returns {a : α} {P : σ → Prop} {Q : Except ε β → σ → Prop}
    (h : wp m r A (fun x t => x = .ok a ∧ P t) s) (next : ∀ t, P t → wp (f a) r A Q t) :
    wp (m >>= f) r A Q s := by
  refine wp_bind.mpr (wp_post h ?_)
  rintro x t ⟨rfl, ht⟩
  exact next t ht

theorem wp_next {m : Prog ρ σ ε Unit} {f : Unit → Prog ρ σ ε β} {P : σ → Prop}
    {Q : Except ε β → σ → Prop} (h : wp m r A (fun x t => x = .ok () ∧ P t) s)
    (next : ∀ t, P t → wp (f ()) r A Q t) : wp (m >>= f) r A Q s :=
  wp_returns h next

/-- The rule of sequence where the first half returns some value. -/
theorem wp_yields {P : α → σ → Prop} {Q : Except ε β → σ → Prop}
    (h : wp m r A (fun x t => ∃ a, x = .ok a ∧ P a t) s) (next : ∀ a t, P a t → wp (f a) r A Q t) :
    wp (m >>= f) r A Q s := by
  refine wp_bind.mpr (wp_post h ?_)
  rintro x t ⟨a, rfl, ht⟩
  exact next a t ht

@[simp] theorem wp_attempt {Q : Except ε (Except ε α) → σ → Prop} :
    wp (attempt m) r A Q s ↔ wp m r A (fun x t => Q (.ok x) t) s := Iff.rfl

@[simp] theorem wp_ignore {Q : Except ε Unit → σ → Prop} :
    wp (ignore m) r A Q s ↔ wp m r A (fun _ t => Q (.ok ()) t) s := by
  simp only [ignore, wp_andThen, wp_attempt, onOk_ok, wp_ret]

theorem wp_ignore_bind {f : Unit → Prog ρ σ ε β} {Q : Except ε β → σ → Prop} :
    wp (ignore m >>= f) r A Q s ↔ wp m r A (fun _ t => wp (f ()) r A Q t) s := by
  rw [wp_bind, wp_ignore]
  simp only [onOk_ok]

@[simp] theorem wp_tolerate {m : Prog ρ σ ε Unit} {Q : Except ε Unit → σ → Prop} :
    wp (tolerate p m) r A Q s ↔ wp m r A (fun x t => Q (forgive p x) t) s := Iff.rfl

@[simp] theorem wp_onError :
    wp (onError recover m) r A Q s ↔
      wp m r A (onFail Q fun e t => wp recover r A (fun _ u => Q (.error e) u) t) s := by
  unfold wp onError
  rcases m r s with ⟨result, t, seen⟩
  cases result with
  | ok a => rfl
  | error e =>
    simp only [List.mem_append, onFail_error]
    constructor
    · rintro ⟨hA, hQ⟩
      exact ⟨fun u hu => hA u (.inl hu), fun u hu => hA u (.inr hu), hQ⟩
    · rintro ⟨hA, hA', hQ⟩
      exact ⟨fun u hu => hu.elim (hA u) (hA' u), hQ⟩

/-- The rule of recovery. -/
theorem wp_recover (h : wp m r A P s) (ok : ∀ a t, P (.ok a) t → Q (.ok a) t)
    (error : ∀ e t, P (.error e) t → wp recover r A (fun _ u => Q (.error e) u) t) :
    wp (onError recover m) r A Q s := by
  refine wp_onError.mpr (wp_post h fun x t ht => ?_)
  cases x with
  | ok a => exact ok a t ht
  | error e => exact error e t ht

@[simp] theorem wp_mapError {f : ε → ε'} {Q : Except ε' α → σ → Prop} :
    wp (mapError f m) r A Q s ↔ wp m r A (fun x t => Q (x.mapError f) t) s := Iff.rfl

theorem wp_mapError_ok {f : ε → ε'} {a : α} {P : σ → Prop}
    (h : wp m r A (fun x t => x = .ok a ∧ P t) s) :
    wp (mapError f m) r A (fun x t => x = .ok a ∧ P t) s := by
  refine wp_mapError.mpr (wp_post h ?_)
  rintro _ t ⟨rfl, ht⟩
  exact ⟨rfl, ht⟩

theorem wp_zoom {sub : ρ → ρ'} {get : σ → σ'} {set : σ' → σ → σ} {m : Prog ρ' σ' ε α} :
    wp (zoom sub get set m) r A Q s ↔
      wp m (sub r) (fun t => A (set t s)) (fun x t => Q x (set t s)) (get s) := by
  simp [wp, zoom]

theorem wp_when {m : Prog ρ σ ε Unit} {Q : Except ε Unit → σ → Prop} :
    wp (when c m) r A Q s ↔ (c = true → wp m r A Q s) ∧ (c = false → Q (.ok ()) s) := by
  cases c <;> simp [when]

theorem wp_ite {c : Prop} [Decidable c] :
    wp (if c then m else m') r A Q s ↔ (c → wp m r A Q s) ∧ (¬ c → wp m' r A Q s) := by
  by_cases h : c <;> simp [h]

end Rules

/-! ### Loops -/

@[simp] theorem wp_forEach_nil {f : α → Prog ρ σ ε Unit} {r : ρ} {A : σ → Prop}
    {Q : Except ε Unit → σ → Prop} {s : σ} :
    wp (forEach f []) r A Q s ↔ Q (.ok ()) s :=
  wp_ret

@[simp] theorem wp_forEach_cons {f : α → Prog ρ σ ε Unit} {r : ρ} {A : σ → Prop}
    {Q : Except ε Unit → σ → Prop} {s : σ} {x : α} {xs : List α} :
    wp (forEach f (x :: xs)) r A Q s ↔
      wp (f x) r A (onOk Q fun _ t => wp (forEach f xs) r A Q t) s :=
  wp_andThen

/-! ### Procedures without errors -/

/-- `m` returns a value from every state. -/
def NeverFails (r : ρ) (m : Prog ρ σ ε α) : Prop :=
  ∀ s, wp m r (fun _ => True) (fun x _ => ∃ a, x = .ok a) s

section NeverFails

variable {r : ρ} {m : Prog ρ σ ε α}

theorem NeverFails.pure (a : α) : NeverFails r (pure a : Prog ρ σ ε α) :=
  fun _ => wp_pure.mpr ⟨a, rfl⟩

theorem NeverFails.ite {c : Prop} [Decidable c] (hm : NeverFails r m) (hm' : NeverFails r m') :
    NeverFails r (if c then m else m') := by
  split
  · exact hm
  · exact hm'

theorem NeverFails.ignore : NeverFails r (ignore m) := fun _ =>
  wp_ignore.mpr ⟨fun _ _ => trivial, (), rfl⟩

theorem NeverFails.when {m : Prog ρ σ ε Unit} (hm : NeverFails r m) :
    NeverFails r (when c m) := fun s => wp_when.mpr ⟨fun _ => hm s, fun _ => ⟨(), rfl⟩⟩

/-- The rule of sequence after a procedure that never fails. -/
theorem NeverFails.next {Q : Except ε β → σ → Prop} {s : σ} (hm : NeverFails r m)
    (hf : ∀ a t, wp (f a) r any Q t) :
    wp (m >>= f) r any Q s :=
  wp_seq (hm s) (fun a t _ => hf a t) fun _ _ ⟨_, h⟩ => nomatch h

theorem NeverFails.seq (hm : NeverFails r m) (hf : ∀ {a}, NeverFails r (f a)) :
    NeverFails r (m >>= f) :=
  fun _ => hm.next fun _ => hf

end NeverFails

/-! ### Errors -/

/-- From every state `m` succeeds or fails with an error in `E`. -/
def Raises (r : ρ) (E : ε → Prop) (m : Prog ρ σ ε α) : Prop :=
  ∀ s, wp m r (fun _ => True) (fun x _ => ∀ e, x = .error e → E e) s

section Raises

variable {r : ρ} {E : ε → Prop} {m : Prog ρ σ ε α}

theorem Raises.pure (a : α) : Raises r E (pure a : Prog ρ σ ε α) := fun _ => wp_pure.mpr nofun

theorem Raises.fail {e : ε} (h : E e) : Raises r E (fail e : Prog ρ σ ε α) := by
  refine fun _ => wp_fail.mpr ?_
  rintro _ ⟨⟩
  exact h

theorem Raises.env : Raises r E (env : Prog ρ σ ε ρ) := fun _ => wp_env.mpr nofun

theorem Raises.state : Raises r E (state : Prog ρ σ ε σ) := fun _ => wp_state.mpr nofun

theorem Raises.update {f : σ → σ} : Raises r E (update f : Prog ρ σ ε Unit) :=
  fun _ => wp_update.mpr ⟨trivial, nofun⟩

theorem Raises.bind (hm : Raises r E m) (hf : ∀ a, Raises r E (f a)) :
    Raises r E (m >>= f) := by
  refine fun s => wp_seq (hm s) (fun a t _ => hf a t) fun e t ht => ?_
  rintro _ ⟨⟩
  exact ht e rfl

theorem Raises.seq (hm : Raises r E m) (hf : ∀ {a}, Raises r E (f a)) :
    Raises r E (m >>= f) :=
  hm.bind fun _ => hf

theorem Raises.attempt : Raises r E (attempt m) := fun _ => ⟨fun _ _ => trivial, nofun⟩

theorem Raises.ignore : Raises r E (ignore m) := fun _ => wp_ignore.mpr ⟨fun _ _ => trivial, nofun⟩

theorem Raises.mapError {E' : ε' → Prop} {f : ε → ε'} (hm : Raises r E m)
    (h : ∀ e, E e → E' (f e)) :
    Raises r E' (mapError f m) := by
  refine fun s => wp_mapError.mpr (wp_post (hm s) fun x t hx => ?_)
  cases x with
  | ok a => exact nofun
  | error e =>
    rintro _ ⟨⟩
    exact h e (hx e rfl)

theorem Raises.tolerate {m : Prog ρ σ ε Unit} (hm : Raises r E m) :
    Raises r E (tolerate p m) := by
  refine fun s => wp_tolerate.mpr (wp_post (hm s) fun x t hx => ?_)
  cases x with
  | ok a => exact nofun
  | error e =>
    rw [forgive_error]
    split
    · exact nofun
    · exact hx

/-- The error is that of the procedure, not that of its recovery. -/
theorem Raises.onError (hm : Raises r E m) :
    Raises r E (onError recover m) :=
  fun s => wp_recover (hm s) (fun _ _ _ => nofun) fun _ _ h => wp_post wp_true fun _ _ _ => h

theorem Raises.ite {c : Prop} [Decidable c] (hm : Raises r E m) (hm' : Raises r E m') :
    Raises r E (if c then m else m') := by
  split
  · exact hm
  · exact hm'

theorem Raises.when {m : Prog ρ σ ε Unit} (hm : Raises r E m) : Raises r E (when c m) :=
  fun s => wp_when.mpr ⟨fun _ => hm s, fun _ => nofun⟩

theorem Raises.forEach {f : α → Prog ρ σ ε Unit} {xs : List α} (hf : ∀ a ∈ xs, Raises r E (f a)) :
    Raises r E (forEach f xs) := by
  induction xs with
  | nil => exact Raises.pure ()
  | cons x xs ih =>
    exact Raises.bind (hf x List.mem_cons_self) fun _ =>
      ih fun a ha => hf a (List.mem_cons_of_mem _ ha)

theorem Raises.zoom {sub : ρ → ρ'} {get : σ → σ'} {set : σ' → σ → σ} {m : Prog ρ' σ' ε α}
    (hm : Raises (sub r) E m) : Raises r E (zoom sub get set m) :=
  fun s => wp_zoom.mpr (hm (get s))

end Raises

/-! ### Invariants -/

/-- From a state with `I`, every state `m` visits has `A` and the final one has `I`,
whether `m` succeeds or fails. With `A` the same as `I` the invariant holds at every
step; with a weaker `A` it may be broken inside `m`. -/
def Keeps (r : ρ) (A I : σ → Prop) (m : Prog ρ σ ε α) : Prop :=
  ∀ s, I s → wp m r A (fun _ t => I t) s

section Keeps

variable {r : ρ} {A A' I : σ → Prop} {m : Prog ρ σ ε α}

theorem Keeps.weaken (hm : Keeps r A I m) (h : ∀ s, A s → A' s) : Keeps r A' I m :=
  fun s hs => wp_mono (hm s hs) h fun _ _ => id

theorem Keeps.and {I' : σ → Prop} (hm : Keeps r A I m) (hm' : Keeps r A' I' m) :
    Keeps r any (fun s => I s ∧ I' s) m :=
  fun s hs => wp_both (hm s hs.1) (hm' s hs.2)

theorem Keeps.pure (a : α) : Keeps r A I (pure a : Prog ρ σ ε α) := fun _ h => wp_pure.mpr h

theorem Keeps.fail (e : ε) : Keeps r A I (fail e : Prog ρ σ ε α) := fun _ h => wp_fail.mpr h

theorem Keeps.env : Keeps r A I (env : Prog ρ σ ε ρ) := fun _ h => wp_env.mpr h

theorem Keeps.state : Keeps r A I (state : Prog ρ σ ε σ) := fun _ h => wp_state.mpr h

theorem Keeps.update {f : σ → σ} (hA : ∀ s, I s → A s) (h : ∀ s, I s → I (f s)) :
    Keeps r A I (update f : Prog ρ σ ε Unit) :=
  fun s hs => wp_update.mpr ⟨hA _ (h s hs), h s hs⟩

theorem Keeps.assign {f : σ → σ} (h : ∀ s, I s → I (f s)) :
    Keeps r any I (Prog.update f : Prog ρ σ ε Unit) :=
  Keeps.update (fun _ _ => trivial) h

theorem Keeps.bind (hm : Keeps r A I m) (hf : ∀ a, Keeps r A I (f a)) :
    Keeps r A I (m >>= f) := by
  intro s hs
  refine wp_bind.mpr (wp_post (hm s hs) fun x t ht => ?_)
  cases x with
  | ok a => exact hf a t ht
  | error e => exact ht

theorem Keeps.seq (hm : Keeps r A I m) (hf : ∀ {a}, Keeps r A I (f a)) :
    Keeps r A I (m >>= f) :=
  hm.bind fun _ => hf

/-- What holds after the first half is kept by the second. -/
theorem wp_keeps {s : σ} (h : wp m r A (fun _ t => I t) s) (hf : ∀ a, Keeps r A I (f a)) :
    wp (m >>= f) r A (fun _ t => I t) s :=
  wp_seq h (fun a t ht => hf a t ht) fun _ _ ht => ht

/-- A procedure that keeps `I`, followed by one that leads from `I` to `Q`. -/
theorem Keeps.leads {Q : Except ε β → σ → Prop} (hm : Keeps r A I m)
    (herror : ∀ e s, I s → Q (.error e) s) (hf : ∀ a s, I s → wp (f a) r A Q s) :
    ∀ s, I s → wp (m >>= f) r A Q s :=
  fun s hs => wp_seq (hm s hs) (fun a t ht => hf a t ht) herror

theorem Keeps.next {Q : Except ε β → σ → Prop} {s : σ} (hm : Keeps r any I m)
    (hok : NeverFails r m) (hs : I s) (hf : ∀ a t, I t → wp (f a) r any Q t) :
    wp (m >>= f) r any Q s :=
  wp_seq (wp_both (hm s hs) (hok s)) (fun a t ht => hf a t ht.1) fun _ _ h => by
    cases h.2.choose_spec

theorem Keeps.attempt (hm : Keeps r A I m) : Keeps r A I (attempt m) := hm

theorem Keeps.ignore (hm : Keeps r A I m) : Keeps r A I (ignore m) :=
  fun s hs => wp_ignore.mpr (hm s hs)

theorem Keeps.tolerate {m : Prog ρ σ ε Unit} (hm : Keeps r A I m) :
    Keeps r A I (tolerate p m) := hm

theorem Keeps.onError (hr : Keeps r A I recover) (hm : Keeps r A I m) :
    Keeps r A I (onError recover m) :=
  fun s hs => wp_recover (hm s hs) (fun _ _ h => h) fun _ => hr

theorem Keeps.mapError {f : ε → ε'} (hm : Keeps r A I m) : Keeps r A I (mapError f m) := hm

theorem Keeps.ite {c : Prop} [Decidable c] (hm : Keeps r A I m) (hm' : Keeps r A I m') :
    Keeps r A I (if c then m else m') := by
  split
  · exact hm
  · exact hm'

theorem Keeps.guard {m : Prog ρ σ ε Unit} (hm : Keeps r A I m) :
    Keeps r A I (when c m) :=
  fun s hs => wp_when.mpr ⟨fun _ => hm s hs, fun _ => hs⟩

theorem Keeps.when {m : Prog ρ σ ε Unit} (hm : c = true → Keeps r A I m) :
    Keeps r A I (when c m) :=
  fun s hs => wp_when.mpr ⟨fun hc => hm hc s hs, fun _ => hs⟩

theorem Keeps.forEach {f : α → Prog ρ σ ε Unit} {xs : List α}
    (hf : ∀ a ∈ xs, Keeps r A I (f a)) : Keeps r A I (forEach f xs) := by
  induction xs with
  | nil => exact fun s hs => wp_forEach_nil.mpr hs
  | cons x xs ih =>
    exact Keeps.bind (hf x List.mem_cons_self) fun _ =>
      ih fun a ha => hf a (List.mem_cons_of_mem _ ha)

end Keeps

/-! ### What a success leads to -/

/-- From a state with `I`, a run of `m` that succeeds ends with `J`. -/
def Attains (r : ρ) (I J : σ → Prop) (m : Prog ρ σ ε α) : Prop :=
  ∀ s, I s → wp m r any (fun x t => ∀ a, x = .ok a → J t) s

section Attains

variable {r : ρ} {I J K : σ → Prop} {m : Prog ρ σ ε α}

theorem Attains.of_post (h : ∀ s, I s → wp m r any (fun _ t => J t) s) : Attains r I J m :=
  fun s hs => wp_post (h s hs) fun _ _ ht _ _ => ht

theorem Attains.ok {s : σ} (h : Attains r I J m) (hs : I s) (a : α) :
    wp m r any (fun x t => x = .ok a → J t) s :=
  wp_post (h s hs) fun _ _ ht => ht a

theorem Attains.seq (hm : Attains r I J m) (hf : ∀ {a}, Attains r J K (f a)) :
    Attains r I K (m >>= f) :=
  fun s hs => wp_seq (hm s hs) (fun a t ht => hf t (ht a rfl)) fun _ _ _ _ => nofun

theorem Keeps.attains (hm : Keeps r any I m) (hf : ∀ {a}, Attains r I J (f a)) :
    Attains r I J (m >>= f) :=
  (Attains.of_post hm).seq hf

/-- The first half may do anything. -/
theorem Attains.skip (hf : ∀ {a}, Attains r any J (f a)) : Attains r any J (m >>= f) :=
  Keeps.attains (fun _ _ => wp_true) hf

theorem Attains.onError (hm : Attains r I J m) : Attains r I J (onError recover m) :=
  fun s hs => wp_recover (hm s hs) (fun _ _ ht => ht) fun _ _ _ =>
    wp_post wp_true fun _ _ _ _ => nofun

theorem Attains.ite {c : Prop} [Decidable c] (hm : Attains r I J m) (hm' : Attains r I J m') :
    Attains r I J (if c then m else m') := by
  split
  · exact hm
  · exact hm'

theorem Attains.fail (e : ε) : Attains r I J (fail e : Prog ρ σ ε α) :=
  fun _ _ => wp_fail.mpr fun _ => nofun

theorem Attains.assign {f : σ → σ} (h : ∀ s, I s → J (f s)) :
    Attains r I J (update f : Prog ρ σ ε Unit) :=
  fun s hs => wp_update.mpr ⟨trivial, fun _ _ => h s hs⟩

end Attains

end Prog
