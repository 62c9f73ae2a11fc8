import Mathlib.Logic.Function.Basic
import NordVPN.Lib.Runs

/-!
The context that VPN connects and meshnet connects share (`sharedctx/sharedctx.go`).

`TryExecuteWith` holds `execMu` while its action runs and writes the context and the cancel function
under `mu` before and after. A step is one such section, the `TryLock`, the call of the action with
the context it finds, the release of `execMu`, the deferred `cancel` or the call of a returned
cancel function. The action runs until the section that clears the context.
-/

namespace NordVPN

/-- Where a call of `TryExecuteWith` is. Contexts are numbered as they are constructed. -/
inductive TryExecute where
  | idle
  | refused
  | locked
  | installed (own : Nat)
  | executing (own : Nat) (ctx : Option Nat)
  | cleared (own : Nat)
  | unlocked (own : Nat)
  | returned (own : Nat)
deriving DecidableEq, Repr

namespace TryExecute

/-- The context that the call constructed. -/
@[simp] def own : TryExecute → Option Nat
  | .idle | .refused | .locked => none
  | .installed own | .executing own _ | .cleared own | .unlocked own | .returned own => some own

/-- The context of the action while it runs. -/
@[simp] def action : TryExecute → Option Nat
  | .installed own | .executing own _ => some own
  | _ => none

/-- The call has the execution lock. -/
@[simp] def Holds : TryExecute → Prop
  | .locked | .installed _ | .executing _ _ | .cleared _ => True
  | _ => False

end TryExecute

structure SharedContext where
  execMu : Option Nat := none
  ctx : Option Nat := none
  /-- the context that the stored cancel function cancels -/
  cancelFunc : Option Nat := none
  constructed : Nat := 0
  calls : Nat → TryExecute := fun _ => .idle
  /-- the cancel functions that were called -/
  called : List Nat := []
  cancelled : List Nat := []

namespace SharedContext

/-- `CancelFunc`. -/
def getCancelFunc (s : SharedContext) : Option Nat × Bool :=
  match s.cancelFunc with
  | none => (none, false)
  | some c => (some c, decide (c ∈ s.called))

/-- A step of a call of `TryExecuteWith`, or the call of the cancel function of a context. -/
inductive Move where
  | tryExecuteWith (call : Nat)
  | cancel (c : Nat)

def goTo (s : SharedContext) (call : Nat) (p : TryExecute) : SharedContext :=
  { s with calls := Function.update s.calls call p }

theorem calls_goTo {s : SharedContext} {call t : Nat} (h : t ≠ call) {p : TryExecute} :
    (s.goTo call p).calls t = s.calls t := by
  simp [goTo, h]

/-- The next step of a call of `TryExecuteWith`. -/
def tryExecuteWith (s : SharedContext) (call : Nat) : SharedContext :=
  match s.calls call with
  | .idle => if s.execMu = none then { s with execMu := some call }.goTo call .locked
      else s.goTo call .refused
  | .locked => { s with
      ctx := some s.constructed
      cancelFunc := some s.constructed
      constructed := s.constructed + 1 }.goTo call (.installed s.constructed)
  | .installed own => s.goTo call (.executing own s.ctx)
  | .executing own _ => { s with ctx := none, cancelFunc := none }.goTo call (.cleared own)
  | .cleared own => { s with execMu := none }.goTo call (.unlocked own)
  | .unlocked own => { s with cancelled := own :: s.cancelled }.goTo call (.returned own)
  | .refused | .returned _ => s

/-- `cancelFunc.call`, of the function for the context. The function is stored when it is made. -/
def call (s : SharedContext) (c : Nat) : SharedContext :=
  { s with cancelled := c :: s.cancelled, called := c :: s.called }

def step (s : SharedContext) : Move → SharedContext
  | .tryExecuteWith call => s.tryExecuteWith call
  | .cancel c => s.call c

end SharedContext

/-- What a call says about the execution lock, the stored context and those constructed. -/
structure TryExecute.Fits (p : TryExecute) (call : Nat) (execMu ctx : Option Nat)
    (constructed : Nat) : Prop where
  lock : p.Holds ↔ execMu = some call
  stored : p.Holds → ctx = p.action
  past : ∀ c, p.own = some c → c < constructed
  given : ∀ own ctx, p = .executing own ctx → ctx = some own

namespace SharedContext

structure Sound (s : SharedContext) : Prop where
  pair : s.cancelFunc = s.ctx
  free : s.execMu = none → s.ctx = none
  fits : ∀ call, (s.calls call).Fits call s.execMu s.ctx s.constructed
  distinct : ∀ t u c, (s.calls t).own = some c → (s.calls u).own = some c → t = u

variable {s : SharedContext} {call : Nat}

/-- A step of one call keeps what the others say if it leaves them the lock and, to the one that has
it, the context. -/
theorem Sound.goTo (h : s.Sound) {p : TryExecute} {execMu ctx : Option Nat} {n : Nat}
    {cancelFunc : Option Nat} {cancelled : List Nat} (hp : p.Fits call execMu ctx n)
    (hpair : cancelFunc = ctx) (hfree : execMu = none → ctx = none)
    (hothers : ∀ t ≠ call, (execMu = some t ↔ s.execMu = some t) ∧ (execMu = some t → ctx = s.ctx))
    (hn : s.constructed ≤ n)
    (hown : ∀ c, p.own = some c → (s.calls call).own = some c ∨ s.constructed ≤ c) :
    ({ s with execMu, ctx, cancelFunc, constructed := n, cancelled }.goTo call p).Sound := by
  refine ⟨hpair, hfree, (Function.forall_update_iff s.calls
    fun t p => p.Fits t execMu ctx n).mpr ⟨hp, ?_⟩, ?_⟩
  · intro t ht
    have hfits := h.fits t
    have hlock := hfits.lock.trans (hothers t ht).1.symm
    refine ⟨hlock, ?_, fun c hc => Nat.lt_of_lt_of_le (hfits.past c hc) hn, hfits.given⟩
    intro hholds
    rw [(hothers t ht).2 (hlock.mp hholds)]
    exact hfits.stored hholds
  · have hnew (t c : Nat) (hc : p.own = some c) (ht : (s.calls t).own = some c) : t = call := by
      rcases hown c hc with hc | hle
      · exact h.distinct t call c ht hc
      · have := (h.fits t).past c ht
        omega
    intro t u c ht hu
    simp only [SharedContext.goTo, Function.update_apply] at ht hu
    split at ht <;> split at hu
    · simp [*]
    · simp [*, hnew u c ht hu]
    · simp [*, hnew t c hu ht]
    · exact h.distinct t u c ht hu

theorem Sound.tryExecuteWith (h : s.Sound) (call : Nat) : (s.tryExecuteWith call).Sound := by
  have hfits := h.fits call
  unfold SharedContext.tryExecuteWith
  split
  all_goals
    rename_i hcall
    rw [hcall] at hfits
    obtain ⟨hlock, hstored, hpast, -⟩ := hfits
  · split
    · rename_i hfree
      exact h.goTo ⟨by simp, fun _ => h.free hfree, by simp, by simp⟩ h.pair (by simp)
        (fun t ht => by simp [hfree, ht.symm]) (Nat.le_refl _) (by simp)
    · exact h.goTo ⟨hlock, by simp, by simp, by simp⟩ h.pair h.free (by simp) (Nat.le_refl _)
        (by simp)
  · have hmine := hlock.mp trivial
    exact h.goTo ⟨by simp [hmine], by simp, by simp, by simp⟩ rfl (by simp [hmine])
      (fun t ht => by simp [hmine, ht.symm]) (Nat.le_succ _) (by simp)
  · exact h.goTo ⟨hlock, hstored, hpast, by simpa using hstored trivial⟩ h.pair h.free (by simp)
      (Nat.le_refl _) (by simp [hcall])
  · have hmine := hlock.mp trivial
    exact h.goTo ⟨hlock, by simp, hpast, by simp⟩ rfl (by simp)
      (fun t ht => by simp [hmine, ht.symm]) (Nat.le_refl _) (by simp [hcall])
  · have hmine := hlock.mp trivial
    exact h.goTo ⟨by simp, by simp, hpast, by simp⟩ h.pair (fun _ => hstored trivial)
      (fun t ht => by simp [hmine, ht.symm]) (Nat.le_refl _) (by simp [hcall])
  · exact h.goTo ⟨hlock, by simp, hpast, by simp⟩ h.pair h.free (by simp) (Nat.le_refl _)
      (by simp [hcall])
  all_goals exact h

theorem Sound.step (h : s.Sound) (move : Move) : (s.step move).Sound := by
  cases move with
  | tryExecuteWith call => exact h.tryExecuteWith call
  | cancel c => exact ⟨h.pair, h.free, h.fits, h.distinct⟩

theorem Sound.run (h : s.Sound) (moves : List Move) :
    (runAll SharedContext.step s moves).Sound := by
  induction moves with
  | nil => exact h
  | cons move _ ih => exact ih.step move

/-- A call keeps the context it constructed. -/
theorem own_step {t c : Nat} (h : (s.calls t).own = some c) (move : Move) :
    ((s.step move).calls t).own = some c := by
  cases move with
  | tryExecuteWith call =>
    unfold step tryExecuteWith
    dsimp only
    by_cases ht : t = call
    · subst ht
      cases hcall : s.calls t <;> simp_all [goTo]
    · split
      · split <;> rwa [calls_goTo ht]
      all_goals first | exact h | rwa [calls_goTo ht]
  | cancel c => exact h

theorem own_run {t c : Nat} (h : (s.calls t).own = some c) (moves : List Move) :
    ((runAll step s moves).calls t).own = some c := by
  induction moves with
  | nil => exact h
  | cons move _ ih => exact own_step ih move

/-- The action runs under the execution lock of its call. -/
theorem Sound.execMu_of_action {t : Nat} (h : s.Sound) (ht : (s.calls t).action ≠ none) :
    s.execMu = some t := by
  apply (h.fits t).lock.mp
  revert ht
  cases s.calls t <;> simp

/-- The stored cancel function is that of an action that runs. -/
theorem Sound.action_of_cancelFunc {c : Nat} (h : s.Sound) (hc : s.getCancelFunc.1 = some c) :
    ∃ t, (s.calls t).action = some c := by
  have hctx : s.ctx = some c := by
    revert hc
    rw [getCancelFunc, h.pair]
    cases s.ctx <;> simp
  obtain ⟨t, hlock⟩ := Option.ne_none_iff_exists'.mp fun hfree => by simp [h.free hfree] at hctx
  exact ⟨t, ((h.fits t).stored ((h.fits t).lock.mpr hlock)).symm.trans hctx⟩

/-- At most one action runs, with the context of its own call. A call is refused only while another
has the execution lock. Without an action there is no cancel function, and the one there is cancels
the context of the action that runs, which no other call ever has. -/
theorem exclusive_cancels_own (moves : List Move) :
    let s := runAll step {} moves
    (∀ t u, (s.calls t).action ≠ none → (s.calls u).action ≠ none → t = u) ∧
      (∀ t own ctx, s.calls t = .executing own ctx → ctx = some own) ∧
      (∀ t, s.calls t = .idle → (s.tryExecuteWith t).calls t = .refused →
        ∃ u ≠ t, s.execMu = some u ∧ (s.calls u).Holds) ∧
      ((∀ t, (s.calls t).action = none) → s.getCancelFunc.1 = none) ∧
      ∀ c, s.getCancelFunc.1 = some c → ∃ t, (s.calls t).action = some c ∧ ∀ later,
        let after := runAll step s later
        (∀ u, (after.calls u).own = some c → u = t) ∧
          ∀ d, d ∈ (after.call c).cancelled ↔
            (after.calls t).own = some d ∨ d ∈ after.cancelled := by
  intro s
  have hstart : Sound {} :=
    ⟨rfl, fun _ => rfl, fun _ => ⟨by simp, by simp, by simp, by simp⟩, by simp⟩
  have h : s.Sound := hstart.run moves
  refine ⟨?_, fun t => (h.fits t).given, ?_, ?_, ?_⟩
  · intro t u ht hu
    exact Option.some.inj ((h.execMu_of_action ht).symm.trans (h.execMu_of_action hu))
  · intro t ht hrefused
    have hlocked : s.execMu ≠ none := by
      intro hfree
      simp [tryExecuteWith, ht, hfree, goTo] at hrefused
    obtain ⟨u, hlock⟩ := Option.ne_none_iff_exists'.mp hlocked
    have hu := (h.fits u).lock.mpr hlock
    refine ⟨u, ?_, hlock, hu⟩
    rintro rfl
    simp [ht] at hu
  · intro hnone
    by_contra hsome
    obtain ⟨c, hc⟩ := Option.ne_none_iff_exists'.mp hsome
    obtain ⟨t, ht⟩ := h.action_of_cancelFunc hc
    cases (hnone t).symm.trans ht
  · intro c hc
    obtain ⟨t, ht⟩ := h.action_of_cancelFunc hc
    have hown : (s.calls t).own = some c := by
      revert ht
      cases s.calls t <;> simp
    refine ⟨t, ht, fun later => ?_⟩
    have hlater := own_run hown later
    refine ⟨fun u hu => (h.run later).distinct u t c hu hlater, fun d => ?_⟩
    rw [hlater, Option.some.injEq, eq_comm (a := c)]
    exact List.mem_cons

-- the second call is refused while the action of the first runs
example :
    let s := runAll step {} [.tryExecuteWith 1, .tryExecuteWith 0, .tryExecuteWith 0,
      .tryExecuteWith 0]
    s.calls 0 = .executing 0 (some 0) ∧ s.calls 1 = .refused ∧ s.getCancelFunc = (some 0, false) ∧
      (s.step (.cancel 0)).getCancelFunc = (some 0, true) := by
  decide

end SharedContext

end NordVPN
