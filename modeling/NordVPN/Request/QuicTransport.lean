import NordVPN.Lib.Runs
import NordVPN.Request.RoundTrip

/-!
Concurrent requests through `QuicTransport` (`request/quic_transport.go`).

Requests hold the read lock while they use the inner round-tripper, and recreate it under the write
lock. Whether that is still to be done is one flag, which every first attempt sets when it ends.
-/

namespace NordVPN.Request

variable {ι ρ : Type}

/-- Where a request is in `executeRequest`. Inner round-trippers are numbered as they are created.
-/
inductive Phase (ρ : Type) where
  | waiting
  | trying (inner : Nat)
  | failed (inner : Nat)
  | recreated (failed : Nat)
  | retrying
  | done (result : Except String ρ)

structure QuicTransport (ι ρ : Type) where
  inner : Nat := 0
  shouldRecreate : Bool := false
  /-- the requests that hold the read lock -/
  readers : List ι := []
  phase : ι → Phase ρ := fun _ => .waiting
  /-- the closed round-trippers, with the one that the closing request saw fail -/
  closed : List (Nat × Option Nat) := []
  /-- the round-trippers of the failed attempts, with those of the retries -/
  retried : List (Nat × Nat) := []

namespace QuicTransport

def recreateRoundTrip (forceRecreate : Bool) (seen : Option Nat) (m : QuicTransport ι ρ) :
    QuicTransport ι ρ :=
  if forceRecreate || m.shouldRecreate then
    { m with shouldRecreate := false, closed := (m.inner, seen) :: m.closed, inner := m.inner + 1 }
  else m

/-- A step of a request, with the result of the attempt that it ends, or a notification. -/
inductive Move (ι ρ : Type) where
  | request (i : ι) (result : Except String ρ)
  | notifyConnect

variable [DecidableEq ι]

def goTo (i : ι) (p : Phase ρ) (m : QuicTransport ι ρ) : QuicTransport ι ρ :=
  { m with phase := Function.update m.phase i p }

/-- The steps that need the write lock wait for the readers. -/
def advance (m : QuicTransport ι ρ) : Move ι ρ → QuicTransport ι ρ
  | .notifyConnect => if m.readers = [] then m.recreateRoundTrip true none else m
  | .request i result =>
    match m.phase i with
    | .waiting => { m with readers := i :: m.readers }.goTo i (.trying m.inner)
    | .trying inner =>
      { m with
        readers := m.readers.filter (· ≠ i)
        shouldRecreate := Request.shouldRecreate result }.goTo
        i (if Request.shouldRecreate result then .failed inner else .done result)
    | .failed inner =>
      if m.readers = [] then (m.recreateRoundTrip false (some inner)).goTo i
        (.recreated inner) else m
    | .recreated failed =>
      { m with readers := i :: m.readers, retried := (failed, m.inner) :: m.retried }.goTo
        i .retrying
    | .retrying => { m with readers := m.readers.filter (· ≠ i) }.goTo i (.done result)
    | .done _ => m

/-- While a request has still to recreate the current round-tripper, only attempts end that call for
it too; while one has still to find that it is recreated, only attempts that do not. -/
def Undisturbed (m : QuicTransport ι ρ) : Move ι ρ → Prop
  | .notifyConnect => True
  | .request i result => ∀ inner, m.phase i = .trying inner →
      ∀ j failed, m.phase j = .failed failed →
        (Request.shouldRecreate result = true ↔ failed = m.inner)

end QuicTransport

/-- What the phase says about the round-tripper and the flag. -/
def Phase.Fits (inner : Nat) (shouldRecreate : Bool) (reads : Prop) : Phase ρ → Prop
  | .trying i => i = inner ∧ reads
  | .failed i => i ≤ inner ∧ (shouldRecreate = true ↔ i = inner)
  | .recreated i => i < inner
  | _ => True

section Fits

variable {p : Phase ρ} {n : Nat} {b b' : Bool} {reads reads' : Prop}

theorem Phase.Fits.store (h : p.Fits n b reads) (hreads : reads → reads')
    (hfailed : ∀ i, p = .failed i → (b' = true ↔ i = n)) : p.Fits n b' reads' := by
  cases p with
  | trying i => exact h.imp_right hreads
  | failed i => exact ⟨h.1, hfailed i rfl⟩
  | _ => exact h

theorem Phase.Fits.renew (h : p.Fits n b reads) (hfree : ¬reads) : p.Fits (n + 1) false reads' := by
  cases p with
  | trying i => exact absurd h.2 hfree
  | failed i => exact ⟨h.1.trans n.le_succ, by simp [(Nat.lt_succ_of_le h.1).ne]⟩
  | recreated i => exact Nat.lt_succ_of_lt h
  | _ => trivial

end Fits

/-- A retry uses a later round-tripper, and each one is closed once, by a request that saw it fail
or by a notification. -/
structure Replaced (closed : List (Nat × Option Nat)) (retried : List (Nat × Nat)) : Prop where
  retries : ∀ retry ∈ retried, retry.1 < retry.2
  once : (closed.map Prod.fst).Nodup
  seen : ∀ close ∈ closed, ∀ failed, close.2 = some failed → failed = close.1

namespace QuicTransport

variable {m : QuicTransport ι ρ}

structure Sound (m : QuicTransport ι ρ) : Prop where
  replaced : Replaced m.closed m.retried
  phases : ∀ i, (m.phase i).Fits m.inner m.shouldRecreate (i ∈ m.readers)
  past : ∀ close ∈ m.closed, close.1 < m.inner

theorem Sound.flag (h : m.Sound) (i : ι) (failed : Nat) (hi : m.phase i = .failed failed) :
    m.shouldRecreate = true ↔ failed = m.inner := by
  have hfits := h.phases i
  rw [hi] at hfits
  exact hfits.2

theorem Sound.recreate (h : m.Sound) (hfree : m.readers = []) {force : Bool} {seen : Option Nat}
    (hseen : (force || m.shouldRecreate) = true → ∀ failed, seen = some failed → failed = m.inner) :
    (m.recreateRoundTrip force seen).Sound := by
  unfold recreateRoundTrip
  split
  · rename_i hdo
    refine ⟨⟨h.replaced.retries, ?_, ?_⟩, fun i => (h.phases i).renew (by simp [hfree]), ?_⟩
    · refine List.nodup_cons.mpr ⟨fun hmem => ?_, h.replaced.once⟩
      obtain ⟨close, hclose, heq⟩ := List.mem_map.mp hmem
      exact (h.past close hclose).ne heq
    · exact List.forall_mem_cons.mpr ⟨hseen hdo, h.replaced.seen⟩
    · exact List.forall_mem_cons.mpr ⟨Nat.lt_succ_self _, fun close hclose =>
        Nat.lt_succ_of_lt (h.past close hclose)⟩
  · exact h

variable [DecidableEq ι]

theorem Sound.goTo (h : m.Sound) {i : ι} {p : Phase ρ} {readers : List ι} {b : Bool}
    (hp : p.Fits m.inner b (i ∈ readers)) (hreaders : ∀ j ≠ i, j ∈ m.readers → j ∈ readers)
    (hflag : ∀ j failed, m.phase j = .failed failed → (b = true ↔ failed = m.inner)) :
    ({ m with readers, shouldRecreate := b }.goTo i p).Sound :=
  ⟨h.replaced, (Function.forall_update_iff _ _).mpr ⟨hp, fun j hj =>
    (h.phases j).store (hreaders j hj) (hflag j)⟩, h.past⟩

theorem Sound.advance (h : m.Sound) {move : Move ι ρ} (hc : m.Undisturbed move) :
    (m.advance move).Sound := by
  cases move with
  | notifyConnect =>
    rw [QuicTransport.advance]
    split
    · exact h.recreate ‹_› fun _ _ hnone => by cases hnone
    · exact h
  | request i result =>
    have hunlock (j : ι) (hj : j ≠ i) (hmem : j ∈ m.readers) : j ∈ m.readers.filter (· ≠ i) :=
      List.mem_filter.mpr ⟨hmem, by simpa using hj⟩
    have hi := h.phases i
    unfold QuicTransport.advance
    dsimp only
    split
    · exact h.goTo ⟨rfl, List.mem_cons_self⟩ (fun _ _ => List.mem_cons_of_mem i) h.flag
    · rename_i inner hphase
      rw [hphase] at hi
      refine h.goTo ?_ hunlock (hc inner hphase)
      split
      · exact ⟨hi.1.le, by simp [hi.1, *]⟩
      · trivial
    · rename_i inner hphase
      rw [hphase] at hi
      split
      · rename_i hfree
        have hrecreated : (m.recreateRoundTrip false (some inner)).Sound :=
          h.recreate hfree fun hdo failed hfailed =>
            (Option.some.inj hfailed).symm.trans (hi.2.mp hdo)
        refine hrecreated.goTo ?_ (fun _ _ hmem => hmem) hrecreated.flag
        unfold recreateRoundTrip Phase.Fits
        have hle := hi.1
        have hflag := hi.2
        cases hdo : m.shouldRecreate <;> simp_all
        omega
      · exact h
    · rename_i failed hphase
      rw [hphase] at hi
      have hretry : Sound { m with retried := (failed, m.inner) :: m.retried } :=
        ⟨⟨List.forall_mem_cons.mpr ⟨hi, h.replaced.retries⟩, h.replaced.once, h.replaced.seen⟩,
          h.phases, h.past⟩
      exact hretry.goTo trivial (fun _ _ => List.mem_cons_of_mem i) hretry.flag
    · exact h.goTo trivial hunlock h.flag
    · exact h

/-- In a run without such disturbance the round-trippers are replaced as they should be. -/
theorem undisturbed_run_replaced
    (h : Reaches QuicTransport.advance Undisturbed ({} : QuicTransport ι ρ) m) :
    Replaced m.closed m.retried := by
  have hstart : Sound ({} : QuicTransport ι ρ) :=
    ⟨⟨by simp, List.nodup_nil, by simp⟩, fun _ => trivial, by simp⟩
  exact (h.invariant hstart fun _ _ hm => hm.advance).replaced

/-- A step of one of two requests. An attempt that it ends calls for a new round-tripper. -/
def fails (i : Bool) : Move Bool Unit := .request i (.error "no recent network activity")

def goes (i : Bool) : Move Bool Unit := .request i (.ok ())

/-- Two requests fail at once, and one of them is retried. -/
theorem failed_pair_replaced :
    let m :=
      runAll advance {} [goes true, goes true, goes false, fails true, fails false, goes true,
      goes false]
    m.closed = [(0, some 0)] ∧ m.retried = [(0, 1)] ∧ Replaced m.closed m.retried := by
  refine ⟨by decide, by decide, undisturbed_run_replaced (reaches_runAll ?_)⟩
  refine ⟨⟨⟨⟨⟨⟨⟨trivial, ?_⟩, ?_⟩, ?_⟩, ?_⟩, ?_⟩, ?_⟩, ?_⟩ <;>
    rintro inner h (_ | _) failed hfailed <;> cases h <;> cases hfailed
  decide

/-- A response that comes before the failed request takes its turn makes it retry on the old
round-tripper. After a notification, a failure on the new one makes it close that. -/
theorem flag_misleads :
    (runAll advance {}
      [goes false, goes false, goes true, fails false, goes true, goes false]).retried =
        [(0, 0)] ∧
      (runAll advance {} [goes false, fails true, goes true, .notifyConnect, fails false,
        goes false]).closed = [(1, some 0), (0, none)] := by
  decide

end QuicTransport

end NordVPN.Request
