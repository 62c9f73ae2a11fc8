import NordVPN.Lib.Words

/-!
The attempts made for one API request (`request/rotating.go`, `request/quic_transport.go`).

`RotatingRoundTripper` tries HTTP/3 and falls back to HTTP/1; `QuicTransport` tries once more after
an error that calls for a new connection. All of them pass on the same request, whose body is a
stream: what an attempt has read is gone for the next one.
-/

namespace NordVPN.Request

variable {ρ : Type}

inductive Protocol where
  | h1 | h3
deriving DecidableEq, Repr

/-- An attempt, with what was left of the body. -/
structure Attempt (ρ : Type) where
  protocol : Protocol
  body : List UInt8
  result : Except String ρ

/-- How many bytes the attempt of this number reads, and its result. -/
abbrev Outcomes (ρ : Type) := Nat → Nat × Except String ρ

/-- The request: the rest of its body, and the attempts made, the latest first. -/
structure HttpRequest (ρ : Type) where
  unread : List UInt8
  attempts : List (Attempt ρ) := []

/-- `RoundTrip` of `http.Transport` or `http3.RoundTripper`. -/
def attempt (r : Outcomes ρ) (protocol : Protocol) (req : HttpRequest ρ) :
    Except String ρ × HttpRequest ρ :=
  let outcome := r req.attempts.length
  (outcome.2, { unread := req.unread.drop outcome.1
                attempts := ⟨protocol, req.unread, outcome.2⟩ :: req.attempts })

def shouldRecreate : Except String ρ → Bool
  | .ok _ => false
  | .error err => Words.contains err "Application error 0x100" ||
      Words.contains err "no recent network activity" ||
      Words.contains err "Timeout exceeded while awaiting headers"

/-- `QuicTransport.executeRequest`. -/
def executeRequest (r : Outcomes ρ) (req : HttpRequest ρ) : Except String ρ × HttpRequest ρ :=
  let first := attempt r .h3 req
  if shouldRecreate first.1 then attempt r .h3 first.2 else first

structure RotatingRoundTripper where
  isCurrentH3 : Bool := false
  lastH3AttemptMilli : Int := 0
  h3ReviveTime : Int

/-- HTTP/3 is tried again after the revive time. -/
def RotatingRoundTripper.revived (rt : RotatingRoundTripper) (now : Int) : RotatingRoundTripper :=
  if !rt.isCurrentH3 && rt.lastH3AttemptMilli + rt.h3ReviveTime < now then
    { rt with lastH3AttemptMilli := now, isCurrentH3 := true }
  else rt

/-- `RotatingRoundTripper.RoundTrip` at the given time. -/
def RotatingRoundTripper.roundTrip (rt : RotatingRoundTripper) (now : Int) (r : Outcomes ρ)
    (req : HttpRequest ρ) : (Except String ρ × HttpRequest ρ) × RotatingRoundTripper :=
  let rt := rt.revived now
  if rt.isCurrentH3 then
    let tried := executeRequest r req
    match tried.1 with
    | .ok _ => (tried, rt)
    | .error _ => (attempt r .h1 tried.2, { rt with isCurrentH3 := false })
  else (attempt r .h1 req, rt)

/-- Every attempt was offered the whole body, and the result is that of the last one. -/
def Complete (body : List UInt8) (done : Except String ρ × HttpRequest ρ) : Prop :=
  (∀ a ∈ done.2.attempts, a.body = body) ∧ done.2.attempts.head?.map Attempt.result = some done.1

/-- The body is whole as long as nothing was read of it. -/
def Tracks (body : List UInt8) (r : Outcomes ρ) (req : HttpRequest ρ) : Prop :=
  req.unread = body ∧ (∀ a ∈ req.attempts, a.body = body) ↔
    ∀ n < req.attempts.length, (r n).1 = 0 ∨ body = []

/-- The last attempt was made on such a request. -/
def Finished (body : List UInt8) (r : Outcomes ρ) (done : Except String ρ × HttpRequest ρ) : Prop :=
  ∃ protocol req, Tracks body r req ∧ done = attempt r protocol req

section

variable {body : List UInt8} {r : Outcomes ρ} {req : HttpRequest ρ}

theorem Tracks.attempt (h : Tracks body r req) (protocol : Protocol) :
    Tracks body r (attempt r protocol req).2 := by
  have hdrop (n : Nat) : body.drop n = body ↔ n = 0 ∨ body = [] := by
    rw [← List.length_eq_zero_iff, ← (List.drop_sublist n body).length_eq, List.length_drop]
    omega
  unfold Tracks at h ⊢
  simp only [Request.attempt, List.forall_mem_cons, List.length_cons, Nat.forall_lt_succ_right,
    ← hdrop]
  grind

theorem executeRequest_finished (h : Tracks body r req) :
    Finished body r (executeRequest r req) := by
  unfold executeRequest
  dsimp only
  split
  · exact ⟨_, _, h.attempt _, rfl⟩
  · exact ⟨_, _, h, rfl⟩

theorem roundTrip_finished (h : Tracks body r req) (rt : RotatingRoundTripper) (now : Int) :
    Finished body r (rt.roundTrip now r req).1 := by
  obtain ⟨protocol, last, hlast, hdone⟩ := executeRequest_finished h
  unfold RotatingRoundTripper.roundTrip
  dsimp only
  split
  · rw [hdone]
    split
    · exact ⟨_, _, hlast, rfl⟩
    · exact ⟨_, _, hlast.attempt protocol, rfl⟩
  · exact ⟨_, _, h, rfl⟩

end

/-- The attempts are complete exactly if every attempt that another one follows has read nothing of
the body. -/
theorem attempts_complete_iff (rt : RotatingRoundTripper) (now : Int) (r : Outcomes ρ)
    (body : List UInt8) :
    let done := (rt.roundTrip now r { unread := body }).1
    Complete body done ↔
      ∀ n, n + 1 < done.2.attempts.length → (r n).1 = 0 ∨ body = [] := by
  intro done
  have hstart : Tracks body r { unread := body } := by simp [Tracks]
  obtain ⟨protocol, req, htracks, hdone⟩ := roundTrip_finished hstart rt now
  unfold Tracks at htracks
  rw [show done = attempt r protocol req from hdone, Complete]
  simp only [attempt, List.forall_mem_cons, List.head?_cons, Option.map_some, and_true,
    List.length_cons, Nat.add_lt_add_iff_right, htracks]

/-- The first attempt reads a byte and fails, and the others are not offered it. -/
theorem retry_without_first_byte :
    let r : Outcomes Unit := fun n => (1 - n, .error "Application error 0x100")
    let rt : RotatingRoundTripper := { h3ReviveTime := 0 }
    (rt.roundTrip 1 r { unread := [1, 2] }).1.2.attempts.map (fun a => (a.protocol, a.body)) =
      [(.h1, [2]), (.h3, [2]), (.h3, [1, 2])] := by
  decide

end NordVPN.Request
