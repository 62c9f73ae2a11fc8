import NordVPN.Lib.Runs

/-!
The goroutine of `newManagementClient` beside `Start` (`daemon/vpn/openvpn/openvpn.go`).

The goroutine waits for the management connection and sends a client of it. If `Accept` fails it
sends the error, and then a client all the same. `Start` receives once, in its `select`, and closes
both channels when it returns. The channels have no buffer: a send on a closed channel panics, and
so does one that waits while the channel is closed.
-/

namespace NordVPN.OpenVPN.ManagementClient

/-- Where the goroutine is. -/
inductive Goroutine where
  | accepting | sendingError | sendingClient | ended | panicked
deriving DecidableEq, Repr

/-- Where `Start` is: before its `select`, in it, past it, or returned. -/
inductive Starting where
  | launching | selecting | past | returned
deriving DecidableEq, Repr

structure State where
  goroutine : Goroutine := .accepting
  start : Starting := .launching
  /-- a client was made of the nil connection of a failed `Accept` -/
  nilClient : Bool := false
deriving DecidableEq, Repr

inductive Step where
  /-- `Accept` returns, with a connection or an error -/
  | accept (ok : Bool)
  /-- the process has started, and `Start` comes to its `select` -/
  | select
  /-- the process does not start, or three seconds have passed -/
  | giveUp
  /-- `Start` receives what the goroutine sends -/
  | receive
  /-- the deferred closes, at any return -/
  | close

/-- `Start` may still receive. -/
def State.Open (s : State) : Prop := s.start = .launching ∨ s.start = .selecting

instance (s : State) : Decidable s.Open := inferInstanceAs (Decidable (_ ∨ _))

def State.step (s : State) : Step → State
  | .accept ok =>
    if s.goroutine = .accepting then
      { s with goroutine :=
          if s.start = .returned then .panicked else if ok then .sendingClient else .sendingError }
    else s
  | .select => if s.start = .launching then { s with start := .selecting } else s
  | .giveUp => if s.Open then { s with start := .past } else s
  | .receive =>
    if s.start = .selecting then
      match s.goroutine with
      -- the branch of the error does not return
      | .sendingError => { goroutine := .sendingClient, start := .past, nilClient := true }
      | .sendingClient => { s with goroutine := .ended, start := .past }
      | _ => s
    else s
  | .close =>
    if s.start = .past then
      { s with start := .returned, goroutine := match s.goroutine with
          | .sendingError | .sendingClient => .panicked
          | goroutine => goroutine }
    else s

/-- Nothing was sent on a closed channel, no nil connection was used, and a goroutine that nobody
receives from has ended, or `Accept` has not returned. -/
structure State.Safe (s : State) : Prop where
  calm : s.goroutine ≠ .panicked
  noNil : s.nilClient = false
  ends : s.Open ∨ s.goroutine = .accepting ∨ s.goroutine = .ended

/-- `Accept` succeeds while `Start` may still receive, and `Start` gives up only on an `Accept` that
has not returned. -/
def Timely (s : State) : Step → Prop
  | .accept ok => ok = true ∧ s.Open
  | .giveUp => s.goroutine = .accepting
  | _ => True

theorem safe_step {s : State} {i : Step} (h : s.Safe ∧ s.goroutine ≠ .sendingError)
    (hi : Timely s i) : (s.step i).Safe ∧ (s.step i).goroutine ≠ .sendingError := by
  obtain ⟨⟨calm, noNil, ends⟩, herr⟩ := h
  unfold State.Open at ends
  cases i with
  | accept ok =>
    obtain ⟨rfl, hopen⟩ := hi
    refine ⟨⟨?_, ?_, ?_⟩, ?_⟩ <;> grind [State.step, State.Open]
  | giveUp =>
    have hwait : s.goroutine = .accepting := hi
    refine ⟨⟨?_, ?_, ?_⟩, ?_⟩ <;> grind [State.step]
  | select | receive | close =>
    refine ⟨⟨?_, ?_, ?_⟩, ?_⟩ <;> grind [State.step, State.Open]

/-- In a run whose steps are timely nothing goes wrong, and a goroutine whose `Accept` has returned
ends when `Start` is at its `select`. -/
theorem timely_run_safe {s : State} (h : Reaches State.step Timely {} s) :
    s.Safe ∧ (s.goroutine ≠ .accepting → ((s.step .select).step .receive).goroutine = .ended) := by
  obtain ⟨hsafe, herr⟩ := h.invariant (I := fun s => s.Safe ∧ s.goroutine ≠ .sendingError)
    ⟨⟨nofun, rfl, .inl (.inl rfl)⟩, nofun⟩ fun _ _ => safe_step
  refine ⟨hsafe, fun hreturned => ?_⟩
  obtain ⟨calm, noNil, ends⟩ := hsafe
  unfold State.Open at ends
  cases hg : s.goroutine <;> grind [State.step]

theorem connected_run_safe :
    (runAll State.step {} [.close, .receive, .select, .accept true]).Safe := by
  have hmeet : AllMeet State.step Timely {} [.close, .receive, .select, .accept true] :=
    ⟨⟨⟨⟨trivial, rfl, .inl rfl⟩, trivial⟩, trivial⟩, trivial⟩
  exact (timely_run_safe (reaches_runAll hmeet)).1

/-- A connection after the three seconds is sent on a closed channel. After an error a client of the
nil connection is made, and the goroutine waits until the channel is closed. -/
theorem late_accept_panics :
    (runAll State.step {} [.accept true, .close, .giveUp, .select]).goroutine = .panicked ∧
      runAll State.step {} [.close, .receive, .accept false, .select] =
        { goroutine := .panicked, start := .returned, nilClient := true } := by
  decide

end NordVPN.OpenVPN.ManagementClient
