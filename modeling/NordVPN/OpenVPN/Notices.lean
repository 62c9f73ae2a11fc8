import Mathlib.Data.List.Chain
import NordVPN.OpenVPN.Cleanup

/-!
The connection events that OpenVPN publishes.

`setState` publishes an event unless the one it published last is of the same kind. `Stop` publishes
that the connection ended whatever was published before, and leaves no trace of it for `setState`.
So a `Disconnected` can follow another one, and nothing else can repeat. A reconnection publishes an
attempt while the connection that was lost has not been reported as such.
-/

namespace NordVPN.OpenVPN

open NordVPN.Vpn

/-- The kind of an event, as `publishedState` has it. -/
def Notice.kind : Notice → State
  | .connecting => .connecting
  | .connected => .connected
  | .disconnected _ => .exited

/-! ### What is published -/

/-- The events published, the latest first, and `publishedState`. -/
structure Notices where
  published : List Notice := []
  publishedState : Option State := none
deriving DecidableEq, Repr

/-- The operations that publish: `Stop` does on entry, and the handlers with every state event. They
may come in any order, since a `Stop` does not wait for the handlers. -/
inductive Publishing where
  | stop
  | setState (arg : String)
deriving DecidableEq, Repr

/-- The event that a state event may publish. -/
def noticeOf (state : State) : Option Notice :=
  if state = .connected then some .connected
  else if state = .exiting then none
  else if state = .exited then some (.disconnected false)
  else some .connecting

/-- The event is published unless the last one of `setState` is of its kind. -/
def Notices.publishOnce (n : Notices) (notice : Notice) : Notices :=
  if n.publishedState = some notice.kind then n
  else { published := notice :: n.published, publishedState := some notice.kind }

def Notices.perform (n : Notices) : Publishing → Notices
  | .stop => { n with published := .disconnected true :: n.published }
  | .setState arg => ((noticeOf (stringToState arg)).map n.publishOnce).getD n

/-! ### Sequences of operations -/

/-- The kind of what a state event may publish. -/
def kindOf (arg : String) : Option State := (noticeOf (stringToState arg)).map Notice.kind

/-- The kind of the latest state event; the latest operation stands first. -/
def latest : List Publishing → Option State
  | [] => none
  | .stop :: earlier => latest earlier
  | .setState arg :: earlier => (kindOf arg).or (latest earlier)

/-- Two events in a row differ in kind, and a `Connecting` is not the one after a `Connected`. -/
def Follows (newer older : Notice) : Prop :=
  newer.kind ≠ older.kind ∧ ¬ (older = .connected ∧ newer = .connecting)

section Turns

variable {earlier : List Publishing}

end Turns

/-! ### Calls as sequences of operations -/

def World.notices (w : World) : Notices := ⟨w.published, w.ovpn.publishedState⟩

/-- The notices of `w'` come from those of `w` by operations. -/
def Publishes (w w' : World) : Prop :=
  ∃ ops : List Publishing, w'.notices = ops.foldl Notices.perform w.notices

section Calls

variable {w w' w'' : World}

theorem Publishes.none (h : w'.notices = w.notices) : Publishes w w' := ⟨[], h⟩

theorem Publishes.one (op : Publishing) (h : w'.notices = w.notices.perform op) : Publishes w w' :=
  ⟨[op], h⟩

theorem Publishes.trans (h : Publishes w w') (h' : Publishes w' w'') : Publishes w w'' := by
  obtain ⟨ops, hops⟩ := h
  obtain ⟨ops', hops'⟩ := h'
  refine ⟨ops ++ ops', ?_⟩
  rw [List.foldl_append, ← hops, hops']

end Calls

end NordVPN.OpenVPN
