import NordVPN.Daemon.Vpn
import NordVPN.Lib.Runs

/-!
NordLynx in the kernel (`daemon/vpn/nordlynx/kernel_space.go`).

`Start` adds the interface, looks it up and only then remembers the tunnel; `stop` deletes the
interface of a tunnel that is remembered. `Start` holds the mutex. Its error branches call `stop`,
but where the interface cannot be looked up it calls `Stop`, which takes the mutex again.
-/

namespace NordVPN.NordLynx

open NordVPN.Vpn

/-- What `Start` and `Stop` run. -/
inductive Command where
  | linkShow | linkAdd | interfaceByName | pushConfig | addAddrs | up | setMTU | linkDelete
deriving DecidableEq, Repr

structure KernelSpace where
  state : State := .exited
  active : Bool := false
  /-- a tunnel is remembered -/
  tun : Bool := false
  /-- the interface is there -/
  link : Bool := false
  /-- a call waits for the mutex that it holds -/
  blocked : Bool := false
deriving DecidableEq, Repr

inductive Reply where
  | ok | vpnIsAlreadyStarted | tunnelAlreadyExists | failed (command : Command) | waits
deriving DecidableEq, Repr

namespace KernelSpace

/-- `stop`. -/
def halt (fails : Command → Bool) (k : KernelSpace) : KernelSpace × Reply :=
  if k.tun && (fails .linkDelete || !k.link) then (k, .failed .linkDelete)
  else ({ k with state := .exited, active := false, tun := false, link := k.link && !k.tun }, .ok)

def stop (fails : Command → Bool) (k : KernelSpace) : KernelSpace × Reply :=
  if k.blocked then (k, .waits)
  else if k.state = .connecting then ({ k with state := .exiting }, .ok)
  else k.halt fails

def start (fails : Command → Bool) (k : KernelSpace) : KernelSpace × Reply :=
  if k.blocked then (k, .waits)
  else if k.active then (k, .vpnIsAlreadyStarted)
  else if k.link && !fails .linkShow then (k, .tunnelAlreadyExists)
  else if k.link || fails .linkAdd then (k, .failed .linkAdd)
  -- `Stop` waits for the mutex that `Start` holds
  else if fails .interfaceByName then ({ k with link := true, blocked := true }, .waits)
  else
    let k := { k with link := true, tun := true }
    match [.pushConfig, .addAddrs, .up, .setMTU].find? fails with
    | some command => ((k.halt fails).1, .failed command)
    | none => ({ k with active := true, state := .connected }, .ok)

/-- A call of `Start` or of `Stop`, and the commands that fail. -/
inductive Call where
  | start (fails : Command → Bool)
  | stop (fails : Command → Bool)

def call (k : KernelSpace) : Call → KernelSpace
  | .start fails => (k.start fails).1
  | .stop fails => (k.stop fails).1

/-- An interface that `Start` has added can be looked up. -/
def Found (k : KernelSpace) : Call → Prop
  | .start fails => k.active = false → k.link = false → fails .linkAdd = false →
      fails .interfaceByName = false
  | .stop _ => True

/-- No call waits, and the interface is there exactly if its tunnel is remembered. -/
structure Remembers (k : KernelSpace) : Prop where
  returns : k.blocked = false
  link : k.link = k.tun
  state : k.state ≠ .connecting

theorem Remembers.halt {k : KernelSpace} (h : k.Remembers) (fails : Command → Bool) :
    (k.halt fails).1.Remembers := by
  obtain ⟨returns, link, state⟩ := h
  unfold KernelSpace.halt
  split
  · exact ⟨returns, link, state⟩
  · exact ⟨returns, by simp [link], nofun⟩

theorem Remembers.call {k : KernelSpace} {c : Call} (h : k.Remembers) (hc : Found k c) :
    (k.call c).Remembers := by
  cases c with
  | stop fails =>
    unfold KernelSpace.call KernelSpace.stop
    simp only [h.returns, h.state, if_false, Bool.false_eq_true]
    exact h.halt fails
  | start fails =>
    unfold KernelSpace.call KernelSpace.start
    simp only [h.returns, Bool.false_eq_true, if_false]
    split_ifs with hactive hshown hadd hlookup
    · exact h
    · exact h
    · exact h
    · simp_all [Found]
    · have hnew : { k with tun := true, link := true, blocked := false }.Remembers :=
        ⟨rfl, rfl, h.state⟩
      split
      · exact hnew.halt fails
      · exact ⟨rfl, rfl, nofun⟩

/-- If what `Start` adds can be looked up, every call returns, and a `Stop` whose commands succeed
leaves no interface, so that the next `Start` does not find one. -/
theorem found_run_clean {k : KernelSpace} (h : Reaches call Found {} k)
    (fails : Command → Bool) :
    k.blocked = false ∧ (k.stop fun _ => false).1.link = false ∧
      ((k.stop fun _ => false).1.start fails).2 ≠ .tunnelAlreadyExists := by
  obtain ⟨returns, link, state⟩ := h.invariant (I := Remembers) ⟨rfl, rfl, nofun⟩
    fun _ _ => Remembers.call
  have hgone : (k.stop fun _ => false).1.link = false := by
    simp [stop, halt, returns, state, link]
  refine ⟨returns, hgone, ?_⟩
  unfold start
  rw [hgone]
  grind

theorem failed_start_clean :
    let setMTUFails : Command → Bool := (· == .setMTU)
    ((runAll call {} [.start setMTUFails]).stop fun _ => false).1.link = false := by
  intro setMTUFails
  have hmeet : AllMeet call Found {} [.start setMTUFails] := ⟨trivial, fun _ _ _ => rfl⟩
  exact (found_run_clean (reaches_runAll hmeet) setMTUFails).2.1

/-- The interface was added and cannot be looked up: `Start` waits for itself, and so does every
later call. -/
theorem failed_lookup_blocks :
    let k := runAll call {} [.start (· == .interfaceByName)]
    k.blocked = true ∧ (k.stop fun _ => false) = (k, .waits) ∧ k.link = true := by
  decide

end KernelSpace

end NordVPN.NordLynx
