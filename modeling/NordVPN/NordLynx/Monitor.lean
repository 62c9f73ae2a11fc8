import Mathlib.Data.List.Chain
import NordVPN.NordLynx.Tunnel

/-!
The goroutine that watches a NordLynx connection (`monitorConnection`), and what its context hangs
on (`sharedctx.TryExecuteWith`, `connect`, `Enable`).

A context is the list of the ids from itself up to its root: cancelling an id cancels every context
that has it. The monitors share one channel without a buffer. An event of the library goes to one
monitor that is waiting for it and is dropped if none is.

Every step is what one goroutine does without another being able to see it half done. `start` and
`enable` go as far as the waiting for the connection, during which they hold the lock of the
instance; `connected` or `contextDone` ends the waiting.
-/

namespace NordVPN.NordLynx

open NordVPN.Netip NordVPN.Networker

/-! ### Monitors -/

abbrev Context := List Nat

/-- `teliogo.NodeState`. -/
inductive NodeState where
  | disconnected | connecting | connected
deriving DecidableEq, Repr

/-- An event of the library about a node. -/
structure NodeEvent where
  nickname : String := ""
  state : NodeState
  publicKey : String := ""
  isVPN : Bool := true
  isExit : Bool := true
deriving DecidableEq, Repr

inductive EventStatus where
  | attempt | success
deriving DecidableEq, Repr

/-- What is published. -/
inductive Notice where
  | connect (status : EventStatus) (server : ServerData) (event : NodeEvent)
  | disconnected (byUser : Bool)
deriving DecidableEq, Repr

/-- What a monitor does that others can see. -/
inductive Effect where
  /-- `close(isConnected)` -/
  | close
  | publish (notice : Notice)
deriving DecidableEq, Repr

/-- Where the loop of a monitor is: before its `select`, with an event it has taken if any; in it;
or left. -/
inductive Phase where
  | busy (event : Option NodeEvent)
  | listening
  | ended
deriving DecidableEq, Repr

structure Monitor where
  ctx : Context
  pubKey : String
  server : ServerData
  /-- `currentNotifyState` -/
  notify : NodeState := .disconnected
  /-- `initialConnection` -/
  initial : Bool := true
  phase : Phase := .busy none
deriving DecidableEq, Repr

/-- Notes a state of the connection and publishes the notice, unless the state was noted before. -/
def Monitor.change (m : Monitor) (state : NodeState) (notice : Notice) : Monitor × List Effect :=
  if m.notify ≠ state then ({ m with notify := state }, [.publish notice]) else (m, [])

/-- `if initialConnection`: the channel is closed and the flag cleared. -/
def Monitor.closeInitial (m : Monitor) : Monitor × List Effect :=
  if m.initial then ({ m with initial := false }, [.close]) else (m, [])

/-- The monitor after an event, and what it does. -/
def Monitor.onEvent (m : Monitor) (event : NodeEvent) : Monitor × List Effect :=
  if !event.isExit then (m, [])
  else match event.state with
    | .connecting => m.change .connecting (.connect .attempt m.server event)
    | .connected =>
      if event.publicKey = m.pubKey then
        let (m, closed) := m.closeInitial
        let (m, published) := m.change .connected (.connect .success m.server event)
        (m, closed ++ published)
      else (m, [])
    | .disconnected => m.change .disconnected (.disconnected false)

/-- The end of the monitor when its context is done. -/
def Monitor.onDone (m : Monitor) : Monitor × List Effect :=
  let (m, published) := m.change .disconnected (.disconnected true)
  ({ m with phase := .ended }, published)

/-! ### What one monitor does -/

/-- The loop of `monitorConnection` on what its `select` takes, `none` being `ctx.Done()`: the
monitor after it, and what it has done. -/
def Monitor.watch (m : Monitor) : List (Option NodeEvent) → Monitor × List Effect
  | [] => (m, [])
  | none :: _ => m.onDone
  | some event :: rest =>
    let next := (m.onEvent event).1.watch rest
    (next.1, (m.onEvent event).2 ++ next.2)

/-- The monitor closes `isConnected` on the event. -/
def Monitor.Closes (m : Monitor) (event : NodeEvent) : Prop := .close ∈ (m.onEvent event).2

/-- The event says that the exit node with the key of the monitor is connected. -/
def Monitor.Awaits (m : Monitor) (event : NodeEvent) : Prop :=
  event.isExit = true ∧ event.state = .connected ∧ event.publicKey = m.pubKey

/-- The state of the connection that a notice reports. -/
def Notice.kind : Notice → NodeState
  | .connect .attempt .. => .connecting
  | .connect .success .. => .connected
  | .disconnected _ => .disconnected

/-- The kinds of what is published. -/
def kinds (effects : List Effect) : List NodeState :=
  effects.filterMap fun effect =>
    match effect with
    | .close => none
    | .publish notice => some notice.kind

variable (m : Monitor)

theorem kinds_append (first second : List Effect) :
    kinds (first ++ second) = kinds first ++ kinds second :=
  List.filterMap_append

/-- What has been reported and what is to be reported are told apart by one state. -/
theorem kinds_onEvent (event : NodeEvent) : kinds (m.onEvent event).2 =
    if (m.onEvent event).1.notify = m.notify then [] else [(m.onEvent event).1.notify] := by
  unfold Monitor.onEvent
  cases event.state <;> grind [kinds, Notice.kind, Monitor.change, Monitor.closeInitial]

theorem kinds_onDone : kinds m.onDone.2 =
    if m.onDone.1.notify = m.notify then [] else [m.onDone.1.notify] := by
  unfold Monitor.onDone
  grind [kinds, Notice.kind, Monitor.change]

theorem notify_onDone : m.onDone.1.notify = .disconnected := by
  unfold Monitor.onDone Monitor.change
  grind

/-- Whatever is published differs in kind from what was published before it. -/
theorem chain_watch (taken : List (Option NodeEvent)) :
    (m.notify :: kinds (m.watch taken).2).IsChain (· ≠ ·) ∧
      (m.notify :: kinds (m.watch taken).2).getLast? = some (m.watch taken).1.notify := by
  induction taken generalizing m with
  | nil => exact ⟨.singleton _, rfl⟩
  | cons head rest ih =>
    cases head with
    | none =>
      rw [Monitor.watch, kinds_onDone]
      split <;> simp_all [eq_comm]
    | some event =>
      have hnext := ih (m.onEvent event).1
      simp only [Monitor.watch, kinds_append, kinds_onEvent]
      split
      · rename_i hsame
        exact hsame ▸ hnext
      · rename_i hnew
        exact ⟨.cons_cons (Ne.symm hnew) hnext.1, hnext.2⟩

/-- Nothing is read after `ctx.Done()`. -/
theorem watch_done {taken : List (Option NodeEvent)} (h : none ∈ taken)
    (later : List (Option NodeEvent)) :
    (m.watch taken).1.notify = .disconnected ∧ m.watch (taken ++ later) = m.watch taken := by
  induction taken generalizing m with
  | nil => cases h
  | cons head rest ih =>
    cases head with
    | none => exact ⟨notify_onDone m, rfl⟩
    | some event =>
      obtain ⟨hnotify, hsame⟩ := ih (m.onEvent event).1 (by simpa using h)
      refine ⟨hnotify, ?_⟩
      rw [List.cons_append, Monitor.watch, hsame, Monitor.watch]

/-- An event closes the channel exactly if it is awaited and the flag is set, and clears the flag
then. -/
theorem closes_onEvent (event : NodeEvent) :
    (m.Closes event ↔ m.initial = true ∧ m.Awaits event) ∧
      ((m.onEvent event).1.initial = false ↔ m.initial = false ∨ m.Awaits event) ∧
      (m.onEvent event).1.pubKey = m.pubKey := by
  unfold Monitor.Closes Monitor.onEvent Monitor.Awaits
  cases event.state <;> grind [Monitor.change, Monitor.closeInitial]

/-- The number of times the channel can still be closed. -/
def Monitor.closesLeft (m : Monitor) : Nat := if m.initial then 1 else 0

theorem count_close_onEvent (event : NodeEvent) :
    (m.onEvent event).2.count .close + (m.onEvent event).1.closesLeft = m.closesLeft := by
  unfold Monitor.onEvent Monitor.closesLeft
  cases event.state <;> grind [Monitor.change, Monitor.closeInitial]

theorem count_close_watch (taken : List (Option NodeEvent)) :
    (m.watch taken).2.count .close + (m.watch taken).1.closesLeft = m.closesLeft := by
  induction taken generalizing m with
  | nil => exact Nat.zero_add _
  | cons head rest ih =>
    cases head with
    | none =>
      unfold Monitor.watch Monitor.onDone Monitor.closesLeft Monitor.change
      grind
    | some event =>
      have hevent := count_close_onEvent m event
      have hrest := ih (m.onEvent event).1
      simp only [Monitor.watch, List.count_append]
      omega

theorem initial_watch (events : List NodeEvent) :
    ((m.watch (events.map some)).1.initial = false ↔
      m.initial = false ∨ ∃ event ∈ events, m.Awaits event) ∧
      (m.watch (events.map some)).1.pubKey = m.pubKey := by
  induction events generalizing m with
  | nil => simp [Monitor.watch]
  | cons event rest ih =>
    obtain ⟨-, hinitial, hkey⟩ := closes_onEvent m event
    obtain ⟨hopen, hsame⟩ := ih (m.onEvent event).1
    refine ⟨?_, hsame.trans hkey⟩
    rw [List.map_cons, Monitor.watch, hopen, hinitial]
    simp [Monitor.Awaits, hkey, or_assoc]

/-- A monitor closes `isConnected` once at most, and exactly on the first event that it awaits. Its
notices change in kind from one to the next and begin with a connection; when its context is done
nothing follows, and the last notice is a disconnect. -/
theorem watch_wellFormed (ctx : Context) (pubKey : String) (server : ServerData)
    (taken : List (Option NodeEvent)) :
    let m : Monitor := { ctx, pubKey, server }
    let effects := (m.watch taken).2
    effects.count .close ≤ 1 ∧
      (∀ (earlier : List NodeEvent) event, (m.watch (earlier.map some)).1.Closes event ↔
        m.Awaits event ∧ ∀ event' ∈ earlier, ¬ m.Awaits event') ∧
      (kinds effects).IsChain (· ≠ ·) ∧ (kinds effects).head? ≠ some .disconnected ∧
      (none ∈ taken → ∀ kind ∈ (kinds effects).getLast?, kind = .disconnected) ∧
      (none ∈ taken → ∀ later, m.watch (taken ++ later) = m.watch taken) := by
  intro m effects
  obtain ⟨hchain, hlast⟩ := chain_watch m taken
  obtain ⟨hhead, hkinds⟩ := List.isChain_cons.mp hchain
  refine ⟨?_, fun earlier event => ?_, hkinds, fun h => hhead _ h rfl, fun hdone kind hkind => ?_,
    fun hdone later => (watch_done m hdone later).2⟩
  · exact Nat.le_of_add_right_le (count_close_watch m taken).le
  · obtain ⟨hopen, hkey⟩ := initial_watch m earlier
    have hawaits : (m.watch (earlier.map some)).1.Awaits event ↔ m.Awaits event := by
      simp only [Monitor.Awaits, hkey]
    rw [(closes_onEvent _ event).1, hawaits, ← Bool.not_eq_false, hopen]
    grind
  · rw [List.getLast?_cons, (watch_done m hdone []).1] at hlast
    have hkind : (kinds (m.watch taken).2).getLast? = some kind := hkind
    rw [hkind] at hlast
    exact Option.some.inj hlast

/-! ### The world -/

/-- The call that waits for its connection. -/
inductive Caller where
  /-- `Start`, with the private key it keeps -/
  | start (privateKey : String)
  /-- `Enable`, with the context that it cancels when it returns -/
  | enable (ctx : Nat)
deriving DecidableEq, Repr

structure World where
  l : Libtelio := {}
  nextCtx : Nat := 0
  cancelled : List Nat := []
  /-- the contexts with a deadline -/
  roots : List Nat := []
  monitors : List Monitor := []
  /-- the context that `cancelConnectionMonitor` cancels -/
  cancelConnectionMonitor : Option Nat := none
  /-- the context of the `TryExecuteWith` that holds `execMu` -/
  exec : Option Nat := none
  /-- the contexts of those that have unlocked it and are about to return -/
  returning : List Nat := []
  /-- the call that waits for its connection, and its monitor -/
  waiting : Option (Nat × Caller) := none
  /-- the monitors that have closed their `isConnected` -/
  closed : List Nat := []
  /-- the notices, the latest first -/
  published : List Notice := []

namespace World

/-- `ctx.Done()`. -/
def done (w : World) (ctx : Context) : Bool := ctx.any w.cancelled.contains

def cancel (w : World) (ctx : Nat) : World := { w with cancelled := ctx :: w.cancelled }

def setMonitor (w : World) (i : Nat) (m : Monitor) : World :=
  { w with monitors := w.monitors.set i m }

/-- What the monitor does, in the order in which it does it. -/
def perform (i : Nat) : List Effect → World → World
  | [], w => w
  | .close :: rest, w => perform i rest { w with closed := i :: w.closed }
  | .publish notice :: rest, w => perform i rest { w with published := notice :: w.published }

/-- The first part of `disconnect`. -/
def cancelMonitor (w : World) : World :=
  match w.cancelConnectionMonitor with
  | some ctx => w.cancel ctx
  | none => w

/-- `connect`, up to the waiting: the monitor is started before the library is called. -/
def beginConnect (r : Env) (server : ServerData) (parent : Context) (caller : Caller) (w : World) :
    World × Bool :=
  let ctx := w.nextCtx
  let monitor : Monitor :=
    { ctx := ctx :: parent, pubKey := server.nordLynxPublicKey, server := w.l.currentServer }
  let dialled := dial server r w.l
  let w := { w with
    nextCtx := ctx + 1, cancelConnectionMonitor := some ctx,
    monitors := w.monitors ++ [monitor], l := dialled.final }
  match dialled.result with
  | .ok _ => ({ w with waiting := some (w.monitors.length - 1, caller) }, true)
  | .error _ => (w.cancel ctx, false)

/-- `Enable` gives up: meshnet is disabled and the context cancelled. -/
def enableFails (r : Env) (w : World) (ctx : Nat) : World :=
  { w.cancel ctx with l := (disable r w.l).final }

/-! ### Steps -/

/-- `TryExecuteWith`, up to the call of its function: it has no effect if another is going on. -/
def tryExecute (w : World) : World :=
  if w.exec.isSome then w
  else { w with exec := some w.nextCtx, roots := w.nextCtx :: w.roots, nextCtx := w.nextCtx + 1 }

/-- `Start`, called by the function that is executed, up to the waiting for the connection. -/
def start (r : Env) (creds : Credentials) (server : ServerData) (w : World) : World :=
  match w.exec, w.waiting with
  | some ctx, none =>
    let prepared := prepare creds server r w.l
    let w := { w with l := prepared.final }
    match prepared.result with
    | .ok _ => (w.beginConnect r server [ctx] (.start creds.nordLynxPrivateKey)).1
    | .error _ => w
  | _, _ => w

/-- `Enable` on an active VPN, up to the waiting for the connection. -/
def enable (r : Env) (ip : Addr) (privateKey : String) (w : World) : World :=
  if w.waiting.isSome || !w.l.active then w
  else
    let opened := openTunnel ip privateKey r w.l
    match opened.result with
    | .error _ => { w with l := (disable r opened.final).final }
    | .ok _ =>
      let w := w.cancelMonitor
      let moved := (do disconnect; updateTunnel privateKey ip : Op) r opened.final
      match moved.result with
      | .error _ => { w with l := (disable r moved.final).final }
      | .ok _ =>
        let ctx := w.nextCtx
        let w := { w with l := moved.final, roots := ctx :: w.roots, nextCtx := ctx + 1 }
        match w.beginConnect r w.l.currentServer [ctx] (.enable ctx) with
        | (w, true) => w
        | (w, false) => w.enableFails r ctx

/-- The waiting call takes `isConnectedC`, which its monitor has closed, and returns `nil`. -/
def connected (w : World) : World :=
  match w.waiting with
  | none => w
  | some (i, caller) =>
    if w.closed.contains i then
      let l := { w.l with active := true, state := .connected }
      let w := { w with waiting := none }
      match caller with
      | .start privateKey => { w with l := { l with currentPrivateKey := privateKey } }
      | .enable ctx => { w.cancel ctx with l := { l with isMeshEnabled := true } }
    else w

/-- The waiting call takes `ctx.Done()` and returns its error. -/
def contextDone (r : Env) (w : World) : World :=
  match w.waiting with
  | none => w
  | some (i, caller) =>
    match w.monitors[i]? with
    | none => w
    | some m =>
      if w.done m.ctx then
        let w := { w.cancelMonitor with waiting := none, l := (gaveUp r w.l).final }
        match caller with
        | .start _ => w
        | .enable ctx => w.enableFails r ctx
      else w

/-- The function of `TryExecuteWith` has returned, and `execMu` is unlocked. -/
def unlock (w : World) : World :=
  match w.exec, w.waiting with
  | _, some (_, .start _) => w
  | some ctx, _ => { w with exec := none, returning := ctx :: w.returning }
  | none, _ => w

/-- The deferred `cancel` of a `TryExecuteWith` that returns. -/
def executed (ctx : Nat) (w : World) : World :=
  if w.returning.contains ctx then { w.cancel ctx with returning := w.returning.erase ctx } else w

/-- The deadline of a context. -/
def deadline (ctx : Nat) (w : World) : World := if w.roots.contains ctx then w.cancel ctx else w

/-- `Stop`. -/
def stop (r : Env) (w : World) : World :=
  if w.waiting.isSome then w
  else { w.cancelMonitor with l := (NordLynx.stop r w.l).final }

/-- An event of the library is taken by a monitor in its `select`. One that no monitor takes is
dropped and leaves nothing. -/
def event (event : NodeEvent) (i : Nat) (w : World) : World :=
  match w.monitors[i]? with
  | some m =>
    if m.phase = .listening then w.setMonitor i { m with phase := .busy (some event) } else w
  | none => w

/-- A monitor handles the event it has taken and goes back to its `select`. -/
def handle (i : Nat) (w : World) : World :=
  match w.monitors[i]? with
  | some m => match m.phase with
    | .busy none => w.setMonitor i { m with phase := .listening }
    | .busy (some event) =>
      perform i (m.onEvent event).2
        (w.setMonitor i { (m.onEvent event).1 with phase := .listening })
    | _ => w
  | none => w

/-- A monitor in its `select` takes `ctx.Done()`. -/
def notice (i : Nat) (w : World) : World :=
  match w.monitors[i]? with
  | some m =>
    if m.phase = .listening ∧ w.done m.ctx = true then
      perform i m.onDone.2 (w.setMonitor i m.onDone.1)
    else w
  | none => w

end World

/-- What can happen. -/
inductive Step where
  | tryExecute
  | start (r : Env) (creds : Credentials) (server : ServerData)
  | enable (r : Env) (ip : Addr) (privateKey : String)
  | connected
  | contextDone (r : Env)
  | unlock
  | executed (ctx : Nat)
  | deadline (ctx : Nat)
  | stop (r : Env)
  | event (event : NodeEvent) (i : Nat)
  | handle (i : Nat)
  | notice (i : Nat)

def World.step (w : World) : Step → World
  | .tryExecute => w.tryExecute
  | .start r creds server => w.start r creds server
  | .enable r ip privateKey => w.enable r ip privateKey
  | .connected => w.connected
  | .contextDone r => w.contextDone r
  | .unlock => w.unlock
  | .executed ctx => w.executed ctx
  | .deadline ctx => w.deadline ctx
  | .stop r => w.stop r
  | .event e i => w.event e i
  | .handle i => w.handle i
  | .notice i => w.notice i

end NordVPN.NordLynx
