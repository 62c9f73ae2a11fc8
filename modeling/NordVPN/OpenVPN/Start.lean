import NordVPN.Daemon.Vpn
import NordVPN.OpenVPN.Config

/-!
Starting and stopping the OpenVPN process (`daemon/vpn/openvpn/openvpn.go`).

`Start` launches the process and waits for it to connect to the management socket; `stop` asks the
process to end over the management connection and waits for it. Both read and write `active`,
`process` and `manager`, which are set one after the other.

A call that returns gives its error and the state it leaves. A call can also not return: it calls a
method of a nil client, or waits for a process that nobody told to exit. These are the faults.
-/

namespace NordVPN.OpenVPN

open NordVPN.Netip NordVPN.Daemon NordVPN.Vpn

/-! ### State -/

/-- `exec.Cmd` of the process. -/
structure Cmd where
  /-- `Process != nil` -/
  started : Bool := false
  /-- it got `SIGINT` over the management connection -/
  told : Bool := false
  /-- `Wait` has returned -/
  waited : Bool := false
deriving DecidableEq, Repr

/-- The events that are published. -/
inductive Notice where
  | connecting | connected | disconnected (byUser : Bool)
deriving DecidableEq, Repr

/-- `OpenVPN`; `manager` tells whether there is a client. -/
structure Ovpn where
  process : Option Cmd := none
  manager : Bool := false
  state : State := .exited
  substate : Substate := .unknown
  publishedState : Option State := none
  tun : Option Tunnel := none
  active : Bool := false
deriving DecidableEq, Repr

/-- The instance and what it has published, the latest first. -/
structure World where
  ovpn : Ovpn := {}
  published : List Notice := []
deriving DecidableEq, Repr

namespace World

def publish (w : World) (notice : Notice) : World := { w with published := notice :: w.published }

/-- Publishes the notice unless it was the last one of its kind. -/
def publishOnce (w : World) (state : State) (notice : Notice) : World :=
  if w.ovpn.publishedState ≠ some state then
    { ovpn := { w.ovpn with publishedState := some state }, published := notice :: w.published }
  else w

/-- `setState`. -/
def setState (w : World) (arg : String) : World :=
  let w := { w with ovpn := { w.ovpn with state := stringToState arg } }
  match stringToState arg with
  | .connected => w.publishOnce .connected .connected
  | .exiting => w
  | .exited => w.publishOnce .exited (.disconnected false)
  | _ => w.publishOnce .connecting .connecting

def setSubstate (w : World) (substate : Substate) : World :=
  { w with ovpn := { w.ovpn with substate } }

def setTun (w : World) (tun : Tunnel) : World := { w with ovpn := { w.ovpn with tun := some tun } }

end World

/-! ### Stopping -/

inductive Fault where
  | nilClient | nilProcess | waitsForUntold
deriving DecidableEq, Repr

inductive StopError where
  | notActive | sendSignal | close
deriving DecidableEq, Repr

/-- What the management connection and the process answer to one `stop`. -/
structure StopAnswers where
  /-- `Pid`, 0 if it fails -/
  pid : Nat := 1
  sendSignal : Bool := true
  /-- the process has ended by itself when it is waited for -/
  ended : Bool := false
  close : Bool := true
deriving DecidableEq, Repr

/-- `Wait`: a second call returns an error at once, and the error is only logged. -/
def Cmd.wait (cmd : Cmd) (ended : Bool) : Except Fault Cmd :=
  if cmd.waited || cmd.told || ended then .ok { cmd with waited := true }
  else .error .waitsForUntold

/-- The end of `stop`, under the lock. -/
def Ovpn.reset (ovpn : Ovpn) : Ovpn :=
  { ovpn with manager := false, tun := none, active := false, state := .exited }

/-- `stop`, from `Wait` on. -/
def Ovpn.waitAndClose (a : StopAnswers) (ovpn : Ovpn) : Except Fault (Ovpn × Option StopError) :=
  match ovpn.process with
  | none => .error .nilProcess
  | some cmd =>
    if cmd.started then do
      let cmd ← cmd.wait a.ended
      let ovpn := { ovpn with process := some cmd }
      if !ovpn.manager then .error .nilClient
      else if !a.close then .ok (ovpn, some .close)
      else .ok (ovpn.reset, none)
    else .ok (ovpn.reset, none)

/-- `stop`. -/
def Ovpn.stop (a : StopAnswers) (ovpn : Ovpn) : Except Fault (Ovpn × Option StopError) :=
  if ovpn.manager && a.pid != 0 then
    if a.sendSignal then
      let process := ovpn.process.map fun cmd => { cmd with told := true }
      Ovpn.waitAndClose a { ovpn with process }
    else .ok (ovpn, some .sendSignal)
  else ovpn.waitAndClose a

/-- `Stop`. -/
def World.stop (a : StopAnswers) (w : World) : Except Fault (World × Option StopError) :=
  let w := w.publish (.disconnected true)
  if w.ovpn.active then do
    let (ovpn, err) ← w.ovpn.stop a
    return ({ w with ovpn }, err)
  else .ok (w, some .notActive)

/-! ### Handling the events of the process -/

/-- `gopenvpn.Event`, with the answer of `Auth` to a password event. Other events are ignored. -/
inductive Event where
  | fatal
  | password (text : String) (auth : Bool)
  | state (newState description localTunnelAddr : String)
  | other
deriving DecidableEq, Repr

inductive HandlerError where
  | context | fatal | auth | accountExpired | serverTimeout | parseAddr | findTunnel | exited
deriving DecidableEq, Repr

/-- How addresses and tunnels are found. -/
structure Lookup where
  parseAddr : String → Option Addr := fun _ => none
  find : Addr → Option Tunnel := fun _ => none

def needsAuth (text : String) : Bool := Words.contains text "Need 'Auth' username/password"

/-- The counting of failed attempts: the substate that follows, and the error after the third. -/
def countReconnect (description : String) (substate : Substate) : Substate × Option HandlerError :=
  if description = "auth-failure" then
    match substate with
    | .unknown => (.authFluke, none)
    | .authFluke => (.authBad, none)
    | .authBad => (.unknown, some .accountExpired)
    | other => (other, none)
  else if description = "server_poll" then
    match substate with
    | .unknown => (.timeoutFluke, none)
    | .timeoutFluke => (.timeout, none)
    | .timeout => (.unknown, some .serverTimeout)
    | other => (other, none)
  else (substate, none)

/-- What handling an event leads to. -/
inductive Verdict where
  | next | done | failed (err : HandlerError)
deriving DecidableEq, Repr

/-- One round of `stage1Handler`. -/
def stage1Event (r : Lookup) (w : World) : Event → World × Verdict
  | .fatal => (w, .failed .fatal)
  | .password text auth =>
    if needsAuth text && !auth then (w, .failed .auth) else (w, .next)
  | .state newState description localTunnelAddr =>
    let w := w.setState newState
    match stringToState newState with
    | .reconnecting =>
      let (substate, err) := countReconnect description w.ovpn.substate
      match err with
      | some err => (w.setSubstate substate, .failed err)
      | none => (w.setSubstate substate, .next)
    | .exiting => (w, .failed .exited)
    | .connected =>
      match r.parseAddr localTunnelAddr with
      | none => (w, .failed .parseAddr)
      | some ip => match r.find ip with
        | none => (w, .failed .findTunnel)
        | some tun => (w.setTun tun, .done)
    | _ => (w, .next)
  | .other => (w, .next)

/-- `stage1Handler`: the context is done when there are no more events. -/
def stage1Handler (r : Lookup) (w : World) : List Event → World × Option HandlerError
  | [] => (w, some .context)
  | event :: events =>
    match stage1Event r w event with
    | (w, .next) => stage1Handler r w events
    | (w, .done) => (w, none)
    | (w, .failed err) => (w, some err)

/-- One round of `stage2Handler`, which may still run after `stop`. -/
def stage2Event (r : Lookup) (w : World) : Event → Except Fault World
  | .fatal => .ok (w.setSubstate .unknown)
  | .password text _ => if needsAuth text && !w.ovpn.manager then .error .nilClient else .ok w
  | .state newState description localTunnelAddr =>
    let w := w.setState newState
    match stringToState newState with
    | .reconnecting =>
      if description = "server_poll" then
        .ok (w.setSubstate (countReconnect description w.ovpn.substate).1)
      else .ok w
    | .connected =>
      -- both errors are only logged
      let ip := (r.parseAddr localTunnelAddr).getD .invalid
      .ok (w.setTun ((r.find ip).getD {}))
    | _ => .ok w
  | .other => .ok w

/-! ### What events leave alone -/

section

variable {w w' : World}

/-- What only `Start` and `stop` write. -/
def Ovpn.core (ovpn : Ovpn) : Bool × Bool × Option Cmd := (ovpn.active, ovpn.manager, ovpn.process)

theorem core_publishOnce (state : State) (notice : Notice) :
    (w.publishOnce state notice).ovpn.core = w.ovpn.core := by
  unfold World.publishOnce
  split <;> rfl

theorem core_setState (arg : String) : (w.setState arg).ovpn.core = w.ovpn.core := by
  unfold World.setState
  dsimp only
  split <;> first | exact core_publishOnce _ _ | rfl

theorem core_stage1Event (r : Lookup) (event : Event) :
    (stage1Event r w event).1.ovpn.core = w.ovpn.core := by
  cases event <;> grind [stage1Event, core_setState, Ovpn.core, World.setSubstate, World.setTun]

theorem core_stage2Event {r : Lookup} {event : Event} (h : stage2Event r w event = .ok w') :
    w'.ovpn.core = w.ovpn.core := by
  cases event <;> grind [stage2Event, core_setState, Ovpn.core, World.setSubstate, World.setTun]

end

/-! ### Starting -/

/-- `vpn.ServerData`, the fields that the configuration depends on. -/
structure ServerData where
  ip : Addr
  protocol : Protocol
  obfuscated : Bool := false
  openVPNVersion : String
deriving DecidableEq, Repr

inductive StartError where
  | alreadyStarted | credentials | config (err : ConfigError) | listener | starting | management
  | managementTimeout | stateEvents | disconnected | handler (err : HandlerError)
deriving DecidableEq, Repr

/-- What comes first: the process connects, accepting its connection fails, or three seconds are
over. -/
inductive Management where
  | client | error | timeout
deriving DecidableEq, Repr

/-- The arguments of `Start`, and what it meets. -/
structure StartInput where
  creds : Networker.Credentials
  serverData : ServerData
  config : ConfigEnv
  listen : Bool := true
  startOpenVPN : Bool := true
  management : Management := .client
  setStateEvents : Bool := true
  lookup : Lookup := {}
  events : List Event := []
  /-- the answers to the `stop` that `Start` calls itself -/
  cleanup : StopAnswers := {}

/-- `IsOpenVPNDefined`. -/
def isOpenVPNDefined (creds : Networker.Credentials) : Bool :=
  creds.openVPNUsername != "" && creds.openVPNPassword != ""

/-- The checks of `Start` before it is `active`. -/
def StartInput.prepare (i : StartInput) : Option StartError :=
  if !isOpenVPNDefined i.creds then some .credentials
  else match setOpenVPNConfig i.config i.serverData.protocol i.serverData.ip
      i.serverData.obfuscated i.serverData.openVPNVersion with
    | .error err => some (.config err)
    | .ok _ => if !i.listen then some .listener else none

/-- `stop` on the way out of `Start`: its error is dropped. -/
def World.giveUp (w : World) (a : StopAnswers) (err : StartError) :
    Except Fault (World × Option StartError) := do
  let (ovpn, _) ← w.ovpn.stop a
  return ({ w with ovpn }, some err)

/-- `Start`, from the first use of the client on. -/
def World.handshake (i : StartInput) (w : World) : Except Fault (World × Option StartError) :=
  if !i.setStateEvents then w.giveUp i.cleanup .stateEvents
  else match stage1Handler i.lookup w i.events with
    | (w, none) => .ok (w, none)
    | (w, some .exited) => .ok (w, some .disconnected)
    | (w, some err) => w.giveUp i.cleanup (.handler err)

/-- The state of `Start` after it made the command, and when the command was started or not. -/
def World.launch (w : World) (started : Bool) : World :=
  { w with ovpn := { w.ovpn with active := true, process := some { started } } }

/-- The state of `Start` when the process has connected. -/
def World.connect (w : World) : World :=
  { w.launch true with ovpn := { (w.launch true).ovpn with manager := true } }

/-- `Start`. -/
def World.start (i : StartInput) (w : World) : Except Fault (World × Option StartError) :=
  if w.ovpn.active then .ok (w, some .alreadyStarted)
  else match i.prepare with
    | some err => .ok (w, some err)
    | none =>
      if !i.startOpenVPN then (w.launch false).giveUp i.cleanup .starting
      else match i.management with
        | .client => w.connect.handshake i
        | .error => .ok (w.launch true, some .management)
        | .timeout => .ok (w.launch true, some .managementTimeout)

/-! ### Runs -/

/-- What can happen to the instance. -/
inductive Step where
  | start (i : StartInput)
  | stop (a : StopAnswers)
  | event (r : Lookup) (event : Event)

/-- The state after a step. A fault is the end of the daemon, or of the call. -/
def World.step (w : World) (step : Step) : World :=
  match step with
  | .start i => match w.start i with
    | .ok (w', _) => w'
    | .error _ => w
  | .stop a => match w.stop a with
    | .ok (w', _) => w'
    | .error _ => w
  | .event r event => match stage2Event r w event with
    | .ok w' => w'
    | .error _ => w

end NordVPN.OpenVPN
