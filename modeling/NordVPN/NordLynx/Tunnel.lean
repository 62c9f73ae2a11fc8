import NordVPN.Daemon.Vpn
import NordVPN.Networker.State

/-!
The tunnel of NordLynx (`daemon/vpn/nordlynx/libtelio/libtelio.go`).

One tunnel serves the VPN (`Start`, `Stop`) and meshnet (`Enable`, `Disable`). Its private key and
address are set when it is opened, and again by `updateTunnel`; opening a tunnel that is there
changes nothing.

The contexts and the goroutine that watches a connection are not here: a call of `connect` is told
whether the connection comes about before its context is done.
-/

namespace NordVPN.NordLynx

open NordVPN.Netip NordVPN.Vpn NordVPN.Networker

/-! ### State -/

inductive Adapter where
  | linuxNativeTun | boringTun
deriving DecidableEq, Repr

/-- The calls of the library and of the system that can fail. -/
inductive Call where
  | startNamed (adapter : Adapter)
  | setFwmark | interfaceByName | addAddrs | delAddrs | up | setMTU
  | stop | setSecretKey
  | connectToExitNode | connectToExitNodePostquantum | disconnectFromExitNodes
  | setMeshnetOff
deriving DecidableEq, Repr

inductive Error where
  | call (call : Call)
  | contextDone
deriving DecidableEq, Repr

structure Env where
  fails : Call → Bool := fun _ => false
  /-- the connection comes about before the context is done -/
  connects : Bool := true

/-- `vpn.ServerData`, the fields that are read. -/
structure ServerData where
  ip : Addr := .invalid
  nordLynxPublicKey : String := ""
  postQuantum : Bool := false
deriving DecidableEq, Repr

/-- The device that the library runs, and its interface. -/
structure Device where
  privateKey : Option String := none
  addrs : List Addr := []
  exitNode : Option String := none
deriving DecidableEq, Repr

/-- `Libtelio`. -/
structure Libtelio where
  state : State := .exited
  lib : Device := {}
  active : Bool := false
  tun : Option Tunnel := none
  currentServer : ServerData := {}
  currentPrivateKey : String := ""
  isMeshEnabled : Bool := false
  isKernelDisabled : Bool := false
deriving DecidableEq, Repr

abbrev Op := Prog Env Libtelio Error Unit

open Prog

def defaultIP : Addr := .v4 0x0a050002

def interfaceName : String := "nordlynx"

/-- A call that fails as the environment says, and changes the device if it does not. -/
def call (c : Call) (effect : Device → Device := id) : Op := do
  let r ← env
  if r.fails c then fail (.call c) else update fun l => { l with lib := effect l.lib }

/-! ### The tunnel -/

/-- `lib.Stop`: the device and its interface are gone. -/
def libStop : Op := call .stop fun _ => {}

/-- `lib.StartNamed`. -/
def startNamed (privateKey : String) (adapter : Adapter) : Op :=
  call (.startNamed adapter) fun lib => { lib with privateKey := some privateKey }

/-- Starting the device, in user space if the kernel cannot. -/
def startDevice (privateKey : String) : Op := do
  let l ← state
  if l.isKernelDisabled then startNamed privateKey .boringTun
  else do
    match ← attempt (startNamed privateKey .linuxNativeTun) with
    | .ok _ => pure ()
    | .error _ => do
      startNamed privateKey .boringTun
      update fun l => { l with isKernelDisabled := true }

/-- `tun.AddAddrs`. -/
def addAddrs (tun : Tunnel) : Op :=
  call .addAddrs fun lib => { lib with addrs := lib.addrs ++ tun.ips }

/-- `tun.DelAddrs`. -/
def delAddrs (tun : Tunnel) : Op :=
  call .delAddrs fun lib => { lib with addrs := lib.addrs.filter (!tun.ips.contains ·) }

/-- The part of `openTunnel` that is undone on an error. -/
def setUpInterface (ip : Addr) : Op := do
  call .setFwmark
  call .interfaceByName
  let tun : Tunnel := { iface := interfaceName, ips := [ip] }
  addAddrs tun
  call .up
  call .setMTU
  update fun l => { l with tun := some tun }

/-- `openTunnel`. -/
def openTunnel (ip : Addr) (privateKey : String) : Op := do
  let l ← state
  if l.tun.isSome then pure ()
  else do
    -- an interface of a previous run is deleted
    update fun l => { l with lib := { l.lib with addrs := [] } }
    startDevice privateKey
    onError (ignore libStop) (setUpInterface ip)

/-- `closeTunnel`. -/
def closeTunnel : Op := do
  let l ← state
  if l.tun.isNone then pure ()
  else do
    libStop
    update fun l => { l with tun := none }

/-- `updateTunnel`. -/
def updateTunnel (privateKey : String) (ip : Addr) : Op := do
  let l ← state
  let old := l.tun.getD {}
  delAddrs old
  let tun : Tunnel := { iface := old.iface, ips := [ip] }
  addAddrs tun
  call .setSecretKey fun lib => { lib with privateKey := some privateKey }
  update fun l => { l with tun := some tun }

/-! ### The connection -/

/-- `disconnect`. -/
def disconnect : Op := do
  call .disconnectFromExitNodes fun lib => { lib with exitNode := none }
  update fun l => { l with active := false, state := .exited }

/-- `connect`, up to the answer of the library. -/
def dial (server : ServerData) : Op := do
  let c := if server.postQuantum then .connectToExitNodePostquantum else .connectToExitNode
  match ← attempt (call c fun lib => { lib with exitNode := some server.nordLynxPublicKey }) with
  | .ok _ => pure ()
  | .error e => do
    let l ← state
    when (!l.isMeshEnabled) (ignore closeTunnel)
    fail e

/-- `connect`, when the connection has come about. -/
def connected : Op := update fun l => { l with active := true, state := .connected }

/-- `connect`, when its context is done first. -/
def gaveUp : Op := do
  ignore disconnect
  fail .contextDone

/-- `connect`. -/
def connect (server : ServerData) : Op := do
  dial server
  let r ← env
  if r.connects then connected else gaveUp

/-- `Start`, up to `connect`. -/
def prepare (creds : Credentials) (server : ServerData) : Op := do
  openTunnel defaultIP creds.nordLynxPrivateKey
  update fun l => { l with currentServer := server }

/-- `Start`. -/
def start (creds : Credentials) (server : ServerData) : Op := do
  prepare creds server
  connect server
  update fun l => { l with currentPrivateKey := creds.nordLynxPrivateKey }

/-- `Stop`. -/
def stop : Op := do
  disconnect
  let l ← state
  when (!l.isMeshEnabled) closeTunnel

/-! ### Meshnet -/

/-- `disable`. -/
def disable : Op := do
  call .setMeshnetOff
  update fun l => { l with isMeshEnabled := false }
  let l ← state
  when (!l.active) closeTunnel

/-- The part of `Enable` that gives an active VPN the new identity. -/
def moveConnection (ip : Addr) (privateKey : String) : Op := do
  disconnect
  updateTunnel privateKey ip
  let l ← state
  connect l.currentServer

/-- `Enable`. -/
def enable (ip : Addr) (privateKey : String) : Op :=
  onError (ignore disable) do
    openTunnel ip privateKey
    let l ← state
    when l.active (moveConnection ip privateKey)
    update fun l => { l with isMeshEnabled := true }

end NordVPN.NordLynx
