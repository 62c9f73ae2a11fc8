import NordVPN.Daemon.Rpc
import NordVPN.Networker.MeshSwitch

/-!
Turning meshnet on and off (`meshnet/server.go`, `meshnet/register.go`,
`meshnet/registry/registry.go`, `events/meshunsetter/meshunsetter.go`, `daemon/rpc_logout.go`).

Whether meshnet is on is kept twice, in the settings and in the networker. `EnableMeshnet` and
`DisableMeshnet` change both, and so do `Logout` and the notification that the device was removed
from the meshnet. A request that ends early fails with its answer. The fileshare service, whose
errors are only published, and the user that enabled meshnet are left out.

A request is one step here, and each of its calls can fail on its own: what is asked is whether the
two records agree between requests. `Steps` takes the same requests apart into the operations that
other requests can come between.
-/

namespace NordVPN.Meshnet

open NordVPN.Netip NordVPN.Daemon NordVPN.Networker Prog

/-! ### State and environment -/

/-- What `Register` reads of the machine that the registry answers with. -/
structure Machine where
  /-- the `ID` is not `uuid.Nil` -/
  hasID : Bool
  address : Addr
deriving DecidableEq, Repr

inductive RegisterAnswer where
  | machine (m : Machine)
  | conflict
  | failure

/-- What the registry answers when it is asked for the meshnet map; `notFound` is an error with the
text "Machine not found". -/
inductive MapResult where
  | map (resp : MachineMap)
  | unauthorized
  | notFound
  | failure

/-- The errors that `Logout` tells apart. -/
inductive ApiResult where
  | done | unauthorized | badRequest | notFound | serverInternal | failure
deriving DecidableEq, Repr

/-- What the services around the requests answer during one of them. Every call of `cm.Load` and of
`cm.SaveWith` can fail on its own. -/
structure SwitchEnv where
  netw : Networker.Env
  isLoggedIn : Bool := true
  /-- `Load` and `SaveWith` of the request itself -/
  loads : Bool := true
  saves : Bool := true
  /-- `Load` and `SaveWith` of `Register` -/
  registerLoads : Bool := true
  registerSaves : Bool := true
  /-- `distro.ReleaseName` succeeds -/
  releaseName : Bool := true
  /-- what `gen.Private` returns, the first and the second time -/
  newKey : String := "key"
  otherKey : String := "key"
  registers : RegisterAnswer
  /-- the answer to the second attempt, after a conflict -/
  registersAgain : RegisterAnswer := .failure
  map : MapResult
  /-- `SaveWith` after an unauthorized `Map` -/
  logoutSaves : Bool := true
  /-- `Load` and `SaveWith` of `unsetMesh` -/
  unsetLoads : Bool := true
  unsetSaves : Bool := true
  /-- the last server is the meshnet peer connected to last -/
  peerConnected : Bool := false
  deleteToken : ApiResult := .done
  apiLogout : ApiResult := .done
  /-- the user logged in with an access token -/
  noRenewToken : Bool := false

/-- The stored settings and the networker. -/
structure Switch where
  cfg : Config
  netw : World

def Switch.withCfg (f : Config → Config) (s : Switch) : Switch := { s with cfg := f s.cfg }

/-- The daemon at start-up. -/
def Switch.startUp (cfg : Config) (vpnet : Option Vpn) (fwmark : Nat) : Switch :=
  ⟨cfg, newCombined vpnet fwmark cfg.lanDiscovery cfg.firewall⟩

/-- A request that ends with an answer of type `ε` or goes on. -/
abbrev SwitchM (ε α : Type) := Prog SwitchEnv Switch ε α

/-- A call on the networker, with the answer to its errors. -/
def callNetw {ε : Type} (answer : Error → ε) (m : Netw Unit) : SwitchM ε Unit :=
  mapError answer (zoom SwitchEnv.netw Switch.netw (fun w s => { s with netw := w }) m)

/-- End the request with an answer if `c` holds. -/
def endIf {ε : Type} (c : Bool) (answer : ε) : SwitchM ε Unit := when c (fail answer)

/-! ### Registering -/

/-- `isRegistrationInfoCorrect`. -/
def isRegistrationInfoCorrect (device : Machine) (privateKey : String) : Bool :=
  privateKey ≠ "" && device.hasID && device.address.isValid

/-- `register`: the machine and the key it was registered with. A conflict is tried again with a new
key. -/
def registerMachine (r : SwitchEnv) (cfg : Config) : Option (Machine × String) :=
  let privateKey := if cfg.meshPrivateKey = "" then r.newKey else cfg.meshPrivateKey
  if !r.releaseName then none
  else match r.registers with
    | .machine m => some (m, privateKey)
    | .failure => none
    | .conflict =>
      match r.registersAgain with
      | .machine m => some (m, r.otherKey)
      | .conflict | .failure => none

/-- `meshConfig`. -/
def meshConfig (device : Machine) (privateKey : String) (c : Config) : Config :=
  { c with meshDevice := device.address, meshPrivateKey := privateKey }

/-- `Register`, all of whose errors get one answer. What it saved stays saved when the machine turns
out to be no good. -/
def register : SwitchM Reply Unit := do
  let r ← env
  endIf (!r.registerLoads) .notRegistered
  let s ← state
  match registerMachine r s.cfg with
  | none => fail .notRegistered
  | some (device, privateKey) => do
    endIf (!r.registerSaves) .notRegistered
    update (Switch.withCfg (meshConfig device privateKey))
    endIf (!isRegistrationInfoCorrect device privateKey) .notRegistered

/-! ### The requests -/

/-- `unsetMesh` of the mesh unsetter. Its errors are only logged, and one of `UnSetMesh` does not
keep the settings from being saved. -/
def unsetMesh {ε : Type} (answer : Error → ε) : SwitchM ε Unit := do
  let r ← env
  when r.unsetLoads do
    ignore (callNetw answer Api.unSetMesh)
    when r.unsetSaves (update (Switch.withCfg fun c =>
      { c with mesh := false, meshDevice := .invalid, meshPrivateKey := "" }))

/-- `reg.Map` and the answers to its errors. If the machine is not found, the subscriber to its
removal is called first. -/
def fetchMap (cfg : Config) : SwitchM Reply MachineMap := do
  let r ← env
  match r.map with
  | .map resp => pure resp
  | .unauthorized => do
    endIf (!r.logoutSaves) .configFailure
    update (Switch.withCfg (Daemon.logout cfg.autoConnectData.id))
    fail .notLoggedIn
  | .notFound => do
    unsetMesh fun _ => .apiFailure
    fail .apiFailure
  | .failure => fail .apiFailure

/-- `EnableMeshnet`. -/
def enableMeshnet : SwitchM Reply Unit := do
  let r ← env
  endIf (!r.isLoggedIn) .notLoggedIn
  register
  endIf (!r.loads) .configFailure
  let s ← state
  endIf s.cfg.mesh .alreadyEnabled
  endIf s.cfg.autoConnectData.postquantumVpn .conflictWithPQ
  let resp ← fetchMap s.cfg
  callNetw (fun e => if isErr .tunnelClosed e then .tunnelClosed else .libFailure)
    (setMesh resp s.cfg.meshDevice s.cfg.meshPrivateKey)
  endIf (!r.saves) .configFailure
  update (Switch.withCfg fun c => { c with mesh := true, meshDevice := resp.address })

/-- `DisableMeshnet`: the errors of the networker are only published. -/
def disableMeshnet : SwitchM Reply Unit := do
  let r ← env
  endIf (!r.loads) .configFailure
  let s ← state
  endIf (!s.cfg.mesh) .alreadyDisabled
  when r.peerConnected (ignore (callNetw (fun _ => .libFailure) Api.stop))
  ignore (callNetw (fun _ => .libFailure) Api.unSetMesh)
  endIf (!r.saves) .configFailure
  update (Switch.withCfg fun c => { c with mesh := false })

/-- What `Logout` answers. -/
inductive LogoutReply where
  | success | failure | internalError | tokenInvalidated | notLoggedIn | error
deriving DecidableEq, Repr

/-- What `Logout` makes of an error of the API, of which some mean that the token is invalid anyway.
-/
def checkToken (answer : ApiResult) (invalid : List ApiResult) : SwitchM LogoutReply Unit :=
  if answer = .done ∨ answer ∈ invalid then pure ()
  else if answer = .serverInternal then fail .internalError
  else fail .failure

/-- `Logout`. -/
def logout (persistToken : Bool) : SwitchM LogoutReply LogoutReply := do
  let r ← env
  endIf (!r.isLoggedIn) .notLoggedIn
  endIf (!r.loads) .failure
  let s ← state
  callNetw (fun _ => .failure) Api.stop
  callNetw (fun _ => .failure) (tolerate (isErr .meshNotActive) Api.unSetMesh)
  endIf (s.cfg.tokensData.lookup s.cfg.autoConnectData.id).isNone .failure
  when (!persistToken) do
    checkToken r.deleteToken [.unauthorized, .badRequest]
    checkToken r.apiLogout [.unauthorized, .badRequest, .notFound]
  endIf (!r.saves) .error
  update (Switch.withCfg fun c =>
    { (Daemon.logout c.autoConnectData.id c).withData ({ · with id := 0 }) with mesh := false })
  pure (if !persistToken && r.noRenewToken then .tokenInvalidated else .success)

end NordVPN.Meshnet
