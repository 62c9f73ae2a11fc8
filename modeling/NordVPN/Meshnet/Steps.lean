import NordVPN.Lib.Script
import NordVPN.Networker.Api

/-!
The meshnet requests and notifications as steps (`meshnet/server.go`, `meshnet/register.go`,
`meshnet/registry/registry.go`, `events/refresher/refresher.go`,
`events/meshunsetter/meshunsetter.go`, `daemon/rpc_logout.go`).

Each of them loads the settings once and works with that copy, while registering, another request
or a notification changes what is stored. So every access to the settings, to the registry and to
the networker is an operation of its own here. The fileshare service, the user that enabled
meshnet, the tokens and the published errors are left out.
-/

namespace NordVPN.Meshnet.Steps

open NordVPN.Netip NordVPN.Networker

/-! ### Settings -/

/-- `mesh.Machine`, with the fields that `IsEqual` compares. -/
structure Machine where
  id : String
  hardwareID : String := ""
  hostname : String := ""
  address : Addr
  supportsRouting : Bool := true
  nickname : String := ""
deriving DecidableEq, Repr

/-- `IsEqual`. -/
def Machine.isEqual (s b : Machine) : Bool :=
  s.id = b.id && s.hardwareID = b.hardwareID && s.hostname = b.hostname && s.address = b.address &&
    s.supportsRouting = b.supportsRouting && s.nickname = b.nickname

/-- `uuid.Nil`. -/
def nilID : String := "00000000-0000-0000-0000-000000000000"

/-- The settings that the requests read. -/
structure Settings where
  mesh : Bool := false
  meshDevice : Option Machine := none
  meshPrivateKey : String := ""
  postquantumVpn : Bool := false
deriving DecidableEq, Repr

/-- `isRegistrationInfoCorrect`. -/
def isRegistrationInfoCorrect (cfg : Settings) : Bool :=
  match cfg.meshDevice with
  | none => false
  | some device => cfg.meshPrivateKey ≠ "" && device.id ≠ nilID && device.address.isValid

/-- The functions that the callers give to `SaveWith`. -/
inductive Save where
  /-- `meshConfig` -/
  | meshConfig (device : Machine) (privateKey : String)
  /-- the end of `EnableMeshnet` -/
  | enabled (self : Machine)
  /-- the end of `DisableMeshnet` and of `Logout` -/
  | disabled
  /-- the end of `unsetMesh` -/
  | removed
  /-- `NotifyPeerUpdate` finds this machine changed -/
  | renamed (self : Machine)
  /-- `auth.Logout`, which changes none of these settings -/
  | logout
deriving DecidableEq, Repr

/-- What is saved; `none` is the dereference of a missing device. -/
def Save.apply (c : Settings) : Save → Option Settings
  | meshConfig device privateKey =>
    some { c with meshDevice := some device, meshPrivateKey := privateKey }
  | enabled self =>
    match c.meshDevice with
    | none => none
    | some device =>
      some { c with
        mesh := true, meshDevice := some (if device.isEqual self then device else self) }
  | disabled => some { c with mesh := false }
  | removed => some { c with mesh := false, meshDevice := none, meshPrivateKey := "" }
  | renamed self => some { c with meshDevice := some self }
  | logout => some c

/-! ### Operations -/

/-- Who loads the settings. -/
inductive Caller where
  /-- the request or the notification itself -/
  | request
  /-- the registering checker -/
  | checker
  /-- the mesh unsetter -/
  | unsetter
deriving DecidableEq, Repr

inductive Op where
  | isLoggedIn
  | load (caller : Caller)
  | saveWith (save : Save)
  /-- `gen.Private`, the first time or after a conflict -/
  | newKey (again : Bool)
  /-- `distro.ReleaseName` -/
  | releaseName
  /-- `reg.Register` with the public half of the key, the first time or after a conflict -/
  | register (again : Bool) (privateKey : String)
  /-- `reg.Map` of the registry itself -/
  | map (id : String)
  /-- the last server is the meshnet peer connected to last -/
  | peerConnected
  | setMesh (resp : MachineMap) (self : Addr) (privateKey : String)
  | unSetMesh
  | refresh (resp : MachineMap)
  | stop
  /-- the token is stored, and the API lets go of it -/
  | dropToken

inductive Saved where
  | saved | failed | panicked
deriving DecidableEq, Repr

inductive RegisterAnswer where
  | machine (m : Machine)
  | conflict
  | failure

/-- `mesh.MachineMap`, this machine apart from what the networker reads. -/
structure MapResponse where
  machine : Machine
  map : MachineMap

/-- `notFound` is an error with the text "Machine not found". -/
inductive MapAnswer where
  | map (resp : MapResponse)
  | unauthorized
  | notFound
  | failure

@[reducible] def Op.Answer : Op → Type
  | isLoggedIn | releaseName | peerConnected | dropToken => Bool
  | load _ => Option Settings
  | saveWith _ => Saved
  | newKey _ => String
  | register _ _ => RegisterAnswer
  | map _ => MapAnswer
  | setMesh _ _ _ | unSetMesh | refresh _ | stop => Except Error Unit

/-- How everything around the settings behaves when an operation is performed. -/
structure Moment where
  netw : Networker.Env
  isLoggedIn : Bool := true
  loads : Caller → Bool := fun _ => true
  /-- `SaveWith` reads the stored settings, and writes the new ones -/
  rereads : Save → Bool := fun _ => true
  writes : Save → Bool := fun _ => true
  newKey : Bool → String := fun _ => "key"
  releaseName : Bool := true
  registers : Bool → String → RegisterAnswer
  map : String → MapAnswer
  peerConnected : Bool := false
  dropToken : Bool := true

/-- What the operations work on. -/
structure Device where
  cfg : Settings
  netw : World
  /-- the key whose public half the registry accepted last -/
  registered : Option String := none

/-- A call of the networker. -/
def Device.call (d : Device) (m : Netw Unit) (r : Moment) : Except Error Unit × Device :=
  let out := m r.netw d.netw
  (out.result, { d with netw := out.final })

/-- The effect of an operation. -/
def exec (r : Moment) : (op : Op) → Device → op.Answer × Device
  | .isLoggedIn, d => (r.isLoggedIn, d)
  | .load caller, d => (if r.loads caller then some d.cfg else none, d)
  | .saveWith save, d =>
    if r.rereads save then
      match save.apply d.cfg with
      | none => (.panicked, d)
      | some cfg => if r.writes save then (.saved, { d with cfg }) else (.failed, d)
    else (.failed, d)
  | .newKey again, d => (r.newKey again, d)
  | .releaseName, d => (r.releaseName, d)
  | .register again privateKey, d =>
    match r.registers again privateKey with
    | .machine m => (.machine m, { d with registered := some privateKey })
    | answer => (answer, d)
  | .map id, d => (r.map id, d)
  | .peerConnected, d => (r.peerConnected, d)
  | .setMesh resp self privateKey, d => d.call (setMesh resp self privateKey) r
  | .unSetMesh, d => d.call Api.unSetMesh r
  | .refresh resp, d => d.call (refresh resp) r
  | .stop, d => d.call Api.stop r
  | .dropToken, d => (r.dropToken, d)

abbrev ServiceM (α : Type) := Script Op Op.Answer α

def ask (op : Op) : ServiceM op.Answer := .step op .done

/-- An operation whose answer nobody looks at, if `c` holds. -/
def performIf (c : Bool) (op : Op) : ServiceM Unit :=
  if c then .step op fun _ => .done () else .done ()

/-- Go on with a copy of the settings; the answer if they cannot be loaded is `refusal`. -/
def withSettings {α : Type} (caller : Caller) (refusal : α) (f : Settings → ServiceM α) :
    ServiceM α := do
  match ← ask (.load caller) with
  | none => pure refusal
  | some cfg => f cfg

/-! ### Registering -/

/-- The key to register with: the stored one, if there is one. -/
def chooseKey (cfg : Settings) : ServiceM String :=
  if cfg.meshPrivateKey = "" then ask (.newKey false) else pure cfg.meshPrivateKey

/-- `register`: the machine and the key it was registered with. A conflict is tried again with a new
key. -/
def registerMachine (cfg : Settings) : ServiceM (Option (Machine × String)) := do
  let privateKey ← chooseKey cfg
  if !(← ask .releaseName) then pure none
  else
    match ← ask (.register false privateKey) with
    | .machine device => pure (some (device, privateKey))
    | .failure => pure none
    | .conflict =>
      let privateKey ← ask (.newKey true)
      match ← ask (.register true privateKey) with
      | .machine device => pure (some (device, privateKey))
      | .conflict | .failure => pure none

/-- The part that `Register` and `IsRegistrationInfoCorrect` share: register, save, and check what
was saved. -/
def registerAndSave (cfg : Settings) : ServiceM Bool := do
  match ← registerMachine cfg with
  | none => pure false
  | some (device, privateKey) =>
    match ← ask (.saveWith (.meshConfig device privateKey)) with
    | .saved => pure (isRegistrationInfoCorrect
        { cfg with meshDevice := some device, meshPrivateKey := privateKey })
    | .failed | .panicked => pure false

/-- `Register`: whether it returns no error. -/
def register : ServiceM Bool := withSettings .checker false registerAndSave

/-- `IsRegistrationInfoCorrect`. -/
def checkRegistration : ServiceM Bool :=
  withSettings .checker false fun cfg =>
    if isRegistrationInfoCorrect cfg then pure true else registerAndSave cfg

/-! ### Requests and notifications -/

/-- What the requests answer. -/
inductive Reply where
  | empty | notLoggedIn | configFailure | apiFailure
  | notRegistered | notEnabled | alreadyEnabled | alreadyDisabled | conflictWithPQ
  | tunnelClosed | libFailure
  /-- `Logout` -/
  | success | failure
deriving DecidableEq, Repr

/-- What a call ends with: the answer of a request, whether a notification returns an error, or the
dereference of a missing device. -/
inductive End where
  | reply (answer : Reply)
  | returned (failed : Bool)
  | panicked
deriving DecidableEq, Repr

/-- `unsetMesh` of the mesh unsetter. An error of `UnSetMesh` is only published. -/
def unsetMesh : ServiceM End :=
  withSettings .unsetter (.returned true) fun _ => do
    let _ ← ask .unSetMesh
    match ← ask (.saveWith .removed) with
    | .saved => pure (.returned false)
    | .failed | .panicked => pure (.returned true)

/-- `reg.Map` for a copy of the settings: if the machine is not found, the subscriber to its removal
is called. -/
def fetchMap (id : String) : ServiceM MapAnswer := do
  match ← ask (.map id) with
  | .notFound =>
    let _ ← unsetMesh
    pure .notFound
  | answer => pure answer

/-- What a request answers when there is no map. -/
def mapRefused (answer : MapAnswer) : ServiceM End :=
  match answer with
  | .unauthorized => do
    match ← ask (.saveWith .logout) with
    | .saved => pure (.reply .notLoggedIn)
    | .failed | .panicked => pure (.reply .configFailure)
  | _ => pure (.reply .apiFailure)

/-- The answer to an error of `SetMesh`. -/
def setMeshFailure (e : Error) : Reply :=
  if isErr .tunnelClosed e then .tunnelClosed else .libFailure

/-- `EnableMeshnet`, from the map on. -/
def enableWith (cfg : Settings) (device : Machine) : ServiceM End := do
  match ← fetchMap device.id with
  | .map resp =>
    match ← ask (.setMesh resp.map device.address cfg.meshPrivateKey) with
    | .error e => pure (.reply (setMeshFailure e))
    | .ok _ =>
      match ← ask (.saveWith (.enabled resp.machine)) with
      | .saved => pure (.reply .empty)
      | .failed => pure (.reply .configFailure)
      | .panicked => pure .panicked
  | answer => mapRefused answer

/-- `EnableMeshnet`. -/
def enableMeshnet : ServiceM End := do
  if !(← ask .isLoggedIn) then pure (.reply .notLoggedIn)
  else if !(← register) then pure (.reply .notRegistered)
  else
    withSettings .request (.reply .configFailure) fun cfg =>
      if cfg.mesh then pure (.reply .alreadyEnabled)
      else if cfg.postquantumVpn then pure (.reply .conflictWithPQ)
      else
        match cfg.meshDevice with
        | none => pure .panicked
        | some device => enableWith cfg device

/-- `StartMeshnet`, from the map on. -/
def startWith (cfg : Settings) (device : Machine) : ServiceM End := do
  match ← fetchMap device.id with
  | .map resp =>
    match ← ask (.setMesh resp.map device.address cfg.meshPrivateKey) with
    | .error _ => pure (.returned true)
    | .ok _ => pure (.returned false)
  | .unauthorized =>
    let _ ← ask (.saveWith .logout)
    pure (.returned true)
  | .notFound | .failure => pure (.returned true)

/-- `StartMeshnet`, which loads the settings before it registers. -/
def startMeshnet : ServiceM End := do
  if !(← ask .isLoggedIn) then pure (.returned true)
  else
    withSettings .request (.returned true) fun cfg => do
      if !cfg.mesh then pure (.returned true)
      else if !(← register) then pure (.returned true)
      else
        match cfg.meshDevice with
        | none => pure .panicked
        | some device => startWith cfg device

/-- `DisableMeshnet`: the errors of the networker are only published. -/
def disableMeshnet : ServiceM End :=
  withSettings .request (.reply .configFailure) fun cfg => do
    if !cfg.mesh then pure (.reply .alreadyDisabled)
    else
      let connected ← ask .peerConnected
      performIf connected .stop
      let _ ← ask .unSetMesh
      match ← ask (.saveWith .disabled) with
      | .saved => pure (.reply .empty)
      | .failed | .panicked => pure (.reply .configFailure)

/-- `RefreshMeshnet`. -/
def refreshMeshnet : ServiceM End := do
  if !(← ask .isLoggedIn) then pure (.reply .notLoggedIn)
  else
    withSettings .request (.reply .configFailure) fun cfg => do
      if !cfg.mesh then pure (.reply .notEnabled)
      else if !(← checkRegistration) then pure (.reply .notRegistered)
      else
        match cfg.meshDevice with
        | none => pure .panicked
        | some device =>
          match ← fetchMap device.id with
          | .map resp =>
            match ← ask (.refresh resp.map) with
            | .error _ => pure (.reply .apiFailure)
            | .ok _ => pure (.reply .empty)
          | answer => mapRefused answer

/-- `NotifyPeerUpdate`, from the map on. An error of `SaveWith` is only logged. -/
def notifyWith (device : Machine) (peerIds : List String) : ServiceM End := do
  match ← fetchMap device.id with
  | .map resp =>
    performIf (peerIds.contains device.id && !device.isEqual resp.machine)
      (.saveWith (.renamed resp.machine))
    match ← ask (.refresh resp.map) with
    | .error _ => pure (.returned true)
    | .ok _ => pure (.returned false)
  | .unauthorized | .notFound | .failure => pure (.returned true)

/-- `NotifyPeerUpdate`, which loads the settings before it checks the registration. -/
def notifyPeerUpdate (peerIds : List String) : ServiceM End :=
  withSettings .request (.returned true) fun cfg => do
    if !cfg.mesh then pure (.returned true)
    else if !(← checkRegistration) then pure (.returned true)
    else
      match cfg.meshDevice with
      | none => pure .panicked
      | some device => notifyWith device peerIds

/-- `Logout`. -/
def logout : ServiceM End := do
  if !(← ask .isLoggedIn) then pure (.returned true)
  else
    withSettings .request (.reply .failure) fun _ => do
      match ← ask .stop with
      | .error _ => pure (.reply .failure)
      | .ok _ =>
        match ← ask .unSetMesh with
        | .error e => if isErr .meshNotActive e then logoutWith else pure (.reply .failure)
        | .ok _ => logoutWith
where
  /-- the part after the networker -/
  logoutWith : ServiceM End := do
    if !(← ask .dropToken) then pure (.reply .failure)
    else
      match ← ask (.saveWith .disabled) with
      | .saved => pure (.reply .success)
      | .failed | .panicked => pure (.returned true)

end NordVPN.Meshnet.Steps
