import NordVPN.Daemon.Rpc

/-!
The permissions of meshnet peers (`meshnet/server.go`, `core/mesh/json.go`).

The ten requests that change a permission have one shape: list the peers in the registry, change one
permission of one of them, write its whole record back with `Configure`, and tell the networker.
Each of the three calls is an atomic step, so that requests can be run one after the other or
interleaved.

The registry keeps what it was last sent. Published events are left out.
-/

namespace NordVPN.Meshnet

open NordVPN.Daemon NordVPN.Networker Prog

/-! ### Peers and their permissions -/

/-- `mesh.MachinePeer` as the server reads it. -/
structure Peer extends MachinePeer where
  id : String
  alwaysAcceptFiles : Bool := false
deriving DecidableEq, Repr

inductive Permission where
  | inbound | routing | localNetwork | fileshare | automaticFileshare
deriving DecidableEq, Repr

instance : Nontrivial Permission := ⟨.inbound, .routing, by decide⟩

namespace Peer

/-- Whether a permission is given to the peer. -/
def allows (p : Peer) : Permission → Bool
  | .inbound => p.doIAllowInbound
  | .routing => p.doIAllowRouting
  | .localNetwork => p.doIAllowLocalNetwork
  | .fileshare => p.doIAllowFileshare
  | .automaticFileshare => p.alwaysAcceptFiles

/-- The peer with a permission given or taken. -/
def permit (p : Peer) : Permission → Bool → Peer
  | .inbound, value => { p with doIAllowInbound := value }
  | .routing, value => { p with doIAllowRouting := value }
  | .localNetwork, value => { p with doIAllowLocalNetwork := value }
  | .fileshare, value => { p with doIAllowFileshare := value }
  | .automaticFileshare, value => { p with alwaysAcceptFiles := value }

def uniqueAddress (p : Peer) : UniqueAddress := ⟨p.publicKey, p.address⟩

@[simp] theorem allows_permit (p : Peer) (permission : Permission) (value : Bool)
    (other : Permission) : (p.permit permission value).allows other =
      if other = permission then value else p.allows other := by
  cases permission <;> cases other <;> rfl

end Peer

/-- `mesh.PeerUpdateRequest`. -/
structure PeerUpdateRequest where
  doIAllowInbound : Bool
  doIAllowRouting : Bool
  doIAllowLocalNetwork : Bool
  doIAllowFileshare : Bool
  alwaysAcceptFiles : Bool
  nickname : String

/-- `mesh.NewPeerUpdateRequest`: all six fields are copied. -/
def newPeerUpdateRequest (peer : Peer) : PeerUpdateRequest :=
  { doIAllowInbound := peer.doIAllowInbound
    doIAllowRouting := peer.doIAllowRouting
    doIAllowLocalNetwork := peer.doIAllowLocalNetwork
    doIAllowFileshare := peer.doIAllowFileshare
    alwaysAcceptFiles := peer.alwaysAcceptFiles
    nickname := peer.nickname }

/-- What the registry makes of an update of a peer. -/
def PeerUpdateRequest.apply (info : PeerUpdateRequest) (p : Peer) : Peer :=
  { p with
    doIAllowInbound := info.doIAllowInbound
    doIAllowRouting := info.doIAllowRouting
    doIAllowLocalNetwork := info.doIAllowLocalNetwork
    doIAllowFileshare := info.doIAllowFileshare
    alwaysAcceptFiles := info.alwaysAcceptFiles
    nickname := info.nickname }

@[simp] theorem PeerUpdateRequest.id_apply (info : PeerUpdateRequest) (p : Peer) :
    (info.apply p).id = p.id := rfl

@[simp] theorem allows_apply (peer p : Peer) (permission : Permission) :
    ((newPeerUpdateRequest peer).apply p).allows permission = peer.allows permission := by
  cases permission <;> rfl

/-- `reg.Configure`. -/
def configure (registry : List Peer) (id : String) (info : PeerUpdateRequest) : List Peer :=
  registry.map fun p => if p.id = id then info.apply p else p

/-- The peer of an identifier. -/
def lookup (registry : List Peer) (id : String) : Option Peer := registry.find? (·.id == id)

theorem lookup_configure (registry : List Peer) (id : String) (info : PeerUpdateRequest) :
    lookup (configure registry id info) id = (lookup registry id).map info.apply := by
  induction registry with
  | nil => rfl
  | cons p registry ih =>
    by_cases hp : p.id = id
    · simp [lookup, configure, hp]
    · simpa [lookup, configure, hp] using ih

/-! ### Requests -/

/-- What a request is answered with. -/
inductive Answer where
  | notLoggedIn | notRegistered | configFailure | notEnabled | apiFailure | peerNotFound
  | libFailure
  | incomingAlreadyAllowed | incomingAlreadyDenied
  | routingAlreadyAllowed | routingAlreadyDenied
  | localNetworkAlreadyAllowed | localNetworkAlreadyDenied
  | sendAlreadyAllowed | sendAlreadyDenied
  | automaticFileshareAlreadyEnabled | automaticFileshareAlreadyDisabled
  | empty
deriving DecidableEq, Repr

/-- In what the requests differ. -/
structure Handler where
  permission : Permission
  value : Bool
  /-- the answer if the permission is like that already -/
  already : Answer
  /-- a failed `List` is answered with `NOT_ENABLED` while meshnet is off -/
  checksMesh : Bool := true
  /-- the call on the networker, from the changed peer and the list it is in -/
  call : Peer → List Peer → Option Op

/-- `AllowIncoming`. -/
def allowIncoming : Handler where
  permission := .inbound
  value := true
  already := .incomingAlreadyAllowed
  call peer _ := if peer.address.isValid then
      some (.allowIncoming peer.uniqueAddress (peer.doIAllowRouting && peer.doIAllowLocalNetwork))
    else none

/-- `DenyIncoming`. -/
def denyIncoming : Handler where
  permission := .inbound
  value := false
  already := .incomingAlreadyDenied
  checksMesh := false
  call peer _ := if peer.address.isValid then some (.blockIncoming peer.uniqueAddress) else none

/-- `netw.ResetRouting`, with the list that the peer was changed in. -/
def resetRouting (peer : Peer) (peers : List Peer) : Option Op :=
  some (.resetRouting peer.toMachinePeer (peers.map Peer.toMachinePeer))

/-- `AllowRouting`. -/
def allowRouting : Handler where
  permission := .routing
  value := true
  already := .routingAlreadyAllowed
  call := resetRouting

/-- `DenyRouting`. -/
def denyRouting : Handler where
  permission := .routing
  value := false
  already := .routingAlreadyDenied
  call := resetRouting

/-- `AllowLocalNetwork`. -/
def allowLocalNetwork : Handler where
  permission := .localNetwork
  value := true
  already := .localNetworkAlreadyAllowed
  call := resetRouting

/-- `DenyLocalNetwork`. -/
def denyLocalNetwork : Handler where
  permission := .localNetwork
  value := false
  already := .localNetworkAlreadyDenied
  call := resetRouting

/-- `AllowFileshare`. -/
def allowFileshare : Handler where
  permission := .fileshare
  value := true
  already := .sendAlreadyAllowed
  call peer _ := if peer.address.isValid then some (.allowFileshare peer.uniqueAddress) else none

/-- `DenyFileshare`. -/
def denyFileshare : Handler where
  permission := .fileshare
  value := false
  already := .sendAlreadyDenied
  call peer _ := if peer.address.isValid then some (.blockFileshare peer.uniqueAddress) else none

/-- `EnableAutomaticFileshare`. -/
def enableAutomaticFileshare : Handler where
  permission := .automaticFileshare
  value := true
  already := .automaticFileshareAlreadyEnabled
  call _ _ := none

/-- `DisableAutomaticFileshare`. -/
def disableAutomaticFileshare : Handler where
  permission := .automaticFileshare
  value := false
  already := .automaticFileshareAlreadyDisabled
  call _ _ := none

inductive PermissionRequest where
  | allowIncoming | denyIncoming | allowRouting | denyRouting | allowLocalNetwork | denyLocalNetwork
  | allowFileshare | denyFileshare | enableAutomaticFileshare | disableAutomaticFileshare
deriving DecidableEq, Repr

def PermissionRequest.handler : PermissionRequest → Handler
  | .allowIncoming => Meshnet.allowIncoming
  | .denyIncoming => Meshnet.denyIncoming
  | .allowRouting => Meshnet.allowRouting
  | .denyRouting => Meshnet.denyRouting
  | .allowLocalNetwork => Meshnet.allowLocalNetwork
  | .denyLocalNetwork => Meshnet.denyLocalNetwork
  | .allowFileshare => Meshnet.allowFileshare
  | .denyFileshare => Meshnet.denyFileshare
  | .enableAutomaticFileshare => Meshnet.enableAutomaticFileshare
  | .disableAutomaticFileshare => Meshnet.disableAutomaticFileshare

/-! ### The steps of a request -/

/-- What `reg.List` answers. -/
inductive ListAnswer where
  | peers | unauthorized | failure

/-- What the services around the server answer. -/
structure ServerEnv where
  netw : Networker.Env
  isLoggedIn : Bool := true
  isRegistrationInfoCorrect : Bool := true
  /-- `cm.Load` succeeds -/
  loads : Bool := true
  /-- `cm.Load` succeeds in `isMeshOn` -/
  loadsAgain : Bool := true
  /-- `cm.SaveWith` succeeds -/
  saves : Bool := true
  list : ListAnswer := .peers
  /-- `reg.Configure` succeeds -/
  configures : Bool := true

/-- The server: the stored settings, the networker and the registry. -/
structure Server where
  cfg : Config
  netw : World
  registry : List Peer

inductive Phase where
  | waiting
  /-- the peers are listed, and one of them is changed in the list -/
  | listed (peers : List Peer) (peer : Peer)
  /-- the registry has the change -/
  | configured (peers : List Peer) (peer : Peer)
  | answered (answer : Answer)
deriving DecidableEq

/-- The answer to a failed `List`. -/
def Handler.listFailed (h : Handler) (r : ServerEnv) (s : Server) : Answer :=
  if h.checksMesh && !(r.loadsAgain && s.cfg.mesh) then .notEnabled else .apiFailure

/-- The checks of a request and `reg.List`. -/
def Handler.list (h : Handler) (id : String) (r : ServerEnv) (s : Server) : Phase × Server :=
  if !r.isLoggedIn then (.answered .notLoggedIn, s)
  else if !r.isRegistrationInfoCorrect then (.answered .notRegistered, s)
  else if !r.loads then (.answered .configFailure, s)
  else match r.list with
    | .failure => (.answered (h.listFailed r s), s)
    | .unauthorized =>
      if r.saves then
        (.answered .notLoggedIn, { s with cfg := Daemon.logout s.cfg.autoConnectData.id s.cfg })
      else (.answered .configFailure, s)
    | .peers => match lookup s.registry id with
      | none => (.answered .peerNotFound, s)
      | some peer =>
        if peer.allows h.permission = h.value then (.answered h.already, s)
        else
          let changed := peer.permit h.permission h.value
          (.listed (s.registry.set (s.registry.findIdx (·.id == id)) changed) changed, s)

/-- The next step of a request for the peer `id`. -/
def Handler.advance (h : Handler) (id : String) (r : ServerEnv) (s : Server) :
    Phase → Phase × Server
  | .waiting => h.list id r s
  | .listed peers peer =>
    if r.configures then
      (.configured peers peer,
        { s with registry := configure s.registry id (newPeerUpdateRequest peer) })
    else (.answered .apiFailure, s)
  | .configured peers peer => match h.call peer peers with
    | none => (.answered .empty, s)
    | some op =>
      let x := op.exec r.netw s.netw
      match x.result with
      | .ok _ => (.answered .empty, { s with netw := x.final })
      | .error _ => (.answered .libFailure, { s with netw := x.final })
  | .answered answer => (.answered answer, s)

end NordVPN.Meshnet
