import NordVPN.Lib.LastWriter
import NordVPN.Meshnet.Permissions

/-!
Permission requests for one peer that run at the same time.

A request writes the whole record of the peer back, as it listed it, with one permission changed. A
permission that another request has changed in between goes back to its old value.
-/

namespace NordVPN.Meshnet

open NordVPN.Daemon NordVPN.Networker

/-- A permission of the peer in the registry, if the peer is there. -/
def permissionOf (id : String) (permission : Permission) (registry : List Peer) : Option Bool :=
  (lookup registry id).map (·.allows permission)

/-- The server with its running requests, and the requests whose change the registry has, the latest
first, with the registry they left. -/
structure Shared (ι : Type) where
  server : Server
  phase : ι → Phase
  log : List (ι × List Peer)

def Shared.start (ι : Type) (server : Server) : Shared ι :=
  { server, phase := fun _ => .waiting, log := [] }

section Interleavings

variable {ι : Type} [DecidableEq ι]

/-- The next atomic step of the request `i`. The change of the registry is logged. -/
def Shared.advance (requests : ι → PermissionRequest) (id : String) (s : Shared ι)
    (move : ι × ServerEnv) : Shared ι :=
  let (i, r) := move
  let (phase, server) := (requests i).handler.advance id r s.server (s.phase i)
  { server, phase := Function.update s.phase i phase
    log := match s.phase i, phase with
      | .listed _ _, .configured _ _ => (i, server.registry) :: s.log
      | _, _ => s.log }

/-- The changes of the registry, each with the permission that its request names. -/
def Shared.writes (requests : ι → PermissionRequest) (s : Shared ι) :
    List (Write (List Peer) Permission) :=
  s.log.map fun (i, registry) => ⟨fun p => p == (requests i).handler.permission, registry⟩

/-- A request writes the record back only while the registry has the permissions that it does not
name as the request listed them. -/
def FreshStep (requests : ι → PermissionRequest) (id : String) (s : Shared ι)
    (move : ι × ServerEnv) :
    Prop :=
  match s.phase move.1 with
  | .listed _ peer => ∀ other, other ≠ (requests move.1).handler.permission →
      permissionOf id other s.server.registry = some (peer.allows other)
  | _ => True

/-! ### What every interleaving keeps -/

/-- What the phase of a request says. -/
def Phase.Agrees (h : Handler) (hasChanged : Prop) : Phase → Prop
  | .waiting => True
  | .listed _ peer => peer.allows h.permission = h.value
  | .configured _ _ => hasChanged
  | .answered answer => answer = .empty → hasChanged

theorem already_ne_empty (request : PermissionRequest) : request.handler.already ≠ .empty := by
  cases request <;> decide

/-- The first step changes no permission, and the peer it lists has the new one. -/
theorem list_spec (request : PermissionRequest) (id : String) (r : ServerEnv) (s : Server)
    (hasChanged : Prop) :
    (request.handler.list id r s).2.registry = s.registry ∧
    (request.handler.list id r s).1.Agrees request.handler hasChanged := by
  unfold Handler.list
  split
  · exact ⟨rfl, nofun⟩
  split
  · exact ⟨rfl, nofun⟩
  split
  · exact ⟨rfl, nofun⟩
  split
  · refine ⟨rfl, fun hempty => ?_⟩
    unfold Handler.listFailed at hempty
    split at hempty <;> cases hempty
  · split
    · exact ⟨rfl, nofun⟩
    · exact ⟨rfl, nofun⟩
  · split
    · exact ⟨rfl, nofun⟩
    · split
      · exact ⟨rfl, fun hempty => absurd hempty (already_ne_empty request)⟩
      · refine ⟨rfl, ?_⟩
        change (Peer.permit _ _ _).allows _ = _
        rw [Peer.allows_permit, if_pos rfl]

theorem permissionOf_configure {id : String} {registry : List Peer} {peer : Peer}
    {permission : Permission} :
    permissionOf id permission (configure registry id (newPeerUpdateRequest peer)) =
      (lookup registry id).map fun _ => peer.allows permission := by
  unfold permissionOf
  rw [lookup_configure, Option.map_map]
  exact congrArg (Option.map · _) (funext fun p => allows_apply peer p permission)

/-- No change is lost, and every logged request has set its permission. -/
structure Shared.Kept (requests : ι → PermissionRequest) (id : String) (registry₀ : List Peer)
    (s : Shared ι) : Prop where
  settled : Write.Settled (permissionOf id) registry₀ (s.writes requests) s.server.registry
  logged : ∀ i registry, (i, registry) ∈ s.log →
    permissionOf id (requests i).handler.permission registry = some (requests i).handler.value
  phases : ∀ i, (s.phase i).Agrees (requests i).handler (i ∈ s.log.map Prod.fst)

variable {requests : ι → PermissionRequest} {id : String} {registry₀ : List Peer} {s : Shared ι}

/-- A step that does not change the registry. -/
theorem Shared.Kept.goTo (h : s.Kept requests id registry₀) {server : Server}
    (hregistry : server.registry = s.server.registry) {i : ι} {p : Phase}
    (hp : p.Agrees (requests i).handler (i ∈ s.log.map Prod.fst)) :
    Shared.Kept requests id registry₀ { s with server, phase := Function.update s.phase i p } := by
  refine ⟨fun f => ?_, h.logged, fun j => ?_⟩
  · exact (congrArg (permissionOf id f) hregistry).trans (h.settled f)
  · by_cases hj : j = i
    · subst hj
      simpa using hp
    · simpa [Function.update_of_ne hj] using h.phases j

/-- A fresh change of the registry. -/
theorem Shared.Kept.configure (h : s.Kept requests id registry₀) {i : ι} {peers : List Peer}
    {peer : Peer}
    (hvalue : peer.allows (requests i).handler.permission = (requests i).handler.value)
    (hfresh : ∀ other, other ≠ (requests i).handler.permission →
      permissionOf id other s.server.registry = some (peer.allows other))
    {registry : List Peer}
    (hregistry : registry = Meshnet.configure s.server.registry id (newPeerUpdateRequest peer)) :
    Shared.Kept requests id registry₀
      { server := { s.server with registry }
        phase := Function.update s.phase i (.configured peers peer)
        log := (i, registry) :: s.log } := by
  -- some permission is not named, so the peer is in the registry
  obtain ⟨found, hfound⟩ : ∃ found, lookup s.server.registry id = some found := by
    obtain ⟨other, hother⟩ := exists_ne (requests i).handler.permission
    obtain ⟨found, hfound, -⟩ := Option.map_eq_some_iff.mp (hfresh other hother)
    exact ⟨found, hfound⟩
  have hnew (f : Permission) : permissionOf id f registry = some (peer.allows f) := by
    rw [hregistry, permissionOf_configure, hfound]
    rfl
  refine ⟨h.settled.write fun f hf => ?_, ?_, fun j => ?_⟩
  · rw [hnew f, hfresh f (by simpa using hf)]
  · intro j registry' hmem
    rcases List.mem_cons.mp hmem with heq | hmem
    · cases heq
      rw [hnew, hvalue]
    · exact h.logged j registry' hmem
  · by_cases hj : j = i
    · subst hj
      dsimp only
      rw [Function.update_self]
      exact List.mem_cons_self
    · have hmem : (j ∈ ((i, registry) :: s.log).map Prod.fst) = (j ∈ s.log.map Prod.fst) := by
        simp [hj]
      simpa only [Function.update_of_ne hj, hmem] using h.phases j

theorem kept_advance (h : s.Kept requests id registry₀) {move : ι × ServerEnv}
    (hfresh : FreshStep requests id s move) :
    (s.advance requests id move).Kept requests id registry₀ := by
  obtain ⟨i, r⟩ := move
  have hphase := h.phases i
  unfold FreshStep at hfresh
  unfold Shared.advance
  dsimp only at hfresh ⊢
  cases hi : s.phase i with
  | waiting =>
    obtain ⟨hregistry, hagrees⟩ := list_spec (requests i) id r s.server (i ∈ s.log.map Prod.fst)
    exact h.goTo hregistry hagrees
  | listed peers peer =>
    rw [hi] at hphase hfresh
    unfold Handler.advance
    dsimp only
    split
    · exact h.configure hphase hfresh rfl
    · exact h.goTo rfl nofun
  | configured peers peer =>
    rw [hi] at hphase
    unfold Handler.advance
    dsimp only
    split
    · exact h.goTo rfl fun _ => hphase
    · split
      · apply h.goTo
        · rfl
        · exact fun _ => hphase
      · apply h.goTo
        · rfl
        · exact fun hempty => nomatch hempty
  | answered answer =>
    rw [hi] at hphase
    exact h.goTo rfl hphase

/-- Concurrent requests for one peer do not undo each other if each of them writes the record back
while the other permissions are as it listed them: every permission is the one that the last request
naming it has set, or the one it was. -/
theorem no_permission_change_undone {server : Server}
    (h : Reaches (Shared.advance requests id) (FreshStep requests id) (Shared.start ι server) s) :
    Write.Settled (permissionOf id) server.registry (s.writes requests) s.server.registry ∧
    (∀ i registry, (i, registry) ∈ s.log →
      permissionOf id (requests i).handler.permission registry = some (requests i).handler.value) ∧
    ∀ i, s.phase i = .answered .empty → i ∈ s.log.map Prod.fst := by
  have hstart : (Shared.start ι server).Kept requests id server.registry :=
    ⟨Write.settled_nil, fun _ _ hmem => (nomatch hmem), fun _ => trivial⟩
  have hkept : s.Kept requests id server.registry :=
    h.invariant hstart fun _ _ ht hc => kept_advance ht hc
  refine ⟨hkept.settled, hkept.logged, fun i hi => ?_⟩
  have hphase := hkept.phases i
  rw [hi] at hphase
  exact hphase rfl

end Interleavings

/-- A peer may route its traffic through this machine; that is denied while incoming traffic is
allowed. -/
def twoChanges : Bool → PermissionRequest
  | false => .allowIncoming
  | true => .denyRouting

def routedPeer : Peer := { id := "peer", publicKey := "key", doIAllowRouting := true }

def routingServer : Server :=
  { cfg := { newConfig with mesh := true }
    netw := newCombined (some ⟨"nordlynx", true⟩) 0xe1f1 false true
    registry := [routedPeer] }

/-- The state after the steps of the two requests, the latest first. -/
def interleave (moves : List Bool) : Shared Bool :=
  runAll (Shared.advance twoChanges "peer") (Shared.start Bool routingServer)
    (moves.map (·, { netw := Networker.Env.working [] }))

/-- The second request lists what the first has written, before the first is answered. -/
theorem overlapping_permissions_kept :
    let s := interleave [true, true, false, true, false, false]
    Write.Settled (permissionOf "peer") [routedPeer] (s.writes twoChanges) s.server.registry ∧
    (∀ i registry, (i, registry) ∈ s.log →
      permissionOf "peer" (twoChanges i).handler.permission registry =
        some (twoChanges i).handler.value) ∧
    ∀ i, s.phase i = .answered .empty → i ∈ s.log.map Prod.fst := by
  have hfresh : AllMeet (Shared.advance twoChanges "peer") (FreshStep twoChanges "peer")
      (Shared.start Bool routingServer)
      ([true, true, false, true, false, false].map (·, { netw := Networker.Env.working [] })) :=
    ⟨⟨⟨⟨⟨⟨trivial, trivial⟩, fun other => by cases other <;> decide⟩, trivial⟩, trivial⟩,
      fun other => by cases other <;> decide⟩, trivial⟩
  exact no_permission_change_undone (reaches_runAll hfresh)

/-- Incoming traffic is allowed with the record listed before routing was denied: both requests
succeed, and routing is allowed again. -/
theorem permission_change_undone :
    let s := interleave [false, false, true, true, true, false]
    s.phase false = .answered .empty ∧ s.phase true = .answered .empty ∧
    permissionOf "peer" .routing s.server.registry = some true ∧
    ¬ Write.Settled (permissionOf "peer") [routedPeer] (s.writes twoChanges) s.server.registry := by
  refine ⟨by decide, by decide, by decide, fun hsettled => ?_⟩
  have hlast : permissionOf "peer" .routing
      (interleave [false, false, true, true, true, false]).server.registry = some false :=
    hsettled .routing
  exact absurd hlast (by decide)

end NordVPN.Meshnet
