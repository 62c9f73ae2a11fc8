import NordVPN.Meshnet.Steps
import NordVPN.Networker.MeshOff

/-!
Meshnet requests and notifications that run at the same time.

`RefreshMeshnet` and a peer update look at their copy of the settings whether meshnet is on, and
refresh it after they have asked the registry for the map. If meshnet is turned off in between, the
refresh brings back the rules, the exit node and the hosts of a meshnet that is off, and nothing
takes them away any more.
-/

namespace NordVPN.Meshnet.Steps

open NordVPN.Netip NordVPN.Networker Prog

/-- What can run at the same time. -/
inductive Activity where
  | disableMeshnet
  | logout
  | selfRemoved
  | enableMeshnet
  | refreshMeshnet
  | notifyPeerUpdate (peerIds : List String)

def Activity.script : Activity → ServiceM End
  | disableMeshnet => Steps.disableMeshnet
  | logout => Steps.logout
  | selfRemoved => Steps.unsetMesh
  | enableMeshnet => Steps.enableMeshnet
  | refreshMeshnet => Steps.refreshMeshnet
  | notifyPeerUpdate peerIds => Steps.notifyPeerUpdate peerIds

/-- Any number of them about to start. -/
def start {ι : Type} (d : Device) (calls : ι → Activity) : Pool Device ι Op Op.Answer End :=
  ⟨d, fun i => (calls i).script⟩

def Op.isRefresh : Op → Bool
  | .refresh _ => true
  | _ => false

/-- The next operation is to refresh the meshnet. -/
def aboutToRefresh : ServiceM End → Bool
  | .step op _ => op.isRefresh
  | .done _ => false

section Interleavings

variable {ι : Type} [DecidableEq ι]

/-- The calls of the networker succeed, and the meshnet is only refreshed while it is on. -/
def RefreshesWhileOn (pool : Pool Device ι Op Op.Answer End) (move : ι × Moment) : Prop :=
  move.2.netw.Succeeds ∧
    (aboutToRefresh (pool.script move.1) = true → pool.store.netw.netw.isMeshnetSet = true)

/-- One operation. -/
theorem meshSound_exec {r : Moment} (hr : r.netw.Succeeds) (op : Op) {d : Device}
    (hd : MeshSound d.netw) (hrefresh : op.isRefresh = true → d.netw.netw.isMeshnetSet = true) :
    MeshSound (exec r op d).2.netw := by
  cases op with
  | setMesh resp self privateKey => exact (meshSound_setMesh hr hd resp self privateKey).2
  | unSetMesh => exact (meshSound_apiUnSetMesh hr hd).2
  | refresh resp => exact (meshSound_refresh hr hd resp (hrefresh rfl)).2
  | stop => exact (meshSound_apiStop hr hd).2
  | saveWith save =>
    have hsame : (exec r (.saveWith save) d).2.netw = d.netw := by
      simp only [exec]
      split
      · split
        · rfl
        · split <;> rfl
      · rfl
    rw [hsame]
    exact hd
  | register again privateKey =>
    have hsame : (exec r (.register again privateKey) d).2.netw = d.netw := by
      simp only [exec]
      split <;> rfl
    rw [hsame]
    exact hd
  | isLoggedIn => exact hd
  | load caller => exact hd
  | newKey again => exact hd
  | releaseName => exact hd
  | map id => exact hd
  | peerConnected => exact hd
  | dropToken => exact hd

theorem meshSound_advance {pool : Pool Device ι Op Op.Answer End} {move : ι × Moment}
    (hpool : MeshSound pool.store.netw) (hmove : RefreshesWhileOn pool move) :
    MeshSound (pool.advance exec move).store.netw := by
  obtain ⟨hr, hrefresh⟩ := hmove
  cases hscript : pool.script move.1 with
  | done a =>
    rw [Pool.advance_done hscript]
    exact hpool
  | step op next =>
    rw [Pool.advance_step hscript]
    rw [hscript] at hrefresh
    exact meshSound_exec hr op hpool hrefresh

/-- While it is only refreshed when it is on, a meshnet that is off leaves nothing behind, however
the operations interleave. -/
theorem no_mesh_state_while_off {d : Device} (hd : MeshSound d.netw) (calls : ι → Activity)
    {pool : Pool Device ι Op Op.Answer End}
    (h : Reaches (Pool.advance exec) RefreshesWhileOn (start d calls) pool)
    (hoff : pool.store.netw.netw.isMeshnetSet = false) : NoMeshState pool.store.netw := by
  have hsound : MeshSound pool.store.netw :=
    h.invariant (I := fun pool => MeshSound pool.store.netw) hd fun _ _ => meshSound_advance
  exact hsound.off hoff

end Interleavings

/-- This machine, registered and with meshnet on. -/
def sampleDevice : Device where
  cfg := { mesh := true, meshDevice := some { id := "b", address := .ofBytes 100 64 0 2 },
           meshPrivateKey := "key" }
  netw := (setMesh sampleMachine (.ofBytes 100 64 0 2) "key" (Env.working [])
    (newCombined none 0 false false)).final
  registered := some "key"

/-- Everything around it works. -/
def sampleMoment : Moment where
  netw := Env.working []
  registers _ _ := .failure
  map _ := .map ⟨{ id := "b", address := .ofBytes 100 64 0 2 }, sampleMachine⟩

/-- `DisableMeshnet` has loaded the settings when a peer update refreshes the meshnet, and goes on
up to `UnSetMesh`. -/
theorem no_mesh_state_after_disable :
    let update : Bool × Moment := (false, sampleMoment)
    let disable : Bool × Moment := (true, sampleMoment)
    let pool := runAll (Pool.advance exec)
      (start sampleDevice fun i => if i then .disableMeshnet else .notifyPeerUpdate [])
      [disable, disable, update, disable, update, update, update]
    pool.store.netw.netw.isMeshnetSet = false ∧ NoMeshState pool.store.netw := by
  intro update disable pool
  have hr : sampleMoment.netw.Succeeds := Env.working_succeeds []
  have hd : MeshSound sampleDevice.netw :=
    (meshSound_setMesh hr (meshSound_newCombined _ _ _ _) _ _ _).2
  have hmeet : AllMeet (Pool.advance exec) RefreshesWhileOn
      (start sampleDevice fun i => if i then .disableMeshnet else .notifyPeerUpdate [])
      [disable, disable, update, disable, update, update, update] :=
    ⟨⟨⟨⟨⟨⟨⟨trivial, hr, by decide⟩, hr, by decide⟩, hr, by decide⟩, hr, by decide⟩, hr, by decide⟩,
      hr, by decide⟩, hr, by decide⟩
  have hoff : pool.store.netw.netw.isMeshnetSet = false := by decide
  exact ⟨hoff, no_mesh_state_while_off hd _ (reaches_runAll hmeet) hoff⟩

/-- A peer update has loaded the settings, checked the registration and got the map. Meshnet is
turned off, and then the update refreshes it. -/
theorem refresh_after_disable :
    let update : Bool × Moment := (false, sampleMoment)
    let disable : Bool × Moment := (true, sampleMoment)
    let pool := runAll (Pool.advance exec)
      (start sampleDevice fun i => if i then .disableMeshnet else .notifyPeerUpdate [])
      [update, disable, disable, disable, disable, update, update, update]
    sampleMoment.netw.Succeeds ∧ pool.store.cfg.mesh = false ∧
      pool.store.netw.netw.isMeshnetSet = false ∧
      meshBlockName ∈ pool.store.netw.names ∧ pool.store.netw.exitNodeOn = true ∧
      pool.store.netw.hostsWritten = true ∧ ¬ NoMeshState pool.store.netw := by
  intro update disable pool
  have hblock : meshBlockName ∈ pool.store.netw.names := by decide
  exact ⟨Env.working_succeeds [], by decide, by decide, hblock, by decide,
    by decide, fun h => h.block hblock⟩

end NordVPN.Meshnet.Steps
