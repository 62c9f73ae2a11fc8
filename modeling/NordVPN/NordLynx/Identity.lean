import NordVPN.Lib.Runs
import NordVPN.NordLynx.Tunnel

/-!
The identity of the NordLynx tunnel.

With meshnet on, the tunnel has the key and the address of meshnet; with meshnet off and the VPN
active, the key that was given to `Start` and the default address. Every transition keeps this but
one: `disable` with an active VPN leaves the identity of meshnet in the tunnel.
-/

namespace NordVPN.NordLynx

open NordVPN.Netip NordVPN.Vpn NordVPN.Networker Prog

/-! ### Calls that succeed -/

/-- Every call succeeds and every connection comes about. -/
structure Env.Works (r : Env) : Prop where
  succeeds : ∀ c, r.fails c = false
  connects : r.connects = true

variable {r : Env} {l : Libtelio} {Q : Except Error Unit → Libtelio → Prop} {ip : Addr}
  {privateKey : String} {server : ServerData}

theorem wp_call {c : Call} {effect : Device → Device} (hr : r.Works) :
    wp (call c effect) r any Q l ↔ Q (.ok ()) { l with lib := effect l.lib } := by
  simp [call, hr.succeeds]

/-- The tunnel that is opened. -/
def tunnelOf (ip : Addr) : Tunnel := { iface := interfaceName, ips := [ip] }

def Libtelio.opened (l : Libtelio) (ip : Addr) (privateKey : String) : Libtelio :=
  if l.tun.isSome then l
  else { l with
    tun := some (tunnelOf ip), lib := { l.lib with privateKey := some privateKey, addrs := [ip] } }

def Libtelio.closed (l : Libtelio) : Libtelio :=
  if l.tun.isNone then l else { l with tun := none, lib := {} }

theorem wp_startDevice (hr : r.Works) :
    wp (startDevice privateKey) r any Q l ↔
      Q (.ok ()) { l with lib := { l.lib with privateKey := some privateKey } } := by
  unfold startDevice startNamed
  cases hkernel : l.isKernelDisabled <;> simp [hkernel, wp_call hr]

theorem wp_openTunnel (hr : r.Works) :
    wp (openTunnel ip privateKey) r any Q l ↔ Q (.ok ()) (l.opened ip privateKey) := by
  unfold openTunnel
  cases htun : l.tun <;>
    simp [htun, wp_startDevice hr, setUpInterface, addAddrs, wp_call hr, Libtelio.opened, tunnelOf]

theorem wp_closeTunnel (hr : r.Works) : wp closeTunnel r any Q l ↔ Q (.ok ()) l.closed := by
  unfold closeTunnel
  cases htun : l.tun <;> simp [htun, libStop, wp_call hr, Libtelio.closed]

def Libtelio.updated (l : Libtelio) (ip : Addr) (privateKey : String) : Libtelio :=
  { l with
    tun := some { iface := (l.tun.getD {}).iface, ips := [ip] }
    lib := { l.lib with
      privateKey := some privateKey
      addrs := l.lib.addrs.filter (!(l.tun.getD {}).ips.contains ·) ++ [ip] } }

theorem wp_updateTunnel (hr : r.Works) :
    wp (updateTunnel privateKey ip) r any Q l ↔
      Q (.ok ()) (l.updated ip privateKey) := by
  simp [updateTunnel, delAddrs, addAddrs, wp_call hr, Libtelio.updated]

def Libtelio.disconnected (l : Libtelio) : Libtelio :=
  { l with lib := { l.lib with exitNode := none }, active := false, state := .exited }

theorem wp_disconnect (hr : r.Works) : wp disconnect r any Q l ↔ Q (.ok ()) l.disconnected := by
  simp [disconnect, wp_call hr, Libtelio.disconnected]

def Libtelio.connected (l : Libtelio) (server : ServerData) : Libtelio :=
  { l with
    lib := { l.lib with exitNode := some server.nordLynxPublicKey }
    active := true, state := .connected }

theorem wp_connect (hr : r.Works) :
    wp (connect server) r any Q l ↔ Q (.ok ()) (l.connected server) := by
  simp [connect, dial, NordLynx.connected, wp_call hr, hr.connects, Libtelio.connected]

/-! ### The operations, when every call succeeds -/

def Libtelio.started (l : Libtelio) (creds : Credentials) (server : ServerData) : Libtelio :=
  let prepared := { l.opened defaultIP creds.nordLynxPrivateKey with currentServer := server }
  { prepared.connected server with currentPrivateKey := creds.nordLynxPrivateKey }

theorem wp_start {creds : Credentials} (hr : r.Works) :
    wp (start creds server) r any Q l ↔ Q (.ok ()) (l.started creds server) := by
  simp [start, prepare, wp_openTunnel hr, wp_connect hr, Libtelio.started]

def Libtelio.stopped (l : Libtelio) : Libtelio :=
  if l.isMeshEnabled then l.disconnected else l.disconnected.closed

theorem wp_stop (hr : r.Works) : wp stop r any Q l ↔ Q (.ok ()) l.stopped := by
  have hmesh : l.disconnected.isMeshEnabled = l.isMeshEnabled := rfl
  unfold Libtelio.stopped
  cases h : l.isMeshEnabled <;>
    simp [stop, wp_disconnect hr, wp_when, wp_closeTunnel hr, hmesh, h]

def Libtelio.disabled (l : Libtelio) : Libtelio :=
  let off := { l with isMeshEnabled := false }
  if l.active then off else off.closed

theorem wp_disable (hr : r.Works) : wp disable r any Q l ↔ Q (.ok ()) l.disabled := by
  unfold Libtelio.disabled
  cases h : l.active <;> simp [disable, wp_call hr, wp_when, wp_closeTunnel hr, h]

def Libtelio.moved (l : Libtelio) (ip : Addr) (privateKey : String) : Libtelio :=
  (l.disconnected.updated ip privateKey).connected l.currentServer

theorem wp_moveConnection (hr : r.Works) :
    wp (moveConnection ip privateKey) r any Q l ↔
      Q (.ok ()) (l.moved ip privateKey) := by
  have hserver : (l.disconnected.updated ip privateKey).currentServer = l.currentServer := rfl
  simp [moveConnection, wp_disconnect hr, wp_updateTunnel hr, wp_connect hr, hserver,
    Libtelio.moved]

def Libtelio.enabled (l : Libtelio) (ip : Addr) (privateKey : String) : Libtelio :=
  let opened := l.opened ip privateKey
  { if opened.active then opened.moved ip privateKey else opened with isMeshEnabled := true }

theorem wp_enable (hr : r.Works) :
    wp (enable ip privateKey) r any Q l ↔ Q (.ok ()) (l.enabled ip privateKey) := by
  unfold Libtelio.enabled
  cases h : (l.opened ip privateKey).active <;>
    simp [enable, wp_openTunnel hr, wp_when, wp_moveConnection hr, h]

/-! ### Identity -/

/-- The tunnel is there, with this address and this private key. -/
structure Libtelio.Has (l : Libtelio) (ip : Addr) (privateKey : String) : Prop where
  tun : l.tun = some (tunnelOf ip)
  key : l.lib.privateKey = some privateKey
  addrs : l.lib.addrs = [ip]

theorem has_opened (h : l.tun = none) : (l.opened ip privateKey).Has ip privateKey := by
  simp only [Libtelio.opened, h, Option.isSome_none, Bool.false_eq_true, if_false]
  exact ⟨rfl, rfl, rfl⟩

theorem opened_of_has {ip' : Addr} {privateKey' : String} (h : l.Has ip' privateKey') :
    l.opened ip privateKey = l := by simp [Libtelio.opened, h.tun]

/-- `updateTunnel` replaces the identity. -/
theorem has_updated {ip' : Addr} {privateKey' : String} (h : l.Has ip' privateKey') :
    (l.updated ip privateKey).Has ip privateKey := by
  constructor
  · simp [Libtelio.updated, h.tun, tunnelOf]
  · rfl
  · simp [Libtelio.updated, h.tun, h.addrs, tunnelOf]

/-! ### Runs -/

/-- The four operations. -/
inductive Action where
  | start (creds : Credentials) (server : ServerData)
  | stop
  | enable (ip : Addr) (privateKey : String)
  | disable
deriving Repr

def Action.op : Action → Op
  | .start creds server => NordLynx.start creds server
  | .stop => NordLynx.stop
  | .enable ip privateKey => NordLynx.enable ip privateKey
  | .disable => NordLynx.disable

/-- The instance, and what the last `Start` and the last `Enable` were given. -/
structure Session where
  l : Libtelio := {}
  lastStart : String := ""
  lastEnable : Addr × String := (.invalid, "")

/-- The session after a call that leaves the instance `l`. -/
def Session.record (s : Session) (action : Action) (l : Libtelio) : Session :=
  match action with
  | .start creds _ => { s with l, lastStart := creds.nordLynxPrivateKey }
  | .enable ip privateKey => { s with l, lastEnable := (ip, privateKey) }
  | _ => { s with l }

/-- One call, with the environment that answers it. -/
def Session.step (s : Session) (i : Action × Env) : Session :=
  s.record i.1 (i.1.op i.2 s.l).final

/-- The order in which the networker calls: it stops a VPN before it starts another, and sets
meshnet only if it is not set. -/
def Session.Ordered (s : Session) : Action → Prop
  | .start .. => s.l.active = false
  | .enable .. => s.l.isMeshEnabled = false
  | _ => True

/-- Meshnet is disabled with an active VPN only if both have the same identity. -/
def Session.SameIdentity (s : Session) : Action → Prop
  | .disable =>
    s.l.active = true → s.l.isMeshEnabled = true → s.lastEnable = (defaultIP, s.lastStart)
  | _ => True

structure OrderedStep (s : Session) (i : Action × Env) : Prop where
  works : i.2.Works
  ordered : s.Ordered i.1
  same : s.SameIdentity i.1

/-- The tunnel is there exactly if it is needed, and has the right identity. -/
structure Session.Identified (s : Session) : Prop where
  exists_iff : s.l.tun.isSome = true ↔ s.l.active = true ∨ s.l.isMeshEnabled = true
  gone : s.l.tun = none → s.l.lib = {}
  mesh : s.l.isMeshEnabled = true → s.l.Has s.lastEnable.1 s.lastEnable.2
  vpn : s.l.isMeshEnabled = false → s.l.active = true → s.l.Has defaultIP s.lastStart

variable {s : Session}

/-! #### What one call leaves -/

theorem identified_of_mesh (hmesh : s.l.isMeshEnabled = true)
    (hhas : s.l.Has s.lastEnable.1 s.lastEnable.2) : s.Identified where
  exists_iff := by simp [hhas.tun, hmesh]
  gone htun := by cases hhas.tun.symm.trans htun
  mesh _ := hhas
  vpn hoff := by cases hmesh.symm.trans hoff

theorem identified_of_vpn (hmesh : s.l.isMeshEnabled = false) (hactive : s.l.active = true)
    (hhas : s.l.Has defaultIP s.lastStart) : s.Identified where
  exists_iff := by simp [hhas.tun, hactive]
  gone htun := by cases hhas.tun.symm.trans htun
  mesh hon := by cases hmesh.symm.trans hon
  vpn _ _ := hhas

theorem identified_of_closed (hmesh : s.l.isMeshEnabled = false) (hactive : s.l.active = false)
    (htun : s.l.tun = none) (hlib : s.l.lib = {}) : s.Identified where
  exists_iff := by simp [htun, hmesh, hactive]
  gone _ := hlib
  mesh hon := by cases hmesh.symm.trans hon
  vpn _ hon := by cases hactive.symm.trans hon

/-- A tunnel that is not needed is closed. -/
theorem Session.Identified.tun_eq_none (h : s.Identified) (hactive : s.l.active = false)
    (hmesh : s.l.isMeshEnabled = false) : s.l.tun = none := by
  apply Option.not_isSome_iff_eq_none.mp
  rw [h.exists_iff, hactive, hmesh]
  decide

/-- Closing leaves neither a tunnel nor a device. -/
theorem closed_tun : l.closed.tun = none := by
  unfold Libtelio.closed
  split
  · exact Option.isNone_iff_eq_none.mp ‹_›
  · rfl

theorem closed_lib (h : l.tun = none → l.lib = {}) : l.closed.lib = {} := by
  unfold Libtelio.closed
  split
  · exact h (Option.isNone_iff_eq_none.mp ‹_›)
  · rfl

theorem closed_flags : l.closed.active = l.active ∧ l.closed.isMeshEnabled = l.isMeshEnabled := by
  unfold Libtelio.closed
  split <;> exact ⟨rfl, rfl⟩

/-- On a meshnet the tunnel stays as it is; otherwise it opens with the key of the credentials. -/
theorem identified_start {creds : Credentials} (h : s.Identified) (hactive : s.l.active = false) :
    (s.record (.start creds server) (s.l.started creds server)).Identified := by
  cases hmesh : s.l.isMeshEnabled with
  | true =>
    have hhas := h.mesh hmesh
    have hstarted : (s.l.started creds server).Has s.lastEnable.1 s.lastEnable.2 := by
      unfold Libtelio.started
      rw [opened_of_has hhas]
      exact ⟨hhas.tun, hhas.key, hhas.addrs⟩
    apply identified_of_mesh _ hstarted
    unfold Session.record Libtelio.started
    rw [opened_of_has hhas]
    exact hmesh
  | false =>
    have htun := h.tun_eq_none hactive hmesh
    have hhas : (s.l.opened defaultIP creds.nordLynxPrivateKey).Has _ _ := has_opened htun
    apply identified_of_vpn
    · simpa [Session.record, Libtelio.started, Libtelio.connected, Libtelio.opened, htun]
        using hmesh
    · rfl
    · exact ⟨hhas.tun, hhas.key, hhas.addrs⟩

/-- A stop closes the tunnel unless the meshnet still needs it. -/
theorem identified_stop (h : s.Identified) : (s.record .stop s.l.stopped).Identified := by
  unfold Libtelio.stopped
  cases hmesh : s.l.isMeshEnabled with
  | true =>
    have hhas := h.mesh hmesh
    exact identified_of_mesh hmesh ⟨hhas.tun, hhas.key, hhas.addrs⟩
  | false =>
    rw [if_neg Bool.false_ne_true]
    have hflags := @closed_flags s.l.disconnected
    apply identified_of_closed
    · exact hflags.2.trans hmesh
    · exact hflags.1
    · exact closed_tun
    · apply closed_lib
      intro htun
      simp [Libtelio.disconnected, h.gone htun]

/-- Enabling the meshnet opens a tunnel, or moves the open one to its identity. -/
theorem identified_enable (h : s.Identified) (hmesh : s.l.isMeshEnabled = false) :
    (s.record (.enable ip privateKey) (s.l.enabled ip privateKey)).Identified := by
  apply identified_of_mesh rfl
  unfold Session.record Libtelio.enabled
  cases hactive : s.l.active with
  | true =>
    have hhas := h.vpn hmesh hactive
    have hupdated : (s.l.disconnected.updated ip privateKey).Has ip privateKey :=
      has_updated (l := s.l.disconnected) ⟨hhas.tun, hhas.key, hhas.addrs⟩
    rw [opened_of_has hhas]
    dsimp only
    rw [if_pos hactive]
    exact ⟨hupdated.tun, hupdated.key, hupdated.addrs⟩
  | false =>
    have htun := h.tun_eq_none hactive hmesh
    have hhas : (s.l.opened ip privateKey).Has ip privateKey := has_opened htun
    have hopened : (s.l.opened ip privateKey).active = false := by
      simpa [Libtelio.opened, htun] using hactive
    dsimp only
    rw [if_neg (ne_true_of_eq_false hopened)]
    exact ⟨hhas.tun, hhas.key, hhas.addrs⟩

/-- A connection outlives the meshnet in its identity, which has to be its own. -/
theorem identified_disable (h : s.Identified) (hsame : s.SameIdentity .disable) :
    (s.record .disable s.l.disabled).Identified := by
  by_cases hactive : s.l.active = true
  · have hdisabled : s.l.disabled = { s.l with isMeshEnabled := false } := if_pos hactive
    have hhas : s.l.Has defaultIP s.lastStart := by
      cases hmesh : s.l.isMeshEnabled with
      | true =>
        have hmeshed := h.mesh hmesh
        rwa [hsame hactive hmesh] at hmeshed
      | false => exact h.vpn hmesh hactive
    rw [hdisabled]
    exact identified_of_vpn rfl hactive ⟨hhas.tun, hhas.key, hhas.addrs⟩
  · have hdisabled : s.l.disabled = Libtelio.closed { s.l with isMeshEnabled := false } :=
      if_neg hactive
    have hflags := @closed_flags { s.l with isMeshEnabled := false }
    rw [hdisabled]
    apply identified_of_closed
    · exact hflags.2
    · exact hflags.1.trans (Bool.eq_false_of_not_eq_true hactive)
    · exact closed_tun
    · exact closed_lib h.gone

/-- The step of the induction: each action in turn, under the conditions on its order. -/
theorem identified_step {i : Action × Env} (h : s.Identified) (hi : OrderedStep s i) :
    (s.step i).Identified := by
  obtain ⟨action, r⟩ := i
  unfold Session.step
  cases action with
  | start creds server =>
    have hfinal := ((wp_start (Q := fun _ t => t = s.l.started creds server) hi.works).mpr rfl).2
    exact hfinal ▸ identified_start h hi.ordered
  | stop =>
    have hfinal := ((wp_stop (Q := fun _ t => t = s.l.stopped) hi.works).mpr rfl).2
    exact hfinal ▸ identified_stop h
  | enable ip privateKey =>
    have hfinal := ((wp_enable (Q := fun _ t => t = s.l.enabled ip privateKey) hi.works).mpr rfl).2
    exact hfinal ▸ identified_enable h hi.ordered
  | disable =>
    have hfinal := ((wp_disable (Q := fun _ t => t = s.l.disabled) hi.works).mpr rfl).2
    exact hfinal ▸ identified_disable h hi.same

/-- In every run of the four operations, ordered as the networker orders them and with every call
succeeding, the tunnel is there exactly if it is needed and has the right identity, provided that
meshnet is not disabled with an active VPN of another identity. -/
theorem tunnel_identified (hreaches : Reaches Session.step OrderedStep {} s) : s.Identified := by
  apply hreaches.invariant
  · exact identified_of_closed rfl rfl rfl rfl
  · exact fun _ _ h hi => identified_step h hi

/-- Every call succeeds. -/
def working : Env := {}

theorem works_working : working.Works := ⟨fun _ => rfl, rfl⟩

/-- Meshnet is enabled and disabled around a VPN connection. -/
theorem tunnel_identified_around :
    (runAll Session.step {} [(.disable, working), (.stop, working),
      (.start { nordLynxPrivateKey := "vpn" } {}, working),
      (.enable (.v4 0x64400001) "mesh", working)]).Identified := by
  have hsteps : AllMeet Session.step OrderedStep {} [(.disable, working), (.stop, working),
      (.start { nordLynxPrivateKey := "vpn" } {}, working),
      (.enable (.v4 0x64400001) "mesh", working)] :=
    ⟨⟨⟨⟨trivial, works_working, rfl, trivial⟩, works_working, rfl, trivial⟩,
      works_working, trivial, trivial⟩, works_working, trivial, fun h => (nomatch h)⟩
  exact tunnel_identified (reaches_runAll hsteps)

/-- Meshnet is enabled and disabled during a VPN connection: the connection goes on with the key and
the address of meshnet. -/
theorem mesh_identity_kept_after_disable :
    let s := runAll Session.step {} [(.disable, working),
      (.enable (.v4 0x64400001) "mesh", working),
      (.start { nordLynxPrivateKey := "vpn" } {}, working)]
    s.l.active = true ∧ s.l.isMeshEnabled = false ∧ s.lastStart = "vpn" ∧
      s.l.Has (.v4 0x64400001) "mesh" ∧ ¬ s.Identified := by
  refine ⟨rfl, rfl, rfl, ⟨rfl, rfl, rfl⟩, fun h => ?_⟩
  have hkey : some "mesh" = some "vpn" := (h.vpn rfl rfl).key
  revert hkey
  decide

end NordVPN.NordLynx
