import NordVPN.Networker.MeshFailure
import NordVPN.Networker.MeshSwitch

/-!
What a meshnet that is off leaves behind.

Besides the rules in the firewall a meshnet has the exit node enabled and the names of its peers in
the hosts file. `unSetMesh` and the recovery of `setMesh` take all three away. `refresh` puts them
there and does not look whether the meshnet is on.
-/

namespace NordVPN.Networker

open NordVPN.Netip Prog

/-! ### Exit node and hosts file, read from the log -/

/-- What a call to the exit node leaves. -/
def exitNodeEffect : Call × Bool → Option Bool
  | (.exitNodeEnable, true) => some true
  | (.exitNodeDisable, true) => some false
  | _ => none

/-- What a call to the hosts file leaves. -/
def hostsEffect : Call × Bool → Option Bool
  | (.setHosts _, true) => some true
  | (.unsetHosts, true) => some false
  | _ => none

/-- The exit node is enabled. -/
def World.exitNodeOn (w : World) : Bool := w.latest exitNodeEffect

/-- The hosts file has the entries of the meshnet. -/
def World.hostsWritten (w : World) : Bool := w.latest hostsEffect

/-- Nothing of a meshnet is in force. -/
structure NoMeshState (w : World) : Prop where
  block : meshBlockName ∉ w.names
  established : meshEstablishedName ∉ w.names
  peers : ∀ kind publicKey address, peerRuleName kind publicKey address ∉ w.names
  exitNode : w.exitNodeOn = false
  hosts : w.hostsWritten = false

/-- The exit node and the hosts file. -/
structure Outside (exitNode hosts : Bool) (w : World) : Prop where
  exitNode : w.exitNodeOn = exitNode
  hosts : w.hostsWritten = hosts

/-- The calls to neither of them. -/
def Call.isInside : Call → Bool
  | .exitNodeEnable | .exitNodeDisable | .setHosts _ | .unsetHosts => false
  | _ => true

section View

variable {r : Env} {w t : World} {exitNode hosts : Bool}

/-- The two records move with each call as its effect says. -/
theorem Outside.after (hw : Outside exitNode hosts w) (r : Env) (c : Call) (fails : Bool) :
    Outside ((exitNodeEffect (c, !fails)).getD exitNode) ((hostsEffect (c, !fails)).getD hosts)
      (w.after r c fails) where
  exitNode := (latest_after _ _ _ _ _).trans (by rw [← hw.exitNode]; rfl)
  hosts := (latest_after _ _ _ _ _).trans (by rw [← hw.hosts]; rfl)

theorem Outside.congr (hw : Outside exitNode hosts w) (hlog : t.log = w.log) :
    Outside exitNode hosts t := by
  constructor
  · rw [World.exitNodeOn, World.latest, hlog]
    exact hw.exitNode
  · rw [World.hostsWritten, World.latest, hlog]
    exact hw.hosts

/-- Only the calls to the exit node and to the hosts file are heard. -/
theorem outside_deaf : Deaf Call.isInside (Outside exitNode hosts) where
  unheard {w c} r fails hc hw := by
    have hnone : exitNodeEffect (c, !fails) = none ∧ hostsEffect (c, !fails) = none := by
      cases c with
      | exitNodeEnable | exitNodeDisable | setHosts | unsetHosts => cases hc
      | _ => exact ⟨rfl, rfl⟩
    have hafter := hw.after r c fails
    rw [hnone.1, hnone.2] at hafter
    exact hafter
  stays _ _ hlog hw := hw.congr hlog

theorem keeps_outside_setNetw (f : Combined → Combined) :
    Keeps r any (Outside exitNode hosts) (setNetw f) :=
  Keeps.assign fun _ hw => hw.congr rfl

/-! ### Tracked rules -/

/-- No rule is tracked but the one against DNS leaks. -/
def OnlyDNS (w : World) : Prop := ∀ n ∈ w.netw.rules, n = denyDNSName

/-- Where the meshnet rules are tracked, those that are left can be read off the tracked names. -/
theorem noMeshState_iff (hw : Tracks w) : NoMeshState w ↔ OnlyDNS w ∧ Outside false false w := by
  constructor
  · intro h
    refine ⟨fun n hn => ?_, h.exitNode, h.hosts⟩
    have hmesh := hw.mesh n hn
    have hmem := (hw.agree n hmesh).mp hn
    cases hmesh with
    | block => exact absurd hmem h.block
    | established => exact absurd hmem h.established
    | denyDNS => rfl
    | peer kind publicKey address => exact absurd hmem (h.peers kind publicKey address)
  · rintro ⟨hrules, houtside⟩
    have hfree {n : String} (hmesh : MeshName n) (hne : n ≠ denyDNSName) : n ∉ w.names :=
      hw.free hmesh fun hn => hne (hrules n hn)
    exact ⟨hfree .block (by decide), hfree .established (by decide), fun kind _ _ =>
      hfree (.peer kind _ _) (peerRuleName_ne_denyDNS kind _ _), houtside.exitNode,
      houtside.hosts⟩

theorem Flushed.noMeshState (hw : Flushed w) (houtside : Outside false false w) :
    NoMeshState w := by
  apply (noMeshState_iff hw.1).mpr
  refine ⟨fun n hn => ?_, houtside⟩
  rw [hw.2] at hn
  cases hn

end View

/-! ### The procedures that clear everything -/

section Clearing

variable {r : Env} {w : World} {exitNode hosts : Bool}

/-- No meshnet rule is left, and the exit node and the hosts file are as said. -/
def Cleared (exitNode hosts : Bool) (w : World) : Prop := Flushed w ∧ Outside exitNode hosts w

theorem Cleared.after (hw : Cleared exitNode hosts w) (r : Env) (c : Call) (fails : Bool) :
    Cleared ((exitNodeEffect (c, !fails)).getD exitNode) ((hostsEffect (c, !fails)).getD hosts)
      (w.after r c fails) :=
  ⟨flushed_core.stays rfl hw.1, hw.2.after r c fails⟩

theorem keeps_cleared_call {c : Call} (hc : c.isInside = true) :
    Keeps r any (Cleared exitNode hosts) (call c) :=
  fun _ hw => wp_call.mpr ⟨trivial, flushed_core.stays rfl hw.1, outside_deaf.unheard r _ hc hw.2⟩

theorem keeps_cleared_addDefaultRoute : Keeps r any (Cleared exitNode hosts) addDefaultRoute :=
  (keeps_addDefaultRoute flushed_core.toQuiet).and
    (outside_deaf.keeps_addDefaultRoute rfl fun _ => rfl)

/-- If the agents delete what they are told to, no tracked rule is left. -/
theorem defaultMeshUnBlock_clears (hdeletes : r.DeletesMesh) (hw : Tracks w)
    (houtside : Outside exitNode hosts w) :
    wp defaultMeshUnBlock r any (fun x t => x = .ok () ∧ Cleared exitNode hosts t) w :=
  wp_post (wp_both (tracks_defaultMeshUnBlock hdeletes hw)
    (outside_deaf.keeps_defaultMeshUnBlock w houtside)) fun _ _ h => ⟨h.1.1, h.1.2, h.2⟩

/-- The recovery of `setMesh` leaves nothing. -/
theorem meshRecover_clears (hr : r.Unsets) (routingRulesSet : Bool) (hw : Tracks w) :
    wp (meshRecover routingRulesSet) r any (fun _ t => Cleared false false t) w := by
  have hcleanup : Keeps r any Tracks
      (when routingRulesSet (ignore (call .cleanupRouting))) :=
    Keeps.when fun _ => (keeps_call tracks_core.toQuiet _ rfl).ignore
  refine hcleanup.next NeverFails.ignore.when hw fun _ t ht => ?_
  refine wp_ignore_bind.mpr (wp_post (defaultMeshUnBlock_clears hr.deletes ht ⟨rfl, rfl⟩)
    fun _ u hu => ?_)
  refine wp_ignoreCall_bind.mpr (wp_ignoreCall_bind.mpr ?_)
  rw [hr.unsetHosts, hr.exitNode]
  have hcleared :
      Cleared false false ((u.after r .unsetHosts false).after r .exitNodeDisable false) :=
    (hu.2.after r .unsetHosts false).after r .exitNodeDisable false
  exact ((keeps_cleared_call rfl).ignore.seq <| (keeps_cleared_call rfl).ignore) _ hcleared

/-- So does `unSetMesh`. -/
theorem unSetMesh_clears (hr : r.Unsets) (hw : Tracks w) (hon : w.netw.isMeshnetSet = true) :
    wp unSetMesh r any (fun _ t => Cleared false false t) w := by
  refine wp_netw_bind.mpr ?_
  rw [if_pos hon]
  refine (wp_contextCall_bind hr.unsetHosts).mpr ?_
  refine wp_next (wp_mapError_ok (defaultMeshUnBlock_clears hr.deletes (tracks_core.stays rfl hw)
    ⟨rfl, latest_after hostsEffect w r .unsetHosts false⟩)) fun u hu => ?_
  refine (wp_contextCall_bind hr.exitNode).mpr ?_
  have hrest : Keeps r any (Cleared false false)
      (setNetw fun c => { c with isMeshnetSet := false }) :=
    Keeps.assign fun _ hw => ⟨hw.1, hw.2.congr rfl⟩
  exact ((keeps_cleared_call rfl).mapError.guard.seq <| (keeps_cleared_call rfl).ignore.seq <|
    (keeps_cleared_call rfl).ignore.guard.seq <| (keeps_cleared_call rfl).mapError.seq <|
      keeps_cleared_addDefaultRoute.guard.seq <| hrest) _ (hu.after r .exitNodeDisable false)

end Clearing

/-! ### Stopping the VPN -/

section Stop

variable {r : Env} {exitNode hosts : Bool}

/-- The condition reads the tracked names only. -/
theorem onlyDNS_core : CoreInvariant any OnlyDNS where
  seen _ _ := trivial
  stays {w t} h hw n hn := by
    have hrules : t.netw.rules = w.netw.rules := congrArg Core.rules h
    exact hw n (hrules ▸ hn)

/-- Deleting rules tracks no further one. -/
theorem keeps_onlyDNS_fwDelete (names : List String) : Keeps r any OnlyDNS (fwDelete names) :=
  fun _ hw => wp_zoom.mpr ⟨fun _ _ => trivial, hw⟩

theorem keeps_onlyDNS_undenyDNS : Keeps r any OnlyDNS undenyDNS := by
  refine keeps_netw.bind fun _ => Keeps.when fun _ => (keeps_onlyDNS_fwDelete _).bind fun _ => ?_
  exact Keeps.assign fun _ hw n hn => hw n (List.mem_of_mem_erase hn)

theorem keeps_onlyDNS_unsetNetwork : Keeps r any OnlyDNS unsetNetwork :=
  keeps_unsetNetwork onlyDNS_core.toQuiet (fun _ _ => keeps_onlyDNS_fwDelete _)
    (keeps_unsetAllowlist onlyDNS_core.toQuiet (fun _ _ => keeps_onlyDNS_fwDelete _)
      keeps_onlyDNS_undenyDNS) fun _ hw => hw

/-- Nor does stopping the tunnel. -/
theorem keeps_onlyDNS_apiStop : Keeps r any OnlyDNS Api.stop :=
  keeps_netw.seq <| Keeps.when fun _ =>
    (keeps_stop onlyDNS_core fun w hw _ => keeps_onlyDNS_unsetNetwork w hw).tolerate.seq <|
      keeps_setNetw_core onlyDNS_core fun _ => rfl

theorem keeps_outside_apiStop : Keeps r any (Outside exitNode hosts) Api.stop := by
  have hunset : Keeps r any (Outside exitNode hosts) unsetNetwork :=
    (outside_deaf.mono fun c hc => by cases c <;> first | rfl | cases
      hc).networked.keeps_unsetNetwork
  refine keeps_netw.seq <| Keeps.when fun _ => Keeps.bind (Keeps.tolerate ?_) fun _ =>
    keeps_outside_setNetw _
  exact keeps_netw.seq <| (Keeps.fail _).ite
    ((outside_deaf.keeps_call rfl).ignore.seq <|
      (keeps_netw.seq <| (outside_deaf.keeps_call rfl).mapError).seq <|
        (outside_deaf.keeps_call rfl).ignore.guard.seq <|
          (outside_deaf.keeps_call rfl).mapError.guard.seq <|
            (outside_deaf.keeps_call rfl).ignore.seq <| (outside_deaf.keeps_call rfl).seq <|
                hunset.mapError.guard.seq <| keeps_outside_setNetw _)

end Stop

/-! ### What the methods keep -/

/-- The meshnet rules are tracked, and a meshnet that is off leaves nothing. -/
structure MeshSound (w : World) : Prop where
  tracks : Tracks w
  off : w.netw.isMeshnetSet = false → NoMeshState w

theorem meshSound_newCombined (vpnet : Option Vpn) (fwmark : Nat)
    (lanDiscovery firewallEnabled : Bool) :
    MeshSound (newCombined vpnet fwmark lanDiscovery firewallEnabled) where
  tracks := tracks_newCombined _ _ _ _
  off _ := ⟨nofun, nofun, nofun, rfl, rfl⟩

/-- With working dependencies the last steps of the meshnet leave the rules tracked. -/
theorem tracks_finishMesh {r : Env} (hr : r.Succeeds) (cfg : MachineMap) (privateKey : String) :
    Keeps r any Tracks (finishMesh cfg privateKey) :=
  (keeps_ask tracks_core.toQuiet _ _ rfl).seq <| (keeps_ask tracks_core.toQuiet _ _ rfl).seq <|
    (keeps_call tracks_core.toQuiet _ rfl).mapError.seq <|
      (tracks_exec hr.addsMesh hr.deletesMesh (.refresh cfg)).seq <| Keeps.assign fun _ hw => hw

section Methods

variable {r : Env} (hr : r.Succeeds) {w : World} (hw : MeshSound w)
include hr hw

/-- Stopping the tunnel leaves the meshnet as sound as it was. -/
theorem meshSound_apiStop : wp Api.stop r any (fun _ t => MeshSound t) w := by
  have htracks := tracks_exec hr.addsMesh hr.deletesMesh .stop w hw.tracks
  cases hon : w.netw.isMeshnetSet with
  | true =>
    refine wp_post (wp_both htracks apiStop_flag) ?_
    rintro _ t ⟨ht, hflag⟩
    exact ⟨ht, fun hoff => absurd (hoff.symm.trans (hflag.trans hon)) Bool.false_ne_true⟩
  | false =>
    obtain ⟨hrules, houtside⟩ := (noMeshState_iff hw.tracks).mp (hw.off hon)
    refine wp_post (wp_both htracks (wp_both (keeps_onlyDNS_apiStop w hrules)
      (keeps_outside_apiStop w houtside))) ?_
    rintro _ t ⟨ht, hleft⟩
    exact ⟨ht, fun _ => (noMeshState_iff ht).mpr hleft⟩

/-- Unsetting the meshnet clears it; one that is off already stays as it is. -/
theorem meshSound_apiUnSetMesh : wp Api.unSetMesh r any (fun _ t => MeshSound t) w := by
  refine wp_setNetw_bind.mpr ?_
  cases hon : w.netw.isMeshnetSet with
  | true =>
    refine wp_post (unSetMesh_clears hr.unsets (tracks_core.stays rfl hw.tracks) hon) ?_
    rintro _ t ⟨hflushed, houtside⟩
    exact ⟨hflushed.1, fun _ => hflushed.noMeshState houtside⟩
  | false =>
    refine wp_netw_bind.mpr ?_
    rw [if_neg (by simp [hon])]
    obtain ⟨hblock, hestablished, hpeers, hexit, hhosts⟩ := hw.off hon
    exact wp_fail.mpr ⟨tracks_core.stays rfl hw.tracks,
      fun _ => ⟨hblock, hestablished, hpeers, hexit, hhosts⟩⟩

/-- A map that cannot be put in force is taken back. -/
theorem meshSound_setMesh (cfg : MachineMap) (self : Addr) (privateKey : String) :
    wp (setMesh cfg self privateKey) r any (fun _ t => MeshSound t) w := by
  refine wp_netw_bind.mpr (wp_ite.mpr ⟨fun _ => wp_fail.mpr hw, fun hoff => ?_⟩)
  refine wp_next (wp_recover (prepareMesh_working hr self privateKey w) (fun _ _ h => h)
    fun _ _ h => by cases h.1) fun t ht => ?_
  have htracks := ht.tracks hw.tracks
  have hflag : t.netw.isMeshnetSet = false := by
    rw [ht.netw]
    exact Bool.eq_false_of_not_eq_true hoff
  refine wp_recover (wp_both (finishMesh_flag cfg privateKey hflag)
    (tracks_finishMesh hr cfg privateKey t htracks))
    (fun _ _ hu => ⟨hu.2, fun h => absurd (hu.1.symm.trans h) nofun⟩) fun _ u hu => ?_
  refine wp_post (meshRecover_clears hr.unsets true hu.2) ?_
  rintro _ v ⟨hflushed, houtside⟩
  exact ⟨hflushed.1, fun _ => hflushed.noMeshState houtside⟩

/-- `refresh` belongs to a meshnet that is on. -/
theorem meshSound_refresh (cfg : MachineMap) (hon : w.netw.isMeshnetSet = true) :
    wp (refresh cfg) r any (fun _ t => MeshSound t) w := by
  refine wp_post (wp_both (tracks_exec hr.addsMesh hr.deletesMesh (.refresh cfg) w hw.tracks)
    ((flag_invariant true).keeps_refresh (fun _ _ h => h) cfg w hon)) ?_
  rintro _ t ⟨ht, hflag⟩
  exact ⟨ht, fun hoff => absurd (hoff.symm.trans hflag) Bool.false_ne_true⟩

end Methods

end NordVPN.Networker
