import NordVPN.Networker.Network

/-!
The rule against DNS leaks while the network is set.

`setAllowlist` adds `deny-private-dns` unless port 53 is allowlisted, and tracks it in
`netw.rules`, the list that the meshnet deletes wholesale. So every call that replaces
the meshnet rules takes the rule away, and nothing puts it back. It stays in every run
in which such calls are made only while the network is not set, or port 53 is
allowlisted.
-/

namespace NordVPN.Networker

open NordVPN.Netip Prog

/-- If the network is set and port 53 is not allowlisted, the rule is in memory. -/
def Denies (w : World) : Prop :=
  w.netw.allowlist.Parses ∧ (w.netw.isNetworkSet = true → w.netw.allowlist.allowsDNS = false →
    denyDNSName ∈ w.names)

/-- Port 53 is allowlisted, in any case or while the network is set. -/
def Allows (always : Bool) (w : World) : Prop :=
  w.netw.allowlist.Parses ∧ (always = true ∨ w.netw.isNetworkSet = true →
    w.netw.allowlist.allowsDNS = true)

variable {w : World}

theorem Allows.denies {always : Bool} (h : Allows always w) : Denies w :=
  ⟨h.1, fun hset hdns => absurd (hdns.symm.trans (h.2 (.inr hset))) (by decide)⟩

variable {t : World}

theorem Allows.stays {always : Bool} (hw : Allows always w)
    (hset : t.netw.isNetworkSet = w.netw.isNetworkSet)
    (hlist : t.netw.allowlist = w.netw.allowlist) : Allows always t := by
  unfold Allows
  rw [hlist, hset]
  exact hw

theorem denies_property : NetworkProperty networkNames Denies where
  stays := fun ⟨hparses, hdeny⟩ ht hlist => by
    refine ⟨hlist ▸ hparses, fun hset hdns => (ht.names _ (by decide)).mpr ?_⟩
    exact hdeny (ht.isNetworkSet ▸ hset) (hlist ▸ hdns)

theorem allows_property (always : Bool) : MeshProperty (Allows always) where
  stays hw ht hlist := hw.stays ht.isNetworkSet hlist
  undenied hw ht hlist _ := hw.stays ht.isNetworkSet hlist

theorem core_denies {w' : World} (h : w'.core = w.core) (hw : Denies w) : Denies w' := by
  have hlist : w'.netw.allowlist = w.netw.allowlist := congrArg Core.allowlist h
  have hset : w'.netw.isNetworkSet = w.netw.isNetworkSet := congrArg Core.isNetworkSet h
  have hfw : w'.fw = w.fw := congrArg Core.fw h
  unfold Denies World.names
  rw [hlist, hset, hfw]
  exact hw

/-- The steps that leave the rule in place: every call succeeds, the allowlist's
subnets are CIDRs, and the meshnet rules are replaced only while the network is not set
or port 53 is allowlisted. -/
def LeakSafe (w : World) (i : Step) : Prop :=
  i.env.Succeeds ∧ i.op.Lists Allowlist.Parses ∧
    match i.op with
    | .start _ _ allowlist _ _ => w.isConnected i.env = true ∨ w.netw.isMeshnetSet = false ∨
        allowlist.allowsDNS = true ∧
          (w.netw.isNetworkSet = true → w.netw.allowlist.allowsDNS = true)
    | .setMesh .. => w.netw.isMeshnetSet = true ∨
        (w.netw.isNetworkSet = true → w.netw.allowlist.allowsDNS = true)
    | .refresh _ => w.netw.isNetworkSet = true → w.netw.allowlist.allowsDNS = true
    | .unSetMesh => w.netw.isMeshnetSet = false ∨
        (w.netw.isNetworkSet = true → w.netw.allowlist.allowsDNS = true)
    | .reconnect true => w.netw.isMeshnetSet = false ∨ w.netw.allowlist.allowsDNS = true ∨
        (w.netw.isVpnSet = false ∧ w.netw.isNetworkSet = false) ∨
        ∀ n, ∀ d ∈ i.env.defaultRoutes n, d ∈ w.netw.interfaces
    | _ => True

/-! ### Fields after a call -/

/-- A state with an allowlist just set denies DNS. -/
theorem Listed.denies {a : Allowlist} {c c' : Combined} (h : Listed a c c')
    (hlist : t.netw.allowlist = c'.allowlist) (hrules : t.netw.rules = c'.rules) (ha : a.Parses)
    (ht : Tracks t) : Denies t := by
  refine ⟨hlist ▸ h.parses ha, fun _ hdns => (ht.agree _ .denyDNS).mp ?_⟩
  rw [hrules, h.deny]
  rw [hlist, h.allowsDNS] at hdns
  exact .inr hdns

theorem Listed.allows {a : Allowlist} {c c' : Combined} (h : Listed a c c')
    (hlist : t.netw.allowlist = c'.allowlist) (ha : a.Parses) (hdns : a.allowsDNS = true)
    (always : Bool) : Allows always t := by
  refine ⟨hlist ▸ h.parses ha, fun _ => ?_⟩
  rw [hlist, h.allowsDNS, hdns]

/-- The tracked rule is in memory as long as it is tracked. -/
theorem Denies.sameFields (hw : Tracks w ∧ Denies w) (ht : Tracks t) (h : t.netw = w.netw) :
    Denies t := by
  refine ⟨h ▸ hw.2.1, fun hset hdns => (ht.agree _ .denyDNS).mp ?_⟩
  rw [h] at hset hdns ⊢
  exact (hw.1.agree _ .denyDNS).mpr (hw.2.2 hset hdns)

section

variable {r : Env} (hr : r.Succeeds)
include hr

theorem denies_upkeep :
    Upkeep r any (fun w => Tracks w ∧ Denies w) any Allowlist.Parses where
  toPeerUpkeep := (tracks_ruleUpkeep hr.addsMesh).toPeerUpkeep.and denies_property.peerUpkeep
  stays h hw := ⟨tracks_core.stays h hw.1, core_denies h hw.2⟩
  resetAllowlist w hw := by
    refine wp_post (resetAllowlist_working hr hw.1 hw.2.1) ?_
    rintro x t ⟨-, hlisted, ht⟩
    exact ⟨ht, hlisted.denies rfl rfl hw.2.1 ht⟩
  replaceAllowlist a ha w hw := by
    refine wp_post (replaceAllowlist_working hr ha hw.1) ?_
    rintro x t ⟨-, hlisted, ht⟩
    exact ⟨ht, hlisted.denies rfl rfl ha ht⟩
  setNetwork a ha w hw := by
    refine wp_post (setNetwork_working hr ha hw.1) ?_
    rintro x t ⟨ht, hset⟩
    refine ⟨ht, ?_⟩
    rcases hset.outcome with ⟨-, c, hlisted, hnetw⟩ | ⟨-, hnetw, -⟩
    · exact hlisted.denies (by rw [hnetw]) (by rw [hnetw]) ha ht
    · exact Denies.sameFields hw ht hnetw
  unsetNetwork w hw := by
    refine wp_post (unsetNetwork_tracked hr hw.1) ?_
    rintro x t ⟨ht, ⟨-, hunset⟩ | ⟨-, rfl, -⟩⟩
    · refine ⟨ht, ?_, fun hset => ?_⟩
      · rw [hunset.netw]
        exact hw.2.1
      · rw [hunset.netw] at hset
        cases hset
    · exact hw
  killSwitch _ _ hw := hw

theorem allows_upkeep (always : Bool) :
    Upkeep r any (fun w => Tracks w ∧ Allows always w) any
      (fun a => a.Parses ∧ a.allowsDNS = true) where
  toPeerUpkeep := (tracks_ruleUpkeep hr.addsMesh).toPeerUpkeep.and
    (allows_property always).peerUpkeep
  stays h hw := ⟨tracks_core.stays h hw.1,
    hw.2.stays (congrArg Core.isNetworkSet h) (congrArg Core.allowlist h)⟩
  resetAllowlist w hw := by
    refine wp_post (resetAllowlist_working hr hw.1 hw.2.1) ?_
    rintro x t ⟨-, hlisted, ht⟩
    refine ⟨ht, hlisted.parses hw.2.1, fun h => ?_⟩
    rw [hlisted.allowsDNS]
    obtain ⟨rules, hfields⟩ := hlisted.fields
    rw [hfields] at h
    exact hw.2.2 h
  replaceAllowlist a ha w hw := by
    refine wp_post (replaceAllowlist_working hr ha.1 hw.1) ?_
    rintro x t ⟨-, hlisted, ht⟩
    exact ⟨ht, hlisted.allows rfl ha.1 ha.2 always⟩
  setNetwork a ha w hw := by
    refine wp_post (setNetwork_working hr ha.1 hw.1) ?_
    rintro x t ⟨ht, hset⟩
    refine ⟨ht, ?_⟩
    rcases hset.outcome with ⟨-, c, hlisted, hnetw⟩ | ⟨-, hnetw, -⟩
    · exact hlisted.allows (by rw [hnetw]) ha.1 ha.2 always
    · exact hw.2.stays (by rw [hnetw]) (by rw [hnetw])
  unsetNetwork w hw := by
    refine wp_post (unsetNetwork_tracked hr hw.1) ?_
    rintro x t ⟨ht, ⟨-, hunset⟩ | ⟨-, rfl, -⟩⟩
    · refine ⟨ht, ?_⟩
      unfold Allows
      rw [hunset.netw]
      exact ⟨hw.2.1, fun h => hw.2.2 (.inl (h.resolve_right nofun))⟩
    · exact hw
  killSwitch _ _ hw := hw

theorem allows_meshUpkeep (always : Bool) :
    MeshUpkeep r any (fun w => Tracks w ∧ Allows always w)
      (fun w => Flushed w ∧ Allows always w) any :=
  network_meshUpkeep (allows_property always) hr.addsMesh hr.deletesMesh
    (keeps_enableMesh (allows_upkeep hr always).toCoreInvariant)

/-- Without a meshnet, the VPN starts and is refreshed without touching the rule. -/
theorem denies_meshOff :
    Upkeep r any (fun w => (Tracks w ∧ Denies w) ∧ w.netw.isMeshnetSet = false)
      any Allowlist.Parses :=
  (denies_upkeep hr).and (meshFields_upkeep (P := fun isMeshnetSet _ => isMeshnetSet = false))

/-! ### Methods that may replace the meshnet rules -/

omit hr

/-- A state in which a replacement does no harm. -/
theorem allows_of_denies (hw : Tracks w ∧ Denies w)
    (h : w.netw.isNetworkSet = true → w.netw.allowlist.allowsDNS = true) :
    Tracks w ∧ Allows false w :=
  ⟨hw.1, hw.2.1, fun hset => h (hset.resolve_left nofun)⟩

theorem denies_start {creds : Credentials} {serverData : ServerData} {allowlist : Allowlist}
    {nameservers : List String} {enableLocalTraffic : Bool} (hw : Tracks w ∧ Denies w)
    (hi : LeakSafe w ⟨.start creds serverData allowlist nameservers enableLocalTraffic, r⟩) :
    wp (Api.start creds serverData allowlist nameservers enableLocalTraffic) r any
      (fun _ t => Tracks t ∧ Denies t) w := by
  obtain ⟨hr, ha, hsafe⟩ := hi
  have hupkeep := denies_upkeep hr
  refine wp_apiStart (fun t _ hcore _ => hupkeep.keeps_restart _ _ _ t (hupkeep.stays hcore hw))
    fun t hoff hcore _ => ?_
  rcases hsafe.resolve_left (by simp [hoff]) with hmesh | ⟨hdns, hset⟩
  · have ht := (denies_meshOff hr).stays hcore ⟨hw, hmesh⟩
    refine wp_mono ((denies_meshOff hr).keeps_start _ _ _ ha (fun u hu hon => ?_) t ht)
      (fun _ _ => trivial) fun _ _ h => h.1
    exact absurd (hu.2.symm.trans hon) (by decide)
  · have hallows := allows_upkeep hr false
    have ht := hallows.stays hcore (allows_of_denies hw hset)
    exact wp_post (hallows.keeps_start _ _ _ ⟨ha, hdns⟩ (fun u hu _ =>
      hallows.keeps_refresh (allows_meshUpkeep hr false) trivial u hu) t ht)
      fun _ _ h => ⟨h.1, h.2.denies⟩

theorem denies_setMesh {cfg : MachineMap} {self : Addr} {privateKey : String}
    (hw : Tracks w ∧ Denies w) (hi : LeakSafe w ⟨.setMesh cfg self privateKey, r⟩) :
    wp (setMesh cfg self privateKey) r any (fun _ t => Tracks t ∧ Denies t) w := by
  obtain ⟨hr, -, hsafe⟩ := hi
  rcases hsafe with hmesh | hset
  · -- the call is refused
    refine wp_netw_bind.mpr ?_
    rw [if_pos hmesh, wp_fail]
    exact hw
  · exact wp_post ((allows_upkeep hr false).keeps_setMesh (allows_meshUpkeep hr false) _ _ trivial w
      (allows_of_denies hw hset)) fun _ _ h => ⟨h.1, h.2.denies⟩

theorem denies_unSetMesh (hw : Tracks w ∧ Denies w) (hi : LeakSafe w ⟨.unSetMesh, r⟩) :
    wp Api.unSetMesh r any (fun _ t => Tracks t ∧ Denies t) w := by
  obtain ⟨hr, -, hsafe⟩ := hi
  refine wp_setNetw_bind.mpr ?_
  rcases hsafe with hmesh | hset
  · refine wp_netw_bind.mpr ?_
    rw [if_neg (by simp [hmesh]), wp_fail]
    exact hw
  · exact wp_post ((allows_upkeep hr false).keeps_unSetMesh (allows_meshUpkeep hr false) _
      (allows_of_denies (w := w) hw hset)) fun _ _ h => ⟨h.1, h.2.denies⟩

theorem denies_reconnect (hw : Tracks w ∧ Denies w) (hi : LeakSafe w ⟨.reconnect true, r⟩) :
    wp (Api.reconnect true) r any (fun _ t => Tracks t ∧ Denies t) w := by
  obtain ⟨hr, -, hsafe⟩ := hi
  have hupkeep := denies_upkeep hr
  refine wp_apiReconnect fun t hcore hlink hifaces => ?_
  have ht := hupkeep.stays hcore hw
  have hmesh' : t.netw.isMeshnetSet = w.netw.isMeshnetSet := congrArg Core.isMeshnetSet hcore
  have hlist' : t.netw.allowlist = w.netw.allowlist := congrArg Core.allowlist hcore
  have hset' : t.netw.isNetworkSet = w.netw.isNetworkSet := congrArg Core.isNetworkSet hcore
  have hvpn' : t.netw.isVpnSet = w.netw.isVpnSet := congrArg Link.isVpnSet hlink
  have hrefresh (always : Bool) (u : World) (hu : Tracks u ∧ Allows always u) :
      wp (refresh u.netw.cfg) r any (fun _ v => Tracks v ∧ Allows always v) u :=
    (allows_upkeep hr always).keeps_refresh (allows_meshUpkeep hr always) trivial u hu
  rcases hsafe with hmesh | hdns | ⟨hvpn, hset⟩ | hold
  · refine wp_mono ((denies_meshOff hr).keeps_refreshVPN ⟨ht, hmesh'.trans hmesh⟩
      (fun _ u hu => hu.1.2.1) (fun hon => ?_) fun _ u hu hon => ?_) (fun _ _ => trivial)
      fun _ _ h => h.1
    · exact absurd ((hmesh'.trans hmesh).symm.trans hon) (by decide)
    · exact absurd (hu.2.symm.trans hon) (by decide)
  · refine wp_post ((allows_upkeep hr true).keeps_refreshVPN ⟨ht.1, ht.2.1, fun _ => ?_⟩
      (fun _ u hu => ⟨hu.2.1, hu.2.2 (.inl rfl)⟩)
      (fun _ => (allows_upkeep hr true).keeps_remesh (allows_meshUpkeep hr true))
      fun _ u hu _ => hrefresh true u hu) fun _ _ h => ⟨h.1, h.2.denies⟩
    exact hlist' ▸ hdns
  · -- only the meshnet is set up again
    have hoff : w.netw.isVpnSet ≠ true := by simp [hvpn]
    refine wp_post ((allows_upkeep hr false).keeps_refreshVPN
      (allows_of_denies ht fun h => absurd (hset'.symm.trans h) (by simp [hset]))
      (fun h => absurd (hvpn'.symm.trans h) hoff)
      (fun _ => (allows_upkeep hr false).keeps_remesh (allows_meshUpkeep hr false))
      fun h => absurd (hvpn'.symm.trans h) hoff) fun _ _ h => ⟨h.1, h.2.denies⟩
  · exact refreshVPN_handled hr ht.1 ht.2.1 (hifaces ▸ hold) ht fun u hu =>
      keeps_handleNetworkChanged hupkeep.toQuietInvariant (hupkeep.stays hu.core ht)
        fun _ => hupkeep.resetAllowlist

end

/-! ### Runs -/

theorem denies_step {i : Step} (hw : Tracks w ∧ Denies w) (hi : LeakSafe w i) :
    Tracks (w.step i) ∧ Denies (w.step i) := by
  obtain ⟨op, r⟩ := i
  obtain ⟨hr, hlist, hsafe⟩ := id hi
  have hupkeep := denies_upkeep hr
  by_cases hflush : op.flushes = true
  · cases op with
    | start => exact (denies_start hw hi).2
    | setMesh => exact (denies_setMesh hw hi).2
    | refresh cfg =>
      have h : wp (refresh cfg) r _ (fun _ t => Tracks t ∧ Allows false t) w :=
        (allows_upkeep hr false).keeps_refresh (allows_meshUpkeep hr false) trivial w
          (allows_of_denies hw hsafe)
      exact ⟨h.2.1, h.2.2.denies⟩
    | unSetMesh => exact (denies_unSetMesh hw hi).2
    | reconnect stateIsUp =>
      cases stateIsUp with
      | true => exact (denies_reconnect hw hi).2
      | false =>
        exact ((keeps_netw.seq <|
          (keeps_disableIPv6IfNeeded hupkeep.toQuietInvariant).ignore.guard.seq <|
            Keeps.when fun h => absurd h (by decide)) w hw).2
    | _ => exact absurd hflush (by simp [Op.flushes])
  · exact Upkeep.step (F := fun _ => False) (i := ⟨op, r⟩) hupkeep (fun h => absurd h hflush)
      op.allows_any hlist (fun h => absurd h hflush) hw

/-- **The rule against DNS leaks.** In every run in which every call succeeds, subnets
parse, and the meshnet rules are replaced only while the network is not set or port 53
is allowlisted, in every state reached with the network set and port 53 not
allowlisted, `deny-private-dns` is in memory. -/
theorem dns_leak_rule_present {vpnet : Option Vpn} {fwmark : Nat}
    {lanDiscovery firewallEnabled : Bool} {w : World}
    (h : World.Reached LeakSafe (newCombined vpnet fwmark lanDiscovery firewallEnabled) w)
    (hset : w.netw.isNetworkSet = true) (htcp : 53 ∉ w.netw.allowlist.ports.tcp)
    (hudp : 53 ∉ w.netw.allowlist.ports.udp) : "deny-private-dns" ∈ w.names := by
  have hw := h.invariant (I := fun w => Tracks w ∧ Denies w)
    ⟨tracks_newCombined _ _ _ _, nofun, nofun⟩ fun _ _ => denies_step
  exact hw.2.2 hset (by simp [Allowlist.allowsDNS, htcp, hudp])

theorem dns_leak_rule_present_with_meshnet :
    let w₀ := newCombined (some ⟨"nordlynx", true⟩) 0xe1f1 false true
    let mesh : Step := ⟨.setMesh sampleMachine (.ofBytes 100 64 0 2) "key", Env.working []⟩
    let w := (w₀.step mesh).step ⟨.setKillSwitch {}, Env.working []⟩
    w.netw.isMeshnetSet = true ∧ "deny-private-dns" ∈ w.names := by
  intro w₀ mesh w
  have hmesh : LeakSafe w₀ mesh :=
    ⟨Env.working_succeeds [], trivial, .inr fun h => absurd h (by decide)⟩
  have hks : LeakSafe (w₀.step mesh) ⟨.setKillSwitch {}, Env.working []⟩ :=
    ⟨Env.working_succeeds [], nofun, trivial⟩
  exact ⟨by decide, dns_leak_rule_present (.tail _ (.tail _ .refl hmesh) hks) (by decide)
    (by decide) (by decide)⟩

/-- The VPN is started, then the meshnet is set: `refresh` deletes every tracked rule,
the one against DNS leaks with them. -/
theorem dns_leak_rule_flushed :
    let w₀ := newCombined (some ⟨"nordlynx", true⟩) 0xe1f1 false true
    let start : Step := ⟨.start {} { ip := .ofBytes 1 2 3 4 } {} [] true, Env.working []⟩
    let mesh : Step := ⟨.setMesh sampleMachine (.ofBytes 100 64 0 2) "key", Env.working []⟩
    let w := (w₀.step start).step mesh
    "deny-private-dns" ∈ (w₀.step start).names ∧ w.netw.isNetworkSet = true ∧
      w.netw.allowlist.ports = { tcp := [], udp := [] } ∧ "deny-private-dns" ∉ w.names := by
  decide

end NordVPN.Networker
