import NordVPN.Daemon.Balance
import NordVPN.Networker.Session

/-!
The nameservers in force.

A connection passes on the user's nameservers, or else those of the service for the address
families of the server. `SetDNS` and `SetThreatProtectionLite` choose them by other means: the
family of the endpoint and the setting for IPv6. The networker remembers nameservers for the
next change of the network, but a reconnection does not replace the remembered ones.
-/

namespace NordVPN.Networker

open NordVPN.Netip Prog

/-! ### The DNS setter -/

/-- The nameservers that a call passes to the DNS setter. -/
def Call.nameservers? : Call → Option (List String)
  | .dnsSet _ nameservers => some nameservers
  | _ => none

/-- The nameservers most recently passed to the DNS setter. -/
def World.nameserversSet (w : World) : Option (List String) :=
  w.log.findSome? fun c => c.1.nameservers?

/-- The nameservers that the networker remembers, and those set last. -/
structure DnsView (remembered set : List String) (w : World) : Prop where
  remembered : w.netw.lastNameservers = remembered
  set : w.nameserversSet = some set

/-- What decides which nameservers a connection sets: whether the meshnet is on. -/
structure DnsBase (mesh : Bool) (remembered : List String) (w : World) : Prop where
  mesh : w.netw.isMeshnetSet = mesh
  remembered : w.netw.lastNameservers = remembered

section View

variable {r : Env} {w : World} {mesh : Bool} {remembered nameservers : List String}

theorem nameserversSet_after_of_none {c : Call} {fails : Bool} (h : c.nameservers? = none) :
    (w.after r c fails).nameserversSet = w.nameserversSet := by
  change List.findSome? _ ((c, !fails) :: w.log) = _
  rw [List.findSome?_cons, h]
  rfl

theorem dnsView_deaf : Deaf (fun c => c.nameservers?.isNone) (DnsView remembered nameservers) where
  unheard r fails hc hw := by
    refine ⟨hw.remembered, ?_⟩
    rw [nameserversSet_after_of_none (Option.isNone_iff_eq_none.mp hc)]
    exact hw.set
  stays hsession _ hlog hw := by
    refine ⟨(congrArg Session.lastNameservers hsession).trans hw.remembered, ?_⟩
    rw [World.nameserversSet, hlog]
    exact hw.set

theorem dnsView_ofNetwork : Deaf Call.ofNetwork (DnsView remembered nameservers) :=
  dnsView_deaf.mono fun c hc => by cases c <;> first | rfl | cases hc

theorem dnsView_ofRefresh : Deaf Call.ofRefresh (DnsView remembered nameservers) :=
  dnsView_deaf.mono fun c hc => by cases c <;> first | rfl | cases hc

theorem dnsBase_deaf : Deaf (fun _ => true) (DnsBase mesh remembered) where
  unheard _ _ _ hw := ⟨hw.mesh, hw.remembered⟩
  stays hsession _ _ hw := ⟨(congrArg Session.isMeshnetSet hsession).trans hw.mesh,
    (congrArg Session.lastNameservers hsession).trans hw.remembered⟩

theorem dnsBase_ofNetwork : Deaf Call.ofNetwork (DnsBase mesh remembered) :=
  dnsBase_deaf.mono fun _ _ => rfl

theorem setDNS_view (hw : w.netw.lastNameservers = remembered) :
    wp (setDNS nameservers) r any (fun _ t => DnsView remembered nameservers t) w :=
  wp_netw_bind.mpr (wp_mapError.mpr (wp_call.mpr ⟨trivial, hw, rfl⟩))

section Starting

variable {serverData : ServerData} {creds : Credentials}
  (hip : serverData.ip ≠ .invalid)
  (hpeer : mesh = true → defaultMeshSubnet.contains serverData.ip = false)

include hpeer in
/-- A connection to a server that is not a meshnet peer sets the nameservers passed to it. -/
theorem configureDNS_view : Attains r (DnsBase mesh remembered) (DnsView remembered nameservers)
    (configureDNS serverData nameservers) := by
  refine .of_post fun w hw => wp_netw_bind.mpr (wp_ite.mpr ⟨fun h => ?_, fun _ =>
    setDNS_view hw.remembered⟩)
  rw [hw.mesh, Bool.and_eq_true] at h
  exact absurd ((hpeer h.1).symm.trans h.2) (by decide)

theorem keeps_dnsView_denyIPv6 : Keeps r any (DnsView remembered nameservers) denyIPv6 :=
  Keeps.bind (Keeps.assign fun _ hw => ⟨hw.remembered, hw.set⟩) fun _ =>
    keeps_netw.seq <| Keeps.when fun _ => dnsView_deaf.keeps_call rfl

theorem keeps_dnsView_disableIPv6IfNeeded :
    Keeps r any (DnsView remembered nameservers) disableIPv6IfNeeded :=
  keeps_netw.seq <| Keeps.when fun _ => keeps_dnsView_denyIPv6

/-! ### Starting -/

include hip

theorem serverOr_of_valid {c : Combined} : c.serverOr serverData = serverData := if_neg hip

include hpeer

/-- A start remembers the nameservers it sets. -/
theorem start_dns {allowlist : Allowlist} : Attains r (DnsBase mesh remembered)
    (DnsView nameservers nameservers) (start creds serverData allowlist nameservers) := by
  have hconfigure : Attains r (DnsBase mesh remembered) (DnsView remembered nameservers)
      (configureNetwork allowlist serverData nameservers) :=
    (dnsBase_ofNetwork.networked.keeps_configureFirewall _).attains <|
      (dnsBase_deaf.keeps_addDefaultRoute rfl fun _ => rfl).attains <|
        (configureDNS_view hpeer).seq <| keeps_netw.attains <|
          (dnsView_ofRefresh.keeps_refresh _).mapError.guard.attains <|
            .of_post keeps_dnsView_disableIPv6IfNeeded
  refine attains_start <| keeps_netw.attains ?_
  intro c
  rw [serverOr_of_valid hip]
  exact (dnsBase_deaf.keeps_startVpn rfl rfl).attains <|
    (dnsBase_ofNetwork.networked.rules _ _).attains <| hconfigure.seq <|
      (dnsView_deaf.keeps_ask rfl _).attains <| .assign fun _ ht => ⟨rfl, ht.set⟩

/-- A restart sets the nameservers, but remembers those of the last start. -/
theorem restart_dns : Attains r (DnsBase mesh remembered) (DnsView remembered nameservers)
    (restart creds serverData nameservers) := by
  have hswitch : Keeps r any (DnsBase mesh remembered) (setNetw Combined.switchToNextVpn) := by
    refine Keeps.assign fun w hw => ?_
    rw [World.withNetw, Combined.switchToNextVpn]
    split <;> exact ⟨hw.mesh, hw.remembered⟩
  refine attains_restart <| (dnsBase_deaf.keeps_call rfl).ignore.attains <|
    (dnsBase_deaf.keeps_call rfl).attains <| hswitch.attains <| keeps_netw.attains ?_
  intro c
  rw [serverOr_of_valid hip]
  exact (dnsBase_deaf.keeps_startVpn rfl rfl).attains <|
    (dnsBase_deaf.keeps_addDefaultRoute rfl fun _ => rfl).attains <|
      (configureDNS_view hpeer).seq <| keeps_dnsView_disableIPv6IfNeeded.ignore.attains <|
        .assign fun _ ht => ⟨ht.remembered, ht.set⟩

/-- `Start` over an inactive VPN, or over one started with the same nameservers. -/
theorem apiStart_dns {allowlist : Allowlist} {enableLocalTraffic : Bool}
    (hmesh : w.netw.isMeshnetSet = mesh)
    (hlast : w.tunnelUp = true → w.netw.lastNameservers = nameservers) :
    wp (Api.start creds serverData allowlist nameservers enableLocalTraffic) r any
      (fun x t => x = .ok () → DnsView nameservers nameservers t) w := by
  refine wp_setNetw_bind.mpr ?_
  refine wp_bind.mpr (wp_isConnectedToVPN fun t hnetw _ hup => ⟨trivial, ?_⟩)
  rw [onOk_ok]
  have hmesh : t.netw.isMeshnetSet = mesh := by
    rw [hnetw]
    exact hmesh
  refine wp_ite.mpr ⟨fun hconnected => ?_, fun _ => (start_dns hip hpeer).ok ⟨hmesh, rfl⟩ ()⟩
  have hwup : w.tunnelUp = true := by
    have h := (Bool.and_eq_true _ _ ▸ hconnected).2
    exact (Bool.and_eq_true _ _ ▸ h).1
  refine (restart_dns hip hpeer).ok ⟨hmesh, ?_⟩ ()
  rw [hnetw]
  exact hlast hwup

end Starting

/-- `SetDNS` succeeds, and a connected VPN has the nameservers afterwards. -/
theorem apiSetDNS_view (hr : r.Succeeds) (hw : Balanced w) :
    wp (Api.setDNS nameservers) r any (fun x t => x = .ok () ∧ Balanced t ∧
      t.netw.isVpnSet = w.netw.isVpnSet ∧
        (w.isConnected r = true → DnsView nameservers nameservers t)) w := by
  refine wp_bind.mpr (wp_isConnectedToVPN fun t hnetw hfw hup => ⟨trivial, ?_⟩)
  have hcore : t.core = w.core := core_of_netw hnetw hfw
  have hlink : t.link = w.link := link_of_netw hnetw hup
  have hvpn : t.netw.isVpnSet = w.netw.isVpnSet := by rw [hnetw]
  rw [onOk_ok]
  refine wp_when.mpr ⟨fun _ => wp_bind.mpr (wp_setNetw.mpr ⟨trivial, ?_⟩), fun hdown =>
    ⟨rfl, balanced_quiet.quiet hcore hlink hw, hvpn, fun h =>
      absurd (hdown.symm.trans h) (by decide)⟩⟩
  rw [onOk_ok]
  refine wp_netw_bind.mpr (wp_mapError.mpr (wp_call.mpr ⟨trivial, ?_⟩))
  rw [hr.calls]
  exact ⟨rfl, balanced_quiet.quiet (w := w) hcore hlink hw, hvpn, fun _ => ⟨rfl, rfl⟩⟩

/-- A change of the network sets the nameservers that are remembered. -/
theorem handleNetworkChanged_view (hw : w.netw.lastNameservers = remembered)
    (hvpn : w.netw.isVpnSet = true) :
    wp handleNetworkChanged r any
      (fun x t => x = .ok () → DnsView remembered remembered t) w := by
  have hkeep (m : Bool) (c : Call) : Keeps r any
      (fun t : World => t.netw.lastNameservers = remembered) (when m (call c)) :=
    Keeps.when fun _ _ ht => wp_call.mpr ⟨trivial, ht⟩
  refine wp_netw_bind.mpr (wp_seqOk (hkeep _ _ w hw) fun _ t ht => ?_)
  rw [hvpn]
  refine wp_when.mpr ⟨fun _ => ?_, nofun⟩
  refine wp_seqOk (hkeep _ _ t ht) fun _ u hu => ?_
  refine wp_seqOk (P := fun _ v => DnsView remembered remembered v) ?_ fun _ v hv => ?_
  · refine wp_netw_bind.mpr (wp_seq (setDNS_view hu) (fun _ v hv => ?_) fun _ v hv => hu ▸ hv)
    rw [hu]
    exact setDNS_view hv.remembered
  · exact wp_post (dnsView_ofNetwork.networked.keeps_resetAllowlist v hv) fun _ _ h _ => h

/-- A change of the network that brings no new interface. -/
theorem reconnect_view (hr : r.Succeeds) (hbalanced : Balanced w) (hvpn : w.netw.isVpnSet = true)
    (hifaces : ∀ n, ∀ d ∈ r.defaultRoutes n, d ∈ w.netw.interfaces)
    (hw : DnsView nameservers nameservers w) :
    wp (Api.reconnect true) r any
      (fun _ t => DnsView nameservers nameservers t) w := by
  have hview : Keeps r any (DnsView nameservers nameservers) disableIPv6IfNeeded :=
    keeps_dnsView_disableIPv6IfNeeded
  have hkeep := (keeps_disableIPv6IfNeeded_interfaces w).and hview
  refine wp_netw_bind.mpr (wp_seq (Keeps.when (fun _ => hkeep.ignore) w
    ⟨⟨rfl, rfl, rfl⟩, hw⟩) ?_ fun _ _ ht => ht.2)
  rintro _ t ⟨⟨hcore, hlink, heq⟩, ht⟩
  have hvpn : t.netw.isVpnSet = true := (congrArg Link.isVpnSet hlink).trans hvpn
  obtain ⟨ks, v, hbooks⟩ := balanced_quiet.quiet hcore hlink hbalanced
  obtain ⟨htracks, hparses⟩ : Tracks t ∧ t.netw.allowlist.Parses :=
    hbooks.elim (fun h => ⟨h.1, h.2.parses⟩) fun h => ⟨h.2.1, h.2.2.parses⟩
  refine wp_when.mpr ⟨fun _ => wp_ignore.mpr (refreshVPN_handled hr htracks hparses
    (heq ▸ hifaces) ht fun u hu => ?_), nofun⟩
  have hnetw : u.netw = t.netw := hu.netw
  have hremembered : u.netw.lastNameservers = nameservers := hnetw ▸ ht.remembered
  refine wp_post (wp_both (handleNetworkChanged_working hr (hu.tracks htracks) (hnetw ▸ hparses))
    (handleNetworkChanged_view hremembered (hnetw ▸ hvpn))) fun _ _ h => h.2 h.1

end View

end NordVPN.Networker

namespace NordVPN.Daemon

open NordVPN.Netip NordVPN.Networker NordVPN.Servers Prog

/-! ### Requests -/

/-- While the VPN is on, the nameservers set last, and those remembered, are the ones that
connecting to the same server with the same settings would set. -/
structure Served (s : Rpc) : Prop where
  balanced : Balanced s.netw
  inForce : s.netw.netw.isVpnSet = true →
    DnsView (connectNameservers s s.cfg s.lastServer) (connectNameservers s s.cfg s.lastServer)
      s.netw

/-- The steps of a run: every call succeeds and the tunnel stays up. A reconnection leads to
the nameservers in force; when nameservers of the service come into force by `SetDNS` or
`SetThreatProtectionLite`, the endpoint, or the setting for IPv6, has the family of the
server. -/
def DnsStep (s : Rpc) (i : DaemonStep) : Prop :=
  i.env.netw.Succeeds ∧ (∀ n, i.env.netw.tunnelDropped n = false) ∧ i.env.loads = true ∧
    i.env.saves = true ∧
    match i.event with
    | .connect =>
      (s.cfg.allowlist.Parses ∧ (s.netw.netw.isVpnSet = false → s.netw.netw.isNetworkSet = true →
        s.cfg.allowlist.allowsDNS = true → s.netw.netw.allowlist.allowsDNS = true)) ∧
      (connect i.env s).result = .ok [.connecting, .connected] ∧
      ∀ server, i.env.selectServer s.cfg = .ok server →
        (s.netw.netw.isMeshnetSet = true → ∀ ip ∈ server.ips ++ server.ipv4.toList,
          defaultMeshSubnet.contains ip = false) ∧
        (s.netw.netw.isVpnSet = true →
          connectNameservers s s.cfg server = connectNameservers s s.cfg s.lastServer)
    | .settings (.setDNS dns) => s.netw.netw.isVpnSet = true → dns = [] →
        s.cfg.autoConnectData.dns ≠ [] → s.endpoint.is6 = s.lastServer.supportsIPv6
    | .settings (.setThreatProtectionLite enabled) => s.netw.netw.isVpnSet = true →
        s.cfg.autoConnectData.threatProtectionLite ≠ enabled →
          s.cfg.ipv6 = s.lastServer.supportsIPv6
    | .settings (.setIpv6 _) => True
    | .networkChange true => s.netw.netw.isVpnSet = true ∧
        ∀ n, ∀ d ∈ i.env.netw.defaultRoutes n, d ∈ s.netw.netw.interfaces
    | _ => False

theorem eq_nil_of_sortStrings {xs : List String} (h : sortStrings xs = []) : xs = [] := by
  have hperm : (sortStrings xs).Perm xs := List.perm_insertionSort _ xs
  rw [h] at hperm
  exact List.nil_perm.mp hperm

section Steps

variable {r : DaemonEnv} {s : Rpc} (hs : Served s)
include hs

variable (hsaves : r.saves = true)
include hsaves

theorem served_setIpv6 (enabled : Bool) :
    wp (handle (.setIpv6 enabled)) r any (fun _ t => Served t) s := by
  refine wp_handle hs fun cfg plan _ hplan => ?_
  simp only [Request.decide, setIpv6] at hplan
  split at hplan <;> cases hplan
  exact wp_carryOut hsaves rfl rfl (wp_pure.mpr ⟨rfl, hs.balanced, hs.inForce⟩)

variable (hr : r.netw.Succeeds) (hdrop : ∀ n, r.netw.tunnelDropped n = false)
include hr hdrop

/-- A plan that passes nameservers on and saves settings that lead to the same ones. -/
theorem served_carryOut {plan : Plan} {reply : Reply} {applied : List String}
    {onError : Option (Error → Reply)} (hbefore : plan.before = [⟨.setDNS applied, onError⟩])
    (hafter : plan.after = []) (hdone : plan.done = .reply reply)
    (heq : s.netw.netw.isVpnSet = true →
      connectNameservers s (plan.save s.cfg) s.lastServer = applied) :
    wp (carryOut plan) r any (fun _ t => Served t) s := by
  refine wp_carryOut hsaves hafter hdone ?_
  rw [hbefore]
  refine wp_callAll_cons (wp_post (apiSetDNS_view hr hs.balanced) ?_)
  rintro x w ⟨rfl, hbalanced, hvpn, hview⟩
  refine ⟨rfl, wp_pure.mpr ⟨rfl, hbalanced, fun hon => ?_⟩⟩
  have hon : s.netw.netw.isVpnSet = true := hvpn ▸ hon
  have happlied := heq hon
  have hview := hview (hs.balanced.isConnected_of_isVpnSet hon hdrop)
  exact happlied ▸ hview

omit hsaves hr hdrop

theorem served_setDNS {dns : List String} (hi : DnsStep s ⟨.settings (.setDNS dns), r⟩) :
    wp (handle (.setDNS dns)) r any (fun _ t => Served t) s := by
  obtain ⟨hr, hdrop, hloads, hsaves, hfamily⟩ := hi
  refine wp_handle hs fun cfg plan hcfg hplan => ?_
  obtain rfl := hcfg hloads
  simp only [Request.decide, setDNS] at hplan
  split at hplan
  · cases hplan
  · split at hplan
    · cases hplan
    · rename_i hnew
      split at hplan <;> cases hplan
      refine served_carryOut hs hsaves hr hdrop rfl rfl rfl fun hvpn => ?_
      simp only [connectNameservers, dnsOr, Config.withData]
      by_cases hempty : (sortStrings dns).isEmpty = true
      · obtain rfl : dns = [] := eq_nil_of_sortStrings (List.isEmpty_iff.mp hempty)
        have hset : s.cfg.autoConnectData.dns ≠ [] := fun hnil => hnew (by rw [hnil])
        rw [hfamily hvpn rfl hset]
        rfl
      · exact (if_neg hempty).trans (if_neg hempty).symm

theorem served_setThreatProtectionLite {enabled : Bool}
    (hi : DnsStep s ⟨.settings (.setThreatProtectionLite enabled), r⟩) :
    wp (handle (.setThreatProtectionLite enabled)) r any (fun _ t => Served t) s := by
  obtain ⟨hr, hdrop, hloads, hsaves, hfamily⟩ := hi
  refine wp_handle hs fun cfg plan hcfg hplan => ?_
  obtain rfl := hcfg hloads
  simp only [Request.decide, setThreatProtectionLite] at hplan
  split at hplan <;> cases hplan
  rename_i hnew
  refine served_carryOut hs hsaves hr hdrop rfl rfl rfl fun hvpn => ?_
  rw [hfamily hvpn hnew]
  rfl

theorem served_connect (hi : DnsStep s ⟨.connect, r⟩) : Served (connect r s).final := by
  obtain ⟨hr, -, hloads, -, ⟨hparses, hdns⟩, hreply, hserver⟩ := hi
  refine ⟨(balanced_connect hs.balanced hr hloads hparses hdns).2.1, fun _ => ?_⟩
  refine (?_ : wp connect r any (fun x t => x = .ok [.connecting, .connected] →
    DnsView (connectNameservers t t.cfg t.lastServer) (connectNameservers t t.cfg t.lastServer)
      t.netw) s).2 hreply
  refine wp_connect (fun _ => nofun) (fun _ => nofun) fun cfg server hcfg hselect => ?_
  obtain rfl := hcfg hloads
  obtain ⟨hpeer, hsame⟩ := hserver server hselect
  -- permitting IPv6 leaves alone what the nameservers depend on
  let I (w : World) : Prop := w.link = s.netw.link ∧
    DnsBase s.netw.netw.isMeshnetSet s.netw.netw.lastNameservers w
  refine wp_connectServer (I := I) ⟨rfl, rfl, rfl⟩ (fun _ => ?_) (fun _ _ _ _ => nofun) ?_
  · exact Keeps.bind (Keeps.assign fun _ hw => ⟨hw.1, hw.2.mesh, hw.2.remembered⟩)
      fun _ _ hw => wp_call.mpr ⟨trivial, hw.1, hw.2.mesh, hw.2.remembered⟩
  rintro ip w endpoint ⟨hlink, hbase⟩ hip hmem
  have hcontains : ip ∈ server.ips ++ server.ipv4.toList := hmem ip (mem_of_ip hip)
  refine wp_connectTo (wp_post (apiStart_dns (ne_invalid_of_ip hip) (fun hmesh => ?_)
    hbase.mesh fun hup => ?_) ?_)
  · exact hpeer hmesh ip hcontains
  · have hvpn : s.netw.netw.isVpnSet = true :=
      hs.balanced.isVpnSet_of_tunnelUp ((congrArg Link.tunnelUp hlink).symm.trans hup)
    exact hbase.remembered.trans ((hs.inForce hvpn).remembered.trans (hsame hvpn).symm)
  · intro x t ht
    cases x with
    | error e => exact fun h => absurd h (failed_ne_connected _)
    | ok u =>
      exact wp_post (keeps_dnsView_denyIPv6.ignore.guard t (ht rfl)) fun _ _ h _ => h

end Steps

theorem served_step {s : Rpc} {i : DaemonStep} (hs : Served s) (hi : DnsStep s i) :
    Served (s.step i) := by
  obtain ⟨event, r⟩ := i
  obtain ⟨hr, hdrop, hloads, hsaves, hsafe⟩ := id hi
  cases event with
  | settings request =>
    cases request with
    | setIpv6 enabled => exact (wp_discard (served_setIpv6 hs hsaves enabled)).2
    | setDNS dns => exact (wp_discard (served_setDNS hs hi)).2
    | setThreatProtectionLite enabled =>
      exact (wp_discard (served_setThreatProtectionLite hs hi)).2
    | _ => exact hsafe.elim
  | connect =>
    exact (wp_discard (Q := Served) ⟨fun _ _ => trivial, served_connect hs hi⟩).2
  | disconnect => exact hsafe.elim
  | networkChange stateIsUp =>
    cases stateIsUp with
    | false => exact hsafe.elim
    | true =>
      have hview := reconnect_view hr hs.balanced hsafe.1 hsafe.2 (hs.inForce hsafe.1)
      exact ⟨(keeps_onNetw (balanced_apiReconnect hr true) s hs.balanced).2,
        fun _ => (wp_onNetw (A := fun _ => True)
          (Q := fun _ t => DnsView _ _ t.netw)).mpr hview |>.2⟩

/-- **The nameservers in force.** In every run of such steps from a state without a VPN, while
the VPN is on the nameservers set last are those that connecting to the same server with the
same settings would set, and a change of the network sets them again. -/
theorem nameservers_match_settings {s₀ s : Rpc} (hstart : Balanced s₀.netw)
    (hdown : s₀.netw.netw.isVpnSet = false) (hrun : Rpc.Reached DnsStep s₀ s)
    (hvpn : s.netw.netw.isVpnSet = true) :
    s.netw.nameserversSet = some (dnsOr s.cfg.autoConnectData.dns (Dns.getNameservers s.nameservers
      s.cfg.autoConnectData.threatProtectionLite s.lastServer.supportsIPv6)) ∧
    ∀ r, DnsStep s ⟨.networkChange true, r⟩ →
      (s.step ⟨.networkChange true, r⟩).netw.nameserversSet = s.netw.nameserversSet := by
  have hinit : Served s₀ := ⟨hstart, fun h => absurd (hdown.symm.trans h) (by decide)⟩
  have hs : Served s := hrun.invariant hinit fun _ _ => served_step
  refine ⟨(hs.inForce hvpn).set, fun r hstep => ?_⟩
  obtain ⟨hr, -, -, -, -, hifaces⟩ := hstep
  rw [(hs.inForce hvpn).set]
  exact (reconnect_view hr hs.balanced hvpn hifaces (hs.inForce hvpn)).2.set

/-- Services that choose a server without an IPv6 address. -/
def plainEnv : DaemonEnv := .working { station := "1.2.3.4" }

def connectedOnce : Rpc := (Rpc.startUp newConfig 0xe1f1).step ⟨.connect, plainEnv⟩

theorem nameservers_after_first_connect :
    connectedOnce.netw.nameserversSet = some ["103.86.96.100", "103.86.99.100"] ∧
      (connectedOnce.step ⟨.networkChange true, plainEnv⟩).netw.nameserversSet =
        connectedOnce.netw.nameserversSet := by
  have hstep : DnsStep (Rpc.startUp newConfig 0xe1f1) ⟨.connect, plainEnv⟩ :=
    ⟨Env.working_succeeds [], fun _ => rfl, rfl, rfl, ⟨fun _ h => absurd h List.not_mem_nil,
      fun _ h => absurd h (by decide)⟩, by decide +kernel, fun _ _ =>
        ⟨fun h => absurd h (by decide), fun h => absurd h (by decide)⟩⟩
  have hchange : DnsStep connectedOnce ⟨.networkChange true, plainEnv⟩ :=
    ⟨Env.working_succeeds [], fun _ => rfl, rfl, rfl, by decide +kernel,
      fun _ _ h => absurd h List.not_mem_nil⟩
  have hmatch := nameservers_match_settings (s := connectedOnce) (balanced_newCombined _ _ _ _) rfl
    (.tail _ .refl hstep) (by decide +kernel)
  exact ⟨hmatch.1.trans (by decide +kernel), hmatch.2 _ hchange⟩

/-- A reconnection to a server with an IPv6 address sets its nameservers, but a change of the
network sets those of the first server again. Threat protection sets none for IPv6 over that
server while IPv6 is off in the settings. -/
theorem nameservers_of_the_first_server :
    let r₄ := DaemonEnv.working { station := "1.2.3.4" }
    let r₆ := DaemonEnv.working { station := "1.2.3.5", ipRecords := ["1.2.3.5", "2001:db8::1"] }
    let s := ((Rpc.startUp newConfig 0xe1f1).step ⟨.connect, r₄⟩).step ⟨.connect, r₆⟩
    let changed := s.step ⟨.networkChange true, r₆⟩
    let shielded := s.step ⟨.settings (.setThreatProtectionLite true), r₆⟩
    s.netw.nameserversSet = some (connectNameservers s s.cfg s.lastServer) ∧
      changed.netw.nameserversSet ≠
        some (connectNameservers changed changed.cfg changed.lastServer) ∧
      shielded.netw.nameserversSet ≠
        some (connectNameservers shielded shielded.cfg shielded.lastServer) := by
  decide +kernel

end NordVPN.Daemon
