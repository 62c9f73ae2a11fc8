import NordVPN.Networker.Network
import NordVPN.Networker.Refresh

/-!
The flag of a set network.

With working dependencies the network is set exactly while the VPN or the kill switch
is, and a network that is not set has none of its rules in memory. `Books` says so for
one state, with the values of the flags as parameters, and the theorems here say how
each method moves them. One thing can spoil the books: a VPN started over a network
that denies DNS, with an allowlist that does not. The rule against DNS leaks then
stays, although the allowlist in force says that there is none.
-/

namespace NordVPN.Networker

open NordVPN.Netip Prog

/-- What the flags say of the rules in memory. -/
structure Ledger (set ks : Bool) (l : Link) (w : World) : Prop where
  isNetworkSet : w.netw.isNetworkSet = set
  isKillSwitchSet : w.netw.isKillSwitchSet = ks
  link : w.link = l
  parses : w.netw.allowlist.Parses
  denied : denyDNSName ∈ w.names → w.netw.allowlist.allowsDNS = false
  blocked : set = true → ∀ n ∈ killSwitchNames, n ∈ w.names
  clear : set = false → ∀ n ∈ networkNames, n ∉ w.names

def Books (set ks : Bool) (l : Link) (w : World) : Prop := Tracks w ∧ Ledger set ks l w

variable {set ks : Bool} {l : Link} {w t : World}

theorem ledger_property : MeshProperty (Ledger set ks l) where
  stays hw ht hlist :=
    { isNetworkSet := ht.isNetworkSet.trans hw.isNetworkSet
      isKillSwitchSet := ht.isKillSwitchSet.trans hw.isKillSwitchSet
      link := ht.link.trans hw.link
      parses := hlist ▸ hw.parses
      denied := fun h => hlist ▸ hw.denied ((ht.names _ (by decide)).mp h)
      blocked := fun h n hn => (ht.names n ((by decide : killSwitchNames ⊆ networkNames) hn)).mpr
        (hw.blocked h n hn)
      clear := fun h n hn hmem => hw.clear h n hn ((ht.names n hn).mp hmem) }
  undenied hw ht hlist hdeny :=
    { isNetworkSet := ht.isNetworkSet.trans hw.isNetworkSet
      isKillSwitchSet := ht.isKillSwitchSet.trans hw.isKillSwitchSet
      link := ht.link.trans hw.link
      parses := hlist ▸ hw.parses
      denied := fun h => absurd h hdeny
      blocked := fun h n hn => (ht.names n (List.mem_append_left _ hn)).mpr (hw.blocked h n hn)
      clear := fun h n hn hmem => by
        rcases List.mem_append.mp hn with hn' | hn'
        · exact hw.clear h n hn ((ht.names n hn').mp hmem)
        · exact hdeny (List.mem_singleton.mp hn' ▸ hmem) }

theorem books_quiet : QuietInvariant any (Books set ks l) :=
  tracks_core.toQuiet.and ledger_property.quiet

theorem isSome_switchToNextVpn {c : Combined} (h : c.vpnet.isSome = true) :
    c.switchToNextVpn.vpnet.isSome = true := by
  unfold Combined.switchToNextVpn
  cases c.nextVPN <;> simp [h]

theorem link_switchToNextVpn (w : World) : (w.withNetw Combined.switchToNextVpn).link =
    { w.link with vpnet := w.netw.switchToNextVpn.vpnet } := by
  unfold World.withNetw Combined.switchToNextVpn
  cases w.netw.nextVPN <;> rfl

namespace Books

/-- The link may change by itself. -/
theorem relink {l' : Link} (hw : Books set ks l w) (hcore : t.core = w.core) (hlink : t.link = l') :
    Books set ks l' t := by
  have hnames : t.names = w.names := by
    rw [World.names, World.names, show t.fw = w.fw from congrArg Core.fw hcore]
  have hlist : t.netw.allowlist = w.netw.allowlist := congrArg Core.allowlist hcore
  exact ⟨tracks_core.stays hcore hw.1,
    { isNetworkSet := (congrArg Core.isNetworkSet hcore).trans hw.2.isNetworkSet
      isKillSwitchSet := (congrArg Core.isKillSwitchSet hcore).trans hw.2.isKillSwitchSet
      link := hlink
      parses := hlist ▸ hw.2.parses
      denied := by
        rw [hnames, hlist]
        exact hw.2.denied
      blocked := hnames ▸ hw.2.blocked
      clear := hnames ▸ hw.2.clear }⟩

theorem same (hw : Books set ks l w) (h : Same w t) : Books set ks l t :=
  hw.relink h.core (h.link.trans hw.2.link)

theorem withKillSwitch (hw : Books set ks l w) (ks' : Bool) :
    Books set ks' l (w.withNetw fun c => { c with isKillSwitchSet := ks' }) :=
  ⟨hw.1, { hw.2 with isKillSwitchSet := rfl }⟩

theorem isVpnSet (hw : Books set ks l w) : w.netw.isVpnSet = l.isVpnSet :=
  congrArg Link.isVpnSet hw.2.link

theorem tunnelUp (hw : Books set ks l w) : w.tunnelUp = l.tunnelUp :=
  congrArg Link.tunnelUp hw.2.link

theorem hasVpn (hw : Books set ks l w) (h : l.vpnet.isSome = true) : w.netw.vpnet.isSome = true :=
  show w.link.vpnet.isSome = true by rw [hw.2.link, h]

theorem switchToNextVpn (hw : Books set ks l w) :
    Books set ks { l with vpnet := w.netw.switchToNextVpn.vpnet }
      (w.withNetw Combined.switchToNextVpn) :=
  hw.relink (core_switchToNextVpn w) (by rw [link_switchToNextVpn, hw.2.link])

/-- An allowlist just set over rules that agree with it. -/
theorem ofListed {a : Allowlist} {c c' : Combined} (h : Listed a c c') (ha : a.Parses)
    (hold : denyDNSName ∈ c.rules → a.allowsDNS = false) (ht : Tracks t)
    (hlist : t.netw.allowlist = c'.allowlist) (hrules : t.netw.rules = c'.rules)
    (hset : t.netw.isNetworkSet = true) (hks : t.netw.isKillSwitchSet = ks) (hlink : t.link = l)
    (hblocked : ∀ n ∈ killSwitchNames, n ∈ t.names) : Books true ks l t := by
  refine ⟨ht, hset, hks, hlink, hlist ▸ h.parses ha, fun hdeny => ?_, fun _ => hblocked, nofun⟩
  rw [hlist, h.allowsDNS]
  have hmem := (ht.agree _ .denyDNS).mpr hdeny
  rw [hrules, h.deny] at hmem
  exact hmem.elim hold id

/-- The rule against DNS leaks is gone before an allowlist is set anew. -/
theorem not_mem_rulesWithoutDeny (hw : Books set ks l w) :
    denyDNSName ∉ w.netw.rulesWithoutDeny := by
  unfold Combined.rulesWithoutDeny
  split
  · rename_i hdns
    intro hmem
    exact absurd ((hw.2.denied ((hw.1.agree _ .denyDNS).mp hmem)).symm.trans hdns) (by decide)
  · exact hw.1.nodup.not_mem_erase

theorem ofRelisted {a : Allowlist} (hw : Books true ks l w) (h : Relisted a w.netw t.netw)
    (ha : a.Parses) (ht : Tracks t) (hunmoved : Unmoved killSwitchNames w t) : Books true ks l t :=
  ofListed h ha (fun hmem => absurd hmem hw.not_mem_rulesWithoutDeny) ht rfl rfl
    (hunmoved.isNetworkSet.trans hw.2.isNetworkSet)
    (hunmoved.isKillSwitchSet.trans hw.2.isKillSwitchSet) (hunmoved.link.trans hw.2.link)
    fun n hn => (hunmoved.names n hn).mpr (hw.2.blocked rfl n hn)

end Books

section

variable {r : Env} (hr : r.Succeeds)
include hr

/-! ### The network -/

variable {a : Allowlist} {v : Option Vpn} {up : Bool}

theorem books_replaceAllowlist (ha : a.Parses) (hw : Books true ks l w) :
    wp (do
      unsetAllowlist
      setAllowlist a) r any (fun x t => x = .ok () ∧ Books true ks l t) w := by
  have hunmoved : wp (do
      unsetAllowlist
      setAllowlist a) r any (fun _ t => Unmoved killSwitchNames w t) w :=
    wp_seq (unsetAllowlist_unmoved w) (fun _ t ht => wp_post (setAllowlist_unmoved a t)
      fun _ _ hu => ht.trans hu) fun _ _ ht => ht
  refine wp_post (wp_both (replaceAllowlist_working hr ha hw.1) hunmoved) ?_
  rintro x t ⟨⟨hx, hlisted, ht⟩, hunmoved⟩
  exact ⟨hx, hw.ofRelisted hlisted ha ht hunmoved⟩

theorem books_resetAllowlist (hw : Books true ks l w) :
    wp resetAllowlist r any (fun x t => x = .ok () ∧ Books true ks l t) w :=
  wp_resetAllowlist hr hw.1 (books_replaceAllowlist hr hw.2.parses hw)

/-- A network is set. Over one that is set already, the new allowlist must not allow DNS
if the old one denies it. -/
theorem books_setNetwork (ha : a.Parses) (hw : Books set ks l w)
    (hdns : set = true → a.allowsDNS = true → w.netw.allowlist.allowsDNS = true) :
    wp (setNetwork a) r any (fun x t =>
      (x = .ok () ∨ set = true ∧ x = .error (.sentinel .ruleAlreadyExists)) ∧ Books true ks l t)
      w := by
  have hpaired : Paired w := by
    intro hmem
    cases set with
    | true => exact hw.2.blocked rfl _ (by decide)
    | false => exact absurd hmem (hw.2.clear rfl _ (by decide))
  refine wp_post (setNetwork_working hr ha hw.1) ?_
  rintro x t ⟨ht, hset⟩
  have hblocked := hset.names hpaired
  have hlink := hset.link.trans hw.2.link
  rcases hset.outcome with ⟨hx, c, hlisted, hnetw⟩ | ⟨hx, hnetw, n, hn, hmem⟩
  · obtain ⟨rules, hc⟩ := hlisted.fields
    refine ⟨.inl hx, .ofListed hlisted ha (fun hold => ?_) ht (by rw [hnetw]) (by rw [hnetw])
      (by rw [hnetw]) ?_ hlink hblocked⟩
    · have hdeny := (hw.1.agree _ .denyDNS).mp hold
      cases set with
      | true =>
        refine Bool.eq_false_iff.mpr fun h => ?_
        exact absurd ((hw.2.denied hdeny).symm.trans (hdns rfl h)) (by decide)
      | false => exact absurd hdeny (hw.2.clear rfl _ (by decide))
    · rw [hnetw, hc]
      exact hw.2.isKillSwitchSet
  · cases set with
    | true =>
      refine ⟨.inr ⟨rfl, hx⟩, ht, hnetw ▸ hw.2.isNetworkSet, hnetw ▸ hw.2.isKillSwitchSet, hlink,
        hnetw ▸ hw.2.parses, fun hdeny => ?_, fun _ => hblocked, nofun⟩
      have hmem := (ht.agree _ .denyDNS).mpr hdeny
      rw [hnetw] at hmem ⊢
      exact hw.2.denied ((hw.1.agree _ .denyDNS).mp hmem)
    | false => exact absurd hmem (hw.2.clear rfl n (List.mem_append_left _ hn))

theorem books_unsetNetwork (hw : Books true ks l w) :
    wp unsetNetwork r any (fun x t => x = .ok () ∧ Books false ks l t) w := by
  have hapi : "api_allowlist" ∈ w.names := hw.2.blocked rfl _ (by decide)
  refine wp_post (unsetNetwork_tracked hr hw.1) ?_
  rintro x t ⟨ht, ⟨hx, hunset⟩ | ⟨-, -, habsent⟩⟩
  · refine ⟨hx, ht, ?_, ?_, ?_, ?_, fun hdeny => ?_, nofun, fun _ n hn hmem => ?_⟩
    · rw [hunset.netw]
    · rw [hunset.netw]
      exact hw.2.isKillSwitchSet
    · rw [World.link, hunset.netw, hunset.tunnelUp]
      exact hw.2.link
    · rw [hunset.netw]
      exact hw.2.parses
    · rw [hunset.netw]
      exact hw.2.denied ((hunset.names _).mp hdeny).1
    · obtain ⟨hmem, hnot⟩ := (hunset.names n).mp hmem
      refine hnot ?_
      rcases List.mem_append.mp hn with hn | hn
      · exact removed_of_fixed (fun _ => hw.2.blocked rfl _ (by decide)) hn hmem
      · obtain rfl : n = denyDNSName := List.mem_singleton.mp hn
        exact .inr (.inr (.inr (.inr ⟨rfl, hw.2.denied hmem, (hw.1.agree _ .denyDNS).mpr hmem⟩)))
  · exact absurd hapi habsent

/-! ### The kill switch -/

theorem books_setKillSwitch (ha : a.Parses) (hw : Books set ks l w) :
    wp (setKillSwitch a) r any (fun x t => x = .ok () ∧ Books true true l t) w := by
  refine wp_netw_bind.mpr ?_
  rw [hw.2.isNetworkSet]
  refine wp_next (P := Books true ks l) (wp_when.mpr
    ⟨fun hset => ?_, fun hset => ?_⟩) fun t ht => wp_setNetw.mpr
      ⟨trivial, rfl, ht.withKillSwitch true⟩
  · obtain rfl : set = false := by simpa using hset
    refine wp_post (books_setNetwork hr ha hw nofun) ?_
    rintro x t ⟨hx, ht⟩
    exact ⟨hx.resolve_right (fun h => nomatch h.1), ht⟩
  · obtain rfl : set = true := by simpa using hset
    exact ⟨rfl, hw⟩

/-- `unsetKillSwitch` succeeds unless nothing is set. -/
theorem books_unsetKillSwitch (hw : Books set ks l w) (hset : set = (l.isVpnSet || ks)) :
    wp unsetKillSwitch r any (fun x t =>
      (set = true → x = .ok ()) ∧ Books l.isVpnSet false l t) w := by
  have hvpn : w.netw.isVpnSet = l.isVpnSet := hw.isVpnSet
  refine wp_netw_bind.mpr ?_
  rw [hvpn]
  cases hon : l.isVpnSet with
  | true =>
    rw [hon, Bool.true_or] at hset
    subst hset
    exact wp_next (P := Books true ks l) (wp_when.mpr
      ⟨nofun, fun _ => ⟨rfl, hw⟩⟩) fun t ht => wp_setNetw.mpr
        ⟨trivial, fun _ => rfl, ht.withKillSwitch false⟩
  | false =>
    rw [hon, Bool.false_or] at hset
    subst hset
    cases set with
    | true =>
      exact wp_next (P := Books false true l) (wp_when.mpr
        ⟨fun _ => books_unsetNetwork hr hw, nofun⟩) fun t ht => wp_setNetw.mpr
          ⟨trivial, fun _ => rfl, ht.withKillSwitch false⟩
    | false =>
      refine wp_seq (P := fun x t => x ≠ .ok () ∧ t = w) (wp_when.mpr ⟨fun _ => wp_post
        (unsetNetwork_absent (hw.2.clear rfl _ (by decide))) ?_, nofun⟩)
        (fun _ _ ht => absurd rfl ht.1) ?_
      · rintro x t ⟨rfl, rfl⟩
        exact ⟨nofun, rfl⟩
      · rintro e t ⟨-, rfl⟩
        exact ⟨nofun, hw⟩

/-! ### The VPN -/

theorem books_configureFirewall (ha : a.Parses) (hw : Books set ks l w)
    (hdns : set = true → a.allowsDNS = true → w.netw.allowlist.allowsDNS = true) :
    wp (configureFirewall a) r any (fun x t => x = .ok () ∧ Books true ks l t) w := by
  refine wp_seq (P := fun x t => (x = .ok (.ok ()) ∨
    x = .ok (.error (.sentinel .ruleAlreadyExists))) ∧ Books true ks l t) (wp_attempt.mpr (wp_post
      (books_setNetwork hr ha hw hdns) ?_)) ?_ ?_
  · rintro x t ⟨rfl | ⟨-, rfl⟩, ht⟩
    · exact ⟨.inl rfl, ht⟩
    · exact ⟨.inr rfl, ht⟩
  · rintro x t ⟨hx, ht⟩
    have hreset := books_resetAllowlist hr ht
    rcases hx with hx | hx
    · obtain rfl : x = .ok () := Except.ok.inj hx
      exact hreset
    · obtain rfl : x = .error (.sentinel .ruleAlreadyExists) := Except.ok.inj hx
      exact wp_netw_bind.mpr hreset
  · rintro e t ⟨hx, -⟩
    exact absurd hx (by simp)

variable (creds : Credentials) (serverData : ServerData) (nameservers : List String)

theorem books_startVpn (hw : Books set ks l w) :
    wp (startVpn creds serverData) r any (fun x t => x = .ok () ∧ t.netw = w.netw ∧
      Books set ks { l with tunnelUp := true } t) w := by
  refine wp_onError.mpr (wp_call.mpr ⟨trivial, ?_⟩)
  rw [hr.calls]
  exact ⟨rfl, rfl, hw.relink rfl (hw.2.link ▸ rfl)⟩

theorem books_vpnStop (hw : Books set ks l w) :
    wp (call .vpnStop) r any (fun x t => x = .ok () ∧ t.netw = w.netw ∧
      Books set ks { l with tunnelUp := false } t) w := by
  refine wp_call.mpr ⟨trivial, ?_⟩
  rw [hr.calls]
  exact ⟨rfl, rfl, hw.relink rfl (hw.2.link ▸ rfl)⟩

/-- The peer rules do not move the books. -/
theorem books_peerUpkeep : PeerUpkeep r any (Books set ks l) any :=
  (tracks_ruleUpkeep hr.addsMesh).toPeerUpkeep.and ledger_property.peerUpkeep

theorem books_meshUpkeep :
    MeshUpkeep r any (Books set ks l) (fun w => Flushed w ∧ Ledger set ks l w)
      any :=
  network_meshUpkeep ledger_property hr.addsMesh hr.deletesMesh fun _ _ =>
    keeps_enableMesh_quiet books_quiet fun _ => hr.calls _ _

theorem books_disableIPv6IfNeeded (hw : Books set ks l w) :
    wp disableIPv6IfNeeded r any (fun x t => x = .ok () ∧ Books set ks l t) w := by
  refine wp_netw_bind.mpr (wp_when.mpr ⟨fun _ => ?_, fun _ => ⟨rfl, hw⟩⟩)
  have hoff : Books set ks l (w.withNetw fun c => { c with ipv6Enabled := false }) :=
    books_quiet.quiet (w := w) rfl rfl hw
  refine wp_setNetw_bind.mpr ?_
  refine wp_netw_bind.mpr (wp_post ((Passes.call hr.calls _ rfl).when _) ?_)
  rintro x t ⟨rfl, ht⟩
  exact ⟨rfl, hoff.same ht⟩

/-- After a failed start the VPN is off and the network is left to the kill switch. -/
theorem books_failureRecover (hw : Books true ks ⟨false, v, up⟩ w) :
    wp failureRecover r any (fun _ t => Books ks ks ⟨false, v, false⟩ t) w := by
  refine wp_netw_bind.mpr ?_
  rw [hw.2.isNetworkSet, hw.2.isKillSwitchSet]
  refine (Passes.call hr.calls _ rfl).ignore.when.next fun t₁ h₁ =>
    (Passes.call hr.calls _ rfl).ignore.next fun t₂ h₂ => ?_
  refine wp_next (P := Books true ks ⟨false, v, false⟩) (wp_ignore.mpr
    (wp_post (books_vpnStop hr (hw.same (h₁.trans h₂))) fun _ _ ht => ⟨rfl, ht.2.2⟩))
    fun t ht => ?_
  refine wp_next (P := Books ks ks ⟨false, v, false⟩) (wp_when.mpr
    ⟨fun hks => ?_, fun hks => ?_⟩) fun u hu => ?_
  · obtain rfl : ks = false := by simpa using hks
    exact wp_ignore.mpr (wp_post (books_unsetNetwork hr ht) fun _ _ hu => ⟨rfl, hu.2⟩)
  · obtain rfl : ks = true := by simpa using hks
    exact ⟨rfl, ht⟩
  · have hipv6 : Keeps r any (Books ks ks ⟨false, v, false⟩) stopAllowedIPv6Traffic :=
      (books_peerUpkeep hr).ipv6.seq <| keeps_setNetw_quiet books_quiet (fun _ => rfl) fun _ => rfl
    refine wp_seq (hipv6.ignore.guard u hu) (fun _ v' hv => ?_) fun _ t ht => ht
    exact wp_setNetw.mpr ⟨trivial, hv.relink rfl
      (congrArg (fun l : Link => { l with isVpnSet := false }) hv.2.link)⟩

/-- The part of `configureNetwork` after the firewall fails only if the meshnet cannot be
refreshed. -/
theorem books_configureRest (hw : Books set ks l w) :
    wp (do
      addDefaultRoute
      configureDNS serverData nameservers
      let c ← netw
      when c.isMeshnetSet (context "refreshing meshnet" (refresh c.cfg))
      disableIPv6IfNeeded) r any (fun x t =>
        (MeshReady w → x = .ok ()) ∧ Books set ks l t) w := by
  refine (Passes.addDefaultRoute hr.calls).next fun t ht =>
    (Passes.configureDNS hr.calls _ _).next fun u hu => ?_
  have hsame := ht.trans hu
  have hbooks := hw.same hsame
  refine wp_netw_bind.mpr (wp_seq (P := fun x v => (MeshReady w → x = .ok ()) ∧ Books set ks l v)
    (wp_when.mpr ⟨fun hmesh => wp_mapError.mpr ?_, fun _ => ⟨fun _ => rfl, hbooks⟩⟩)
    (fun _ v hv => ?_) fun _ _ hv => hv)
  · rw [hsame.netw] at hmesh ⊢
    refine wp_post (wp_both (refresh_working hr w.netw.cfg hbooks.1)
      ((books_peerUpkeep hr).keeps_refresh (books_meshUpkeep hr) trivial u
        hbooks)) fun x v hv => ⟨fun hready => ?_, hv.2⟩
    rw [hv.1.mpr (hready hmesh)]
    rfl
  · exact wp_post (books_disableIPv6IfNeeded hr hv.2) fun _ _ h => ⟨fun _ => h.1, h.2⟩

omit hr in
/-- The firewall does not touch the meshnet. -/
theorem configureFirewall_ready (a : Allowlist) (w : World) :
    wp (configureFirewall a) r any (fun _ t => MeshReady w → MeshReady t) w := by
  have hupkeep : Upkeep r any (fun t => MeshReady w → MeshReady t) any any :=
    meshFields_upkeep (P := fun isMeshnetSet cfg =>
      MeshReady w → isMeshnetSet = true → cfg.Consistent)
  exact keeps_configureFirewall (hupkeep.setNetwork a trivial w id) hupkeep.resetAllowlist

theorem books_startBody (ha : a.Parses) (hw : Books set ks ⟨false, v, up⟩ w)
    (hdns : set = true → a.allowsDNS = true → w.netw.allowlist.allowsDNS = true) :
    wp (startBody creds serverData a nameservers) r any (fun x t =>
      x = .ok () ∧ Books true ks ⟨true, v, true⟩ t ∨
        x ≠ .ok () ∧ ¬ MeshReady w ∧ Books true ks ⟨false, v, true⟩ t) w := by
  refine wp_netw_bind.mpr (wp_next (books_startVpn hr _ _ hw) ?_)
  rintro t ⟨hnetw, ht⟩
  refine (Passes.setupRoutingRules hr.calls _ _).next fun u hu => ?_
  have hnetw' : u.netw = w.netw := hu.netw.trans hnetw
  have hready : MeshReady w → MeshReady u := by
    unfold MeshReady
    rw [hnetw']
    exact id
  refine wp_seq (P := fun x z => (MeshReady w → x = .ok ()) ∧ Books true ks ⟨false, v, true⟩ z)
    ?_ (fun _ z hz => ?_) fun e z hz => .inr ⟨nofun, fun h => (nomatch hz.1 h), hz.2⟩
  · refine wp_seq (wp_both (books_configureFirewall hr ha (ht.same hu) ?_)
      (configureFirewall_ready a u))
      (fun _ z hz => ?_) fun _ _ hz => nomatch hz.1.1
    · rw [hnetw']
      exact hdns
    · exact wp_post (books_configureRest hr _ _ hz.1.2) fun _ _ h =>
        ⟨fun hw => h.1 (hz.2 (hready hw)), h.2⟩
  · refine wp_ask_bind.mpr ?_
    exact wp_setNetw.mpr ⟨trivial, .inl ⟨rfl, hz.2.relink rfl
      (congrArg (fun l : Link => { l with isVpnSet := true }) hz.2.2.link)⟩⟩

/-- A start either succeeds, or changes nothing but for the tunnel; it fails only without
a VPN or over a meshnet that cannot be refreshed. -/
theorem books_start (ha : a.Parses) (hw : Books ks ks ⟨false, v, false⟩ w)
    (hdns : ks = true → a.allowsDNS = true → w.netw.allowlist.allowsDNS = true) :
    wp (start creds serverData a nameservers) r any (fun x t =>
      x = .ok () ∧ v.isSome = true ∧ Books true ks ⟨true, v, true⟩ t ∨
        x ≠ .ok () ∧ (MeshReady w → v = none) ∧ Books ks ks ⟨false, v, false⟩ t) w := by
  have hvpn : w.netw.isVpnSet = false := hw.isVpnSet
  have hvpnet : w.netw.vpnet = v := congrArg Link.vpnet hw.2.link
  refine wp_netw_bind.mpr ?_
  rw [hvpn, hvpnet, if_neg (by decide)]
  refine wp_ite.mpr ⟨fun hnone => wp_fail.mpr (.inr ⟨nofun, fun _ => ?_, hw⟩), fun hsome => ?_⟩
  · simpa using hnone
  · refine wp_recover (books_startBody hr creds serverData nameservers ha hw hdns)
      (fun _ t ht => ?_)
      fun _ t ht => ?_
    · rcases ht with ⟨-, ht⟩ | ⟨hx, -⟩
      · exact .inl ⟨rfl, by simpa [Option.isSome_iff_ne_none] using hsome, ht⟩
      · exact absurd rfl hx
    · obtain ⟨-, hready, ht⟩ := ht.resolve_left fun h => by cases h.1
      exact wp_post (books_failureRecover hr ht) fun _ _ h =>
        .inr ⟨nofun, fun hw => absurd hw hready, h⟩

theorem books_restart (hv : v.isSome = true) (creds : Credentials) (serverData : ServerData)
    (nameservers : List String) (hw : Books set ks ⟨true, v, up⟩ w) :
    wp (restart creds serverData nameservers) r any (fun _ t =>
      ∃ v', v'.isSome = true ∧ Books set ks ⟨true, v', true⟩ t) w := by
  refine wp_netw_bind.mpr ?_
  rw [if_neg (by simpa [Option.isSome_iff_ne_none] using hw.hasVpn hv)]
  refine wp_onError.mpr (wp_post (Q := fun x t => x = .ok () ∧
    ∃ v', v'.isSome = true ∧ Books set ks ⟨true, v', true⟩ t) ?_ ?_)
  · refine (Passes.call hr.calls _ rfl).ignore.next fun t ht => ?_
    refine wp_next (books_vpnStop hr (hw.same ht)) ?_
    rintro u ⟨-, hu⟩
    refine wp_setNetw_bind.mpr ?_
    refine wp_netw_bind.mpr (wp_next (books_startVpn hr _ _ hu.switchToNextVpn) ?_)
    rintro u₁ ⟨-, h₁⟩
    refine (Passes.addDefaultRoute hr.calls).next fun u₂ h₂ =>
      (Passes.configureDNS hr.calls _ _).next fun u₃ h₃ => ?_
    refine wp_next (P := Books set ks _) (wp_ignore.mpr (wp_post
      (books_disableIPv6IfNeeded hr (h₁.same (h₂.trans h₃))) fun _ _ h =>
        ⟨rfl, h.2⟩)) fun z hz => ?_
    exact wp_setNetw.mpr ⟨trivial, rfl, _, isSome_switchToNextVpn (hu.hasVpn hv),
      books_quiet.quiet (w := z) rfl rfl hz⟩
  · rintro x t ⟨rfl, ht⟩
    exact ht

theorem books_stop (hv : v.isSome = true) (hw : Books true ks ⟨true, v, up⟩ w) :
    wp stop r any (fun x t => x = .ok () ∧
      ∃ v', v'.isSome = true ∧ Books ks ks ⟨false, v', false⟩ t) w := by
  refine wp_netw_bind.mpr ?_
  rw [if_neg (by simpa [Option.isSome_iff_ne_none] using hw.hasVpn hv)]
  refine (Passes.call hr.calls _ rfl).ignore.next fun t₁ h₁ =>
    (Passes.unsetDNS hr.calls).next fun t₂ h₂ =>
    (Passes.call hr.calls _ rfl).ignore.when.next fun t₃ h₃ =>
      (Passes.call hr.calls _ rfl).context.when.next fun t₄ h₄ =>
      (Passes.call hr.calls _ rfl).ignore.next fun t₅ h₅ => ?_
  have hsame := (((h₁.trans h₂).trans h₃).trans h₄).trans h₅
  refine wp_next (books_vpnStop hr (hw.same hsame)) ?_
  rintro u ⟨-, hu⟩
  rw [hw.2.isKillSwitchSet]
  refine wp_next (P := Books ks ks ⟨true, v, false⟩) (wp_when.mpr
    ⟨fun hks => wp_mapError.mpr ?_, fun hks => ?_⟩) fun z hz => ?_
  · obtain rfl : ks = false := by simpa using hks
    refine wp_post (books_unsetNetwork hr hu) ?_
    rintro x z ⟨rfl, hz⟩
    exact ⟨rfl, hz⟩
  · obtain rfl : ks = true := by simpa using hks
    exact ⟨rfl, hu⟩
  · refine wp_setNetw.mpr ⟨trivial, rfl, _, isSome_switchToNextVpn (hz.hasVpn hv),
      hz.switchToNextVpn.relink rfl ?_⟩
    exact congrArg (fun l : Link => { l with isVpnSet := false }) hz.switchToNextVpn.2.link

/-! ### Network changes -/

theorem books_remesh (ip : Addr) (hw : Books set ks l w) (hon : w.netw.isMeshnetSet = true) :
    wp (remesh ip) r any (fun _ t => Books set ks l t ∧ MeshReady t) w :=
  wp_both ((books_peerUpkeep hr).keeps_remesh (books_meshUpkeep hr) ip w hw)
    (remesh_ready hr ip hw.1 hon)

/-- With the kill switch on and a VPN at hand, the last connection comes up again. -/
theorem books_startAgain (hv : v.isSome = true) (meshErr : Option Error)
    (hw : Books true true ⟨false, v, false⟩ w) (hready : MeshReady w) :
    wp (do
      let c ← netw
      let vpnErr ← failure (context "starting networker"
        (start c.lastCreds c.lastServer c.allowlist c.lastNameservers))
      pure (vpnErr, meshErr)) r any (fun x t => ∃ errs, x = .ok errs ∧ errs.1 = none ∧
        ∃ v', v'.isSome = true ∧ Books true true ⟨true, v', true⟩ t) w := by
  refine wp_netw_bind.mpr (wp_returns (a := none) (P := Books true true ⟨true, v, true⟩)
    (wp_failure.mpr
      (wp_mapError.mpr (wp_post (books_start hr _ _ _ hw.2.parses hw fun _ => id) ?_)))
    ?_)
  · rintro x t (⟨rfl, -, ht⟩ | ⟨-, hnone, -⟩)
    · exact ⟨rfl, ht⟩
    · exact absurd (hnone hready ▸ hv) (by decide)
  · exact fun t ht => wp_pure.mpr ⟨_, rfl, rfl, v, hv, ht⟩

/-- With the kill switch on, the VPN is stopped and started again. -/
theorem books_rebuildTunnels (hv : v.isSome = true) {isMeshStarted : Bool}
    (hw : Books true true ⟨true, v, true⟩ w) (hmesh : w.netw.isMeshnetSet = isMeshStarted) :
    wp (rebuildTunnels true isMeshStarted) r any (fun x t =>
      ∃ errs, x = .ok errs ∧ errs.1 = none ∧
        ∃ v', v'.isSome = true ∧ Books true true ⟨true, v', true⟩ t) w := by
  have hflag := meshFlag_upkeep (r := r) isMeshStarted
  unfold rebuildTunnels
  rw [if_pos rfl, if_pos rfl]
  refine wp_ask_bind.mpr ?_
  refine wp_returns (a := none) (P := fun t => (∃ v', v'.isSome = true ∧
    Books true true ⟨false, v', false⟩ t) ∧ t.netw.isMeshnetSet = isMeshStarted) (wp_failure.mpr
      (wp_mapError.mpr (wp_post (wp_both (books_stop hr hv (books_quiet.quiet (w := w) rfl rfl hw))
        (hflag.keeps_stop _ hmesh)) ?_))) ?_
  · rintro x t ⟨⟨rfl, ht⟩, hflag⟩
    exact ⟨rfl, ht, hflag⟩
  rintro t ⟨⟨v', hv', ht⟩, hflag⟩
  rw [if_neg (by decide)]
  cases isMeshStarted with
  | true =>
    refine wp_ask_bind.mpr ?_
    refine wp_yields (P := fun _ u => Books true true ⟨false, v', false⟩ u ∧ MeshReady u)
      (wp_failure.mpr
        (wp_post (books_remesh hr _ (books_quiet.quiet (w := t) rfl rfl ht) hflag) ?_))
      fun meshErr u hu => books_startAgain hr hv' meshErr hu.1 hu.2
    exact fun _ _ h => ⟨_, rfl, h⟩
  | false => exact books_startAgain hr hv' none ht (.off hflag)

theorem books_recreateTunnels (hv : v.isSome = true) {isMeshStarted : Bool}
    (hw : Books true ks ⟨true, v, true⟩ w) (hmesh : w.netw.isMeshnetSet = isMeshStarted) :
    wp (recreateTunnels true isMeshStarted) r any (fun _ t =>
      ∃ v', v'.isSome = true ∧ Books true ks ⟨true, v', true⟩ t) w := by
  refine wp_netw_bind.mpr ?_
  rw [hw.2.isKillSwitchSet]
  cases ks with
  | true =>
    exact wp_yields (books_rebuildTunnels hr hv hw hmesh) fun _ t ht => keeps_joinErrors _ _ t ht.2
  | false =>
    -- the kill switch is borrowed
    have hflag := meshFlag_upkeep (r := r) isMeshStarted
    refine wp_returns (a := none) (P := fun t => Books true true ⟨true, v, true⟩ t ∧
      t.netw.isMeshnetSet = isMeshStarted) (wp_failure.mpr (wp_post (wp_both
        (books_setKillSwitch hr hw.2.parses hw)
          (hflag.keeps_setKillSwitch _ trivial w hmesh)) ?_)) ?_
    · rintro x t ⟨⟨rfl, ht⟩, hflag⟩
      exact ⟨rfl, ht, hflag⟩
    rintro t ⟨ht, hflag⟩
    rw [if_neg (by decide)]
    refine wp_yields (books_rebuildTunnels hr hv ht hflag) ?_
    rintro ⟨_, meshErr⟩ u ⟨rfl, v', hv', hu⟩
    exact wp_keeps (wp_failure.mpr (wp_post (books_unsetKillSwitch hr hu rfl)
      fun _ _ h => ⟨v', hv', h.2⟩)) fun _ => keeps_joinErrors _ _

end

/-! ### Runs -/

/-- The books of a state: without a VPN the network is left to the kill switch, and with
one it is set and the tunnel is up. -/
def Balanced (w : World) : Prop :=
  ∃ ks v, Books ks ks ⟨false, v, false⟩ w ∨ v.isSome = true ∧ Books true ks ⟨true, v, true⟩ w

namespace Balanced

theorem off (hw : Balanced w) (h : w.netw.isVpnSet = false) :
    ∃ ks v, Books ks ks ⟨false, v, false⟩ w := by
  obtain ⟨ks, v, hw | ⟨-, hw⟩⟩ := hw
  · exact ⟨ks, v, hw⟩
  · exact absurd (hw.isVpnSet.symm.trans h) (by simp)

theorem on (hw : Balanced w) (h : w.netw.isVpnSet = true) :
    ∃ ks v, v.isSome = true ∧ Books true ks ⟨true, v, true⟩ w := by
  obtain ⟨ks, v, hw | hw⟩ := hw
  · exact absurd (hw.isVpnSet.symm.trans h) (by simp)
  · exact ⟨ks, v, hw⟩

variable {r : Env}

/-- Without a VPN the tunnel is down. -/
theorem isConnected (hw : Balanced w) (h : w.netw.isVpnSet = false) :
    w.isConnected r = false := by
  obtain ⟨ks, v, hw⟩ := hw.off h
  simp [World.isConnected, hw.tunnelUp]

theorem isVpnSet_of_tunnelUp (hw : Balanced w) (h : w.tunnelUp = true) :
    w.netw.isVpnSet = true := by
  refine Bool.eq_true_of_not_eq_false fun hoff => ?_
  obtain ⟨ks, v, hw⟩ := hw.off hoff
  exact absurd (hw.tunnelUp.symm.trans h) (by simp)

/-- With a VPN whose tunnel has not dropped the client is connected. -/
theorem isConnected_of_isVpnSet (hw : Balanced w) (h : w.netw.isVpnSet = true)
    (hdrop : ∀ n, r.tunnelDropped n = false) : w.isConnected r = true := by
  obtain ⟨ks, v, hv, hw⟩ := hw.on h
  simp [World.isConnected, hw.tunnelUp, hdrop, hw.hasVpn hv]

end Balanced

theorem balanced_quiet : QuietInvariant any Balanced :=
  ⟨fun _ _ => trivial, fun hcore hlink ⟨ks, v, hw⟩ => ⟨ks, v, hw.imp (books_quiet.quiet hcore hlink)
    fun hw => ⟨hw.1, books_quiet.quiet hcore hlink hw.2⟩⟩⟩

section

variable {r : Env}

theorem balanced_keeps {m : Netw Unit}
    (h : ∀ set ks l, Keeps r any (Books set ks l) m) :
    Keeps r any Balanced m := by
  rintro w ⟨ks, v, hw | ⟨hv, hw⟩⟩
  · exact wp_post (h _ _ _ w hw) fun _ _ ht => ⟨ks, v, .inl ht⟩
  · exact wp_post (h _ _ _ w hw) fun _ _ ht => ⟨ks, v, .inr ⟨hv, ht⟩⟩

variable (hr : r.Succeeds)
include hr

theorem balanced_refreshVPN (hw : Balanced w) : wp refreshVPN r any (fun _ t => Balanced t) w := by
  have hflag := meshFlag_upkeep (r := r) w.netw.isMeshnetSet
  obtain ⟨ks, v, hw | ⟨hv, hw⟩⟩ := hw
  · have hvpn : w.netw.isVpnSet = false := hw.isVpnSet
    have hremesh (ip : Addr) : Keeps r any (Books ks ks ⟨false, v, false⟩) (remesh ip) :=
      (books_peerUpkeep hr).keeps_remesh (books_meshUpkeep hr) ip
    refine wp_refreshVPN books_quiet (fun t ht => ⟨ks, v, .inl ht⟩) hw
      (fun hon => absurd (hvpn.symm.trans hon) (by decide)) fun t ht => wp_netw_bind.mpr ?_
    rw [hvpn, Bool.false_and, if_neg (by decide)]
    have hrebuild : Keeps r any (Books ks ks ⟨false, v, false⟩)
        (rebuildTunnels false w.netw.isMeshnetSet) :=
      keeps_rebuildTunnels books_quiet nofun (fun _ => hremesh) nofun
    exact wp_post ((hrebuild.seq <| keeps_joinErrors _ _) t ht) fun _ _ h => ⟨ks, v, .inl h⟩
  · have hvpn : w.netw.isVpnSet = true := hw.isVpnSet
    have hreset : Keeps r any (Books true ks ⟨true, v, true⟩) resetAllowlist :=
      fun t ht => wp_post (books_resetAllowlist hr ht) fun _ _ h => h.2
    refine wp_refreshVPN (books_quiet.and hflag.toQuietInvariant)
      (fun t ht => ⟨ks, v, .inr ⟨hv, ht.1⟩⟩) ⟨hw, rfl⟩
      (fun _ => hreset.and hflag.resetAllowlist) fun t ht => ?_
    rw [hvpn]
    exact wp_post (books_recreateTunnels hr hv ht.1 ht.2) fun _ _ ⟨v', hv', h⟩ =>
      ⟨ks, v', .inr ⟨hv', h⟩⟩

/-- A start keeps the books, and a successful one leaves the network set. -/
theorem balanced_apiStart {creds : Credentials} {serverData : ServerData} {a : Allowlist}
    {nameservers : List String} {enableLocalTraffic : Bool} (ha : a.Parses) (hw : Balanced w)
    (hdns : w.netw.isVpnSet = false → w.netw.isNetworkSet = true → a.allowsDNS = true →
      w.netw.allowlist.allowsDNS = true) :
    wp (Api.start creds serverData a nameservers enableLocalTraffic) r any
      (fun x t => Balanced t ∧ (x = .ok () → t.netw.isNetworkSet = true)) w := by
  obtain ⟨ks, v, hw | ⟨hv, hw⟩⟩ := hw
  · have hup : w.tunnelUp = false := hw.tunnelUp
    refine wp_apiStart (fun t hup' => absurd hup' (by simp [World.isConnected, hup]))
      fun t _ hcore hlink => ?_
    have ht := hw.relink hcore (hlink.trans hw.2.link)
    refine wp_post (books_start hr creds serverData nameservers ha ht fun hks => ?_) ?_
    · rw [show t.netw.allowlist = w.netw.allowlist from congrArg Core.allowlist hcore]
      exact hdns (hw.isVpnSet) (hw.2.isNetworkSet.trans hks)
    · rintro x u (⟨-, hv, hu⟩ | ⟨hx, -, hu⟩)
      · exact ⟨⟨ks, v, .inr ⟨hv, hu⟩⟩, fun _ => hu.2.isNetworkSet⟩
      · exact ⟨⟨ks, v, .inl hu⟩, fun h => absurd h hx⟩
  · refine wp_apiStart (fun t _ hcore hlink => ?_) fun t _ hcore hlink => ?_
    · refine wp_post (books_restart hr hv _ _ _ (hw.relink hcore (hlink.trans hw.2.link))) ?_
      rintro _ _ ⟨v', hv', h⟩
      exact ⟨⟨ks, v', .inr ⟨hv', h⟩⟩, fun _ => h.2.isNetworkSet⟩
    · -- the tunnel dropped: the VPN is started already
      have ht := hw.relink hcore (hlink.trans hw.2.link)
      have hvpn : t.netw.isVpnSet = true := ht.isVpnSet
      refine wp_netw_bind.mpr ?_
      rw [if_pos hvpn]
      exact wp_fail.mpr ⟨⟨ks, v, .inr ⟨hv, ht⟩⟩, fun h => by cases h⟩

theorem balanced_apiStop (hw : Balanced w) : wp Api.stop r any (fun _ t => Balanced t) w := by
  refine wp_netw_bind.mpr (wp_when.mpr ⟨fun hvpn => ?_, fun _ => hw⟩)
  obtain ⟨ks, v, hv, hw⟩ := hw.on hvpn
  refine wp_keeps (wp_tolerate.mpr (wp_post (books_stop hr hv hw) ?_)) fun _ =>
    keeps_setNetw_quiet balanced_quiet (fun _ => rfl) fun _ => rfl
  rintro x t ⟨-, v', -, ht⟩
  exact ⟨ks, v', .inl ht⟩

theorem balanced_setKillSwitch {a : Allowlist} (ha : a.Parses) (hw : Balanced w) :
    wp (setKillSwitch a) r any (fun _ t => Balanced t) w := by
  obtain ⟨ks, v, hw | ⟨hv, hw⟩⟩ := hw
  · exact wp_post (books_setKillSwitch hr ha hw) fun _ _ h => ⟨true, v, .inl h.2⟩
  · exact wp_post (books_setKillSwitch hr ha hw) fun _ _ h => ⟨true, v, .inr ⟨hv, h.2⟩⟩

theorem balanced_unsetKillSwitch (hw : Balanced w) :
    wp unsetKillSwitch r any (fun _ t => Balanced t) w := by
  obtain ⟨ks, v, hw | ⟨hv, hw⟩⟩ := hw
  · exact wp_post (books_unsetKillSwitch hr hw rfl) fun _ _ h => ⟨false, v, .inl h.2⟩
  · exact wp_post (books_unsetKillSwitch hr hw rfl) fun _ _ h => ⟨false, v, .inr ⟨hv, h.2⟩⟩

theorem balanced_apiReconnect (stateIsUp : Bool) : Keeps r any Balanced (Api.reconnect stateIsUp) :=
  keeps_netw.seq <| (keeps_disableIPv6IfNeeded balanced_quiet).ignore.guard.seq <|
    Keeps.when fun _ =>
      Keeps.ignore fun _ => balanced_refreshVPN hr

theorem balanced_apiSetAllowlist {a : Allowlist} (ha : a.Parses) :
    Keeps r any Balanced (Api.setAllowlist a) := by
  refine balanced_keeps fun set ks l w hw => wp_netw_bind.mpr ?_
  rw [hw.2.isNetworkSet]
  refine wp_keeps (wp_when.mpr ⟨fun hset => ?_, fun _ => hw⟩) fun _ => keeps_call books_quiet _ rfl
  subst hset
  exact wp_post (books_replaceAllowlist hr ha hw) fun _ _ h => h.2

end

/-- The steps that keep the books: every call succeeds, the allowlist's subnets are
CIDRs, and no VPN is started over a network that denies DNS with an allowlist that
does not. -/
def BookSafe (w : World) (i : Step) : Prop :=
  i.env.Succeeds ∧ i.op.Lists Allowlist.Parses ∧
    match i.op with
    | .start _ _ allowlist _ _ => w.isConnected i.env = true ∨ (w.netw.isNetworkSet = true →
        allowlist.allowsDNS = true → w.netw.allowlist.allowsDNS = true)
    | .stop | .setKillSwitch _ | .unsetKillSwitch | .setAllowlist _ | .setLanDiscovery _
    | .setMesh .. | .refresh _ | .unSetMesh | .reconnect _ => True
    | _ => False

theorem balanced_step {w : World} {i : Step} (hw : Balanced w) (hi : BookSafe w i) :
    Balanced (w.step i) := by
  obtain ⟨op, r⟩ := i
  obtain ⟨hr, hlist, hsafe⟩ := hi
  cases op with
  | start =>
    refine (balanced_apiStart hr hlist hw fun hvpn => ?_).2.1
    exact hsafe.resolve_left (by simp [hw.isConnected hvpn])
  | stop => exact (balanced_apiStop hr hw).2
  | setKillSwitch a => exact (balanced_setKillSwitch hr hlist hw).2
  | unsetKillSwitch => exact (balanced_unsetKillSwitch hr hw).2
  | setAllowlist a => exact (balanced_apiSetAllowlist hr hlist w hw).2
  | setLanDiscovery enabled =>
    exact (((keeps_setNetw_quiet balanced_quiet (fun _ => rfl) fun _ => rfl).seq <|
      keeps_netw.seq <| (keeps_setupRoutingRules balanced_quiet _ _).ignore.guard.seq <|
          (keeps_call balanced_quiet _ rfl).ignore) w hw).2
  | setMesh cfg self privateKey =>
    exact (balanced_keeps (fun _ _ _ => (books_peerUpkeep hr).keeps_setMesh (books_meshUpkeep hr)
      self privateKey trivial) w hw).2
  | refresh cfg =>
    exact (balanced_keeps (fun _ _ _ => (books_peerUpkeep hr).keeps_refresh (books_meshUpkeep hr)
      trivial) w hw).2
  | unSetMesh =>
    exact (((keeps_setNetw_quiet balanced_quiet (fun _ => rfl) fun _ => rfl).seq <|
      balanced_keeps fun _ _ _ => (books_peerUpkeep hr).keeps_unSetMesh
        (books_meshUpkeep hr)) w hw).2
  | reconnect stateIsUp => exact (balanced_apiReconnect hr stateIsUp w hw).2
  | _ => exact hsafe.elim

theorem balanced_newCombined (vpnet : Option Vpn) (fwmark : Nat)
    (lanDiscovery firewallEnabled : Bool) :
    Balanced (newCombined vpnet fwmark lanDiscovery firewallEnabled) :=
  ⟨false, vpnet, .inl ⟨tracks_newCombined _ _ _ _, rfl, rfl, rfl, nofun, nofun, nofun, nofun⟩⟩

/-- **The flag of a set network.** In every run in which every call succeeds, subnets
parse, and no VPN is started over a network that denies DNS with an allowlist that does
not, in every state reached the network is set exactly if the VPN or the kill switch
is, and a network that is not set has left no rule in memory. -/
theorem network_set_bookkeeping {vpnet : Option Vpn} {fwmark : Nat}
    {lanDiscovery firewallEnabled : Bool} {w : World}
    (h : World.Reached BookSafe (newCombined vpnet fwmark lanDiscovery firewallEnabled) w) :
    (w.netw.isNetworkSet = true ↔ w.netw.isVpnSet = true ∨ w.netw.isKillSwitchSet = true) ∧
      (w.netw.isNetworkSet = false → ∀ n ∈ ["api_allowlist", "drop", "drop-fw",
        "allowlist_subnets", "allowlist_subnets_forward", "allowlist_ports_tcp",
        "allowlist_ports_udp", "deny-private-dns"], n ∉ w.names) := by
  obtain ⟨ks, v, hw⟩ : Balanced w :=
    h.invariant (balanced_newCombined _ _ _ _) fun _ _ => balanced_step
  obtain ⟨set, l, hset, hw⟩ : ∃ set l, set = (l.isVpnSet || ks) ∧ Books set ks l w :=
    hw.elim (fun hw => ⟨_, _, rfl, hw⟩) fun hw => ⟨_, _, rfl, hw.2⟩
  have hvpn : w.netw.isVpnSet = l.isVpnSet := hw.isVpnSet
  rw [hw.2.isNetworkSet, hw.2.isKillSwitchSet, hvpn]
  refine ⟨by rw [hset, Bool.or_eq_true], fun hoff n hn => hw.2.clear hoff n ?_⟩
  exact (by decide : _ ⊆ networkNames) hn

theorem network_set_bookkeeping_after_stop :
    let w₀ := newCombined (some ⟨"nordlynx", true⟩) 0xe1f1 false true
    let start : Step := ⟨.start {} { ip := .ofBytes 1 2 3 4 } {} [] true, Env.working []⟩
    let mesh : Step := ⟨.setMesh sampleMachine (.ofBytes 100 64 0 2) "key", Env.working []⟩
    let w := ((w₀.step start).step mesh).step ⟨.stop, Env.working []⟩
    "drop" ∈ ((w₀.step start).step mesh).names ∧ "drop" ∉ w.names := by
  intro w₀ start mesh w
  have hstart : BookSafe w₀ start :=
    ⟨Env.working_succeeds [], nofun, .inr fun h => absurd h (by decide)⟩
  have hmesh : BookSafe (w₀.step start) mesh := ⟨Env.working_succeeds [], trivial, trivial⟩
  have hstop : BookSafe ((w₀.step start).step mesh) ⟨.stop, Env.working []⟩ :=
    ⟨Env.working_succeeds [], trivial, trivial⟩
  exact ⟨by decide, (network_set_bookkeeping (.tail _ (.tail _ (.tail _ .refl hstart) hmesh)
    hstop)).2 (by decide) "drop" (by decide)⟩

/-- The kill switch denies DNS. The VPN is then started with port 53 allowlisted, while
the devices have changed, so the rule for the API is replaced and the new allowlist
comes into force. The rule against DNS leaks survives both the kill switch and the
VPN. -/
theorem deny_rule_left_behind :
    let w₀ := newCombined (some ⟨"nordlynx", true⟩) 0xe1f1 false true
    let dns : Allowlist := { ports := { udp := [53] } }
    let eth := Env.working [{ name := "eth0" }]
    let w₁ := w₀.step ⟨.setKillSwitch {}, Env.working []⟩
    let w₂ := w₁.step ⟨.start {} { ip := .ofBytes 1 2 3 4 } dns [] true, eth⟩
    let w := (w₂.step ⟨.unsetKillSwitch, eth⟩).step ⟨.stop, eth⟩
    w.netw.isNetworkSet = false ∧ w.netw.isVpnSet = false ∧ "deny-private-dns" ∈ w.names := by
  decide

end NordVPN.Networker
