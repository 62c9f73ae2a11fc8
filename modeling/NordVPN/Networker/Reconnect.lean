import NordVPN.Networker.KillSwitch

/-!
`Reconnect` never exposes the host.

While the tunnels are created again, `refreshVPN` borrows the kill switch, so that
neither `stop` nor the recovery of a failed `start` takes the blocking rules away. It
is given back at the end: by clearing the flag if the VPN failed, and otherwise by
`unsetKillSwitch`, which leaves the network alone because the VPN is set.
-/

namespace NordVPN.Networker

open NordVPN.Netip Prog

/-- Traffic is blocked: the network is set and both blocking rules are in memory. -/
def Blocking (w : World) : Prop :=
  w.netw.isNetworkSet = true ∧ "drop" ∈ w.names ∧ "drop-fw" ∈ w.names

/-- Traffic is blocked, with the kill switch on or off. -/
def BlockingWith (b : Bool) (w : World) : Prop := Blocking w ∧ w.netw.isKillSwitchSet = b

theorem blockingWith_property (b : Bool) : KillSwitchProperty (BlockingWith b) where
  stays := fun ⟨⟨hset, hdrop, hfw⟩, hks⟩ hset' hks' hnames =>
    ⟨⟨hset'.trans hset, (hnames _ (by decide)).mpr hdrop, (hnames _ (by decide)).mpr hfw⟩,
      hks'.trans hks⟩

/-- Blocked, and no blocking rule is tracked as a meshnet rule. -/
abbrev Shielded (b : Bool) : World → Prop := Guarded (BlockingWith b)

section Shielded

variable {b : Bool} {r : Env}

theorem shielded_core : CoreInvariant (Shielded b) (Shielded b) :=
  guarded_core (blockingWith_property b)

theorem shielded_rules : RuleUpkeep r (Shielded b) (Shielded b) any :=
  guarded_ruleUpkeep (blockingWith_property b)

theorem shielded_mesh : MeshUpkeep r (Shielded b) (Shielded b) (Shielded b) any :=
  guarded_meshUpkeep (blockingWith_property b)

/-- `Add` takes nothing away. -/
theorem shielded_fwAdd (rs : List Rule) : Keeps r (Shielded b) (Shielded b) (fwAdd rs) := by
  rintro w ⟨⟨⟨hset, hdrop, hfw⟩, hks⟩, huntracked⟩
  have hkeep : Keeps r.agent _ _ (Firewall.add rs) := Firewall.keeps_add
    (I := fun mem => "drop" ∈ mem.names ∧ "drop-fw" ∈ mem.names)
    fun mem rule hn _ hmem => by
      rw [OrderedRules.mem_names_put, OrderedRules.mem_names_put]
      exact ⟨.inl hmem.1, .inl hmem.2⟩
  exact wp_zoom.mpr (wp_mono (hkeep w.fw ⟨hdrop, hfw⟩)
    (fun _ ht => ⟨⟨⟨hset, ht⟩, hks⟩, huntracked⟩) fun _ _ ht => ⟨⟨⟨hset, ht⟩, hks⟩, huntracked⟩)

theorem shielded_setNetwork (allowlist : Allowlist) :
    Keeps r (Shielded b) (Shielded b) (setNetwork allowlist) :=
  keeps_setNetwork shielded_core.toQuiet (fun rs _ => shielded_fwAdd rs)
    (shielded_rules.keeps_setAllowlist allowlist) fun _ hw => ⟨⟨⟨rfl, hw.1.1.2⟩, hw.1.2⟩, hw.2⟩

/-- With the kill switch on, nothing asks for the network to be unset. -/
theorem shielded_unsetNetwork (w : World) (hw : Shielded true w)
    (h : w.netw.isKillSwitchSet = false) :
    wp unsetNetwork r (Shielded true) (fun _ t => Shielded true t) w :=
  absurd (hw.1.2.symm.trans h) (by decide)

theorem shielded_start (creds : Credentials) (serverData : ServerData) (allowlist : Allowlist)
    (nameservers : List String) :
    Keeps r (Shielded true) (Shielded true) (start creds serverData allowlist nameservers) :=
  keeps_start shielded_core shielded_unsetNetwork shielded_rules.ipv6 _ _ _
    (fun w hw => keeps_configureFirewall (shielded_setNetwork _ w hw)
      shielded_rules.keeps_resetAllowlist)
    fun w hw _ => shielded_rules.keeps_refresh shielded_mesh trivial w hw

theorem shielded_rebuildTunnels (isVPNStarted isMeshStarted : Bool) :
    Keeps r (Shielded true) (Shielded true) (rebuildTunnels isVPNStarted isMeshStarted) :=
  keeps_rebuildTunnels shielded_core.toQuiet
    (fun _ => keeps_stop shielded_core shielded_unsetNetwork)
    (fun _ => shielded_rules.keeps_remesh shielded_mesh) fun _ w _ _ _ hw =>
      shielded_start _ _ _ _ w hw

end Shielded

/-! ### Giving the kill switch back -/

variable {w : World}

section

variable {r : Env}

/-- The VPN is set after a successful `start`. -/
theorem start_isVpnSet (creds : Credentials) (serverData : ServerData) (allowlist : Allowlist)
    (nameservers : List String) : Attains r any (fun t => t.netw.isVpnSet = true)
      (start creds serverData allowlist nameservers) :=
  attains_start <| .skip <| .skip <| .skip <| .skip <| .skip <| .assign fun _ _ => rfl

/-- `rebuildTunnels` returns its errors as values, and if it has none of the VPN, the
VPN is set. -/
theorem rebuildTunnels_isVpnSet (isMeshStarted : Bool) (w : World) :
    wp (rebuildTunnels true isMeshStarted) r any
      (fun x t => ∃ errs, x = .ok errs ∧ (errs.1 = none → t.netw.isVpnSet = true)) w := by
  refine ((neverFails_ask _ _).ite (NeverFails.pure _)).next fun _ w => ?_
  refine ((neverFails_failure _).ite (NeverFails.pure _)).next fun vpnErr w => ?_
  refine wp_ite.mpr ⟨fun hsome => wp_pure.mpr ⟨_, rfl, fun hnone => ?_⟩, fun _ => ?_⟩
  · simp [show vpnErr = none from hnone] at hsome
  refine ((neverFails_ask _ _).ite (NeverFails.pure _)).next fun _ w => ?_
  refine ((neverFails_failure _).ite (NeverFails.pure _)).next fun _ w => ?_
  refine wp_netw_bind.mpr (wp_seq
    (P := fun x t => ∃ e, x = .ok e ∧ (e = none → t.netw.isVpnSet = true)) ?_ ?_ ?_)
  · refine wp_failure.mpr (wp_mapError.mpr (wp_post (start_isVpnSet _ _ _ _ w trivial) fun x t ht =>
      ⟨_, rfl, fun hx => ?_⟩))
    cases x with
    | ok u => exact ht u rfl
    | error e => exact nomatch hx
  · rintro vpnErr t ⟨e, he, ht⟩
    obtain rfl : vpnErr = e := Except.ok.inj he
    exact wp_pure.mpr ⟨_, rfl, ht⟩
  · rintro _ _ ⟨_, h, _⟩
    cases h

/-- A borrowed kill switch is given back, and the rules stay. -/
theorem returnKillSwitch_shielded {vpnErr : Option Error} (hw : Shielded true w)
    (hvpn : vpnErr = none → w.netw.isVpnSet = true) :
    wp (returnKillSwitch vpnErr) r Blocking (fun _ t => Shielded false t) w := by
  have hoff : Shielded false (w.withNetw fun c => { c with isKillSwitchSet := false }) :=
    ⟨⟨hw.1.1, rfl⟩, hw.2⟩
  refine wp_ite.mpr ⟨fun _ => ?_, fun hnone => ?_⟩
  · exact wp_keeps (wp_setNetw.mpr ⟨hoff.1.1, hoff⟩) fun _ => Keeps.pure _
  · have hset := hvpn (by simpa using hnone)
    refine wp_failure.mpr (wp_netw_bind.mpr (wp_next (P := fun t => t = w)
      (wp_when.mpr ⟨fun h => ?_, fun _ => ⟨rfl, rfl⟩⟩) ?_))
    · simp [hset] at h
    · rintro t rfl
      exact wp_setNetw.mpr ⟨hoff.1.1, hoff⟩

/-- Creating the tunnels again, with the VPN started. -/
theorem recreateTunnels_shielded {b : Bool} (isMeshStarted : Bool) (hw : Shielded b w) :
    wp (recreateTunnels true isMeshStarted) r Blocking (fun _ t => Shielded b t) w := by
  have hblocking {c : Bool} (t : World) (ht : Shielded c t) : Blocking t := ht.1.1
  have hbuild : Keeps r Blocking (Shielded true) (rebuildTunnels true isMeshStarted) :=
    (shielded_rebuildTunnels true isMeshStarted).weaken hblocking
  refine wp_netw_bind.mpr ?_
  rw [hw.1.2]
  cases b with
  | true =>
    rw [if_neg (by decide)]
    exact (hbuild.seq <| keeps_joinErrors _ _) w hw
  | false =>
    rw [if_pos (by decide)]
    -- the network is set, so borrowing the kill switch only sets its flag
    have hborrow : wp (setKillSwitch w.netw.allowlist) r Blocking
        (fun x t => x = .ok () ∧ Shielded true t) w := by
      refine wp_netw_bind.mpr (wp_next (P := fun t => t = w)
        (wp_when.mpr ⟨fun h => ?_, fun _ => ⟨rfl, rfl⟩⟩) ?_)
      · simp [hw.1.1.1] at h
      · rintro t rfl
        exact wp_setNetw.mpr ⟨hw.1.1, rfl, ⟨hw.1.1, rfl⟩, hw.2⟩
    refine wp_returns (a := none) (P := Shielded true)
      (wp_failure.mpr (wp_post hborrow ?_)) ?_
    · rintro x t ⟨rfl, ht⟩
      exact ⟨rfl, ht⟩
    intro t ht
    rw [if_neg (by decide)]
    refine wp_seq (wp_mono (wp_and (hbuild t ht) (rebuildTunnels_isVpnSet isMeshStarted t))
      (fun _ h => h.1) fun _ _ h => h) ?_ ?_
    · rintro errs u ⟨hu, _, ⟨⟩, hvpn⟩
      exact wp_keeps (returnKillSwitch_shielded hu hvpn) fun _ => keeps_joinErrors _ _
    · rintro _ _ ⟨_, _, h, _⟩
      cases h

theorem refreshVPN_shielded {b : Bool} (hw : Shielded b w) (hvpn : w.netw.isVpnSet = true) :
    wp refreshVPN r Blocking (fun _ t => Shielded b t) w := by
  have hblocking (t : World) (ht : Shielded b t) : Blocking t := ht.1.1
  refine wp_refreshVPN (shielded_core.toQuiet.weaken hblocking) (fun _ h => h) hw
    (fun _ => shielded_rules.keeps_resetAllowlist.weaken hblocking) ?_
  rw [hvpn]
  exact fun t ht => recreateTunnels_shielded _ ht

theorem reconnect_shielded {b : Bool} (hw : Shielded b w) (hvpn : w.netw.isVpnSet = true) :
    wp (Api.reconnect true) r Blocking (fun _ t => Shielded b t) w := by
  have hquiet : QuietInvariant Blocking fun t => Shielded b t ∧ t.netw.isVpnSet = true :=
    ⟨fun t ht => ht.1.1.1, fun h l ht =>
      ⟨shielded_core.stays h ht.1, (congrArg Link.isVpnSet l).trans ht.2⟩⟩
  refine wp_netw_bind.mpr (wp_seq
    ((keeps_disableIPv6IfNeeded hquiet).ignore.guard w ⟨hw, hvpn⟩)
    (fun _ t ht => ?_) fun _ _ ht => ht.1)
  exact wp_when.mpr ⟨fun _ => wp_ignore.mpr (refreshVPN_shielded ht.1 ht.2), nofun⟩

end

/-! ### Reachable states -/

theorem trivial_property : KillSwitchProperty fun _ => True := ⟨fun _ _ _ _ => trivial⟩

theorem untracked_firewall {r : Env} (m : Fw Unit) :
    Keeps r (Guarded fun _ => True) (Guarded fun _ => True) (firewall m) := fun _ hw =>
  wp_zoom.mpr (wp_mono wp_true (fun _ _ => ⟨trivial, hw.2⟩) fun _ _ _ => ⟨trivial, hw.2⟩)

theorem untracked_upkeep (r : Env) :
    Upkeep r (Guarded fun _ => True) (Guarded fun _ => True) any any := by
  have hcore := guarded_core trivial_property
  have hrules : RuleUpkeep r _ _ _ := guarded_ruleUpkeep trivial_property
  refine hrules.upkeep hcore (fun _ => ?_) ?_ fun _ _ hw => ⟨trivial, hw.2⟩
  · exact keeps_setNetwork hcore.toQuiet (fun _ _ => untracked_firewall _)
      (hrules.keeps_setAllowlist _) fun _ hw => ⟨trivial, hw.2⟩
  · exact keeps_unsetNetwork hcore.toQuiet (fun _ _ => untracked_firewall _)
      hrules.keeps_unsetAllowlist fun _ hw => ⟨trivial, hw.2⟩

/-- Whatever fails, no run makes a blocking rule a tracked one. -/
theorem untracked_reached {cond : World → Step → Prop} {vpnet : Option Vpn} {fwmark : Nat}
    {lanDiscovery firewallEnabled : Bool}
    (h : World.Reached cond (newCombined vpnet fwmark lanDiscovery firewallEnabled) w) :
    Untracked w :=
  (h.invariant (I := Guarded fun _ => True) ⟨trivial, nofun⟩ fun _ i hw _ =>
    Upkeep.step (untracked_upkeep i.env) (fun _ => guarded_meshUpkeep trivial_property)
      i.op.allows_any i.op.lists_any (fun _ _ _ => trivial) hw).2

/-- **No exposure during a tunnel refresh.** In every reachable state the blocking
rules are not tracked as meshnet rules; and from every such state with the VPN and
the network set and both blocking rules in memory, whatever fails, `Reconnect` keeps
the network set and both rules in memory at every step and at the end, and leaves
the kill switch as it was. -/
theorem reconnect_keeps_blocking :
    (∀ (vpnet : Option Vpn) (fwmark : Nat) (lanDiscovery firewallEnabled : Bool) (w : World),
      World.Reached (fun _ _ => True) (newCombined vpnet fwmark lanDiscovery firewallEnabled) w →
        Untracked w) ∧
    ∀ (r : Env) (w : World), Untracked w → w.netw.isVpnSet = true → Blocking w →
      (∀ t ∈ ((Op.reconnect true).exec r w).visited, Blocking t) ∧
      Blocking (w.step ⟨.reconnect true, r⟩) ∧
      (w.step ⟨.reconnect true, r⟩).netw.isKillSwitchSet = w.netw.isKillSwitchSet := by
  refine ⟨fun _ _ _ _ w h => untracked_reached h, fun r w huntracked hvpn hblocking => ?_⟩
  obtain ⟨hvisited, hfinal⟩ := reconnect_shielded (r := r)
    (b := w.netw.isKillSwitchSet) ⟨⟨hblocking, rfl⟩, huntracked⟩ hvpn
  exact ⟨hvisited, hfinal.1.1, hfinal.1.2⟩

/-- A new interface appears and the VPN cannot be started again. -/
def newInterfaceEnv : Env :=
  { Env.working [] with
    defaultRoutes := fun _ => ["eth1"]
    fails := fun _ c => match c with
      | .vpnStart _ _ => true
      | _ => false }

theorem reconnect_keeps_blocking_failed_start :
    let w := (newCombined (some ⟨"nordlynx", true⟩) 0xe1f1 false true).step
      ⟨.start {} { ip := .ofBytes 1 2 3 4 } {} [] true, Env.working []⟩
    let t := w.step ⟨.reconnect true, newInterfaceEnv⟩
    w.netw.isVpnSet = true ∧ t.netw.isVpnSet = false ∧ Blocking t := by
  refine ⟨by decide, by decide, ?_⟩
  exact (reconnect_keeps_blocking.2 newInterfaceEnv _
    (reconnect_keeps_blocking.1 _ _ _ _ _ (.tail _ .refl trivial)) (by decide)
    ⟨by decide, by decide, by decide⟩).2.1

end NordVPN.Networker
