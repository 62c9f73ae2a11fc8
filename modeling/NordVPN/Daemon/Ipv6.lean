import NordVPN.Daemon.Balance
import NordVPN.Networker.Session

/-!
Blocking IPv6.

`PermitIPv6` sets a flag of the networker, and a connection blocks IPv6 unless the flag is
set. `SetIpv6` only changes the stored setting, so the flag outlives it: the next connection
to a server with an IPv6 address leaves IPv6 as the last one had it.
-/

namespace NordVPN.Networker

open NordVPN.Netip Prog

/-! ### The blocker -/

/-- The calls on the blocker of IPv6. -/
def Call.isIPv6 : Call → Bool
  | .ipv6Block | .ipv6Unblock => true
  | _ => false

/-- The last call on the blocker was `Block`. -/
def World.ipv6Blocked (w : World) : Bool :=
  (w.lastCall fun c => c.1.isIPv6).any fun c => c.1 == .ipv6Block

/-- What the blocker was told last, and what the networker permits. -/
structure IPv6View (blocked enabled : Bool) (w : World) : Prop where
  blocked : w.ipv6Blocked = blocked
  enabled : w.netw.ipv6Enabled = enabled

section View

variable {r : Env} {w : World} {b e : Bool}

theorem ipv6Blocked_block (fails : Bool) : (w.after r .ipv6Block fails).ipv6Blocked = true := by
  rw [World.ipv6Blocked, lastCall_after_of_pos rfl]
  rfl

/-- Only the calls on the blocker are heard. -/
theorem ipv6View_deaf : Deaf (fun c => !c.isIPv6) (IPv6View b e) where
  unheard r fails hc hw := by
    refine ⟨?_, hw.enabled⟩
    rw [World.ipv6Blocked, lastCall_after_of_neg (by simpa using hc)]
    exact hw.blocked
  stays hsession _ hlog hw := by
    refine ⟨?_, (congrArg Session.ipv6Enabled hsession).trans hw.enabled⟩
    rw [World.ipv6Blocked, World.lastCall, hlog]
    exact hw.blocked

theorem ipv6View_ofNetwork : Deaf Call.ofNetwork (IPv6View b e) :=
  ipv6View_deaf.mono fun c hc => by cases c <;> first | rfl | cases hc

theorem ipv6View_ofRefresh : Deaf Call.ofRefresh (IPv6View b e) :=
  ipv6View_deaf.mono fun c hc => by cases c <;> first | rfl | cases hc

/-- What a successful start leaves. -/
def Blocks (b e : Bool) (w : World) : Prop := IPv6View (b || (!e && w.netw.isNetworkSet)) e w

theorem Blocks.withNetw {f : Combined → Combined} (hw : Blocks b e w)
    (hset : (f w.netw).isNetworkSet = w.netw.isNetworkSet)
    (henabled : (f w.netw).ipv6Enabled = w.netw.ipv6Enabled) : Blocks b e (w.withNetw f) := by
  rw [Blocks, World.withNetw_netw, hset]
  exact ⟨hw.blocked, henabled.trans hw.enabled⟩

/-- `DenyIPv6` blocks IPv6 if the network is set. -/
theorem denyIPv6_view (hw : IPv6View b e w) :
    wp denyIPv6 r any (fun _ t => t.netw.isNetworkSet = w.netw.isNetworkSet ∧
      IPv6View (b || w.netw.isNetworkSet) false t) w := by
  refine wp_setNetw_bind.mpr ?_
  refine wp_netw_bind.mpr (wp_when.mpr ⟨fun hset => wp_call.mpr ⟨trivial, rfl, ?_, rfl⟩,
    fun hunset => ⟨rfl, ?_, rfl⟩⟩)
  · rw [ipv6Blocked_block, show w.netw.isNetworkSet = true from hset, Bool.or_true]
  · rw [show w.netw.isNetworkSet = false from hunset, Bool.or_false]
    exact hw.blocked

/-- A connection blocks IPv6 if the network is set and IPv6 is not permitted. -/
theorem disableIPv6IfNeeded_blocks (hw : IPv6View b e w) :
    wp disableIPv6IfNeeded r any (fun _ t => Blocks b e t) w := by
  refine wp_netw_bind.mpr ?_
  rw [hw.enabled]
  refine wp_when.mpr ⟨fun hoff => ?_, fun hon => ?_⟩
  · obtain rfl : e = false := by simpa using hoff
    refine wp_post (denyIPv6_view hw) fun _ t ht => ?_
    rw [Blocks, ht.1]
    exact ht.2
  · obtain rfl : e = true := by simpa using hon
    simpa [Blocks] using hw

/-! ### Starting -/

variable {allowlist : Allowlist} {serverData : ServerData} {nameservers : List String}
  {creds : Credentials}

theorem start_blocks :
    Attains r (IPv6View b e) (Blocks b e) (start creds serverData allowlist nameservers) := by
  have hconfigure {s : ServerData} :
      Attains r (IPv6View b e) (Blocks b e) (configureNetwork allowlist s nameservers) :=
    (ipv6View_ofNetwork.networked.keeps_configureFirewall _).attains <|
      (ipv6View_deaf.keeps_addDefaultRoute rfl fun _ => rfl).attains <|
        (ipv6View_deaf.keeps_configureDNS fun _ _ => rfl).attains <| keeps_netw.attains <|
          (ipv6View_ofRefresh.keeps_refresh _).mapError.guard.attains <|
            .of_post fun _ => disableIPv6IfNeeded_blocks
  exact attains_start <| keeps_netw.attains <| (ipv6View_deaf.keeps_startVpn rfl rfl).attains <|
    (ipv6View_ofNetwork.networked.rules _ _).attains <| hconfigure.seq <|
      Keeps.attains (fun _ ht => wp_ask.mpr ⟨trivial, ipv6View_deaf.unheard r false rfl ht⟩) <|
        .assign fun _ ht => ht.withNetw rfl rfl

theorem view_switchToNextVpn (hw : IPv6View b e w) :
    IPv6View b e (w.withNetw Combined.switchToNextVpn) := by
  refine ⟨hw.blocked, ?_⟩
  rw [World.withNetw_netw, Combined.switchToNextVpn, ← hw.enabled]
  split <;> rfl

theorem restart_blocks :
    Attains r (IPv6View b e) (Blocks b e) (restart creds serverData nameservers) :=
  attains_restart <| (ipv6View_deaf.keeps_call rfl).ignore.attains <|
    (ipv6View_deaf.keeps_call rfl).attains <|
    (Keeps.assign fun _ => view_switchToNextVpn).attains <| keeps_netw.attains <|
    (ipv6View_deaf.keeps_startVpn rfl rfl).attains <|
    (ipv6View_deaf.keeps_addDefaultRoute rfl fun _ => rfl).attains <|
    (ipv6View_deaf.keeps_configureDNS fun _ _ => rfl).attains <|
    (Attains.of_post fun _ hw => wp_ignore.mpr (disableIPv6IfNeeded_blocks hw)).seq <|
    .assign fun _ ht => ht.withNetw rfl rfl

theorem apiStart_blocks {enableLocalTraffic : Bool} :
    Attains r (IPv6View b e) (Blocks b e)
      (Api.start creds serverData allowlist nameservers enableLocalTraffic) :=
  (Keeps.assign fun _ hw => ⟨hw.blocked, hw.enabled⟩).attains <|
    (ipv6View_deaf.keeps_isConnectedToVPN rfl).attains <| restart_blocks.ite start_blocks

end View

end NordVPN.Networker

namespace NordVPN.Daemon

open NordVPN.Netip NordVPN.Networker NordVPN.Servers Prog

/-! ### Connecting -/

/-- After a successful `Connect` with the setting off, IPv6 is blocked if it was before, or if
the network is set and either IPv6 was not permitted or the server has no IPv6 address. -/
theorem connect_view {r : DaemonEnv} {s : Rpc} {server : Server} (hloads : r.loads = true)
    (hoff : s.cfg.ipv6 = false) (hserver : r.selectServer s.cfg = .ok server) :
    wp connect r any (fun x t => x = .ok [.connecting, .connected] →
      t.netw.ipv6Blocked = (s.netw.ipv6Blocked ||
        ((!s.netw.netw.ipv6Enabled || !server.supportsIPv6) && t.netw.netw.isNetworkSet))) s := by
  refine wp_connect (fun _ => nofun) (fun _ => nofun) fun cfg server' hcfg hserver' => ?_
  obtain rfl := hcfg hloads
  obtain rfl : server = server' := Except.ok.inj (hserver.symm.trans hserver')
  refine wp_connectServer (I := fun w => w = s.netw) rfl
    (fun hon => absurd (hoff.symm.trans hon) (by decide)) (fun _ _ _ _ => nofun) ?_
  rintro ip w endpoint rfl - -
  refine wp_connectTo (wp_post (apiStart_blocks.ok ⟨rfl, rfl⟩ ()) ?_)
  intro x w hw
  cases x with
  | error e => exact fun h => absurd h (failed_ne_connected _)
  | ok u =>
    have hview := hw rfl
    refine wp_when.mpr ⟨fun hv4 => wp_ignore.mpr (wp_post (denyIPv6_view hview) ?_),
      fun hv6 _ => ?_⟩
    · rintro _ t ⟨hset, ht⟩ _
      rw [ht.blocked, hset, hv4, Bool.or_true, Bool.true_and]
      cases s.netw.ipv6Blocked <;> cases s.netw.netw.ipv6Enabled <;> simp
    · rw [hview.blocked, hv6, Bool.or_false]

/-- The steps of a run: every call succeeds, the subnets of allowlists are CIDRs, a VPN is not
started over a network that denies DNS with an allowlist that does not, and `Disconnect` does
not find the tunnel of a VPN dropped. -/
def Ipv6Step (s : Rpc) (i : DaemonStep) : Prop :=
  i.env.netw.Succeeds ∧ i.env.loads = true ∧ i.env.saves = true ∧
    match i.event with
    | .settings (.setIpv6 _) => True
    | .settings (.setKillSwitch _ allowlist) => allowlist.Parses
    | .connect => s.cfg.allowlist.Parses ∧ (s.netw.netw.isVpnSet = false →
        s.netw.netw.isNetworkSet = true → s.cfg.allowlist.allowsDNS = true →
          s.netw.netw.allowlist.allowsDNS = true)
    | .disconnect => s.netw.netw.isVpnSet = true → s.netw.isConnected i.env.netw = true
    | _ => False

theorem balanced_ipv6Step {s : Rpc} {i : DaemonStep} (hs : Balanced s.netw) (hi : Ipv6Step s i) :
    Balanced (s.step i).netw := by
  obtain ⟨event, r⟩ := i
  obtain ⟨hr, hloads, -, hsafe⟩ := hi
  cases event with
  | settings request =>
    cases request with
    | setIpv6 enabled => exact (wp_discard (balanced_setIpv6 hs enabled)).2
    | setKillSwitch killSwitch a =>
      exact (wp_discard (balanced_handle_setKillSwitch hs hr hsafe)).2
    | _ => exact hsafe.elim
  | connect =>
    have hconnect := balanced_connect hs hr hloads hsafe.1 hsafe.2
    exact (wp_discard (wp_post hconnect fun _ _ h => h.1)).2
  | disconnect => exact (wp_discard (balanced_disconnect hs hr hsafe)).2
  | networkChange => exact hsafe.elim

/-- **IPv6 is blocked while the setting is off.** In every run of these requests from start-up,
a `Connect` that succeeds with the setting off ends with IPv6 blocked exactly if it was blocked
before, or the flag of an earlier `PermitIPv6` is not set, or the server has no IPv6
address. -/
theorem ipv6_blocked_while_off_iff {vpnet : Option Vpn} {fwmark : Nat}
    {lanDiscovery firewallEnabled : Bool} {s₀ s : Rpc} {r : DaemonEnv} {server : Server}
    (hstart : s₀.netw = newCombined vpnet fwmark lanDiscovery firewallEnabled)
    (hrun : Rpc.Reached Ipv6Step s₀ s) (hstep : Ipv6Step s ⟨.connect, r⟩)
    (hoff : s.cfg.ipv6 = false) (hserver : r.selectServer s.cfg = .ok server)
    (hreply : (connect r s).result = .ok [.connecting, .connected]) :
    (connect r s).final.netw.ipv6Blocked = true ↔
      s.netw.ipv6Blocked = true ∨ s.netw.netw.ipv6Enabled = false ∨
        server.supportsIPv6 = false := by
  have hinit : Balanced s₀.netw := hstart ▸ balanced_newCombined _ _ _ _
  have hs : Balanced s.netw := hrun.invariant hinit fun _ _ => balanced_ipv6Step
  obtain ⟨hr, hloads, -, hparses, hdns⟩ := hstep
  have hset := (balanced_connect hs hr hloads hparses hdns).2.2 hreply
  rw [(connect_view hloads hoff hserver).2 hreply, hset, Bool.and_true]
  simp

/-- A server with an IPv6 address. -/
def ipv6Server : Server := { station := "1.2.3.4", ipRecords := ["1.2.3.4", "2001:db8::1"] }

theorem ipv6_blocked_on_first_connect :
    let s := Rpc.startUp newConfig 0xe1f1
    (connect (.working ipv6Server) s).final.netw.ipv6Blocked = true := by
  intro s
  have hstep : Ipv6Step s ⟨.connect, .working ipv6Server⟩ :=
    ⟨Env.working_succeeds [], rfl, rfl, nofun, fun _ h => nomatch h⟩
  exact (ipv6_blocked_while_off_iff rfl .refl hstep rfl rfl (by decide +kernel)).mpr
    (.inr (.inl rfl))

/-- IPv6 is permitted by a connection and then switched off. The next connection to the same
server leaves it permitted. -/
theorem ipv6_left_permitted :
    let r := DaemonEnv.working ipv6Server
    let s₁ := (Rpc.startUp newConfig 0xe1f1).step ⟨.settings (.setIpv6 true), r⟩
    let s₂ := (s₁.step ⟨.connect, r⟩).step ⟨.settings (.setIpv6 false), r⟩
    s₂.cfg.ipv6 = false ∧ (connect r s₂).result = .ok [.connecting, .connected] ∧
      (connect r s₂).final.netw.ipv6Blocked = false := by
  decide +kernel

end NordVPN.Daemon
