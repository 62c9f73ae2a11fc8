import NordVPN.Networker.Api
import NordVPN.Networker.Names

/-!
What the methods of `Combined` keep.

The invariants of this development read the `core` of the state: the flags of the
network, the kill switch and the meshnet, the tracked names, the peer list, the
allowlist and the firewall. Calls to other dependencies leave it alone. So a
method keeps such an invariant as soon as the few procedures it is built from keep
it, and the theorems here say from which ones: an invariant is proved for a handful
of small procedures and holds of every method.

`Keeps r A I m` also speaks of the states inside `m`: all of them satisfy `A`.
-/

namespace NordVPN.Networker

open NordVPN.Netip Prog

/-- The part of the state that the invariants read. -/
structure Core where
  isNetworkSet : Bool
  isKillSwitchSet : Bool
  isMeshnetSet : Bool
  rules : List String
  cfg : MachineMap
  allowlist : Allowlist
  fw : Firewall

def World.core (w : World) : Core :=
  { isNetworkSet := w.netw.isNetworkSet, isKillSwitchSet := w.netw.isKillSwitchSet,
    isMeshnetSet := w.netw.isMeshnetSet, rules := w.netw.rules, cfg := w.netw.cfg,
    allowlist := w.netw.allowlist, fw := w.fw }

theorem core_switchToNextVpn (w : World) : (w.withNetw Combined.switchToNextVpn).core = w.core := by
  unfold World.withNetw Combined.switchToNextVpn
  cases w.netw.nextVPN <;> rfl

/-- What is known of the VPN: its value, and whether it is set and its tunnel up. -/
structure Link where
  isVpnSet : Bool
  vpnet : Option Vpn
  tunnelUp : Bool

def World.link (w : World) : Link :=
  { isVpnSet := w.netw.isVpnSet, vpnet := w.netw.vpnet, tunnelUp := w.tunnelUp }

theorem core_of_netw {w t : World} (hnetw : t.netw = w.netw) (hfw : t.fw = w.fw) :
    t.core = w.core := by
  rw [World.core, hnetw, hfw]
  rfl

theorem link_of_netw {w t : World} (hnetw : t.netw = w.netw) (hup : t.tunnelUp = w.tunnelUp) :
    t.link = w.link := by
  rw [World.link, hnetw, hup]
  rfl

/-- `I` reads the core and the link only, and its states may be seen. -/
structure QuietInvariant (A I : World → Prop) : Prop where
  seen : ∀ w, I w → A w
  quiet : ∀ {w t : World}, t.core = w.core → t.link = w.link → I w → I t

/-- `I` reads the core only, and its states may be seen. -/
structure CoreInvariant (A I : World → Prop) : Prop where
  seen : ∀ w, I w → A w
  stays : ∀ {w t : World}, t.core = w.core → I w → I t

theorem CoreInvariant.toQuiet {A I : World → Prop} (hI : CoreInvariant A I) : QuietInvariant A I :=
  ⟨hI.seen, fun h _ => hI.stays h⟩

/-- Calls that leave the tunnel alone. -/
def Call.isQuiet : Call → Bool
  | .vpnStart .. | .vpnStop => false
  | _ => true

variable {c : Call}

theorem link_after (hc : c.isQuiet = true) (w : World) (r : Env) (fails : Bool) :
    (w.after r c fails).link = w.link := by
  cases c with
  | vpnStart | vpnStop => cases hc
  | _ => rfl

/-! ### Steps that leave the core alone -/

section Quiet

variable {r : Env} {A I : World → Prop}

variable {Q : Except Error Unit → World → Prop} {w : World} {α : Type} {f : Combined → Combined}

theorem wp_call :
    wp (call c) r A Q w ↔
      A (w.after r c (r.fails w.log.length c)) ∧
        Q (if r.fails w.log.length c then .error (.external "dependency") else .ok ())
          (w.after r c (r.fails w.log.length c)) := by
  simp only [call, wp_bind, wp_env, wp_state, onOk_ok, wp_update]
  by_cases h : r.fails w.log.length c = true <;> simp [h]

@[simp] theorem wp_ask {answer : Env → Nat → α} {Q : Except Error α → World → Prop} :
    wp (ask c answer) r A Q w ↔
      A (w.after r c false) ∧ Q (.ok (answer r w.log.length)) (w.after r c false) := by
  simp only [ask, wp_bind, wp_env, wp_state, onOk_ok, wp_update, wp_pure]

theorem wp_devices {Q : Except Error (List Interface) → World → Prop} :
    wp devices r A Q w ↔
      A (w.after r .devices (r.fails w.log.length .devices)) ∧
        Q (if r.fails w.log.length .devices then .error (.external "dependency")
          else .ok (r.devices w.log.length)) (w.after r .devices
              (r.fails w.log.length .devices)) := by
  simp only [devices, wp_bind, wp_env, wp_state, onOk_ok, wp_call]
  by_cases h : r.fails w.log.length .devices = true <;> simp [h]

@[simp] theorem wp_netw {Q : Except Error Combined → World → Prop} :
    wp netw r A Q w ↔ Q (.ok w.netw) w := by
  simp only [netw, wp_bind, wp_state, onOk_ok, wp_pure]

@[simp] theorem wp_setNetw :
    wp (setNetw f) r A Q w ↔ A (w.withNetw f) ∧ Q (.ok ()) (w.withNetw f) :=
  wp_update

variable {g : Unit → Netw α}

theorem wp_setNetw_bind {Q : Except Error α → World → Prop} :
    wp (setNetw f >>= g) r any Q w ↔ wp (g ()) r any Q (w.withNetw f) := by
  simp only [wp_bind, wp_setNetw, onOk_ok, any, true_and]

theorem wp_ask_bind {β : Type} {answer : Env → Nat → β} {g : β → Netw α}
    {Q : Except Error α → World → Prop} :
    wp (ask c answer >>= g) r any Q w ↔
      wp (g (answer r w.log.length)) r any Q (w.after r c false) := by
  simp only [wp_bind, wp_ask, onOk_ok, any, true_and]

theorem wp_ignoreCall_bind {Q : Except Error α → World → Prop} :
    wp (ignore (call c) >>= g) r any Q w ↔
      wp (g ()) r any Q (w.after r c (r.fails w.log.length c)) := by
  simp only [wp_ignore_bind, wp_call, any, true_and]

theorem wp_contextCall_bind {text : String} {Q : Except Error α → World → Prop}
    (hr : ∀ n, r.fails n c = false) :
    wp (context text (call c) >>= g) r any Q w ↔ wp (g ()) r any Q (w.after r c false) := by
  simp [context, wp_call, hr]

/-- Reading the fields binds their current values. -/
theorem wp_netw_bind {f : Combined → Netw α} {Q : Except Error α → World → Prop} :
    wp (netw >>= f) r A Q w ↔ wp (f w.netw) r A Q w := by
  simp only [wp_bind, wp_netw, onOk_ok]

/-- `isConnectedToVPN` only asks. -/
theorem wp_isConnectedToVPN {Q : Except Error Bool → World → Prop}
    (h : ∀ t : World, t.netw = w.netw → t.fw = w.fw → t.tunnelUp = w.tunnelUp →
      A t ∧ Q (.ok (w.isConnected r)) t) : wp isConnectedToVPN r A Q w := by
  refine wp_netw_bind.mpr (wp_ite.mpr ⟨fun hnone => wp_pure.mpr ?_, fun hsome => ?_⟩)
  · have hnot : w.isConnected r = false := by
      rw [World.isConnected, Option.isNone_iff_eq_none.mp hnone]
      rfl
    exact hnot ▸ (h w rfl rfl rfl).2
  · have heq : w.isConnected r = (w.tunnelUp && !r.tunnelDropped w.log.length) := by
      rw [World.isConnected, Option.isSome_iff_ne_none.mpr (by simpa using hsome), Bool.true_and]
    refine wp_bind.mpr (wp_state.mpr (wp_ask.mpr ?_))
    rw [← heq]
    exact h _ rfl rfl rfl

/-- `Start` restarts a connected VPN and starts another one. -/
theorem wp_apiStart {creds : Credentials} {serverData : ServerData} {allowlist : Allowlist}
    {nameservers : List String} {enableLocalTraffic : Bool}
    (hrestart : ∀ t : World, w.isConnected r = true → t.core = w.core → t.link = w.link →
      wp (restart creds serverData nameservers) r any Q t)
    (hstart : ∀ t : World, w.isConnected r = false → t.core = w.core → t.link = w.link →
      wp (start creds serverData allowlist nameservers) r any Q t) :
    wp (Api.start creds serverData allowlist nameservers enableLocalTraffic) r any Q w := by
  refine wp_setNetw_bind.mpr ?_
  refine wp_bind.mpr (wp_isConnectedToVPN fun t hnetw hfw hup => ⟨trivial, ?_⟩)
  have hcore : t.core = w.core := (core_of_netw hnetw hfw :)
  have hlink : t.link = w.link := (link_of_netw hnetw hup :)
  rw [onOk_ok]
  refine wp_ite.mpr ⟨fun h => hrestart t h hcore hlink, fun h => hstart t ?_ hcore hlink⟩
  exact Bool.not_eq_true _ ▸ h

theorem keeps_netw : Keeps r A I netw := fun _ h => wp_netw.mpr h

theorem keeps_anyCall (hI : CoreInvariant A I) (c : Call) : Keeps r A I (call c) := by
  intro w hw
  have hafter := hI.stays (w := w) (t := w.after r c (r.fails w.log.length c)) rfl hw
  exact wp_call.mpr ⟨hI.seen _ hafter, hafter⟩

theorem keeps_setNetw_core (hI : CoreInvariant A I)
    (h : ∀ w : World, (w.withNetw f).core = w.core) :
    Keeps r A I (setNetw f) :=
  Keeps.update hI.seen fun w => hI.stays (h w)

theorem keeps_startVpn (hI : CoreInvariant A I) (creds : Credentials) (serverData : ServerData) :
    Keeps r A I (startVpn creds serverData) :=
  (keeps_anyCall hI _).ignore.onError (keeps_anyCall hI _)

variable (hI : QuietInvariant A I)
include hI

theorem keeps_setNetw (h : ∀ w, I w → I (w.withNetw f)) : Keeps r A I (setNetw f) :=
  Keeps.update hI.seen h

theorem keeps_setNetw_quiet (hcore : ∀ w : World, (w.withNetw f).core = w.core)
    (hlink : ∀ w : World, (w.withNetw f).link = w.link) :
    Keeps r A I (setNetw f) :=
  keeps_setNetw hI fun w => hI.quiet (hcore w) (hlink w)

theorem keeps_call (c : Call) (hc : c.isQuiet = true) : Keeps r A I (call c) := by
  intro w hw
  have hafter :=
    hI.quiet (w := w) (t := w.after r c (r.fails w.log.length c)) rfl (link_after hc w r _) hw
  exact wp_call.mpr ⟨hI.seen _ hafter, hafter⟩

theorem keeps_ask (c : Call) (answer : Env → Nat → α) (hc : c.isQuiet = true) :
    Keeps r A I (ask c answer) := by
  intro w hw
  have hafter := hI.quiet (w := w) (t := w.after r c false) rfl (link_after hc w r _) hw
  exact wp_ask.mpr ⟨hI.seen _ hafter, hafter⟩

theorem keeps_devices : Keeps r A I devices :=
  Keeps.env.seq <| Keeps.state.seq <| (keeps_call hI _ rfl).seq <| Keeps.pure _

theorem keeps_setDNS (nameservers : List String) : Keeps r A I (setDNS nameservers) :=
  keeps_netw.seq <| (keeps_call hI _ rfl).mapError

theorem keeps_unsetDNS : Keeps r A I unsetDNS :=
  keeps_netw.seq <| (keeps_call hI _ rfl).mapError

theorem keeps_denyIPv6 : Keeps r A I denyIPv6 :=
  (keeps_setNetw_quiet hI (fun _ => rfl) fun _ => rfl).seq <| keeps_netw.seq <|
    Keeps.when fun _ => keeps_call hI _ rfl

theorem keeps_disableIPv6IfNeeded : Keeps r A I disableIPv6IfNeeded :=
  keeps_netw.seq <| Keeps.when fun _ => keeps_denyIPv6 hI

theorem keeps_configureDNS (serverData : ServerData) (nameservers : List String) :
    Keeps r A I (configureDNS serverData nameservers) :=
  keeps_netw.seq <| (keeps_setDNS hI _).ite (keeps_setDNS hI _)

theorem keeps_addDefaultRoute : Keeps r A I addDefaultRoute :=
  keeps_netw.seq <| (keeps_ask hI _ _ rfl).seq <| (keeps_call hI _ rfl).mapError

theorem keeps_setupRoutingRules (ipv6 : Bool) (subnets : List String) :
    Keeps r A I (setupRoutingRules ipv6 subnets) :=
  keeps_netw.seq <| keeps_call hI _ rfl

omit hI in
/-- Denying IPv6 leaves the interfaces alone too. -/
theorem keeps_disableIPv6IfNeeded_interfaces (w : World) :
    Keeps r any (fun t => t.core = w.core ∧ t.link = w.link ∧
      t.netw.interfaces = w.netw.interfaces) disableIPv6IfNeeded :=
  keeps_netw.seq <| Keeps.when fun _ =>
    Keeps.bind (Keeps.assign fun _ ht => ht) fun _ => keeps_netw.seq <|
      Keeps.when fun _ _ ht => wp_call.mpr ⟨trivial, ht⟩

omit hI in
/-- `Reconnect` with the network up refreshes the VPN. -/
theorem wp_apiReconnect {Q : World → Prop}
    (h : ∀ t : World, t.core = w.core → t.link = w.link → t.netw.interfaces = w.netw.interfaces →
      wp refreshVPN r any (fun _ u => Q u) t) :
    wp (Api.reconnect true) r any (fun _ t => Q t) w := by
  refine wp_netw_bind.mpr (wp_next (wp_when.mpr ⟨fun _ => wp_ignore.mpr (wp_post
    (keeps_disableIPv6IfNeeded_interfaces w w ⟨rfl, rfl, rfl⟩) fun _ _ ht => ⟨rfl, ht⟩),
      fun _ => ⟨rfl, rfl, rfl, rfl⟩⟩) fun t ht => ?_)
  obtain ⟨hcore, hlink, hifaces⟩ := ht
  exact wp_when.mpr ⟨fun _ => wp_ignore.mpr (h t hcore hlink hifaces), nofun⟩

theorem keeps_isConnectedToVPN : Keeps r A I isConnectedToVPN :=
  keeps_netw.seq <| (Keeps.pure _).ite
    (Keeps.state.seq <| keeps_ask hI _ _ rfl)

theorem keeps_fixForLinuxMint20 : Keeps r A I fixForLinuxMint20 :=
  keeps_netw.seq <| (keeps_setDNS hI _).seq <| keeps_setDNS hI _

end Quiet

variable {r : Env} {α : Type}

theorem wp_failure {A : World → Prop} {m : Netw α} {Q : Except Error (Option Error) → World → Prop}
    {w : World} :
    wp (failure m) r A Q w ↔ wp m r A (fun x t => Q (.ok (errorOf x)) t) w := by
  simp only [failure, wp_bind, wp_attempt, onOk_ok, wp_pure]

theorem neverFails_failure (m : Netw α) : NeverFails r (failure m) :=
  fun _ => wp_failure.mpr (wp_post wp_true fun _ _ _ => ⟨_, rfl⟩)

theorem neverFails_ask (c : Call) (answer : Env → Nat → α) : NeverFails r (ask c answer) :=
  fun _ => wp_ask.mpr ⟨trivial, _, rfl⟩

theorem keeps_failure {A I : World → Prop} {m : Netw α}
    (h : Keeps r A I m) : Keeps r A I (failure m) :=
  fun w hw => wp_failure.mpr (h w hw)

/-! ### Rules of the meshnet -/

/-- `I` is kept when meshnet rules come and go and their names are recorded or
forgotten, except for the rule against DNS leaks. -/
structure NameUpkeep (r : Env) (A I : World → Prop) : Prop extends QuietInvariant A I where
  add : ∀ rs : List Rule, (∀ rule ∈ rs, PeerName rule.name) → Keeps r A I (fwAdd rs)
  delete : ∀ name, PeerName name → Keeps r A I (fwDelete [name])
  record : ∀ names : List String, (∀ n ∈ names, PeerName n) →
    Keeps r A I (setNetw fun c => { c with rules := c.rules ++ names })
  forget : ∀ name, PeerName name →
    Keeps r A I (setNetw fun c => { c with rules := c.rules.erase name })

namespace NameUpkeep

variable {r : Env} {A I : World → Prop} (h : NameUpkeep r A I)
include h

theorem keeps_record {name : String} (hname : PeerName name) :
    Keeps r A I (setNetw fun c => { c with rules := c.rules ++ [name] }) :=
  h.record [name] (List.forall_mem_singleton.mpr hname)

theorem keeps_defaultMeshBlock (ip : Addr) : Keeps r A I (defaultMeshBlock ip) := by
  refine (h.add _ ?_).bind fun _ => ?_
  · simpa [meshBlockRule, meshEstablishedRule] using ⟨PeerName.block, PeerName.established⟩
  · simp only [List.append_assoc]
    exact h.record _ (by simpa using ⟨PeerName.block, PeerName.established⟩)

theorem keeps_allowIncoming (publicKey : String) (address : Addr) (lanAllowed : Bool) :
    Keeps r A I (allowIncoming publicKey address lanAllowed) := by
  have hallow : PeerName (allowIncomingName publicKey address) := .peer .allow _ _
  have hlan : PeerName (blockLanName publicKey address) := .peer .blockLan _ _
  refine keeps_netw.seq <| (Keeps.fail _).ite
    (((h.add _ ?_).mapError.seq <| h.keeps_record hallow).ite
      ((h.keeps_record hlan).seq <| (h.add _ ?_).mapError.seq <| h.keeps_record hallow))
  · simpa [allowIncomingRule] using hallow
  · simpa [allowIncomingRule, blockLanRule] using ⟨hallow, hlan⟩

theorem keeps_allowFileshare (publicKey : String) (address : Addr) :
    Keeps r A I (allowFileshare publicKey address) := by
  have hshare : PeerName (allowFileshareName publicKey address) := .peer .fileshare _ _
  refine keeps_netw.seq <| (Keeps.fail _).ite ((h.add _ ?_).mapError.seq <| h.keeps_record hshare)
  simpa [allowFileshareRule] using hshare

theorem keeps_removeRule {name : String} (hname : PeerName name) : Keeps r A I (removeRule name) :=
  keeps_netw.seq <| ((h.delete name hname).seq <| h.forget name hname).ite
    (Keeps.fail _)

theorem keeps_blockIncoming (a : UniqueAddress) : Keeps r A I (blockIncoming a) :=
  keeps_netw.seq <| (h.keeps_removeRule (.peer .blockLan _ _)).guard.bind
    fun _ => h.keeps_removeRule (.peer .allow _ _)

theorem keeps_blockFileshare (a : UniqueAddress) : Keeps r A I (Api.blockFileshare a) :=
  h.keeps_removeRule (.peer .fileshare _ _)

end NameUpkeep

/-! ### Properties of the flags

Properties that read neither the tracked names nor the firewall are kept by every
procedure that only works on those. -/

structure FlagInvariant (I : World → Prop) : Prop extends QuietInvariant (fun _ => True) I where
  rules : ∀ w (f : Combined → List String), I w → I (w.withNetw fun c => { c with rules := f c })
  fw : ∀ w fw, I w → I (w.withFw fw)

namespace FlagInvariant

variable {r : Env} {I : World → Prop} (hI : FlagInvariant I)
include hI

theorem keeps_firewall (m : Fw Unit) : Keeps r any I (firewall m) :=
  fun w hw => wp_zoom.mpr (wp_mono wp_true (fun _ => id) fun _ t _ => hI.fw w t hw)

theorem keeps_rules (f : Combined → List String) :
    Keeps r any I (setNetw fun c => { c with rules := f c }) :=
  keeps_setNetw hI.toQuietInvariant fun w hw => hI.rules w f hw

theorem nameUpkeep : NameUpkeep r any I where
  toQuietInvariant := hI.toQuietInvariant
  add _ _ := hI.keeps_firewall _
  delete _ _ := hI.keeps_firewall _
  record _ _ := hI.keeps_rules _
  forget _ _ := hI.keeps_rules _

theorem keeps_denyDNS : Keeps r any I denyDNS :=
  keeps_netw.seq <| Keeps.when fun _ => (hI.keeps_firewall _).mapError.seq <| hI.keeps_rules _

theorem keeps_undenyDNS : Keeps r any I undenyDNS :=
  keeps_netw.seq <| Keeps.when fun _ => (hI.keeps_firewall _).seq <| hI.keeps_rules _

theorem keeps_defaultMeshUnBlock : Keeps r any I defaultMeshUnBlock :=
  keeps_netw.seq <| (hI.keeps_firewall _).seq <| hI.keeps_rules _

end FlagInvariant

section

variable {P : Bool → MachineMap → Prop}

theorem meshFields_core : CoreInvariant any fun w => P w.netw.isMeshnetSet w.netw.cfg :=
  ⟨fun _ _ => trivial, fun {w w'} h hw => by
    have hmesh : w'.netw.isMeshnetSet = w.netw.isMeshnetSet := congrArg Core.isMeshnetSet h
    have hcfg : w'.netw.cfg = w.netw.cfg := congrArg Core.cfg h
    rw [hmesh, hcfg]
    exact hw⟩

theorem meshFields_flag : FlagInvariant fun w => P w.netw.isMeshnetSet w.netw.cfg :=
  ⟨meshFields_core.toQuiet, fun _ _ h => h, fun _ _ h => h⟩

end

/-! ### The allowlist -/

section Allowlist

variable {r : Env} {A I : World → Prop} (hI : QuietInvariant A I)
  (hadd : ∀ rs : List Rule, (∀ rule ∈ rs, rule.name ∈ allowlistRuleNames) → Keeps r A I (fwAdd rs))
  (hdelete : ∀ name ∈ allowlistRuleNames, Keeps r A I (fwDelete [name]))
  (hdeny : Keeps r A I denyDNS) (hundeny : Keeps r A I undenyDNS)
  (hlist : ∀ w allowlist, I w → I (w.withNetw fun c => { c with allowlist }))

theorem name_allowlistSubnetRules {ifaces : List Interface} {subnets : List Prefix} :
    ∀ rule ∈ allowlistSubnetRules ifaces subnets, rule.name ∈ allowlistRuleNames := by
  unfold allowlistSubnetRules
  split <;> simp [allowlistRuleNames]

/-- The rules that `allowPorts` returns have the name of their protocol. -/
theorem wp_allowPorts {ifaces : List Interface} {protocol : String} {ports : List Int}
    (hI : QuietInvariant A I) {w : World} (hw : I w) :
    wp (allowPorts ifaces protocol ports) r A (fun x t => I t ∧
      ∀ rs, x = .ok rs → ∀ rule ∈ rs, rule.name = "allowlist_ports_" ++ protocol) w := by
  unfold allowPorts
  refine wp_ite.mpr ⟨fun _ => wp_pure.mpr ⟨hw, ?_⟩, fun _ => ?_⟩
  · rintro rs ⟨⟩ rule hrule
    cases hrule
  refine wp_seq (keeps_netw w hw) (fun c t ht => ?_) fun e t ht => ⟨ht, fun rs h => nomatch h⟩
  refine wp_seq ((keeps_call hI _ rfl).mapError t ht) (fun _ u hu => wp_pure.mpr ⟨hu, ?_⟩)
    fun e u hu => ⟨hu, fun rs h => nomatch h⟩
  rintro rs ⟨⟩ rule hrule
  rw [List.mem_singleton.mp hrule]
  rfl

include hI hadd hdeny hlist

theorem keeps_setAllowlist (allowlist : Allowlist) : Keeps r A I (setAllowlist allowlist) := by
  refine (keeps_devices hI).bind fun ifaces => keeps_netw.bind fun c => Keeps.env.seq <|
    Keeps.state.bind fun w₀ => ?_
  split
  · exact Keeps.fail _
  · rename_i subnets _
    intro w hw
    refine wp_seq (wp_allowPorts hI hw) (fun tcp t ht => ?_) fun _ _ ht => ht.1
    refine wp_seq (wp_allowPorts hI ht.1) (fun udp u hu => ?_) fun _ _ hu => hu.1
    refine ((hadd _ fun rule hrule => ?_).seq <| hdeny.guard.seq <|
      (keeps_setNetw hI fun w hw => hlist w _ hw).seq <|
        (keeps_setupRoutingRules hI _ _).mapError) u hu.1
    simp only [List.mem_append] at hrule
    rcases hrule with (hrule | hrule) | hrule
    · exact name_allowlistSubnetRules rule hrule
    · rw [ht.2 _ rfl rule hrule]
      decide
    · rw [hu.2 _ rfl rule hrule]
      decide

omit hadd hdeny hlist
include hdelete hundeny

theorem keeps_unsetAllowlist : Keeps r A I unsetAllowlist :=
  (keeps_call hI _ rfl).ignore.seq <|
    (Keeps.forEach fun name hname => (hdelete name hname).tolerate.mapError).seq <|
      (keeps_call hI _ rfl).mapError.seq <| keeps_netw.seq <| Keeps.when fun _ => hundeny.mapError

end Allowlist

/-! ### Setting and unsetting the network -/

section Network

variable {r : Env} {A I : World → Prop} (hI : QuietInvariant A I)
  (hadd : ∀ rs : List Rule, (∀ rule ∈ rs, rule.name ∈ killSwitchNames) → Keeps r A I (fwAdd rs))
  (hdelete : ∀ name ∈ killSwitchNames, Keeps r A I (fwDelete [name]))

include hI hadd

theorem keeps_blockTraffic : Keeps r A I blockTraffic :=
  (keeps_devices hI).seq <| (hadd _ (by simp [dropFwRule, killSwitchNames])).seq <|
      hadd _ (by simp [dropRule, killSwitchNames])

theorem keeps_setNetwork {allowlist : Allowlist} (hset : Keeps r A I (setAllowlist allowlist))
    (hflag : ∀ w, I w → I (w.withNetw fun c => { c with isNetworkSet := true })) :
    Keeps r A I (setNetwork allowlist) :=
  (keeps_blockTraffic hI hadd).tolerate.seq <| (keeps_devices hI).seq <|
    keeps_netw.seq <| (hadd _ (by simp [apiAllowlistRule, killSwitchNames])).seq <|
      hset.seq <| keeps_netw.seq <| (keeps_call hI _ rfl).ignore.seq <| keeps_setNetw hI hflag

omit hadd
include hdelete

theorem keeps_unsetNetwork (hunset : Keeps r A I unsetAllowlist)
    (hflag : ∀ w, I w → I (w.withNetw fun c => { c with isNetworkSet := false })) :
    Keeps r A I unsetNetwork :=
  (hdelete _ (by decide)).seq <|
    ((hdelete _ (by decide)).seq <| hdelete _ (by decide)).tolerate.seq <|
      hunset.seq <| (keeps_call hI _ rfl).ignore.seq <| keeps_setNetw hI hflag

end Network

/-! ### The meshnet -/

section Mesh

variable {r : Env} {A I F : World → Prop} (hI : QuietInvariant A I) (hF : QuietInvariant A F)
  (hFI : ∀ w, F w → I w)
  (hflush : ∀ w, I w → wp defaultMeshUnBlock r A (fun _ t => F t) w)
  (hblock : ∀ ip w, F w → wp (defaultMeshBlock ip) r A (fun _ t => I t) w)
  (hallow : ∀ publicKey address lanAllowed, address.isValid = true →
    Keeps r A I (allowIncoming publicKey address lanAllowed))
  (hshare : ∀ publicKey address, address.isValid = true →
    Keeps r A I (allowFileshare publicKey address))

include hallow hshare in
theorem keeps_refreshPeer (peer : MachinePeer) : Keeps r A I (refreshPeer peer) :=
  Keeps.when fun hvalid =>
    (hallow _ _ _ hvalid).mapError.guard.seq <| Keeps.when fun _ => (hshare _ _ hvalid).mapError

include hI hF hFI hflush hblock hallow hshare in
/-- `refresh`. `F` is what holds between the flush of the old rules and the default
rules of the new configuration. -/
theorem keeps_refresh (cfg : MachineMap)
    (hcfg : ∀ w, F w → F (w.withNetw fun c => { c with cfg }))
    (hself : Keeps r A I (allowIncoming cfg.publicKey cfg.address true)) :
    Keeps r A I (refresh cfg) := by
  intro w hw
  refine wp_ignore_bind.mpr (wp_post (hflush w hw) fun _ t ht => ?_)
  have herror (_ : Error) := hFI
  refine (keeps_call hF _ rfl).ignore.leads herror (fun _ =>
    (keeps_call hF _ rfl).ignore.leads herror fun _ =>
      (keeps_call hF _ rfl).mapError.leads herror fun _ =>
        (keeps_call hF _ rfl).mapError.leads herror fun _ =>
          (keeps_setNetw hF hcfg).leads herror fun _ u hu => ?_) t ht
  exact wp_keeps (wp_mapError.mpr (hblock cfg.address u hu)) fun _ => hself.mapError.seq <|
    (Keeps.forEach fun peer _ => keeps_refreshPeer hallow hshare peer).seq <|
      keeps_netw.seq <| (keeps_call hI _ rfl).seq <| keeps_call hI _ rfl

/-- A successful `refresh` leaves the new configuration in force. -/
theorem refresh_cfg (cfg : MachineMap) :
    Attains r any (fun t => t.netw.cfg = cfg) (refresh cfg) := by
  have hcfg := meshFields_flag (P := fun _ stored => stored = cfg)
  have hnames : NameUpkeep r _ _ := hcfg.nameUpkeep
  have hstore : Attains r any (fun t => t.netw.cfg = cfg) (setNetw fun c => { c with cfg }) :=
    .assign fun _ _ => rfl
  exact .skip <| .skip <| .skip <| .skip <| .skip <| hstore.seq <| .of_post <|
    (hnames.keeps_defaultMeshBlock _).mapError.seq <|
      (hnames.keeps_allowIncoming _ _ _).mapError.seq <|
        (Keeps.forEach fun peer _ => keeps_refreshPeer
          (fun _ _ _ _ => hnames.keeps_allowIncoming _ _ _)
          (fun _ _ _ => hnames.keeps_allowFileshare _ _) peer).seq <|
            keeps_netw.seq <| (keeps_call hcfg.toQuietInvariant _ rfl).seq <|
              keeps_call hcfg.toQuietInvariant _ rfl

/-- `refresh` keeps what reads neither the rules nor the configuration. -/
theorem FlagInvariant.keeps_refresh {J : World → Prop} (hJ : FlagInvariant J)
    (hcfg : ∀ w cfg, J w → J (w.withNetw fun c => { c with cfg })) (cfg : MachineMap) :
    Keeps r any J (refresh cfg) :=
  Networker.keeps_refresh hJ.toQuietInvariant hJ.toQuietInvariant (fun _ h => h)
    hJ.keeps_defaultMeshUnBlock hJ.nameUpkeep.keeps_defaultMeshBlock
    (fun _ _ _ _ => hJ.nameUpkeep.keeps_allowIncoming _ _ _)
    (fun _ _ _ => hJ.nameUpkeep.keeps_allowFileshare _ _) cfg (fun w hw => hcfg w cfg hw)
    (hJ.nameUpkeep.keeps_allowIncoming _ _ _)

include hFI hflush in
theorem keeps_defaultMeshUnBlock : Keeps r A I defaultMeshUnBlock :=
  fun w hw => wp_post (hflush w hw) fun _ t ht => hFI t ht

include hI hFI hflush in
theorem keeps_meshRecover (routingRulesSet : Bool) : Keeps r A I (meshRecover routingRulesSet) :=
  (keeps_call hI _ rfl).ignore.guard.seq <| (keeps_defaultMeshUnBlock hFI hflush).ignore.seq <|
      (keeps_call hI _ rfl).ignore.seq <| (keeps_call hI _ rfl).ignore.seq <|
        (keeps_call hI _ rfl).ignore.seq <| (keeps_call hI _ rfl).ignore

include hI in
/-- A failure may close the tunnel, which then is noted. -/
theorem keeps_enableMesh_of (hclose : Keeps r A I (setNetw fun c => { c with isVpnSet := false }))
    (self : Addr) (privateKey : String) : Keeps r A I (enableMesh self privateKey) := by
  refine (keeps_call hI _ rfl).attempt.bind fun x => ?_
  cases x with
  | ok u => exact Keeps.pure _
  | error e =>
    exact keeps_netw.seq <| ((keeps_ask hI _ _ rfl).seq <| (Keeps.fail _).ite
      (hclose.seq <| Keeps.fail _)).ite (Keeps.fail _)

omit hI in
theorem keeps_enableMesh (hI : CoreInvariant A I) (self : Addr) (privateKey : String) :
    Keeps r A I (enableMesh self privateKey) :=
  keeps_enableMesh_of hI.toQuiet (keeps_setNetw_core hI fun _ => rfl) self privateKey

include hI in
/-- A mesh that can be enabled does not close the tunnel. -/
theorem keeps_enableMesh_quiet {self : Addr} {privateKey : String}
    (hr : ∀ n, r.fails n (.meshEnable self privateKey) = false) :
    Keeps r A I (enableMesh self privateKey) := by
  intro w hw
  have hafter := keeps_call hI (r := r) (.meshEnable self privateKey) rfl w hw
  refine wp_returns (a := .ok ()) (P := I) (wp_attempt.mpr ?_) fun t ht => wp_pure.mpr ht
  rw [wp_call, hr] at hafter ⊢
  exact ⟨hafter.1, rfl, hafter.2⟩

variable (henable : ∀ self privateKey, Keeps r A I (enableMesh self privateKey))

include hI henable in
theorem keeps_prepareMesh (self : Addr) (privateKey : String) :
    Keeps r A I (prepareMesh self privateKey) :=
  keeps_netw.seq <| (keeps_call hI _ rfl).ignore.guard.seq <|
    (henable _ _).seq <| keeps_netw.seq <| (keeps_addDefaultRoute hI).guard.seq <|
        (keeps_setupRoutingRules hI _ _).mapError

include hI hFI hflush henable in
theorem keeps_setMesh (cfg : MachineMap) (self : Addr) (privateKey : String)
    (hrefresh : Keeps r A I (do
      refresh cfg
      setNetw fun c => { c with isMeshnetSet := true, lastPrivateKey := privateKey })) :
    Keeps r A I (setMesh cfg self privateKey) :=
  keeps_netw.seq <| (Keeps.fail _).ite
    (((keeps_meshRecover hI hFI hflush _).onError (keeps_prepareMesh hI henable _ _)).seq <|
      (keeps_meshRecover hI hFI hflush _).onError ((keeps_ask hI _ _ rfl).seq <|
        (keeps_ask hI _ _ rfl).seq <| (keeps_call hI _ rfl).mapError.seq <| hrefresh))

include hI hFI hflush in
theorem keeps_unSetMesh
    (hoff : ∀ w, I w → I (w.withNetw fun c => { c with isMeshnetSet := false })) :
    Keeps r A I unSetMesh :=
  keeps_netw.seq <| Keeps.ite
    ((keeps_call hI _ rfl).mapError.seq <| (keeps_defaultMeshUnBlock hFI hflush).mapError.seq <|
        (keeps_call hI _ rfl).mapError.seq <| (keeps_call hI _ rfl).mapError.guard.seq <|
            (keeps_call hI _ rfl).ignore.seq <| (keeps_call hI _ rfl).ignore.guard.seq <|
                (keeps_call hI _ rfl).mapError.seq <|
                  (keeps_addDefaultRoute hI).guard.seq <| keeps_setNetw hI hoff)
    (Keeps.fail _)

end Mesh

/-! ### The tunnel -/

/-- An invariant together with a further property of the core. -/
theorem CoreInvariant.and {A I J : World → Prop} (hI : CoreInvariant A I)
    (hJ : ∀ {w w' : World}, w'.core = w.core → J w → J w') :
    CoreInvariant A fun w => I w ∧ J w :=
  ⟨fun w hw => hI.seen w hw.1, fun h hw => ⟨hI.stays h hw.1, hJ h hw.2⟩⟩

section Configure

variable {r : Env} {A I : World → Prop}

variable {allowlist : Allowlist} {w : World}

theorem keeps_configureFirewall (hset : wp (setNetwork allowlist) r A (fun _ t => I t) w)
    (hreset : Keeps r A I resetAllowlist) :
    wp (configureFirewall allowlist) r A (fun _ t => I t) w := by
  refine wp_keeps (wp_attempt.mpr hset) fun x => ?_
  cases x with
  | ok u => exact hreset
  | error e => exact keeps_netw.seq <| hreset.ite (Keeps.fail _)

/-- What `configureNetwork` does after the firewall. -/
theorem keeps_configureRest (hI : QuietInvariant A I) (serverData : ServerData)
    (nameservers : List String)
    (hrefresh : ∀ w, I w → w.netw.isMeshnetSet = true →
      wp (refresh w.netw.cfg) r A (fun _ t => I t) w) :
    Keeps r A I (do
      addDefaultRoute
      configureDNS serverData nameservers
      let c ← netw
      when c.isMeshnetSet (context "refreshing meshnet" (refresh c.cfg))
      disableIPv6IfNeeded) := by
  refine (keeps_addDefaultRoute hI).seq <| (keeps_configureDNS hI _ _).bind fun _ w hw => ?_
  exact wp_netw_bind.mpr (wp_keeps (wp_when.mpr
    ⟨fun hmesh => wp_mapError.mpr (hrefresh w hw hmesh), fun _ => hw⟩)
    fun _ => keeps_disableIPv6IfNeeded hI)

/-- `startBody` from `J`, when the firewall leads from `J` to `B` and the rest keeps
`B`. -/
theorem wp_startBody {J B : World → Prop} {Q : Except Error Unit → World → Prop}
    (hJ : CoreInvariant A J) (hB : CoreInvariant A B) (hJQ : ∀ e t, J t → Q (.error e) t)
    (hBQ : ∀ x t, B t → Q x t) (creds : Credentials) (serverData : ServerData)
    (nameservers : List String)
    (hconf : ∀ t, J t → wp (configureFirewall allowlist) r A (onOk Q fun _ t => B t) t)
    (hrefresh : ∀ t, B t → t.netw.isMeshnetSet = true →
      wp (refresh t.netw.cfg) r A (fun _ u => B u) t) (hw : J w) :
    wp (startBody creds serverData allowlist nameservers) r A Q w := by
  refine wp_netw_bind.mpr (wp_seq (keeps_startVpn hJ _ _ w hw) (fun _ t ht => ?_) hJQ)
  refine wp_seq (keeps_setupRoutingRules hJ.toQuiet _ _ t ht) (fun _ u hu => ?_) hJQ
  refine wp_seq (P := onOk Q fun _ t => B t) ?_ (fun _ v hv => ?_) fun _ _ h => h
  · refine wp_seq (hconf u hu) (fun _ v hv => ?_) fun _ _ h => h
    refine wp_post (keeps_configureRest hB.toQuiet _ _ hrefresh v hv) fun x t ht => ?_
    cases x with
    | ok _ => exact ht
    | error e => exact hBQ _ t ht
  · exact wp_post (((keeps_ask hB.toQuiet _ _ rfl).seq <|
      keeps_setNetw_core hB fun _ => rfl) v hv) hBQ

/-- What holds whenever `startBody` succeeds holds whenever `start` does. -/
theorem attains_start {J B : World → Prop} {creds : Credentials} {serverData : ServerData}
    {nameservers : List String}
    (h : Attains r J B (startBody creds serverData allowlist nameservers)) :
    Attains r J B (start creds serverData allowlist nameservers) :=
  keeps_netw.attains <| (Attains.fail _).ite <| (Attains.fail _).ite h.onError

theorem keeps_handleNetworkChanged (hI : QuietInvariant A I) (hw : I w)
    (hreset : w.netw.isVpnSet = true → Keeps r A I resetAllowlist) :
    wp handleNetworkChanged r A (fun _ t => I t) w :=
  wp_netw_bind.mpr (((keeps_call hI _ rfl).guard.seq <|
    Keeps.when fun hvpn => (keeps_call hI _ rfl).guard.seq <|
      (keeps_fixForLinuxMint20 hI).seq <| hreset hvpn) w hw)

theorem keeps_joinErrors (vpnErr meshErr : Option Error) :
    Keeps r A I (joinErrors vpnErr meshErr) := by
  unfold joinErrors
  split
  · exact Keeps.pure _
  · exact Keeps.fail _

end Configure

section Tunnel

variable {r : Env} {A I : World → Prop} (hI : CoreInvariant A I)
  (hunset : ∀ w, I w → w.netw.isKillSwitchSet = false → wp unsetNetwork r A (fun _ t => I t) w)
  (hipv6 : Keeps r A I (fwDelete ipv6Names))

include hI

/-- An invariant with the kill switch as it was found. -/
theorem killSwitchFound (on : Bool) : CoreInvariant A fun w => I w ∧ w.netw.isKillSwitchSet = on :=
  hI.and fun h hw => (congrArg Core.isKillSwitchSet h).trans hw

include hipv6 in
theorem keeps_stopAllowedIPv6Traffic : Keeps r A I stopAllowedIPv6Traffic :=
  hipv6.seq <| keeps_setNetw_core hI fun _ => rfl

include hunset hipv6

theorem keeps_failureRecover : Keeps r A I failureRecover := by
  intro w hw
  refine wp_netw_bind.mpr ?_
  have hks := killSwitchFound hI w.netw.isKillSwitchSet
  exact (keeps_anyCall hks _).ignore.guard.leads (fun _ _ h => h.1) (fun _ =>
    (keeps_anyCall hks _).ignore.leads (fun _ _ h => h.1) fun _ =>
      (keeps_anyCall hks _).ignore.leads (fun _ _ h => h.1) fun _ u hu =>
        wp_keeps (wp_when.mpr ⟨fun hoff => wp_ignore.mpr (hunset u hu.1 (by grind)), fun _ => hu.1⟩)
          fun _ => (keeps_stopAllowedIPv6Traffic hI hipv6).ignore.guard.seq <|
            keeps_setNetw_core hI fun _ => rfl) w ⟨hw, rfl⟩

theorem keeps_start (creds : Credentials) (serverData : ServerData) {allowlist : Allowlist}
    (nameservers : List String)
    (hconf : ∀ w, I w → wp (configureFirewall allowlist) r A (fun _ t => I t) w)
    (hrefresh : ∀ w, I w → w.netw.isMeshnetSet = true →
      wp (refresh w.netw.cfg) r A (fun _ t => I t) w) :
    Keeps r A I (start creds serverData allowlist nameservers) := by
  refine keeps_netw.seq <| (Keeps.fail _).ite ((Keeps.fail _).ite
    ((keeps_failureRecover hI hunset hipv6).onError fun w hw => ?_))
  refine wp_startBody hI hI (fun _ _ h => h) (fun _ _ h => h) creds serverData nameservers
    (fun t ht => wp_post (hconf t ht) fun x u hu => ?_) hrefresh hw
  cases x <;> exact hu

theorem keeps_restart (creds : Credentials) (serverData : ServerData)
    (nameservers : List String) : Keeps r A I (restart creds serverData nameservers) :=
  keeps_netw.seq <| (Keeps.fail _).ite
    ((keeps_failureRecover hI hunset hipv6).onError
      ((keeps_anyCall hI _).ignore.seq <| (keeps_anyCall hI _).seq <|
        (keeps_setNetw_core hI core_switchToNextVpn).bind
          fun _ => keeps_netw.seq <| (keeps_startVpn hI _ _).seq <|
            (keeps_addDefaultRoute hI.toQuiet).seq <| (keeps_configureDNS hI.toQuiet _ _).seq <|
                (keeps_disableIPv6IfNeeded hI.toQuiet).ignore.seq <|
                  keeps_setNetw_core hI fun _ => rfl))

omit hipv6

theorem keeps_stop : Keeps r A I stop := by
  intro w hw
  refine wp_netw_bind.mpr (wp_ite.mpr ⟨fun _ => wp_fail.mpr hw, fun _ => ?_⟩)
  have hfinish : Keeps r A I (setNetw fun c => { c.switchToNextVpn with isVpnSet := false }) :=
    keeps_setNetw_core hI core_switchToNextVpn
  have hks := killSwitchFound hI w.netw.isKillSwitchSet
  exact (keeps_anyCall hks _).ignore.leads (fun _ _ h => h.1) (fun _ =>
    (keeps_unsetDNS hks.toQuiet).leads (fun _ _ h => h.1) fun _ =>
      (keeps_anyCall hks _).ignore.guard.leads (fun _ _ h => h.1) fun _ =>
        (keeps_anyCall hks _).mapError.guard.leads (fun _ _ h => h.1) fun _ =>
          (keeps_anyCall hks _).ignore.leads (fun _ _ h => h.1) fun _ =>
            (keeps_anyCall hks _).leads (fun _ _ h => h.1) fun _ u hu =>
              wp_keeps (wp_when.mpr
                ⟨fun hoff => wp_mapError.mpr (hunset u hu.1 (hu.2.trans (by simpa using hoff))),
                  fun _ => hu.1⟩) fun _ => hfinish) w ⟨hw, rfl⟩

end Tunnel

/-! ### Network changes -/

section Refresh

variable {r : Env} {A I : World → Prop} (hI : QuietInvariant A I)
  {isVPNStarted isMeshStarted : Bool}
  (hstop : isVPNStarted = true → Keeps r A I stop)
  (hremesh : isMeshStarted = true → ∀ ip, Keeps r A I (remesh ip))
  (hstart : isVPNStarted = true → ∀ w creds serverData nameservers, I w →
    wp (start creds serverData w.netw.allowlist nameservers) r A (fun _ t => I t) w)

include hI hstop hremesh hstart

theorem keeps_rebuildTunnels : Keeps r A I (rebuildTunnels isVPNStarted isMeshStarted) := by
  refine ((keeps_ask hI _ _ rfl).ite (Keeps.pure _)).seq <| Keeps.bind ?_ fun _ =>
    (Keeps.pure _).ite (((keeps_ask hI _ _ rfl).ite (Keeps.pure _)).seq <|
      Keeps.bind ?_ fun _ w hw => ?_)
  · split
    · rename_i hvpn
      exact keeps_failure (hstop hvpn).mapError
    · exact Keeps.pure _
  · split
    · rename_i hmesh
      exact keeps_failure (hremesh hmesh _)
    · exact Keeps.pure _
  · exact wp_netw_bind.mpr (wp_keeps (wp_ite.mpr
      ⟨fun hvpn => wp_failure.mpr (wp_mapError.mpr (hstart hvpn w _ _ _ hw)),
        fun _ => wp_pure.mpr hw⟩) fun _ => Keeps.pure _)

/-- Creating the tunnels again. The kill switch is borrowed for the VPN only. -/
theorem keeps_recreateTunnels
    (hborrow : isVPNStarted = true → ∀ w, I w →
      wp (setKillSwitch w.netw.allowlist) r A (fun _ t => I t) w)
    (hunset : isVPNStarted = true → Keeps r A I unsetKillSwitch)
    (hoff : ∀ w, I w → I (w.withNetw fun c => { c with isKillSwitchSet := false })) :
    Keeps r A I (recreateTunnels isVPNStarted isMeshStarted) := by
  have hbuild := keeps_rebuildTunnels hI hstop hremesh hstart
  intro w hw
  refine wp_netw_bind.mpr (wp_ite.mpr ⟨fun h => ?_, fun _ =>
    (hbuild.seq <| keeps_joinErrors _ _) w hw⟩)
  have hvpn : isVPNStarted = true := (Bool.and_eq_true _ _ ▸ h).1
  have hreturn (vpnErr : Option Error) : Keeps r A I (returnKillSwitch vpnErr) :=
    ((keeps_setNetw hI hoff).seq <| Keeps.pure _).ite (keeps_failure (hunset hvpn))
  exact wp_keeps (wp_failure.mpr (hborrow hvpn w hw)) fun _ =>
    (keeps_joinErrors _ _).ite (hbuild.seq <| (hreturn _).seq <| keeps_joinErrors _ _)

end Refresh

/-- `refreshVPN` keeps `I` until the tunnels are created again, which leads to `J`. -/
theorem wp_refreshVPN {r : Env} {A I J : World → Prop} (hI : QuietInvariant A I)
    (hIJ : ∀ t, I t → J t) {w : World} (hw : I w)
    (hreset : w.netw.isVpnSet = true → Keeps r A I resetAllowlist)
    (hrecreate : ∀ t, I t →
      wp (recreateTunnels w.netw.isVpnSet w.netw.isMeshnetSet) r A (fun _ u => J u) t) :
    wp refreshVPN r A (fun _ t => J t) w := by
  refine wp_netw_bind.mpr (wp_ite.mpr ⟨fun _ => wp_pure.mpr (hIJ w hw), fun _ => ?_⟩)
  have hafter : I (w.after r (.interfacesWithDefaultRoute w.netw.tunName) false) :=
    hI.quiet (w := w) rfl rfl hw
  refine wp_bind.mpr (wp_ask.mpr ⟨hI.seen _ hafter, ?_⟩)
  rw [onOk_ok]
  refine wp_seq (P := fun _ t => I t) (wp_ite.mpr
    ⟨fun _ => wp_failure.mpr (keeps_handleNetworkChanged hI hafter hreset),
      fun _ => wp_pure.mpr hafter⟩) (fun _ t ht => wp_ite.mpr
        ⟨fun _ => wp_pure.mpr (hIJ t ht), fun _ => ?_⟩) fun _ t ht => hIJ t ht
  exact (keeps_setNetw_quiet hI (fun _ => rfl) fun _ => rfl).leads (fun _ => hIJ)
    (fun _ => hrecreate) t ht

/-! ### Every public method -/

/-- `I` is kept by the procedures that change the rules of single peers, whatever
fails. `okAddr` is what the addresses of allowed peers must satisfy for it. -/
structure PeerUpkeep (r : Env) (A I : World → Prop) (okAddr : Addr → Prop) : Prop
    extends QuietInvariant A I where
  ipv6 : Keeps r A I (fwDelete ipv6Names)
  allowIncoming : ∀ publicKey address lanAllowed, okAddr address →
    Keeps r A I (allowIncoming publicKey address lanAllowed)
  allowFileshare : ∀ publicKey address, okAddr address →
    Keeps r A I (allowFileshare publicKey address)
  blockIncoming : ∀ a, Keeps r A I (blockIncoming a)
  blockFileshare : ∀ a, Keeps r A I (Api.blockFileshare a)
  enable : Keeps r A I (firewall Firewall.enable)
  disable : Keeps r A I (firewall Firewall.disable)

theorem NameUpkeep.peerUpkeep {r : Env} {A I : World → Prop} {okAddr : Addr → Prop}
    (h : NameUpkeep r A I) (hipv6 : Keeps r A I (fwDelete ipv6Names))
    (henable : Keeps r A I (firewall Firewall.enable))
    (hdisable : Keeps r A I (firewall Firewall.disable)) : PeerUpkeep r A I okAddr where
  toQuietInvariant := h.toQuietInvariant
  ipv6 := hipv6
  allowIncoming _ _ _ _ := h.keeps_allowIncoming _ _ _
  allowFileshare _ _ _ := h.keeps_allowFileshare _ _
  blockIncoming := h.keeps_blockIncoming
  blockFileshare := h.keeps_blockFileshare
  enable := henable
  disable := hdisable

/-- `I` is also kept when a single rule of the allowlist comes or goes. -/
structure RuleUpkeep (r : Env) (A I : World → Prop) (okAddr : Addr → Prop) : Prop
    extends PeerUpkeep r A I okAddr where
  addAllowlist : ∀ rs : List Rule, (∀ rule ∈ rs, rule.name ∈ allowlistRuleNames) →
    Keeps r A I (fwAdd rs)
  deleteAllowlist : ∀ name ∈ allowlistRuleNames, Keeps r A I (fwDelete [name])
  denyDNS : Keeps r A I denyDNS
  undenyDNS : Keeps r A I undenyDNS
  allowlist : ∀ w allowlist, I w → I (w.withNetw fun c => { c with allowlist })

/-- `I` reads the core only and is kept by every procedure that touches it, except
for those that replace all meshnet rules. Inside the replacement of an allowlist it
may be broken. `okList` is what allowlists must satisfy for it. -/
structure Upkeep (r : Env) (A I : World → Prop) (okAddr : Addr → Prop)
    (okList : Allowlist → Prop) : Prop extends PeerUpkeep r A I okAddr, CoreInvariant A I where
  resetAllowlist : Keeps r A I resetAllowlist
  replaceAllowlist : ∀ allowlist, okList allowlist → Keeps r A I (do
    unsetAllowlist
    setAllowlist allowlist)
  setNetwork : ∀ allowlist, okList allowlist → Keeps r A I (setNetwork allowlist)
  unsetNetwork : Keeps r A I unsetNetwork
  killSwitch : ∀ w b, I w → I (w.withNetw fun c => { c with isKillSwitchSet := b })

/-- `I` is kept by the procedures that replace all meshnet rules. `F` holds between
the flush of the old rules and the default rules of the new configuration. -/
structure MeshUpkeep (r : Env) (A I F : World → Prop) (okAddr : Addr → Prop) : Prop where
  between : QuietInvariant A F
  sub : ∀ w, F w → I w
  flush : ∀ w, I w → wp defaultMeshUnBlock r A (fun _ t => F t) w
  cfg : ∀ w cfg, F w → okAddr cfg.address → F (w.withNetw fun c => { c with cfg })
  block : ∀ ip w, F w → wp (defaultMeshBlock ip) r A (fun _ t => I t) w
  enableMesh : ∀ self privateKey, Keeps r A I (enableMesh self privateKey)
  on : ∀ w, I w → okAddr w.netw.cfg.address →
    I (w.withNetw fun c => { c with isMeshnetSet := true })
  off : ∀ w, I w → I (w.withNetw fun c => { c with isMeshnetSet := false })
  valid : ∀ a : Addr, a.isValid = true → okAddr a
  stored : ∀ w, I w → w.netw.isMeshnetSet = true → okAddr w.netw.cfg.address

section And

variable {r : Env} {A A' I I' F F' : World → Prop} {okAddr : Addr → Prop}

theorem QuietInvariant.weaken (h : QuietInvariant A I) (hA : ∀ w, A w → A' w) :
    QuietInvariant A' I :=
  ⟨fun w hw => hA w (h.seen w hw), h.quiet⟩

theorem QuietInvariant.and (h : QuietInvariant A I) (h' : QuietInvariant A' I') :
    QuietInvariant any fun w => I w ∧ I' w :=
  ⟨fun _ _ => trivial, fun e l hw => ⟨h.quiet e l hw.1, h'.quiet e l hw.2⟩⟩

/-- Two invariants at once. -/
theorem PeerUpkeep.and (h : PeerUpkeep r A I okAddr) (h' : PeerUpkeep r A' I' okAddr) :
    PeerUpkeep r any (fun w => I w ∧ I' w) okAddr where
  toQuietInvariant := h.toQuietInvariant.and h'.toQuietInvariant
  ipv6 := h.ipv6.and h'.ipv6
  allowIncoming _ _ _ hok := (h.allowIncoming _ _ _ hok).and (h'.allowIncoming _ _ _ hok)
  allowFileshare _ _ hok := (h.allowFileshare _ _ hok).and (h'.allowFileshare _ _ hok)
  blockIncoming a := (h.blockIncoming a).and (h'.blockIncoming a)
  blockFileshare a := (h.blockFileshare a).and (h'.blockFileshare a)
  enable := h.enable.and h'.enable
  disable := h.disable.and h'.disable

theorem RuleUpkeep.and (h : RuleUpkeep r A I okAddr) (h' : RuleUpkeep r A' I' okAddr) :
    RuleUpkeep r any (fun w => I w ∧ I' w) okAddr where
  toPeerUpkeep := h.toPeerUpkeep.and h'.toPeerUpkeep
  addAllowlist rs hrs := (h.addAllowlist rs hrs).and (h'.addAllowlist rs hrs)
  deleteAllowlist n hn := (h.deleteAllowlist n hn).and (h'.deleteAllowlist n hn)
  denyDNS := h.denyDNS.and h'.denyDNS
  undenyDNS := h.undenyDNS.and h'.undenyDNS
  allowlist w a hw := ⟨h.allowlist w a hw.1, h'.allowlist w a hw.2⟩

theorem Upkeep.and {okList : Allowlist → Prop} (h : Upkeep r A I okAddr okList)
    (h' : Upkeep r A' I' okAddr okList) :
    Upkeep r any (fun w => I w ∧ I' w) okAddr okList where
  toPeerUpkeep := h.toPeerUpkeep.and h'.toPeerUpkeep
  stays e hw := ⟨h.stays e hw.1, h'.stays e hw.2⟩
  resetAllowlist := h.resetAllowlist.and h'.resetAllowlist
  replaceAllowlist a ha := (h.replaceAllowlist a ha).and (h'.replaceAllowlist a ha)
  setNetwork a ha := (h.setNetwork a ha).and (h'.setNetwork a ha)
  unsetNetwork := h.unsetNetwork.and h'.unsetNetwork
  killSwitch w b hw := ⟨h.killSwitch w b hw.1, h'.killSwitch w b hw.2⟩

theorem MeshUpkeep.and (h : MeshUpkeep r A I F okAddr) (h' : MeshUpkeep r A' I' F' okAddr) :
    MeshUpkeep r any (fun w => I w ∧ I' w) (fun w => F w ∧ F' w) okAddr where
  between := h.between.and h'.between
  sub w hw := ⟨h.sub w hw.1, h'.sub w hw.2⟩
  flush w hw := wp_both (h.flush w hw.1) (h'.flush w hw.2)
  cfg w cfg hw hok := ⟨h.cfg w cfg hw.1 hok, h'.cfg w cfg hw.2 hok⟩
  block ip w hw := wp_both (h.block ip w hw.1) (h'.block ip w hw.2)
  enableMesh _ _ := (h.enableMesh _ _).and (h'.enableMesh _ _)
  on w hw hok := ⟨h.on w hw.1 hok, h'.on w hw.2 hok⟩
  off w hw := ⟨h.off w hw.1, h'.off w hw.2⟩
  valid := h.valid
  stored w hw hmesh := h.stored w hw.1 hmesh

end And

/-- Properties of the flags are kept whatever happens to single rules. -/
theorem FlagInvariant.ruleUpkeep {r : Env} {I : World → Prop} {okAddr : Addr → Prop}
    (hI : FlagInvariant I)
    (hlist : ∀ w allowlist, I w → I (w.withNetw fun c => { c with allowlist })) :
    RuleUpkeep r any I okAddr where
  toPeerUpkeep := hI.nameUpkeep.peerUpkeep (hI.keeps_firewall _) (hI.keeps_firewall _)
    (hI.keeps_firewall _)
  addAllowlist _ _ := hI.keeps_firewall _
  deleteAllowlist _ _ := hI.keeps_firewall _
  denyDNS := hI.keeps_denyDNS
  undenyDNS := hI.keeps_undenyDNS
  allowlist := hlist

/-- Methods that may replace all meshnet rules. -/
def Op.flushes : Op → Bool
  | .start .. | .setMesh .. | .refresh _ | .unSetMesh | .reconnect _ => true
  | _ => false

/-- The addresses that a call allows traffic from, besides those of the peer list of
a configuration, satisfy `ok`. -/
def Op.Allows (ok : Addr → Prop) : Op → Prop
  | .setMesh cfg _ _ | .refresh cfg => ok cfg.address
  | .allowIncoming a _ | .allowFileshare a => ok a.address
  | .resetRouting peer _ => peer.doIAllowInbound = true → ok peer.address
  | _ => True

/-- The allowlist of a call satisfies `ok`. -/
def Op.Lists (ok : Allowlist → Prop) : Op → Prop
  | .start _ _ allowlist _ _ | .setKillSwitch allowlist | .setAllowlist allowlist => ok allowlist
  | _ => True

theorem Op.allows_any (op : Op) : op.Allows fun _ => True := by cases op <;> simp [Op.Allows]

theorem Op.lists_any (op : Op) : op.Lists fun _ => True := by cases op <;> simp [Op.Lists]

namespace PeerUpkeep

variable {r : Env} {A I F : World → Prop} {okAddr : Addr → Prop} (h : PeerUpkeep r A I okAddr)
include h

theorem keeps_refreshIncoming {peer : MachinePeer}
    (hok : peer.doIAllowInbound = true → okAddr peer.address) :
    Keeps r A I (Api.refreshIncoming peer) :=
  keeps_netw.seq <| Keeps.when fun hin =>
    (h.blockIncoming _).mapError.guard.seq <| (h.allowIncoming _ _ _ (hok hin)).mapError

variable (hm : MeshUpkeep r A I F okAddr)
include hm

theorem keeps_refresh {cfg : MachineMap} (hok : okAddr cfg.address) : Keeps r A I (refresh cfg) :=
  Networker.keeps_refresh h.toQuietInvariant hm.between hm.sub hm.flush hm.block
    (fun _ _ _ hvalid => h.allowIncoming _ _ _ (hm.valid _ hvalid))
    (fun _ _ hvalid => h.allowFileshare _ _ (hm.valid _ hvalid)) cfg
    (fun w hw => hm.cfg w cfg hw hok) (h.allowIncoming _ _ _ hok)

theorem keeps_setMesh {cfg : MachineMap} (self : Addr) (privateKey : String)
    (hok : okAddr cfg.address) : Keeps r A I (setMesh cfg self privateKey) := by
  refine Networker.keeps_setMesh h.toQuietInvariant hm.sub hm.flush hm.enableMesh cfg self
    privateKey fun w hw => ?_
  refine wp_seq (wp_mono (wp_and (h.keeps_refresh hm hok w hw) ((refresh_cfg cfg).ok trivial ()))
    (fun _ h => h.1) fun _ _ h => h) (fun _ t ht => ?_) fun _ _ ht => ht.1
  have hmesh := hm.on t ht.1 (ht.2 rfl ▸ hok)
  have hkey :
      I (t.withNetw fun c => { c with isMeshnetSet := true, lastPrivateKey := privateKey }) := by
    refine h.quiet ?_ ?_ hmesh
    · rfl
    · rfl
  exact wp_setNetw.mpr ⟨h.seen _ hkey, hkey⟩

theorem keeps_unSetMesh : Keeps r A I unSetMesh :=
  Networker.keeps_unSetMesh h.toQuietInvariant hm.sub hm.flush hm.off

/-- `remesh` sets up the configuration that was in force. -/
theorem keeps_remesh (ip : Addr) : Keeps r A I (remesh ip) := by
  intro w hw
  by_cases hmesh : w.netw.isMeshnetSet = true
  · have hcfg := meshFields_flag (P := fun _ cfg => cfg = w.netw.cfg)
    have hunset : Keeps r any (fun t => t.netw.cfg = w.netw.cfg) unSetMesh :=
      Networker.keeps_unSetMesh hcfg.toQuietInvariant (fun _ h => h) hcfg.keeps_defaultMeshUnBlock
        fun _ h => h
    refine wp_seq (P := fun _ t => I t ∧ t.netw.cfg = w.netw.cfg) (wp_mapError.mpr (wp_mono
      (wp_and (h.keeps_unSetMesh hm w hw) (hunset w rfl)) (fun _ h => h.1) fun _ _ h => h))
      (fun _ t ht => ?_) fun _ _ ht => ht.1
    refine wp_netw_bind.mpr (wp_mapError.mpr (h.keeps_setMesh hm _ _ ?_ t ht.1))
    rw [ht.2]
    exact hm.stored w hw hmesh
  · -- the meshnet is off, and `unSetMesh` says so
    refine wp_seq (P := fun x t => x ≠ .ok () ∧ I t) (wp_mapError.mpr (wp_netw_bind.mpr ?_))
      (fun _ _ ht => absurd rfl ht.1) fun _ _ ht => ht.2
    rw [if_neg hmesh, wp_fail]
    exact ⟨nofun, hw⟩

end PeerUpkeep

namespace RuleUpkeep

variable {r : Env} {A I : World → Prop} {okAddr : Addr → Prop} (h : RuleUpkeep r A I okAddr)
include h

theorem keeps_setAllowlist (allowlist : Allowlist) : Keeps r A I (setAllowlist allowlist) :=
  Networker.keeps_setAllowlist h.toQuietInvariant h.addAllowlist h.denyDNS h.allowlist allowlist

theorem keeps_unsetAllowlist : Keeps r A I unsetAllowlist :=
  Networker.keeps_unsetAllowlist h.toQuietInvariant h.deleteAllowlist h.undenyDNS

theorem keeps_resetAllowlist : Keeps r A I resetAllowlist :=
  h.keeps_unsetAllowlist.mapError.seq <| keeps_netw.seq <| (h.keeps_setAllowlist _).mapError

/-- Any allowlist will do. -/
theorem upkeep {okList : Allowlist → Prop} (hI : CoreInvariant A I)
    (hset : ∀ allowlist, Keeps r A I (setNetwork allowlist))
    (hunset : Keeps r A I unsetNetwork)
    (hks : ∀ w b, I w → I (w.withNetw fun c => { c with isKillSwitchSet := b })) :
    Upkeep r A I okAddr okList where
  toPeerUpkeep := h.toPeerUpkeep
  stays := hI.stays
  resetAllowlist := h.keeps_resetAllowlist
  replaceAllowlist _ _ := h.keeps_unsetAllowlist.seq <| h.keeps_setAllowlist _
  setNetwork _ _ := hset _
  unsetNetwork := hunset
  killSwitch := hks

end RuleUpkeep

section MeshFields

variable {r : Env} {P : Bool → MachineMap → Prop}

/-- Nothing but the meshnet's own methods changes its flag and its configuration. -/
theorem meshFields_upkeep {okList : Allowlist → Prop} :
    Upkeep r any (fun w => P w.netw.isMeshnetSet w.netw.cfg) any okList := by
  have hrules : RuleUpkeep r any (fun w => P w.netw.isMeshnetSet w.netw.cfg)
      any := meshFields_flag.ruleUpkeep fun _ _ h => h
  refine hrules.upkeep meshFields_core (fun _ => ?_) ?_ fun _ _ h => h
  · exact keeps_setNetwork meshFields_core.toQuiet (fun _ _ => meshFields_flag.keeps_firewall _)
      (hrules.keeps_setAllowlist _) fun _ h => h
  · exact keeps_unsetNetwork meshFields_core.toQuiet (fun _ _ => meshFields_flag.keeps_firewall _)
      hrules.keeps_unsetAllowlist fun _ h => h

theorem meshFlag_upkeep (on : Bool) : Upkeep r any (fun w => w.netw.isMeshnetSet = on) any any :=
  meshFields_upkeep (P := fun isMeshnetSet _ => isMeshnetSet = on)

end MeshFields

namespace Upkeep

variable {r : Env} {A I F : World → Prop} {okAddr : Addr → Prop} {okList : Allowlist → Prop}
  (h : Upkeep r A I okAddr okList)
include h

theorem keeps_setKillSwitch (allowlist : Allowlist) (hlist : okList allowlist) :
    Keeps r A I (setKillSwitch allowlist) :=
  keeps_netw.seq <| (h.setNetwork _ hlist).guard.seq <|
    keeps_setNetw h.toQuietInvariant fun w hw => h.killSwitch w true hw

theorem keeps_unsetKillSwitch : Keeps r A I unsetKillSwitch :=
  keeps_netw.seq <| h.unsetNetwork.guard.seq <|
    keeps_setNetw h.toQuietInvariant fun w hw => h.killSwitch w false hw

theorem keeps_stop : Keeps r A I stop :=
  Networker.keeps_stop h.toCoreInvariant fun w hw _ => h.unsetNetwork w hw

theorem keeps_restart (creds : Credentials) (serverData : ServerData)
    (nameservers : List String) : Keeps r A I (restart creds serverData nameservers) :=
  Networker.keeps_restart h.toCoreInvariant (fun w hw _ => h.unsetNetwork w hw) h.ipv6 _ _ _

/-- `start`, when the meshnet can be refreshed. -/
theorem keeps_start (creds : Credentials) (serverData : ServerData) {allowlist : Allowlist}
    (nameservers : List String) (hlist : okList allowlist)
    (hrefresh : ∀ w, I w → w.netw.isMeshnetSet = true →
      wp (refresh w.netw.cfg) r A (fun _ t => I t) w) :
    Keeps r A I (start creds serverData allowlist nameservers) :=
  Networker.keeps_start h.toCoreInvariant (fun w hw _ => h.unsetNetwork w hw) h.ipv6 _ _ _
    (fun w hw => keeps_configureFirewall (h.setNetwork _ hlist w hw) h.resetAllowlist) hrefresh

theorem keeps_refreshVPN {w : World} (hw : I w)
    (hlisted : w.netw.isVpnSet = true → ∀ t, I t → okList t.netw.allowlist)
    (hremesh : w.netw.isMeshnetSet = true → ∀ ip, Keeps r A I (remesh ip))
    (hrefresh : w.netw.isVpnSet = true → ∀ t, I t → t.netw.isMeshnetSet = true →
      wp (refresh t.netw.cfg) r A (fun _ u => I u) t) :
    wp refreshVPN r A (fun _ t => I t) w := by
  refine wp_refreshVPN h.toQuietInvariant (fun _ h => h) hw (fun _ => h.resetAllowlist)
    (keeps_recreateTunnels h.toQuietInvariant (fun _ => h.keeps_stop) hremesh
      (fun hvpn t _ _ _ ht => h.keeps_start _ _ _ (hlisted hvpn t ht) (hrefresh hvpn) t ht)
      (fun hvpn t ht => h.keeps_setKillSwitch _ (hlisted hvpn t ht) t ht)
      (fun _ => h.keeps_unsetKillSwitch)
      fun t ht => h.killSwitch t false ht)

/-- Every public method keeps `I`. -/
theorem exec {op : Op} (hm : op.flushes = true → MeshUpkeep r A I F okAddr)
    (hok : op.Allows okAddr) (hlist : op.Lists okList)
    (hlisted : op.flushes = true → ∀ w, I w → okList w.netw.allowlist) : Keeps r A I op.exec := by
  have hI := h.toQuietInvariant
  have hcore := h.toCoreInvariant
  cases op with
  | start creds serverData allowlist nameservers enableLocalTraffic =>
    exact (keeps_setNetw_core hcore fun _ => rfl).seq <|
      (keeps_isConnectedToVPN hI).seq <| (h.keeps_restart _ _ _).ite
        (h.keeps_start _ _ _ hlist fun w hw hmesh =>
          h.keeps_refresh (hm rfl) ((hm rfl).stored w hw hmesh) w hw)
  | stop =>
    exact keeps_netw.seq <| Keeps.when fun _ => h.keeps_stop.tolerate.seq <|
      keeps_setNetw_core hcore fun _ => rfl
  | setKillSwitch allowlist => exact h.keeps_setKillSwitch _ hlist
  | unsetKillSwitch => exact h.keeps_unsetKillSwitch
  | unsetFirewall => exact keeps_netw.seq <| Keeps.when fun _ => h.unsetNetwork
  | setAllowlist allowlist =>
    exact keeps_netw.seq <| (h.replaceAllowlist _ hlist).guard.seq <| keeps_call hI _ rfl
  | setLanDiscovery enabled =>
    exact (keeps_setNetw_core hcore fun _ => rfl).seq <| keeps_netw.seq <|
      (keeps_setupRoutingRules hI _ _).ignore.guard.seq <| (keeps_call hI _ rfl).ignore
  | setMesh cfg self privateKey => exact h.keeps_setMesh (hm rfl) _ _ hok
  | refresh cfg => exact h.keeps_refresh (hm rfl) hok
  | unSetMesh =>
    exact (keeps_setNetw_core hcore fun _ => rfl).seq <| h.keeps_unSetMesh (hm rfl)
  | allowIncoming a lanAllowed => exact h.allowIncoming _ _ _ hok
  | blockIncoming a => exact h.blockIncoming a
  | allowFileshare a => exact h.allowFileshare _ _ hok
  | blockFileshare a => exact h.blockFileshare a
  | resetRouting peer peers =>
    exact keeps_netw.seq <| (keeps_call hI _ rfl).seq <| h.keeps_refreshIncoming hok
  | reconnect stateIsUp =>
    exact keeps_netw.seq <| (keeps_disableIPv6IfNeeded hI).ignore.guard.seq <|
        Keeps.when fun _ => Keeps.ignore fun w hw =>
          h.keeps_refreshVPN hw (fun _ => hlisted rfl) (fun _ => h.keeps_remesh (hm rfl))
            fun _ t ht hmesh => h.keeps_refresh (hm rfl) ((hm rfl).stored t ht hmesh) t ht
  | setDNS nameservers =>
    exact (keeps_isConnectedToVPN hI).seq <| Keeps.when fun _ =>
      (keeps_setNetw_core hcore fun _ => rfl).seq <| keeps_setDNS hI _
  | unsetDNS =>
    exact (keeps_isConnectedToVPN hI).seq <| Keeps.when fun _ => keeps_unsetDNS hI
  | permitIPv6 => exact (keeps_setNetw_core hcore fun _ => rfl).seq <| keeps_call hI _ rfl
  | denyIPv6 => exact keeps_denyIPv6 hI
  | setVPN v =>
    exact keeps_netw.seq <| (Keeps.fail _).ite (Keeps.state.seq <|
      (keeps_ask hI _ _ rfl).seq <| (keeps_setNetw_core hcore fun _ => rfl).ite
        (Keeps.update hI.seen fun w hw => hcore.stays (w := w) rfl hw))
  | enableFirewall => exact h.enable.mapError
  | disableFirewall => exact h.disable.mapError
  | enableRouting =>
    exact (keeps_call hI _ rfl).ignore.seq <| (keeps_ask hI _ _ rfl).seq <|
      Keeps.forEach fun _ _ => (keeps_call hI _ rfl).ignore
  | disableRouting =>
    exact (Keeps.forEach fun _ _ => (keeps_call hI _ rfl).ignore).seq <|
      (keeps_call hI _ rfl).ignore

omit h in
/-- A step of a run keeps `I`. -/
theorem step {w : World} {i : Step} (h : Upkeep i.env A I okAddr okList)
    (hm : i.op.flushes = true → MeshUpkeep i.env A I F okAddr) (hok : i.op.Allows okAddr)
    (hlist : i.op.Lists okList) (hlisted : i.op.flushes = true → ∀ w, I w → okList w.netw.allowlist)
    (hw : I w) : I (w.step i) :=
  (h.exec hm hok hlist hlisted w hw).2

end Upkeep

end NordVPN.Networker
