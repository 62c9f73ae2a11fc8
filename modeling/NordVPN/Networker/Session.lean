import NordVPN.Networker.Frame

/-!
The log of calls, and what the methods leave alone of a session.

The invariants of `NordVPN.Networker.Frame` do not read the log. Those of this module may:
they speak of the last call of some kind, for instance the nameservers set last. Such an
invariant is deaf to all other calls, and a procedure that makes only those keeps it.
-/

namespace NordVPN.Networker

open NordVPN.Netip Prog

/-! ### The last call of a kind -/

/-- The latest logged call that satisfies `p`, with its outcome. -/
def World.lastCall (p : Call × Bool → Bool) (w : World) : Option (Call × Bool) := w.log.find? p

section LastCall

variable {p : Call × Bool → Bool} {w : World} {r : Env} {c : Call} {fails : Bool}

/-- A call of the kind becomes the last one. -/
theorem lastCall_after_of_pos (h : p (c, !fails) = true) :
    (w.after r c fails).lastCall p = some (c, !fails) := List.find?_cons_of_pos h

/-- Any other call leaves the last one as it is. -/
theorem lastCall_after_of_neg (h : p (c, !fails) = false) :
    (w.after r c fails).lastCall p = w.lastCall p :=
  List.find?_cons_of_neg (by rw [h]; exact Bool.false_ne_true)

end LastCall

/-! ### Deaf invariants -/

/-- The fields of `Combined` that setting up the firewall does not touch. -/
structure Session where
  vpnet : Option Vpn
  nextVPN : Option Vpn
  isVpnSet : Bool
  isMeshnetSet : Bool
  lastNameservers : List String
  ipv6Enabled : Bool
  enableLocalTraffic : Bool
  interfaces : List String

def Combined.session (c : Combined) : Session :=
  { vpnet := c.vpnet, nextVPN := c.nextVPN, isVpnSet := c.isVpnSet,
    isMeshnetSet := c.isMeshnetSet, lastNameservers := c.lastNameservers,
    ipv6Enabled := c.ipv6Enabled, enableLocalTraffic := c.enableLocalTraffic,
    interfaces := c.interfaces }

/-- `I` does not hear the calls of `quiet`, and reads the session, the tunnel and the log
only. -/
structure Deaf (quiet : Call → Bool) (I : World → Prop) : Prop where
  unheard : ∀ {w : World} {c : Call} (r : Env) (fails : Bool), quiet c = true → I w →
    I (w.after r c fails)
  stays : ∀ {w t : World}, t.netw.session = w.netw.session → t.tunnelUp = w.tunnelUp →
    t.log = w.log → I w → I t

namespace Deaf

variable {quiet : Call → Bool} {r : Env} {I : World → Prop}

/-- Deaf to more calls is deaf to fewer. -/
theorem mono {quiet' : Call → Bool} (h : Deaf quiet I)
    (hsub : ∀ c, quiet' c = true → quiet c = true) : Deaf quiet' I :=
  ⟨fun r fails hc => h.unheard r fails (hsub _ hc), h.stays⟩

variable (h : Deaf quiet I)
include h

/-- A call that is not heard, whether or not it fails. -/
theorem keeps_call {c : Call} (hc : quiet c = true) : Keeps r any I (call c) :=
  fun _ hw => wp_call.mpr ⟨trivial, h.unheard r _ hc hw⟩

theorem keeps_ask {α : Type} {c : Call} (hc : quiet c = true) (answer : Env → Nat → α) :
    Keeps r any I (ask c answer) :=
  fun _ hw => wp_ask.mpr ⟨trivial, h.unheard r _ hc hw⟩

theorem keeps_devices (hc : quiet .devices = true) : Keeps r any I devices :=
  Keeps.env.seq <| Keeps.state.seq <| (h.keeps_call hc).seq <| Keeps.pure _

/-- An update of the fields outside the session. -/
theorem keeps_setNetw {f : Combined → Combined} (hf : ∀ c, (f c).session = c.session) :
    Keeps r any I (setNetw f) :=
  Keeps.assign fun w hw => h.stays (hf w.netw) rfl rfl hw

/-- The tracked names are not part of the session. -/
theorem keeps_rules (f : Combined → List String) :
    Keeps r any I (setNetw fun c => { c with rules := f c }) :=
  h.keeps_setNetw fun _ => rfl

/-- Nor is the allowlist in force. -/
theorem keeps_inForce (allowlist : Allowlist) :
    Keeps r any I (setNetw fun c => { c with allowlist }) :=
  h.keeps_setNetw fun _ => rfl

/-- The memory of the firewall is not read, so what it does is free. -/
theorem keeps_firewall (m : Fw Unit) : Keeps r any I (firewall m) :=
  fun w hw => wp_zoom.mpr ⟨fun _ _ => trivial, h.stays (w := w) rfl rfl rfl hw⟩

theorem keeps_fwAdd (rules : List Rule) : Keeps r any I (fwAdd rules) :=
  h.keeps_firewall _

theorem keeps_fwDelete (names : List String) : Keeps r any I (fwDelete names) :=
  h.keeps_firewall _

theorem keeps_denyDNS : Keeps r any I denyDNS :=
  keeps_netw.seq <| Keeps.when fun _ => (h.keeps_fwAdd _).mapError.seq <| h.keeps_rules _

theorem keeps_undenyDNS : Keeps r any I undenyDNS :=
  keeps_netw.seq <| Keeps.when fun _ => (h.keeps_fwDelete _).seq <| h.keeps_rules _

theorem keeps_defaultMeshUnBlock : Keeps r any I defaultMeshUnBlock :=
  keeps_netw.seq <| (h.keeps_fwDelete _).seq <| h.keeps_rules _

theorem keeps_defaultMeshBlock (ip : Addr) : Keeps r any I (defaultMeshBlock ip) :=
  (h.keeps_fwAdd _).seq <| h.keeps_rules _

/-- The rules for a peer only touch the firewall and the tracked names. -/
theorem keeps_allowIncoming (publicKey : String) (address : Addr) (lanAllowed : Bool) :
    Keeps r any I (allowIncoming publicKey address lanAllowed) :=
  keeps_netw.seq <| (Keeps.fail _).ite
    (((h.keeps_fwAdd _).mapError.seq <| h.keeps_rules _).ite
      ((h.keeps_rules _).seq <| (h.keeps_fwAdd _).mapError.seq <| h.keeps_rules _))

theorem keeps_allowFileshare (publicKey : String) (address : Addr) :
    Keeps r any I (allowFileshare publicKey address) :=
  keeps_netw.seq <| (Keeps.fail _).ite
    ((h.keeps_fwAdd _).mapError.seq <| h.keeps_rules _)

/-! Procedures whose calls are all unheard. -/

variable {creds : Credentials} {serverData : ServerData} {nameservers : List String}

/-- A failed start also stops the tunnel, so both calls must be unheard. -/
theorem keeps_startVpn (hstart : quiet (.vpnStart creds serverData) = true)
    (hstop : quiet .vpnStop = true) : Keeps r any I (startVpn creds serverData) :=
  (h.keeps_call hstop).ignore.onError (h.keeps_call hstart)

/-- The route goes to the table of the policy routing, which is asked for first. -/
theorem keeps_addDefaultRoute (htable : quiet .policyTableID = true)
    (hadd : ∀ route, quiet (.routerAdd .vpn route) = true) : Keeps r any I addDefaultRoute :=
  keeps_netw.seq <| (h.keeps_ask htable _).seq <| (h.keeps_call (hadd _)).mapError

/-- The nameservers may be set on any device. -/
theorem keeps_configureDNS (hset : ∀ device servers, quiet (.dnsSet device servers) = true) :
    Keeps r any I (configureDNS serverData nameservers) := by
  have hkeeps (servers : List String) : Keeps r any I (setDNS servers) :=
    keeps_netw.seq <| (h.keeps_call (hset _ _)).mapError
  exact keeps_netw.seq <| (hkeeps _).ite (hkeeps _)

/-- Asking for the state of the tunnel is a call as well. -/
theorem keeps_isConnectedToVPN (hask : quiet .vpnIsActive = true) :
    Keeps r any I isConnectedToVPN :=
  keeps_netw.seq <| (Keeps.pure _).ite (Keeps.state.seq <| h.keeps_ask hask _)

end Deaf

/-! ### Setting the network -/

/-- The calls of the procedures that set and unset the network. -/
def Call.ofNetwork : Call → Bool
  | .devices | .enablePorts .. | .disablePorts | .setupRoutingRules ..
  | .exitNodeResetFirewall .. | .routerFlush .allowlist => true
  | _ => false

/-- The same calls without those that set up the routing rules. -/
def Call.ofFirewall : Call → Bool
  | .setupRoutingRules .. => false
  | c => c.ofNetwork

/-- `I` is kept where the network is set and unset: the routing rules may be heard, but are set up
with the fields of `Combined`. -/
structure Networked (r : Env) (I : World → Prop) : Prop where
  deaf : Deaf Call.ofFirewall I
  rules : ∀ ipv6 subnets, Keeps r (fun _ => True) I (setupRoutingRules ipv6 subnets)

/-- An invariant that hears no call of the network is kept where the network is set. -/
theorem Deaf.networked {r : Env} {I : World → Prop} (h : Deaf Call.ofNetwork I) :
    Networked r I where
  deaf := h.mono fun c hc => by cases c <;> first | exact hc | cases hc
  rules _ _ := keeps_netw.seq <| h.keeps_call rfl

namespace Networked

variable {r : Env} {I : World → Prop} (h : Networked r I)
include h

theorem keeps_allowPorts (ifaces : List Interface) (protocol : String) (ports : List Int) :
    Keeps r any I (allowPorts ifaces protocol ports) :=
  (Keeps.pure _).ite (keeps_netw.seq <| (h.deaf.keeps_call rfl).mapError.seq <| Keeps.pure _)

/-- The subnets may fail to parse halfway: the invariant is kept at every exit. -/
theorem keeps_setAllowlist (allowlist : Allowlist) : Keeps r any I (setAllowlist allowlist) := by
  refine (h.deaf.keeps_devices rfl).bind fun _ => keeps_netw.bind fun _ => Keeps.env.bind fun _ =>
    Keeps.state.bind fun _ => ?_
  split
  · exact Keeps.fail _
  · exact (h.keeps_allowPorts _ _ _).seq <| (h.keeps_allowPorts _ _ _).seq <|
      (h.deaf.keeps_fwAdd _).seq <| h.deaf.keeps_denyDNS.guard.seq <|
        (h.deaf.keeps_inForce _).seq <| (h.rules _ _).mapError

theorem keeps_unsetAllowlist : Keeps r any I unsetAllowlist :=
  (h.deaf.keeps_call rfl).ignore.seq <|
    (Keeps.forEach fun _ _ => (h.deaf.keeps_fwDelete _).tolerate.mapError).seq <|
      (h.deaf.keeps_call rfl).mapError.seq <| keeps_netw.seq <|
        Keeps.when fun _ => h.deaf.keeps_undenyDNS.mapError

/-- The routes of the allowlist are flushed, which is not heard. -/
theorem keeps_unsetNetwork : Keeps r any I unsetNetwork :=
  (h.deaf.keeps_fwDelete _).seq <|
    ((h.deaf.keeps_fwDelete _).seq <| h.deaf.keeps_fwDelete _).tolerate.seq <|
      h.keeps_unsetAllowlist.seq <| (h.deaf.keeps_call rfl).ignore.seq <|
        h.deaf.keeps_setNetw (f := fun c => { c with isNetworkSet := false }) fun _ => rfl

theorem keeps_resetAllowlist : Keeps r any I resetAllowlist :=
  h.keeps_unsetAllowlist.mapError.seq <| keeps_netw.seq <| (h.keeps_setAllowlist _).mapError

/-- The flag of the network is not part of the session. -/
theorem keeps_setNetwork (allowlist : Allowlist) : Keeps r any I (setNetwork allowlist) :=
  Keeps.bind (Keeps.tolerate ((h.deaf.keeps_devices rfl).seq <|
    (h.deaf.keeps_fwAdd _).seq <| h.deaf.keeps_fwAdd _)) fun _ =>
      (h.deaf.keeps_devices rfl).seq <| keeps_netw.seq <|
        (h.deaf.keeps_fwAdd _).seq <| (h.keeps_setAllowlist _).seq <|
          keeps_netw.seq <| (h.deaf.keeps_call rfl).ignore.seq <|
            h.deaf.keeps_setNetw (f := fun c => { c with isNetworkSet := true }) fun _ => rfl

/-- The network is set, and then its allowlist is set again. -/
theorem keeps_configureFirewall (allowlist : Allowlist) :
    Keeps r any I (configureFirewall allowlist) :=
  fun w hw => Networker.keeps_configureFirewall (h.keeps_setNetwork _ w hw) h.keeps_resetAllowlist

end Networked

/-- What holds whenever `restartBody` succeeds holds whenever `restart` does. -/
theorem attains_restart {r : Env} {I J : World → Prop} {creds : Credentials}
    {serverData : ServerData}
    {nameservers : List String} (h : Attains r I J (restartBody creds serverData nameservers)) :
    Attains r I J (restart creds serverData nameservers) :=
  keeps_netw.attains <| (Attains.fail _).ite h.onError

/-! ### Refreshing the meshnet -/

/-- The calls of `refresh`. -/
def Call.ofRefresh : Call → Bool
  | .unsetHosts | .setHosts _ | .exitNodeDisable | .exitNodeEnable | .meshRefresh _
  | .exitNodeResetPeers .. => true
  | _ => false

/-- Over all the peers of the map, one after the other. -/
theorem Deaf.keeps_refresh {r : Env} {I : World → Prop} (h : Deaf Call.ofRefresh I)
    (cfg : MachineMap) : Keeps r any I (refresh cfg) :=
  h.keeps_defaultMeshUnBlock.ignore.seq <| (h.keeps_call rfl).ignore.seq <|
    (h.keeps_call rfl).ignore.seq <| (h.keeps_call rfl).mapError.seq <|
      (h.keeps_call rfl).mapError.seq <|
        (h.keeps_setNetw (f := fun c => { c with cfg }) fun _ => rfl).seq <|
        (h.keeps_defaultMeshBlock _).mapError.seq <| (h.keeps_allowIncoming _ _ _).mapError.seq <|
            (Keeps.forEach fun peer _ => keeps_refreshPeer
              (fun _ _ _ _ => h.keeps_allowIncoming _ _ _)
              (fun _ _ _ => h.keeps_allowFileshare _ _) peer).seq <|
                keeps_netw.seq <| (h.keeps_call rfl).seq <| h.keeps_call rfl

end NordVPN.Networker
