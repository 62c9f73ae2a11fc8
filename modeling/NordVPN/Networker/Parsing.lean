import NordVPN.Networker.Api

/-!
Which subnets make the networker fail.

Only `setAllowlist` parses the subnets of an allowlist, and its error names the first one that does
not parse. So a subnet that parses is never blamed, whatever else the allowlist has and whatever the
dependencies answer.
-/

namespace NordVPN.Networker

open NordVPN.Netip Prog

/-- The error of `setAllowlist` for a subnet that does not parse. -/
def subnetError (cidr : String) : Error := .join (.plain "parsing subnet CIDR") (.external cidr)

/-- The error does not come from parsing the subnet. -/
def Unblamed (cidr : String) (e : Error) : Prop := e.has (subnetError cidr) = false

section Errors

variable {cidr : String} {e : Error}

theorem unblamed_sentinel (kind : Sentinel) : Unblamed cidr (.sentinel kind) := by
  simp [Unblamed, GoError.has, subnetError]

theorem unblamed_plain (text : String) : Unblamed cidr (.plain text) := by
  simp [Unblamed, GoError.has, subnetError]

theorem unblamed_external (text : String) : Unblamed cidr (.external text) := by
  simp [Unblamed, GoError.has, subnetError]

theorem unblamed_wrap (text : String) (h : Unblamed cidr e) : Unblamed cidr (.wrap text e) := by
  unfold Unblamed at h
  simp [Unblamed, GoError.has, subnetError, ← h]

/-- A context other than the one of the parser hides no blame. -/
theorem unblamed_join {text : String} (hne : text ≠ "parsing subnet CIDR") (h : Unblamed cidr e) :
    Unblamed cidr (.join (.plain text) e) := by
  unfold Unblamed at h
  simp [Unblamed, GoError.has, hne, ← h, subnetError]

/-- The parser stops at the first subnet that does not parse, and its error names it. -/
theorem parseSubnets_error {subnets : List String} (h : parseSubnets subnets = .error e) :
    ∃ cidr' ∈ subnets, parsePrefix cidr' = none ∧ e = subnetError cidr' := by
  induction subnets with
  | nil => cases h
  | cons cidr' subnets ih =>
    unfold parseSubnets at h
    split at h
    · rename_i hnone
      cases h
      exact ⟨cidr', List.mem_cons_self, hnone, rfl⟩
    · cases hrest : parseSubnets subnets with
      | ok rest =>
        rw [hrest] at h
        cases h
      | error e' =>
        rw [hrest] at h
        cases h
        obtain ⟨cidr'', hmem, hnone, he⟩ := ih hrest
        exact ⟨cidr'', List.mem_cons_of_mem _ hmem, hnone, he⟩

end Errors

section Raises

variable {r : Env} {cidr : String}

/-- Annotating an error with a context blames no further subnet. -/
theorem raises_context {α : Type} {text : String} {m : Netw α} (h : Raises r (Unblamed cidr) m) :
    Raises r (Unblamed cidr) (context text m) :=
  h.mapError fun _ => unblamed_wrap text

/-- A dependency answers with an external error, which is not of the parser. -/
theorem raises_call {c : Call} : Raises r (Unblamed cidr) (call c) :=
  Raises.env.seq <| Raises.state.seq <| Raises.update.seq <|
    Raises.ite (Raises.fail (unblamed_external _)) (Raises.pure _)

theorem raises_ask {α : Type} {c : Call} {answer : Env → Nat → α} :
    Raises r (Unblamed cidr) (ask c answer) :=
  Raises.env.seq <| Raises.state.seq <| Raises.update.seq <| Raises.pure _

theorem raises_netw : Raises r (Unblamed cidr) netw := Raises.state.seq <| Raises.pure _

theorem raises_setNetw {f : Combined → Combined} : Raises r (Unblamed cidr) (setNetw f) :=
  Raises.update

theorem raises_devices : Raises r (Unblamed cidr) devices :=
  Raises.env.seq <| Raises.state.seq <| raises_call.seq <| Raises.pure _

section Firewall

variable {r : AgentEnv}

variable {rule : Rule}

/-- The agents of the firewall answer with external errors, as dependencies do. -/
theorem raises_agentCall {agent : AgentId} {op : AgentOp} {text : String} :
    Raises r (Unblamed cidr) (context text (Firewall.agentCall agent op rule)) := by
  have hcall : Raises r (Unblamed cidr) (Firewall.agentCall agent op rule) :=
    Raises.env.seq <| Raises.state.seq <| Raises.update.seq <|
      Raises.ite (Raises.fail (unblamed_external _)) (Raises.pure _)
  exact hcall.mapError fun _ => unblamed_wrap text

/-- The memory of the firewall fails with sentinels only. -/
theorem unblamed_rules_add {mem : OrderedRules} {e : Error} (h : mem.add rule = .error e) :
    Unblamed cidr e := by
  unfold OrderedRules.add at h
  split at h
  · cases h
    exact unblamed_sentinel _
  · split at h
    · split at h
      · cases h
        exact unblamed_sentinel _
      · cases h
    · cases h

theorem raises_remember : Raises r (Unblamed cidr) (Firewall.remember rule) := by
  refine Raises.state.bind fun fw => ?_
  split
  · exact Raises.update
  · rename_i e he
    exact Raises.fail (unblamed_wrap _ (unblamed_rules_add he))

/-- Adding a rule fails in the memory or in an agent. -/
theorem raises_addRule : Raises r (Unblamed cidr) (Firewall.addRule rule) := by
  refine Raises.state.bind fun fw => Raises.ite (Raises.fail (unblamed_sentinel _)) ?_
  split
  · refine Raises.ite (Raises.fail (unblamed_sentinel _)) ?_
    exact raises_agentCall.seq <| raises_remember.seq <| raises_agentCall
  · exact raises_agentCall.seq <| raises_remember

/-- Deleting a rule fails as adding one does. -/
theorem raises_deleteRule {name : String} :
    Raises r (Unblamed cidr) (Firewall.deleteRule name) := by
  refine Raises.state.bind fun fw => ?_
  split
  · exact Raises.fail (unblamed_wrap _ (unblamed_sentinel _))
  · refine raises_agentCall.seq <| Raises.state.bind fun fw => ?_
    split
    · exact Raises.update
    · exact Raises.fail (unblamed_plain _)

end Firewall

theorem raises_fwAdd {rules : List Rule} : Raises r (Unblamed cidr) (fwAdd rules) :=
  Raises.zoom (Raises.forEach fun _ _ => raises_addRule)

theorem raises_fwDelete {names : List String} : Raises r (Unblamed cidr) (fwDelete names) :=
  Raises.zoom (Raises.forEach fun _ _ => raises_deleteRule)

/-! ### The allowlist -/

/-- The routing rules are given the subnets unparsed. -/
theorem raises_setupRoutingRules {ipv6 : Bool} {subnets : List String} :
    Raises r (Unblamed cidr) (setupRoutingRules ipv6 subnets) :=
  raises_netw.seq <| raises_call

theorem raises_denyDNS : Raises r (Unblamed cidr) denyDNS :=
  raises_netw.seq <| Raises.when
    ((raises_context raises_fwAdd).seq <| raises_setNetw)

theorem raises_undenyDNS : Raises r (Unblamed cidr) undenyDNS :=
  raises_netw.seq <| Raises.when (raises_fwDelete.seq <| raises_setNetw)

/-- The text that joins its error is not the one of the parser. -/
theorem raises_allowPorts {ifaces : List Interface} {protocol : String} {ports : List Int} :
    Raises r (Unblamed cidr) (allowPorts ifaces protocol ports) := by
  refine Raises.ite (Raises.pure _) (raises_netw.bind fun c => ?_)
  exact (raises_call.mapError fun _ => unblamed_join (by decide)).seq <| Raises.pure _

/-- A subnet that parses is not blamed, however many others are. -/
theorem raises_setAllowlist (h : (parsePrefix cidr).isSome = true) (allowlist : Allowlist) :
    Raises r (Unblamed cidr) (setAllowlist allowlist) := by
  refine raises_devices.bind fun ifaces => raises_netw.bind fun c => Raises.env.bind fun r' =>
    Raises.state.bind fun w => ?_
  split
  · rename_i e he
    obtain ⟨cidr', -, hnone, rfl⟩ := parseSubnets_error he
    refine Raises.fail ?_
    have hne : cidr' ≠ cidr := by
      rintro rfl
      rw [hnone] at h
      cases h
    simp [Unblamed, GoError.has, subnetError, hne]
  · refine raises_allowPorts.bind fun tcp => raises_allowPorts.bind fun udp =>
      raises_fwAdd.seq <| (Raises.when raises_denyDNS).seq <|
        raises_setNetw.seq <| raises_context raises_setupRoutingRules

/-- Taking an allowlist back works by names alone. -/
theorem raises_unsetAllowlist : Raises r (Unblamed cidr) unsetAllowlist :=
  Raises.ignore.seq <|
    (Raises.forEach fun _ _ => raises_context (Raises.tolerate raises_fwDelete)).seq <|
      (raises_context raises_call).seq <| raises_netw.seq <|
        Raises.when (raises_context raises_undenyDNS)

/-- The allowlist in force is set again, so a subnet of it may be blamed, but not `cidr`. -/
theorem raises_resetAllowlist (h : (parsePrefix cidr).isSome = true) :
    Raises r (Unblamed cidr) resetAllowlist :=
  (raises_context raises_unsetAllowlist).seq <| raises_netw.seq <|
    raises_context (raises_setAllowlist h _)

/-- Setting the network parses the subnets of its allowlist once. -/
theorem raises_setNetwork (h : (parsePrefix cidr).isSome = true) (allowlist : Allowlist) :
    Raises r (Unblamed cidr) (setNetwork allowlist) := by
  have hblock : Raises r (Unblamed cidr) blockTraffic :=
    raises_devices.seq <| raises_fwAdd.seq <| raises_fwAdd
  exact (Raises.tolerate hblock).seq <| raises_devices.seq <| raises_netw.seq <|
    raises_fwAdd.seq <| (raises_setAllowlist h allowlist).seq <|
      raises_netw.seq <| Raises.ignore.seq <| raises_setNetw

/-! ### The kill switch and the start -/

/-- The kill switch sets the network, and fails as that does. -/
theorem raises_setKillSwitch (h : (parsePrefix cidr).isSome = true) (allowlist : Allowlist) :
    Raises r (Unblamed cidr) (setKillSwitch allowlist) :=
  raises_netw.seq <| (Raises.when (raises_setNetwork h allowlist)).seq <| raises_setNetw

/-- Once the network is set, its allowlist is put in force again: both parse subnets. -/
theorem raises_configureFirewall (h : (parsePrefix cidr).isSome = true) (allowlist : Allowlist) :
    Raises r (Unblamed cidr) (configureFirewall allowlist) := by
  intro w
  refine wp_seq (P := fun x _ => ∃ y, x = .ok y ∧ ∀ e, y = .error e → Unblamed cidr e) ?_
    (fun x t hx => ?_) fun _ _ hx => ?_
  · exact wp_attempt.mpr (wp_post (raises_setNetwork h allowlist w) fun y _ hy => ⟨y, rfl, hy⟩)
  · obtain ⟨_, ⟨⟩, hx⟩ := hx
    cases x with
    | ok _ => exact raises_resetAllowlist h t
    | error e =>
      exact (raises_netw.seq <| Raises.ite (raises_resetAllowlist h) (Raises.fail (hx e rfl))) t
  · obtain ⟨_, ⟨⟩, -⟩ := hx

/-- The default route is a constant, not a parsed subnet. -/
theorem raises_addDefaultRoute : Raises r (Unblamed cidr) addDefaultRoute :=
  raises_netw.seq <| raises_ask.seq <| raises_context raises_call

variable {nameservers : List String} {serverData : ServerData}

theorem raises_setDNS : Raises r (Unblamed cidr) (setDNS nameservers) :=
  raises_netw.seq <| raises_context raises_call

/-- Nameservers are passed on as text. -/
theorem raises_configureDNS : Raises r (Unblamed cidr) (configureDNS serverData nameservers) :=
  raises_netw.seq <| Raises.ite raises_setDNS raises_setDNS

theorem raises_disableIPv6IfNeeded : Raises r (Unblamed cidr) disableIPv6IfNeeded :=
  raises_netw.seq <| Raises.when
    (raises_setNetw.seq <| raises_netw.seq <| Raises.when raises_call)

/-- The rule of a peer is made from its address. -/
theorem raises_allowIncoming {publicKey : String} {address : Addr} {lanAllowed : Bool} :
    Raises r (Unblamed cidr) (allowIncoming publicKey address lanAllowed) := by
  refine raises_netw.bind fun c => Raises.ite (Raises.fail (unblamed_plain _)) (Raises.ite ?_ ?_)
  · exact (raises_context raises_fwAdd).seq <| raises_setNetw
  · exact raises_setNetw.seq <| (raises_context raises_fwAdd).seq <| raises_setNetw

theorem raises_allowFileshare {publicKey : String} {address : Addr} :
    Raises r (Unblamed cidr) (allowFileshare publicKey address) :=
  raises_netw.seq <| Raises.ite (Raises.fail (unblamed_plain _))
    ((raises_context raises_fwAdd).seq <| raises_setNetw)

theorem raises_refreshPeer {peer : MachinePeer} : Raises r (Unblamed cidr) (refreshPeer peer) :=
  Raises.when ((Raises.when (raises_context raises_allowIncoming)).seq <|
    Raises.when (raises_context raises_allowFileshare))

/-- A refresh of the meshnet reads the map of machines, not the allowlist. -/
theorem raises_refresh {cfg : MachineMap} : Raises r (Unblamed cidr) (refresh cfg) := by
  have hblock : Raises r (Unblamed cidr) (defaultMeshBlock cfg.address) :=
    raises_fwAdd.seq <| raises_setNetw
  refine Raises.ignore.bind fun _ => Raises.ignore.bind fun _ => Raises.ignore.bind fun _ => ?_
  refine (raises_context raises_call).bind fun _ => (raises_context raises_call).bind fun _ => ?_
  refine raises_setNetw.bind fun _ => (raises_context hblock).bind fun _ => ?_
  refine (raises_context raises_allowIncoming).bind fun _ => ?_
  refine (Raises.forEach fun _ _ => raises_refreshPeer).bind fun _ => ?_
  exact raises_netw.seq <| raises_call.seq <| raises_call

/-- Of the steps of a connection only the firewall parses subnets. -/
theorem raises_configureNetwork (h : (parsePrefix cidr).isSome = true) {allowlist : Allowlist} :
    Raises r (Unblamed cidr) (configureNetwork allowlist serverData nameservers) := by
  refine (raises_configureFirewall h allowlist).bind fun _ =>
    raises_addDefaultRoute.bind fun _ => ?_
  refine raises_configureDNS.bind fun _ => raises_netw.bind fun _ => ?_
  exact (Raises.when (raises_context raises_refresh)).seq <| raises_disableIPv6IfNeeded

/-- Starting the tunnel reads no allowlist. -/
theorem raises_startVpn {creds : Credentials} :
    Raises r (Unblamed cidr) (startVpn creds serverData) :=
  Raises.onError raises_call

/-- A restart leaves the allowlist in force as it is. -/
theorem raises_restart {creds : Credentials} :
    Raises r (Unblamed cidr) (restart creds serverData nameservers) := by
  refine raises_netw.bind fun c => Raises.ite (Raises.fail (unblamed_sentinel _))
    (Raises.onError ?_)
  refine Raises.ignore.bind fun _ => raises_call.bind fun _ => raises_setNetw.bind fun _ => ?_
  refine raises_netw.bind fun c => raises_startVpn.bind fun _ =>
    raises_addDefaultRoute.bind fun _ => ?_
  exact raises_configureDNS.seq <| Raises.ignore.seq <| raises_setNetw

/-- `Start` of a connection. -/
theorem raises_start (h : (parsePrefix cidr).isSome = true) (creds : Credentials)
    (serverData : ServerData) (allowlist : Allowlist) (nameservers : List String)
    (enableLocalTraffic : Bool) :
    Raises r (Unblamed cidr)
      (Api.start creds serverData allowlist nameservers enableLocalTraffic) := by
  have hconnected : Raises r (Unblamed cidr) isConnectedToVPN :=
    raises_netw.seq <| Raises.ite (Raises.pure _) (Raises.state.seq <| raises_ask)
  have hbody : Raises r (Unblamed cidr) (startBody creds serverData allowlist nameservers) := by
    refine raises_netw.bind fun c => raises_startVpn.bind fun _ => ?_
    refine raises_setupRoutingRules.bind fun _ => (raises_configureNetwork h).bind fun _ => ?_
    exact raises_ask.seq <| raises_setNetw
  have hstart : Raises r (Unblamed cidr) (Networker.start creds serverData allowlist nameservers) :=
    raises_netw.seq <| Raises.ite (Raises.fail (unblamed_sentinel _))
      (Raises.ite (Raises.fail (unblamed_sentinel _)) (Raises.onError hbody))
  exact raises_setNetw.seq <| hconnected.seq <| Raises.ite raises_restart hstart

end Raises

end NordVPN.Networker
