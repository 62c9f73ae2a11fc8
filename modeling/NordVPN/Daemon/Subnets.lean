import NordVPN.Daemon.Consistency
import NordVPN.Daemon.Ports
import NordVPN.ExitNode.Server
import NordVPN.Networker.Parsing
import NordVPN.Routes.Iprule

/-!
The subnets that an allowlist request accepts, and the places that parse them later.

The request is checked with `net.ParseCIDR`. The ip rules are built with the same parser; the
networker, the exit node and LAN discovery use `netip.ParsePrefix`, which refuses a number of bits
with a leading zero. A place that parses a whole allowlist blames the subnet it cannot parse in its
error, so a usable subnet is one that is never blamed.
-/

namespace NordVPN

open NordVPN.Netip Prog

/-! ### The ip rules -/

namespace Iprule

section

variable {r : Env}

/-- The error of `SetupRoutingRules` for a subnet that does not parse. -/
def cidrError : Error := .external "invalid CIDR address"

/-- The error does not come from parsing a subnet. -/
def Unrelated (e : Error) : Prop := e.has cidrError = false

theorem unrelated_plain (text : String) : Unrelated (.plain text) := by
  simp [Unrelated, GoError.has, cidrError]

theorem unrelated_wrap (text : String) {e : Error} (h : Unrelated e) :
    Unrelated (.wrap text e) := by
  unfold Unrelated at h
  simp [Unrelated, GoError.has, cidrError, ← h]

theorem raises_iprContext {α : Type} {text : String} {m : Ip α} (h : Raises r Unrelated m) :
    Raises r Unrelated (context text m) :=
  h.mapError fun _ => unrelated_wrap text

theorem raises_iprCall {c : NlCall} {effect : Env → Router → Option Router} :
    Raises r Unrelated (call c effect) := by
  refine Raises.env.bind fun _ => Raises.state.bind fun _ => ?_
  split
  · exact Raises.update.seq <| Raises.fail (by simp [Unrelated, GoError.has, cidrError])
  · exact Raises.update

variable {ipv6 : Bool}

theorem raises_ruleList : Raises r Unrelated (ruleList ipv6) :=
  raises_iprCall.seq <| Raises.state.seq <| Raises.pure _

/-- A missing priority is an error of the rules, not of a subnet. -/
theorem raises_calculateRulePriority :
    Raises r Unrelated (calculateRulePriority ipv6) := by
  refine (raises_iprContext raises_ruleList).bind fun rules => ?_
  refine Raises.ite (Raises.fail (unrelated_plain _)) ?_
  split
  · exact Raises.fail (unrelated_plain _)
  · exact Raises.pure _

/-- The rule for marked packets names no subnet. -/
theorem raises_ensureFwmarkRule {fwmark : Nat} :
    Raises r Unrelated (ensureFwmarkRule fwmark ipv6) := by
  have hfind : Raises r Unrelated (findFwmarkRule fwmark ipv6) := by
    refine Raises.ite (Raises.fail (unrelated_plain _)) ?_
    refine (raises_iprContext raises_ruleList).bind fun rules => ?_
    split
    · exact Raises.pure _
    · exact Raises.pure _
  have htable : Raises r Unrelated (calculateCustomTableID ipv6) := by
    refine Raises.state.bind fun _ => (raises_iprContext raises_iprCall).bind fun _ => ?_
    refine Raises.env.bind fun _ => ?_
    split
    · exact Raises.fail (unrelated_plain _)
    · exact Raises.pure _
  refine hfind.seq <| Raises.ite ?_ (Raises.pure _)
  refine raises_calculateRulePriority.bind fun _ => htable.bind fun _ => ?_
  exact (Raises.ite (Raises.fail (unrelated_plain _)) (raises_iprContext raises_iprCall)).bind
    fun _ => Raises.pure _

theorem raises_enableLocalTraffic {skipGroup : Bool} :
    Raises r Unrelated (enableLocalTraffic ipv6 skipGroup) := by
  refine Raises.bind ((raises_iprContext raises_ruleList).seq <| Raises.pure _) fun _ => ?_
  refine (Raises.when Raises.ignore).seq <| Raises.attempt.bind fun x => ?_
  cases x with
  | error e => exact Raises.pure _
  | ok ruleID => exact raises_iprCall.mapError fun _ _ => unrelated_plain _

/-- A subnet that parses is not reported as one that does not. -/
theorem raises_allowSubnet {subnet : String} (h : (parseCIDR subnet).isSome = true) :
    Raises r Unrelated (allowSubnet ipv6 subnet) := by
  refine raises_calculateRulePriority.bind fun _ => ?_
  obtain ⟨net, hnet⟩ := Option.isSome_iff_exists.mp h
  have hipNet : ipNet subnet = some net.masked := by rw [ipNet, hnet, Option.map_some]
  rw [hipNet]
  exact raises_iprContext raises_iprCall

/-- Only a subnet that `net.ParseCIDR` refuses makes `SetupRoutingRules` fail. -/
theorem raises_setupRules {ipv6Enabled enableLocal lanDiscovery : Bool} {allowSubnets : List String}
    (h : ∀ subnet ∈ allowSubnets, (parseCIDR subnet).isSome = true) :
    Raises r Unrelated (setupRoutingRules ipv6Enabled enableLocal lanDiscovery allowSubnets) := by
  refine (raises_iprContext raises_iprCall).seq <| (raises_iprContext raises_iprCall).seq <|
      (Raises.onError (Raises.forEach fun ipv6 _ => ?_)).seq <| Raises.update
  refine Raises.state.bind fun s => raises_ensureFwmarkRule.bind fun _ => ?_
  refine Raises.update.bind fun _ => ?_
  have hremove : Raises r Unrelated (removeAllowSubnetRules s.allowSubnets ipv6) := by
    refine Raises.forEach fun subnet _ => ?_
    split
    · exact Raises.pure _
    · exact Raises.ignore
  have hadd : Raises r Unrelated (forEach (allowSubnet ipv6) allowSubnets) :=
    Raises.forEach fun subnet hsubnet => raises_allowSubnet (h subnet hsubnet)
  split
  · exact raises_enableLocalTraffic.seq <| hremove.seq <| hadd
  · exact Raises.ignore.seq <| hremove.seq <| hadd

end

end Iprule

/-! ### The exit node -/

namespace ExitNode

open NordVPN.Networker

section

variable {r : Env} {subnet : String}

/-- The error of `allowlistToFirewall` for a subnet that does not parse. -/
def parseError (subnet : String) : Error := .wrap "failed to parse subnet" (.plain subnet)

/-- The error does not come from parsing the subnet. -/
def Blameless (subnet : String) (e : Error) : Prop := e.has (parseError subnet) = false

theorem blameless_external (text : String) : Blameless subnet (.external text) := by
  simp [Blameless, GoError.has, parseError]

theorem blameless_wrap {text : String} {e : Error} (hne : text ≠ "failed to parse subnet")
    (h : Blameless subnet e) : Blameless subnet (.wrap text e) := by
  unfold Blameless at h
  simp [Blameless, GoError.has, hne, ← h, parseError]

theorem raises_iptables {args : List String} : Raises r (Blameless subnet) (iptables args) := by
  refine Raises.env.bind fun _ => Raises.state.bind fun _ => Raises.update.bind fun _ => ?_
  refine Raises.ite (Raises.fail (blameless_external _)) ?_
  split
  · exact Raises.fail (blameless_external _)
  · split
    · exact Raises.fail (blameless_external _)
    · exact Raises.update.seq <| Raises.pure _

theorem raises_allowlistRuleToFirewall {peers : List MachinePeer} {op : Operation}
    {destination portType : String} :
    Raises r (Blameless subnet) (allowlistRuleToFirewall peers op destination portType) := by
  refine Raises.forEach fun peer _ => Raises.when (Raises.mapError ?_ fun _ =>
    blameless_wrap (by decide))
  exact Raises.tolerate (raises_iptables.seq <| Raises.pure _)

/-- Whichever subnet is set, one that parses is not blamed. -/
theorem raises_allowlistSubnet (h : (parsePrefix subnet).isSome = true) (peers : List MachinePeer)
    (op : Operation) (subnet' : String) :
    Raises r (Blameless subnet) (allowlistSubnet peers op subnet') := by
  unfold allowlistSubnet
  split
  · rename_i hnone
    -- the error names another subnet
    refine Raises.fail ?_
    have hne : subnet' ≠ subnet := by
      rintro rfl
      rw [hnone] at h
      cases h
    simp [Blameless, GoError.has, parseError, hne]
  · refine Raises.when ?_
    cases op with
    | add => exact raises_allowlistRuleToFirewall.mapError fun _ => blameless_wrap (by decide)
    | remove => exact Raises.ignore

theorem raises_allowlistToFirewall (h : (parsePrefix subnet).isSome = true) (allowlist : Allowlist)
    (peers : List MachinePeer) (op : Operation) :
    Raises r (Blameless subnet) (allowlistToFirewall allowlist peers op) := by
  refine Raises.env.bind fun _ => Raises.state.bind fun _ => ?_
  refine (Raises.forEach fun subnet' _ => raises_allowlistSubnet h peers op subnet').bind fun _ =>
    ?_
  exact Raises.forEach fun _ _ =>
    raises_allowlistRuleToFirewall.mapError fun _ => blameless_wrap (by decide)

/-- The exit node sets the list subnet by subnet. -/
theorem raises_exitSetAllowlist (h : (parsePrefix subnet).isSome = true) (allowlist : Allowlist)
    (lanAvailable : Bool) : Raises r (Blameless subnet) (setAllowlist allowlist lanAvailable) := by
  have hserver : Raises r (Blameless subnet) server := Raises.state.seq <| Raises.pure _
  have hchange (op : Operation) : Raises r (Blameless subnet) (do
      let en ← server
      allowlistToFirewall en.allowlistManager.allowlist en.allowlistManager.peers op) :=
    hserver.seq <| raises_allowlistToFirewall h _ _ op
  exact (hchange .remove).seq <| Raises.update.seq <| hserver.seq <| Raises.when (hchange .add)

end

end ExitNode

/-! ### Usable subnets -/

namespace Daemon

open NordVPN.Networker

/-- What becomes of an allowlisted subnet. -/
structure Usable (subnet : String) : Prop where
  /-- `Combined.setAllowlist` does not fail on it -/
  networker : ∀ r allowlist, Raises r (Unblamed subnet) (Networker.setAllowlist allowlist)
  /-- `allowlistToFirewall` does not -/
  exitNode : ∀ r allowlist peers op,
    Raises r (ExitNode.Blameless subnet) (ExitNode.allowlistToFirewall allowlist peers op)
  /-- `SetupRoutingRules` does not, if it does not on the other subnets -/
  routing : ∀ r ipv6Enabled enableLocal lanDiscovery subnets,
    (∀ other ∈ subnets, other ≠ subnet → (parseCIDR other).isSome = true) →
    Raises r Iprule.Unrelated
      (Iprule.setupRoutingRules ipv6Enabled enableLocal lanDiscovery subnets)
  /-- `SetLANDiscovery` drops it exactly if it is local -/
  discovery : keepsUnderDiscovery subnet = !isLocalSubnet subnet
  /-- a request with the same text removes it from the settings -/
  removal : ∀ turns cfg, subnet ∈ cfg.allowlist.subnets →
    (cfg.lanDiscovery = true → isLocalSubnet subnet = false) →
    ∃ allowlist, getNewAllowlist turns cfg (.subnet subnet) true = some (.ok allowlist) ∧
      subnet ∉ allowlist.subnets
  /-- and the exit node, where it is still in force, takes the new allowlist -/
  release : ∀ r allowlist lanAvailable,
    Raises r (ExitNode.Blameless subnet) (ExitNode.setAllowlist allowlist lanAvailable)
  /-- `Connect` does not fail on it -/
  connect : ∀ r creds serverData allowlist nameservers enableLocalTraffic,
    Raises r (Unblamed subnet)
      (Api.start creds serverData allowlist nameservers enableLocalTraffic)
  /-- `SetKillSwitch` does not -/
  killSwitch : ∀ r allowlist, Raises r (Unblamed subnet) (Networker.setKillSwitch allowlist)

section Usable

variable {subnet : String} {net : Prefix}

/-- A listed subnet can be removed, unless it is local and LAN discovery is on. -/
theorem removable (h : parseCIDR subnet = some net) {turns : Nat} {cfg : Config}
    (hmem : subnet ∈ cfg.allowlist.subnets)
    (hlocal : cfg.lanDiscovery = true → isLocalSubnet subnet = false) :
    ∃ allowlist, getNewAllowlist turns cfg (.subnet subnet) true = some (.ok allowlist) ∧
      subnet ∉ allowlist.subnets := by
  have hprivate : (cfg.lanDiscovery && containsPrivateNetwork subnet) = false := by
    by_contra hboth
    rw [Bool.not_eq_false, Bool.and_eq_true] at hboth
    have hno := hlocal hboth.1
    rw [isLocalSubnet, h] at hno
    have hyes := hboth.2
    rw [containsPrivateNetwork, parsePrefix_of_parseCIDR h] at hyes
    split at hyes
    · cases hyes
    · rename_i net' hnet'
      split at hnet'
      · cases hnet'
      · cases hnet'
        exact Bool.false_ne_true (hno.symm.trans hyes)
  have hvalid : isSubnetValid subnet cfg.allowlist.subnets true = none := by
    simp [isSubnetValid, h, hmem]
  refine ⟨_, by simp only [getNewAllowlist, hprivate, hvalid, Bool.false_eq_true, if_false]; rfl,
    ?_⟩
  intro hstill
  exact (mem_updateKeys_delete.mp hstill).2 (List.mem_singleton.mpr rfl)

/-- Without a leading zero in its length both parsers accept a subnet. -/
theorem usable_of_not_padded (h : parseCIDR subnet = some net)
    (hpadded : paddedBits subnet = false) :
    Usable subnet := by
  have hparse : parsePrefix subnet = some net := by
    rw [parsePrefix_of_parseCIDR h, hpadded, if_neg Bool.false_ne_true]
  have hsome : (parsePrefix subnet).isSome = true := by rw [hparse, Option.isSome_some]
  exact
    { networker := fun r allowlist => raises_setAllowlist hsome allowlist
      exitNode := fun r => ExitNode.raises_allowlistToFirewall hsome
      routing := fun r _ _ _ subnets hothers => by
        refine Iprule.raises_setupRules fun other hother => ?_
        by_cases heq : other = subnet
        · rw [heq, h, Option.isSome_some]
        · exact hothers other hother heq
      discovery := by simp [keepsUnderDiscovery, isLocalSubnet, hparse, h]
      removal := fun _ _ => removable h
      release := fun r => ExitNode.raises_exitSetAllowlist hsome
      connect := fun r => raises_start hsome
      killSwitch := fun r => raises_setKillSwitch hsome }

/-- A leading zero is enough to make the exit node fail. -/
theorem not_usable_of_padded (h : parseCIDR subnet = some net)
    (hpadded : paddedBits subnet = true) :
    ¬ Usable subnet := by
  intro husable
  have hparse : parsePrefix subnet = none := by
    rw [parsePrefix_of_parseCIDR h, hpadded, if_pos rfl]
  let s : ExitNode.State := ExitNode.newServer [] {} ExitNode.emptyTables
  have hfails : ((ExitNode.allowlistToFirewall { subnets := [subnet] } [] .add) .working s).result =
      .error (ExitNode.parseError subnet) := by
    have hwp : wp (ExitNode.allowlistToFirewall { subnets := [subnet] } [] .add) .working
        any (fun x _ => x = .error (ExitNode.parseError subnet)) s := by
      simp only [ExitNode.allowlistToFirewall, wp_bind, wp_env, wp_state, onOk_ok,
        ExitNode.Env.working, wp_forEach_cons, ExitNode.allowlistSubnet, hparse, wp_fail]
      rfl
    exact hwp.2
  have hblame := (husable.exitNode .working { subnets := [subnet] } [] .add s).2 _ hfails
  simp [ExitNode.Blameless, ExitNode.parseError, GoError.has] at hblame

/-- The daemon accepts no subnet that does not parse. -/
theorem parses_of_new {turns : Nat} {cfg : Config} {allowlist : Allowlist} {remove : Bool}
    (h : getNewAllowlist turns cfg (.subnet subnet) remove = some (.ok allowlist)) :
    ∃ net, parseCIDR subnet = some net := by
  cases hparse : parseCIDR subnet with
  | some net => exact ⟨net, rfl⟩
  | none =>
    simp only [getNewAllowlist, isSubnetValid, hparse] at h
    split at h
    · cases h
    · cases h

/-- Only texts that `net.ParseCIDR` reads are stored. -/
theorem parses_of_stored {r : DaemonEnv} {s : Rpc}
    (h : (handle (.setAllowlist (.subnet subnet)) r s).result = .ok (some .success)) :
    ∃ net, parseCIDR subnet = some net := by
  have hwp : wp (handle (.setAllowlist (.subnet subnet))) r any
      (fun x _ => x = .ok (some .success) → ∃ net, parseCIDR subnet = some net) s := by
    simp only [handle, wp_bind, wp_env, wp_state, onOk_ok]
    split
    · rename_i reply hreply
      refine wp_pure.mpr ?_
      rintro ⟨⟩
      split at hreply <;> cases hreply
    · rw [wp_bind, wp_load, onOk_ok]
      simp only [Request.decide, updateAllowlist]
      generalize (if r.loads then s.cfg else newConfig) = cfg
      cases hnew : getNewAllowlist r.turns cfg (.subnet subnet) false with
      | none => exact wp_pure.mpr fun h => by cases h
      | some new =>
        cases new with
        | error code =>
          refine wp_pure.mpr ?_
          rintro ⟨⟩
          exact absurd (not_isSuccess_of_refused hnew) (by decide)
        | ok allowlist => exact wp_post wp_true fun _ _ _ _ => parses_of_new hnew
  exact hwp.2 h

/-- A stored subnet is usable unless its number of bits has a leading zero. -/
theorem stored_subnet_usable_iff {r : DaemonEnv} {s : Rpc}
    (h : (handle (.setAllowlist (.subnet subnet)) r s).result = .ok (some .success)) :
    Usable subnet ↔ paddedBits subnet = false := by
  obtain ⟨net, hnet⟩ := parses_of_stored h
  constructor
  · intro husable
    by_contra hpadded
    exact not_usable_of_padded hnet (Bool.not_eq_false _ ▸ hpadded) husable
  · exact usable_of_not_padded hnet

end Usable

theorem usable_private_network : Usable "10.0.0.0/8" :=
  (stored_subnet_usable_iff (r := calmEnv) (s := Rpc.startUp newConfig 0xe1f1)
    (by decide)).mpr (by decide)

/-- The daemon with a subnet stored while it is disconnected. -/
def padded : Rpc := calmRun [.setAllowlist (.subnet "10.0.0.0/08")]

/-- The exit node it talks to. -/
def paddedExitNode : ExitNode.State :=
  (ExitNode.newServer [] {} ExitNode.emptyTables).step
    ⟨.setAllowlist padded.cfg.allowlist true, .working⟩

def Blames (subnet : String) (x : Except Error Unit) : Bool :=
  match x with
  | .ok _ => false
  | .error e => e.has (subnetError subnet)

/-- The stored subnet makes the connection and the kill switch fail and blocks its own removal. -/
theorem padded_subnet_blocks :
    "10.0.0.0/08" ∈ padded.cfg.allowlist.subnets ∧
    Blames "10.0.0.0/08" (Api.start {} { ip := .ofBytes 1 2 3 4, hostname := "" }
      padded.cfg.allowlist [] true calmEnv.netw padded.netw).result = true ∧
    Blames "10.0.0.0/08"
      (Networker.setKillSwitch padded.cfg.allowlist calmEnv.netw padded.netw).result = true ∧
    paddedExitNode.returns ⟨.setAllowlist {} true, .working⟩ =
      .error (ExitNode.parseError "10.0.0.0/08") := by
  decide

end Daemon

end NordVPN
