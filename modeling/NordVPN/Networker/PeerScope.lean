import NordVPN.Firewall.Iptables
import NordVPN.Networker.Tracking

/-!
Whom the rules of meshnet peers let in.

The rule of a peer names the prefix of one address. The prefix of an invalid address
is the prefix that stands for no restriction, so its lines accept traffic from
everywhere. `refresh` passes over peers without an address, the other methods take
the address they are given.
-/

namespace NordVPN.Networker

open NordVPN.Netip Prog

/-- The rules that `allowIncoming` and `allowFileshare` add for a peer. -/
def peerRule : PeerRule → String → Addr → Rule
  | .allow => allowIncomingRule
  | .blockLan => blockLanRule
  | .fileshare => allowFileshareRule

section Rules

variable (kind : PeerRule) (publicKey : String) (address : Addr)

theorem name_peerRule : (peerRule kind publicKey address).name =
    peerRuleName kind publicKey address := by
  cases kind <;> rfl

theorem direction_peerRule : (peerRule kind publicKey address).direction = .inbound := by
  cases kind <;> rfl

theorem interfaces_peerRule : (peerRule kind publicKey address).interfaces = [] := by
  cases kind <;> rfl

/-- A peer rule admits the address of its peer and no other. -/
theorem remoteNetworks_peerRule :
    (peerRule kind publicKey address).remoteNetworks = [.single address] := by
  cases kind <;> rfl

end Rules

/-- A rule that is no peer's, or one of a peer with an address. -/
def ScopedRule (rule : Rule) : Prop :=
  ∀ kind publicKey address, rule = peerRule kind publicKey address → address.isValid = true

/-- The condition says nothing of a rule with another name. -/
theorem scopedRule_of_name {rule : Rule}
    (h : ∀ kind publicKey address, rule.name ≠ peerRuleName kind publicKey address) :
    ScopedRule rule := by
  rintro kind publicKey address rfl
  exact absurd (name_peerRule kind publicKey address) (h kind publicKey address)

theorem scopedRule_untracked {rule : Rule} (h : rule.name ∈ untrackedNames) : ScopedRule rule :=
  scopedRule_of_name fun kind publicKey address heq =>
    (MeshName.peer kind publicKey address).not_untracked (heq ▸ h)

/-- The rule determines the address, so it is enough that this one is valid. -/
theorem scopedRule_peer {kind : PeerRule} {publicKey : String} {address : Addr}
    (h : address.isValid = true) : ScopedRule (peerRule kind publicKey address) := by
  intro kind' publicKey' address' heq
  have hremote := congrArg Rule.remoteNetworks heq
  rw [remoteNetworks_peerRule, remoteNetworks_peerRule, List.cons.injEq] at hremote
  have haddr : address = address' := congrArg Prefix.addr hremote.1
  exact haddr ▸ h

/-- The machine of a meshnet that is on has an address, and so have all peers with
rules. -/
structure Scoped (w : World) : Prop where
  rules : w.fw.AllRules ScopedRule
  self : w.netw.isMeshnetSet = true → w.netw.cfg.address.isValid = true

/-- The condition reads the rules in memory only. -/
theorem scoped_core : CoreInvariant any Scoped := by
  refine ⟨fun _ _ => trivial, fun {w t} h hw => ⟨?_, fun hmesh => ?_⟩⟩
  · have hfw : t.fw = w.fw := congrArg Core.fw h
    exact hfw ▸ hw.rules
  · have hcfg : t.netw.cfg = w.netw.cfg := congrArg Core.cfg h
    have hset : t.netw.isMeshnetSet = w.netw.isMeshnetSet := congrArg Core.isMeshnetSet h
    rw [hcfg]
    exact hw.self (hset ▸ hmesh)

/-! ### Every method -/

section Methods

variable {r : Env}

/-- A step of the firewall that keeps the condition keeps it in the world. -/
theorem scoped_firewall {m : Fw Unit}
    (hm : Keeps r.agent any (Firewall.AllRules ScopedRule) m) :
    Keeps r any Scoped (firewall m) := fun w hw =>
  wp_zoom.mpr (wp_post (hm w.fw hw.rules) fun _ _ ht => ⟨ht, hw.self⟩)

theorem scoped_fwAdd {rs : List Rule} (h : ∀ rule ∈ rs, ScopedRule rule) :
    Keeps r any Scoped (fwAdd rs) :=
  scoped_firewall (Firewall.allRules_add h)

theorem scoped_fwDelete (names : List String) : Keeps r any Scoped (fwDelete names) :=
  scoped_firewall (Firewall.allRules_delete names)

/-- The list of tracked names may change. -/
theorem scoped_rules (f : List String → List String) :
    Keeps r any Scoped (setNetw fun c => { c with rules := f c.rules }) :=
  keeps_setNetw scoped_core.toQuiet fun _ hw => ⟨hw.rules, hw.self⟩

/-- Both rules that it may add are of the peer: to allow traffic, and to block the LAN. -/
theorem scoped_allowIncoming (publicKey : String) {address : Addr} (lanAllowed : Bool)
    (h : address.isValid = true) :
    Keeps r any Scoped (allowIncoming publicKey address lanAllowed) := by
  have hallow : ScopedRule (allowIncomingRule publicKey address) := @scopedRule_peer .allow _ _ h
  have hlan : ScopedRule (blockLanRule publicKey address) := @scopedRule_peer .blockLan _ _ h
  refine keeps_netw.seq <| (Keeps.fail _).ite (Keeps.ite ?_ ?_)
  · exact (scoped_fwAdd (List.forall_mem_singleton.mpr hallow)).mapError.seq <|
      scoped_rules (· ++ [allowIncomingName publicKey address])
  · exact (scoped_rules (· ++ [blockLanName publicKey address])).seq <|
      (scoped_fwAdd (List.forall_mem_cons.mpr
        ⟨hallow, List.forall_mem_singleton.mpr hlan⟩)).mapError.seq <|
          scoped_rules (· ++ [allowIncomingName publicKey address])

theorem scoped_allowFileshare (publicKey : String) {address : Addr} (h : address.isValid = true) :
    Keeps r any Scoped (allowFileshare publicKey address) := by
  have hrule : ScopedRule (allowFileshareRule publicKey address) :=
    @scopedRule_peer .fileshare _ _ h
  exact keeps_netw.seq <| (Keeps.fail _).ite
    ((scoped_fwAdd (List.forall_mem_singleton.mpr hrule)).mapError.seq <|
      scoped_rules (· ++ [allowFileshareName publicKey address]))

theorem scoped_removeRule (name : String) : Keeps r any Scoped (removeRule name) :=
  keeps_netw.seq <| ((scoped_fwDelete _).seq <| scoped_rules (·.erase name)).ite
    (Keeps.fail _)

theorem scoped_defaultMeshUnBlock : Keeps r any Scoped defaultMeshUnBlock :=
  keeps_netw.seq <| (scoped_fwDelete _).seq <| scoped_rules fun _ => []

/-- The rules that block meshnet by default are no peer rules. -/
theorem scoped_defaultMeshBlock (ip : Addr) : Keeps r any Scoped (defaultMeshBlock ip) := by
  refine (scoped_fwAdd (List.forall_mem_cons.mpr
    ⟨scopedRule_of_name fun kind key a => (peerRuleName_ne_meshBlock kind key a).symm,
      List.forall_mem_singleton.mpr (scopedRule_of_name fun kind key a =>
        (peerRuleName_ne_meshEstablished kind key a).symm)⟩)).bind fun _ => ?_
  exact scoped_rules (· ++ [meshBlockName] ++ [meshEstablishedName])

theorem scoped_denyDNS : Keeps r any Scoped denyDNS :=
  keeps_netw.seq <| Keeps.when fun _ =>
    (scoped_fwAdd (List.forall_mem_singleton.mpr (scopedRule_of_name fun kind key a =>
      (peerRuleName_ne_denyDNS kind key a).symm))).mapError.seq <| scoped_rules (· ++ [denyDNSName])

theorem scoped_undenyDNS : Keeps r any Scoped undenyDNS :=
  keeps_netw.seq <| Keeps.when fun _ => (scoped_fwDelete _).seq <|
    scoped_rules (·.erase denyDNSName)

/-- The addresses that peers are given must be valid, and that is all. -/
theorem scoped_ruleUpkeep : RuleUpkeep r any Scoped (·.isValid = true) where
  toQuietInvariant := scoped_core.toQuiet
  addAllowlist _ h := scoped_fwAdd fun rule hrule =>
    scopedRule_untracked (by simp [untrackedNames, h rule hrule])
  deleteAllowlist _ _ := scoped_fwDelete _
  denyDNS := scoped_denyDNS
  undenyDNS := scoped_undenyDNS
  allowlist _ _ hw := ⟨hw.rules, hw.self⟩
  ipv6 := scoped_fwDelete _
  allowIncoming _ _ _ h := scoped_allowIncoming _ _ h
  allowFileshare _ _ h := scoped_allowFileshare _ h
  blockIncoming _ := keeps_netw.seq <| (scoped_removeRule _).guard.seq <| scoped_removeRule _
  blockFileshare _ := scoped_removeRule _
  enable := scoped_firewall Firewall.allRules_enable
  disable := scoped_firewall Firewall.allRules_disable

theorem scoped_upkeep : Upkeep r any Scoped (·.isValid = true) any := by
  refine scoped_ruleUpkeep.upkeep scoped_core (fun allowlist => ?_) ?_ fun _ _ hw =>
    ⟨hw.rules, hw.self⟩
  · exact keeps_setNetwork scoped_core.toQuiet
      (fun _ h => scoped_fwAdd fun rule hrule =>
        scopedRule_untracked (by simp [untrackedNames, h rule hrule]))
      (scoped_ruleUpkeep.keeps_setAllowlist allowlist) fun _ hw => ⟨hw.rules, hw.self⟩
  · exact keeps_unsetNetwork scoped_core.toQuiet (fun _ _ => scoped_fwDelete _)
      scoped_ruleUpkeep.keeps_unsetAllowlist fun _ hw => ⟨hw.rules, hw.self⟩

theorem scoped_meshUpkeep :
    MeshUpkeep r any Scoped Scoped (·.isValid = true) where
  between := scoped_core.toQuiet
  sub _ hw := hw
  flush := scoped_defaultMeshUnBlock
  cfg _ _ hw h := ⟨hw.rules, fun _ => h⟩
  block ip := scoped_defaultMeshBlock ip
  enableMesh := keeps_enableMesh scoped_core
  on _ hw h := ⟨hw.rules, fun _ => h⟩
  off _ hw := ⟨hw.rules, nofun⟩
  valid _ h := h
  stored _ hw := hw.self

end Methods

theorem scoped_newCombined (vpnet : Option Vpn) (fwmark : Nat)
    (lanDiscovery firewallEnabled : Bool) :
    Scoped (newCombined vpnet fwmark lanDiscovery firewallEnabled) :=
  ⟨⟨List.forall_mem_nil _, List.forall_mem_nil _⟩, fun h => absurd h Bool.false_ne_true⟩

/-! ### The lines of the peers' rules -/

/-- Every accepting line of a rule that was added for a peer matches, as its source,
the one address of that peer, which is valid. -/
def PeerScoped (w : World) : Prop :=
  ∀ call ∈ w.fw.calls, ∀ kind publicKey address, call.rule = peerRule kind publicKey address →
    ∀ module stateFlag chainPrefix table, Words.IsWord chainPrefix →
      ∀ line ∈ ruleToIPTables call.rule module stateFlag chainPrefix table,
        Words.argument "-j" (Words.split line) = some "ACCEPT" →
          address.isValid = true ∧
            Words.argument "-s" (Words.split line) = some (Prefix.single address).toString

/-- The lines of a peer rule are rendered with its one remote network as the source. -/
theorem Scoped.peerScoped {w : World} (hw : Scoped w) : PeerScoped w := by
  intro call hcall kind publicKey address hrule module stateFlag chainPrefix table hchain line
    hline _
  have hvalid : address.isValid = true := hw.rules.calls call hcall kind publicKey address hrule
  rw [hrule] at hline
  exact ⟨hvalid, source_of_inbound (direction_peerRule ..) (interfaces_peerRule ..)
    (remoteNetworks_peerRule ..) (Prefix.single_ne_zero hvalid) (Prefix.blank_single hvalid)
    hchain hline⟩

/-- **Peer-scoped accept rules.** In every run in which the machine itself and the
peers that methods are called for have addresses, whatever the peer lists of the
configurations are and whatever fails, the accepting lines of peers' rules match one
valid address as their source. -/
theorem peer_rules_scoped {vpnet : Option Vpn} {fwmark : Nat}
    {lanDiscovery firewallEnabled : Bool} {w : World}
    (h : World.Reached (fun _ i => i.op.Allows (·.isValid = true))
      (newCombined vpnet fwmark lanDiscovery firewallEnabled) w) : PeerScoped w :=
  Scoped.peerScoped (h.invariant (scoped_newCombined _ _ _ _) fun _ _ hw hi =>
    scoped_upkeep.step (fun _ => scoped_meshUpkeep) hi (Op.lists_any _) (fun _ _ _ => trivial) hw)

/-- Two peers, one of them offline and without an address. -/
def partlyOfflineMachine : MachineMap :=
  { sampleMachine with
    peers := { hostname := "off.nord", publicKey := "off", address := .invalid,
               doIAllowInbound := true } :: sampleMachine.peers }

theorem peer_rules_scoped_after_setMesh :
    let w := (newCombined none 0xe1f1 false true).step
      ⟨.setMesh partlyOfflineMachine (.ofBytes 100 64 0 2) "key", Env.working []⟩
    (∃ call ∈ w.fw.calls, call.rule = peerRule .allow "peer" (.ofBytes 100 64 0 9)) ∧
      PeerScoped w :=
  ⟨by decide, peer_rules_scoped (.tail _ .refl (by decide : Addr.isValid _ = true))⟩

/-- Routing is allowed for a peer that is offline: the firewall agent is given a line
that accepts all incoming traffic. -/
theorem offline_peer_accepts_all :
    let peer : MachinePeer := { hostname := "off.nord", publicKey := "off", address := .invalid,
                                doIAllowInbound := true, doIAllowRouting := true }
    let w := (newCombined none 0xe1f1 false true).step ⟨.resetRouting peer [peer], Env.working []⟩
    ⟨.working, .add, peerRule .allow "off" .invalid, true⟩ ∈ w.fw.calls ∧
      ruleToIPTables (peerRule .allow "off" .invalid) "" "" "" .ipv4 =
        ["INPUT -m comment --comment nordvpn -j ACCEPT"] ∧
      ¬ PeerScoped w := by
  refine ⟨by decide, by decide, fun h => ?_⟩
  have hline := h ⟨.working, .add, peerRule .allow "off" .invalid, true⟩ (by decide) .allow "off"
    .invalid rfl "" "" "" .ipv4 (by decide) "INPUT -m comment --comment nordvpn -j ACCEPT"
    (by decide) (by decide)
  exact absurd hline.1 (by decide)

end NordVPN.Networker
