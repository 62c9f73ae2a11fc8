import NordVPN.Networker.Memory

/-!
Tracking of the meshnet rules.

`netw.rules` lists the names of the rules that the meshnet and the DNS-leak
protection put into the firewall. `Tracked` says that the list agrees with the
memory. The list and the memory change in different steps, and a bulk delete stops
at the first failure while the list is cleared only on full success, so the
agreement needs some agent calls to succeed: deletes during a flush, and the adds of
a peer's rules and of the second default rule. Every other call may fail.
-/

namespace NordVPN.Networker

open NordVPN.Netip Prog

/-- The tracked names agree with the names in memory. A peer whose access to the LAN
is blocked is an allowed peer. -/
structure Tracked (rules names : List String) : Prop where
  nodup : rules.Nodup
  mesh : ∀ n ∈ rules, MeshName n
  agree : ∀ n, MeshName n → (n ∈ rules ↔ n ∈ names)
  paired : ∀ publicKey address, blockLanName publicKey address ∈ rules →
    allowIncomingName publicKey address ∈ rules

namespace Tracked

variable {rules names names' new : List String} {name : String}

/-- Only the meshnet names in memory matter. -/
theorem congr (h : Tracked rules names) (same : ∀ n, MeshName n → (n ∈ names' ↔ n ∈ names)) :
    Tracked rules names' :=
  { h with agree := fun n hn => (h.agree n hn).trans (same n hn).symm }

/-- Names added to both. -/
theorem extend (h : Tracked rules names) (hnew : new.Nodup) (hmesh : ∀ n ∈ new, MeshName n)
    (hfree : ∀ n ∈ new, n ∉ rules) (hnames : ∀ n, n ∈ names' ↔ n ∈ names ∨ n ∈ new)
    (hpair : ∀ publicKey address, blockLanName publicKey address ∈ new →
      allowIncomingName publicKey address ∈ rules ++ new) :
    Tracked (rules ++ new) names' where
  nodup := List.nodup_append.mpr ⟨h.nodup, hnew, fun a ha b hb hab => hfree b hb (hab ▸ ha)⟩
  mesh n hn := (List.mem_append.mp hn).elim (h.mesh n) (hmesh n)
  agree n hn := by rw [List.mem_append, hnames, h.agree n hn]
  paired publicKey address hn := by
    rcases List.mem_append.mp hn with hn | hn
    · exact List.mem_append_left _ (h.paired _ _ hn)
    · exact hpair _ _ hn

/-- The two rules of a peer whose access to the LAN is blocked. -/
theorem addPeer (h : Tracked rules names) {publicKey : String} {address : Addr}
    (hfree : allowIncomingName publicKey address ∉ rules)
    (hnames : ∀ n, n ∈ names' ↔ n ∈ names ∨
      n ∈ [allowIncomingName publicKey address, blockLanName publicKey address]) :
    Tracked (rules ++ [blockLanName publicKey address] ++ [allowIncomingName publicKey address])
      names' := by
  rw [List.append_assoc]
  refine h.extend ?_ ?_ ?_ ?_ ?_
  · simpa using allowIncomingName_ne_blockLan.symm
  · simpa using ⟨.peer .blockLan _ _, .peer .allow _ _⟩
  · simpa using ⟨fun hlan => hfree (h.paired _ _ hlan), hfree⟩
  · intro n
    rw [hnames]
    simp [or_comm]
  · intro publicKey' address' hmem
    simp only [List.cons_append, List.nil_append, List.mem_cons, List.not_mem_nil, or_false] at hmem
    rcases hmem with heq | heq
    · simp [allowIncomingName_eq_iff.mpr heq]
    · exact absurd heq.symm allowIncomingName_ne_blockLan

/-- A name removed from both. -/
theorem erase (h : Tracked rules names) (hnames : ∀ n, n ∈ names' ↔ n ∈ names ∧ n ≠ name)
    (hpair : ∀ publicKey address, name = allowIncomingName publicKey address →
      blockLanName publicKey address ∉ rules) :
    Tracked (rules.erase name) names' where
  nodup := h.nodup.erase name
  mesh n hn := h.mesh n (List.mem_of_mem_erase hn)
  agree n hn := by rw [h.nodup.mem_erase_iff, hnames, h.agree n hn, and_comm]
  paired publicKey address hn := by
    rw [h.nodup.mem_erase_iff] at hn ⊢
    exact ⟨fun heq => hpair _ _ heq.symm hn.2, h.paired _ _ hn.2⟩

end Tracked

def Tracks (w : World) : Prop := Tracked w.netw.rules w.names

/-- All meshnet rules are gone. -/
def Flushed (w : World) : Prop := Tracks w ∧ w.netw.rules = []

theorem tracks_core : CoreInvariant any Tracks :=
  ⟨fun _ _ => trivial, fun {w w'} h hw => by
    have hrules : w'.netw.rules = w.netw.rules := congrArg Core.rules h
    have hfw : w'.fw = w.fw := congrArg Core.fw h
    unfold Tracks World.names
    rw [hrules, hfw]
    exact hw⟩

theorem flushed_core : CoreInvariant any Flushed :=
  tracks_core.and fun h hw => (congrArg Core.rules h).trans hw

/-! ### Which agent calls succeed -/

/-- The agent deletes meshnet rules. -/
def Env.DeletesMesh (r : Env) : Prop :=
  ∀ n rule, MeshName rule.name → r.agent.fails n .delete rule = false

/-- The agent adds the rules of an allowed peer and the rule for established
connections. -/
structure Env.AddsMesh (r : Env) : Prop where
  allow : ∀ n rule publicKey address, rule.name = allowIncomingName publicKey address →
    r.agent.fails n .add rule = false
  blockLan : ∀ n rule publicKey address, rule.name = blockLanName publicKey address →
    r.agent.fails n .add rule = false
  established : ∀ n rule, rule.name = meshEstablishedName → r.agent.fails n .add rule = false

/-! ### The procedures that change the list or the memory -/

section

variable {r : Env}

variable {w : World} {name : String}

/-- The agreement does not depend on the log of agent calls. -/
theorem Tracks.withFw (hw : Tracks w) {t : Firewall} (ht : t.rules = w.fw.rules) :
    Tracks (w.withFw t) := by
  unfold Tracks World.names
  rw [World.withFw_fw, ht]
  exact hw

/-- Rules with other names do not matter. -/
theorem tracks_fwAdd {rs : List Rule} (h : ∀ rule ∈ rs, rule.name ∈ untrackedNames) :
    Keeps r any Tracks (fwAdd rs) := by
  intro w hw
  refine wp_post (fwAdd_frame rs w) ?_
  rintro x _ ⟨⟨fw, rfl⟩, hnames⟩
  refine Tracked.congr hw fun n hn => hnames n fun hmem => ?_
  obtain ⟨rule, hrule, rfl⟩ := List.mem_map.mp hmem
  exact hn.not_untracked (h rule hrule)

theorem tracks_fwDelete {names : List String} (h : ∀ n ∈ names, n ∈ untrackedNames) :
    Keeps r any Tracks (fwDelete names) := by
  intro w hw
  refine wp_post (fwDelete_frame names w) ?_
  rintro x _ ⟨⟨fw, rfl⟩, hnames⟩
  exact Tracked.congr hw fun n hn => hnames n fun hmem => hn.not_untracked (h n hmem)

/-- A name that is not tracked is free. -/
theorem Tracks.free (hw : Tracks w) (hmesh : MeshName name)
    (h : name ∉ w.netw.rules) : name ∉ w.names :=
  fun hmem => h ((hw.agree name hmesh).mpr hmem)

/-- How a rule is added: one whose name is tracked is refused, and an agent that refuses nothing
adds any other, whose name is tracked after `others`. -/
structure Adds (r : Env) (w : World) (name : String) (others : List String) (x : Except Error Unit)
    (t : World) : Prop where
  tracks : Tracks t
  refused : name ∈ w.netw.rules → x ≠ .ok ()
  added : (∀ n rule, r.agent.fails n .add rule = false) → name ∉ w.netw.rules →
    x = .ok () ∧ t.netw.rules = w.netw.rules ++ others ++ [name]

theorem wp_fail_adds {others : List String} {e : Error} (hw : Tracks w)
    (h : name ∈ w.netw.rules) : wp (fail e) r any (Adds r w name others) w :=
  wp_fail.mpr ⟨hw, fun _ => nofun, fun _ hfree => absurd h hfree⟩

/-- A rule that is added, then tracked. If the agent refuses it, nothing changes. -/
theorem addOne_adds (rule : Rule) {text : String} (hw : Tracks w) (hnamed : rule.name ≠ "")
    (hmesh : MeshName rule.name) (hfree : rule.name ∉ w.netw.rules)
    (hpair : ∀ publicKey address, rule.name ≠ blockLanName publicKey address) :
    wp (do
      context text (fwAdd [rule])
      setNetw fun c => { c with rules := c.rules ++ [rule.name] }) r any
      (Adds r w rule.name []) w := by
  simp only [wp_bind, context, Firewall.context, wp_mapError]
  refine wp_fwAdd_fresh hnamed (hw.free hmesh hfree) (fun e t n hn ht =>
    ⟨hw.withFw ht, fun _ h => (by cases h), fun hr => absurd hn (by simp [hr])⟩) fun t ht => ?_
  rw [mapError_ok, onOk_ok, wp_setNetw]
  refine ⟨trivial, Tracked.extend hw (List.nodup_singleton _) ?_ ?_ ?_ ?_, fun h => absurd h hfree,
    fun _ _ => ⟨rfl, by rw [List.append_nil]; rfl⟩⟩
  · simpa using hmesh
  · simpa using hfree
  · simpa using ht
  · intro publicKey address h
    exact absurd (List.mem_singleton.mp h).symm (hpair _ _)

theorem tracks_denyDNS : Keeps r any Tracks denyDNS := by
  intro w hw
  refine wp_netw_bind.mpr (wp_when.mpr ⟨fun h => ?_, fun _ => hw⟩)
  exact wp_post (addOne_adds denyDNSRule hw (by decide) .denyDNS (by simpa [denyDNSRule] using h)
    fun _ _ => (peerRuleName_ne_denyDNS .blockLan _ _).symm) fun _ _ => Adds.tracks

/-- A tracked name is deleted, then forgotten. -/
theorem tracks_removeOne (hw : Tracks w) (hmem : name ∈ w.netw.rules)
    (hpair : ∀ publicKey address, name = allowIncomingName publicKey address →
      blockLanName publicKey address ∉ w.netw.rules) :
    wp (do
      fwDelete [name]
      setNetw fun c => { c with rules := c.rules.erase name }) r any
      (fun x t => Tracks t ∧ (x = .ok () → t.netw.rules = w.netw.rules.erase name)) w := by
  have hname := (hw.agree name (hw.mesh name hmem)).mp hmem
  refine wp_bind.mpr (wp_fwDelete_one hname (fun t _ _ _ _ _ ht => ⟨hw.withFw ht, nofun⟩)
    fun t ht => ?_)
  rw [onOk_ok, wp_setNetw]
  exact ⟨trivial, Tracked.erase hw ht hpair, fun _ => rfl⟩

theorem tracks_undenyDNS : Keeps r any Tracks undenyDNS := by
  intro w hw
  refine wp_netw_bind.mpr (wp_when.mpr ⟨fun h => ?_, fun _ => hw⟩)
  exact wp_post (tracks_removeOne hw (by simpa using h) fun _ _ heq =>
    absurd heq.symm (peerRuleName_ne_denyDNS .allow _ _)) fun _ _ ht => ht.1

theorem tracks_removeRule (hw : Tracks w)
    (hpair : ∀ publicKey address, name = allowIncomingName publicKey address →
      blockLanName publicKey address ∉ w.netw.rules) :
    wp (removeRule name) r any
      (fun x t => Tracks t ∧ (x = .ok () → t.netw.rules = w.netw.rules.erase name)) w := by
  refine wp_netw_bind.mpr (wp_ite.mpr ⟨fun h => tracks_removeOne hw h hpair, fun _ => ?_⟩)
  exact wp_fail.mpr ⟨hw, nofun⟩

/-- `blockIncoming` removes the LAN rule before the allowing rule. -/
theorem tracks_blockIncoming (a : UniqueAddress) : Keeps r any Tracks (blockIncoming a) := by
  intro w hw
  refine wp_netw_bind.mpr (wp_seq (P := fun x t => Tracks t ∧
    (x = .ok () → blockLanName a.uid a.address ∉ t.netw.rules)) (wp_when.mpr ⟨fun _ => ?_, ?_⟩)
    (fun _ t ht => ?_) fun _ _ ht => ht.1)
  · refine wp_post (tracks_removeRule hw fun _ _ heq =>
      absurd heq.symm allowIncomingName_ne_blockLan) fun x t ht => ⟨ht.1, fun hx => ?_⟩
    rw [ht.2 hx]
    exact hw.nodup.not_mem_erase
  · intro h
    exact ⟨hw, fun _ => by simpa using h⟩
  · refine wp_post (tracks_removeRule ht.1 fun publicKey address heq => ?_) fun _ _ h => h.1
    rw [← allowIncomingName_eq_iff.mp heq]
    exact ht.2 rfl

theorem tracks_blockFileshare (a : UniqueAddress) :
    Keeps r any Tracks (Api.blockFileshare a) := fun _ hw =>
  wp_post (tracks_removeRule hw fun _ _ heq => absurd heq allowFileshareName_ne_allow)
    fun _ _ h => h.1

theorem allowFileshare_adds (publicKey : String) (address : Addr) (hw : Tracks w) :
    wp (allowFileshare publicKey address) r any
      (Adds r w (allowFileshareName publicKey address) []) w :=
  wp_netw_bind.mpr (wp_ite.mpr ⟨wp_fail_adds hw, fun hfree =>
    addOne_adds (allowFileshareRule publicKey address) hw (peerRuleName_ne_empty .fileshare _ _)
      (.peer .fileshare _ _) hfree fun _ _ => allowFileshareName_ne_blockLan⟩)

/-- With the LAN blocked two rules are added for the peer, and the name of the second
is recorded first. -/
theorem allowIncoming_adds (hadds : r.AddsMesh) (publicKey : String) (address : Addr)
    (lanAllowed : Bool) (hw : Tracks w) :
    wp (allowIncoming publicKey address lanAllowed) r any
      (Adds r w (allowIncomingName publicKey address)
        (if lanAllowed then [] else [blockLanName publicKey address])) w := by
  have hallow : MeshName (allowIncomingName publicKey address) := .peer .allow _ _
  have hlan : MeshName (blockLanName publicKey address) := .peer .blockLan _ _
  refine wp_netw_bind.mpr (wp_ite.mpr ⟨wp_fail_adds hw, fun hfree =>
    wp_ite.mpr ⟨fun hlocal => ?_, fun hlocal => ?_⟩⟩)
  · rw [if_pos hlocal]
    exact addOne_adds (allowIncomingRule publicKey address) hw
      (peerRuleName_ne_empty .allow _ _) hallow hfree fun _ _ => allowIncomingName_ne_blockLan
  · have hlanFree : blockLanName publicKey address ∉ w.netw.rules :=
      fun h => hfree (hw.paired _ _ h)
    simp only [wp_bind, context, Firewall.context, wp_mapError, wp_setNetw, onOk_ok]
    refine ⟨trivial, wp_fwAdd_all ?_ ?_ ?_ ?_ fun t ht => ?_⟩
    · simp [allowIncomingRule, blockLanRule, allowIncomingName_eq, blockLanName_eq,
        peerRuleName_ne_empty]
    · simpa [allowIncomingRule, blockLanRule] using allowIncomingName_ne_blockLan
    · simpa [allowIncomingRule, blockLanRule] using
        ⟨hw.free hallow hfree, hw.free hlan hlanFree⟩
    · intro n
      simpa using ⟨hadds.allow n (allowIncomingRule publicKey address) _ _ rfl,
        hadds.blockLan n (blockLanRule publicKey address) _ _ rfl⟩
    · rw [mapError_ok, onOk_ok, if_neg hlocal]
      exact ⟨trivial, Tracked.addPeer hw hfree ht, fun h => absurd h hfree, fun _ _ => ⟨rfl, rfl⟩⟩

/-- A flush with an agent that deletes meshnet rules removes all of them. -/
theorem tracks_defaultMeshUnBlock (hdeletes : r.DeletesMesh) (hw : Tracks w) :
    wp defaultMeshUnBlock r any (fun x t => x = .ok () ∧ Flushed t) w := by
  refine wp_netw_bind.mpr (wp_bind.mpr (wp_fwDelete_all hw.nodup
    (fun n hn => (hw.agree n (hw.mesh n hn)).mp hn) (fun n rule h => ?_) fun t ht => ?_))
  · exact hdeletes n rule (hw.mesh _ h)
  · rw [onOk_ok, wp_setNetw]
    refine ⟨trivial, rfl, ⟨List.nodup_nil, nofun, fun n hn => ⟨nofun, fun h => ?_⟩, nofun⟩, rfl⟩
    obtain ⟨hmem, hnot⟩ := (ht n).mp h
    exact absurd ((hw.agree n hn).mpr hmem) hnot

/-- The default rules are added to a memory without meshnet rules. -/
theorem tracks_defaultMeshBlock (hadds : r.AddsMesh) (ip : Addr) (hw : Flushed w) :
    wp (defaultMeshBlock ip) r any (fun x t => Tracks t ∧
      ((∀ n rule, r.agent.fails n .add rule = false) →
        x = .ok () ∧ t.netw.rules = [meshBlockName, meshEstablishedName])) w := by
  obtain ⟨hw, hempty⟩ := hw
  have hfree {n : String} (hn : MeshName n) : n ∉ w.names := hw.free hn (by simp [hempty])
  refine wp_bind.mpr (wp_fwAdd_cons (wp_fwAdd_fresh (by decide) (hfree .block)
    (fun e t n hn ht => ⟨hw.withFw ht, fun hr => absurd hn (by simp [hr])⟩) fun t ht => ?_))
  have hestablished : (meshEstablishedRule ip).name ∉ (w.withFw t).names := by
    rw [World.withFw_names, ht, not_or]
    exact ⟨hfree .established, (by decide : meshEstablishedName ≠ meshBlockName)⟩
  refine wp_fwAdd_fresh (by decide : meshEstablishedName ≠ "") hestablished
    (fun e u n hn _ => ?_) fun u hu => ?_
  · exact absurd hn (by simp [hadds.established n (meshEstablishedRule ip) rfl])
  · rw [onOk_ok, wp_setNetw]
    refine ⟨trivial, ?_, fun _ => ⟨rfl, by simp [hempty]⟩⟩
    have hextended : Tracked (w.netw.rules ++ [meshBlockName, meshEstablishedName])
        u.rules.names := by
      refine Tracked.extend hw (by decide) ?_ ?_ ?_ ?_
      · simpa using ⟨.block, .established⟩
      · simp [hempty]
      · intro n
        rw [hu, World.withFw_names, ht]
        simp [meshBlockRule, meshEstablishedRule, or_assoc]
      · intro publicKey address h
        simp only [List.mem_cons, List.not_mem_nil, or_false] at h
        rcases h with h | h
        · exact absurd h (peerRuleName_ne_meshBlock .blockLan _ _)
        · exact absurd h (peerRuleName_ne_meshEstablished .blockLan _ _)
    simpa [Tracks, World.names] using hextended

/-! ### Every method -/

theorem tracks_setAllowlist (allowlist : Allowlist) : Keeps r any Tracks (setAllowlist allowlist) :=
  keeps_setAllowlist tracks_core.toQuiet
    (fun _ h => tracks_fwAdd fun rule hrule => by simp [untrackedNames, h rule hrule])
    tracks_denyDNS (fun _ _ hw => hw) allowlist

theorem tracks_unsetAllowlist : Keeps r any Tracks unsetAllowlist :=
  keeps_unsetAllowlist tracks_core.toQuiet
    (fun name h => tracks_fwDelete (by simp [untrackedNames, h])) tracks_undenyDNS

theorem tracks_ruleUpkeep (hadds : r.AddsMesh) :
    RuleUpkeep r any Tracks any where
  toQuietInvariant := tracks_core.toQuiet
  addAllowlist _ h := tracks_fwAdd fun rule hrule => by simp [untrackedNames, h rule hrule]
  deleteAllowlist _ h := tracks_fwDelete (by simp [untrackedNames, h])
  denyDNS := tracks_denyDNS
  undenyDNS := tracks_undenyDNS
  allowlist _ _ hw := hw
  ipv6 := tracks_fwDelete (by decide)
  allowIncoming _ _ _ _ _ hw := wp_post (allowIncoming_adds hadds _ _ _ hw) fun _ _ => Adds.tracks
  allowFileshare _ _ _ _ hw := wp_post (allowFileshare_adds _ _ hw) fun _ _ => Adds.tracks
  blockIncoming := tracks_blockIncoming
  blockFileshare := tracks_blockFileshare
  enable := keeps_firewall_memory (fun _ _ => trivial) (fun _ _ hw ht => hw.withFw ht)
    Firewall.keeps_enable
  disable := keeps_firewall_memory (fun _ _ => trivial) (fun _ _ hw ht => hw.withFw ht)
    Firewall.keeps_disable

theorem tracks_setNetwork (allowlist : Allowlist) : Keeps r any Tracks (setNetwork allowlist) :=
  keeps_setNetwork tracks_core.toQuiet
    (fun _ h => tracks_fwAdd fun rule hrule => by simp [untrackedNames, h rule hrule])
    (tracks_setAllowlist _) fun _ hw => hw

theorem tracks_unsetNetwork : Keeps r any Tracks unsetNetwork :=
  keeps_unsetNetwork tracks_core.toQuiet
    (fun _ h => tracks_fwDelete (by simp [untrackedNames, h])) tracks_unsetAllowlist fun _ hw => hw

theorem tracks_upkeep (hadds : r.AddsMesh) : Upkeep r any Tracks any any :=
  (tracks_ruleUpkeep hadds).upkeep tracks_core tracks_setNetwork tracks_unsetNetwork
    fun _ _ hw => hw

theorem tracks_meshUpkeep (hadds : r.AddsMesh) (hdeletes : r.DeletesMesh) :
    MeshUpkeep r any Tracks Flushed any where
  between := flushed_core.toQuiet
  sub _ hw := hw.1
  flush _ hw := wp_post (tracks_defaultMeshUnBlock hdeletes hw) fun _ _ ht => ht.2
  cfg _ _ hw _ := hw
  block ip _ hw := wp_post (tracks_defaultMeshBlock hadds ip hw) fun _ _ => And.left
  enableMesh := keeps_enableMesh tracks_core
  on _ hw _ := hw
  off _ hw := hw
  valid _ _ := trivial
  stored _ _ _ := trivial

end

theorem tracks_newCombined (vpnet : Option Vpn) (fwmark : Nat)
    (lanDiscovery firewallEnabled : Bool) :
    Tracks (newCombined vpnet fwmark lanDiscovery firewallEnabled) :=
  ⟨List.nodup_nil, nofun, fun _ _ => ⟨nofun, nofun⟩, nofun⟩

/-- The calls that a step needs to succeed for the tracking to survive it. -/
def TrackingSafe (_ : World) (i : Step) : Prop :=
  i.env.AddsMesh ∧ (i.op.flushes = true → i.env.DeletesMesh)

theorem tracks_reached {cond : World → Step → Prop} (hcond : ∀ w i, cond w i → TrackingSafe w i)
    {vpnet : Option Vpn} {fwmark : Nat} {lanDiscovery firewallEnabled : Bool} {w : World}
    (h : World.Reached cond (newCombined vpnet fwmark lanDiscovery firewallEnabled) w) :
    Tracks w :=
  h.invariant (tracks_newCombined _ _ _ _) fun w i hw hi =>
    Upkeep.step (tracks_upkeep (hcond w i hi).1)
      (fun hf => tracks_meshUpkeep (hcond w i hi).1 ((hcond w i hi).2 hf))
      i.op.allows_any i.op.lists_any (fun _ _ _ => trivial) hw

/-- **Mesh rule tracking.** In every state reached by steps in which the agent adds the
rules of allowed peers and the rule for established connections, and deletes meshnet
rules while a configuration is replaced, the tracked names are distinct and are the
meshnet names in memory; so the next flush with a working agent removes every
meshnet rule. -/
theorem mesh_rules_tracked {vpnet : Option Vpn} {fwmark : Nat}
    {lanDiscovery firewallEnabled : Bool} {w : World}
    (h : World.Reached TrackingSafe (newCombined vpnet fwmark lanDiscovery firewallEnabled) w) :
    w.netw.rules.Nodup ∧ (∀ n, n ∈ w.netw.rules ↔ MeshName n ∧ n ∈ w.names) ∧
      ∀ r : Env, r.DeletesMesh → (defaultMeshUnBlock r w).result = .ok () ∧
        ∀ n, MeshName n → n ∉ (defaultMeshUnBlock r w).final.names := by
  have hw : Tracks w := tracks_reached (fun _ _ => id) h
  refine ⟨hw.nodup, fun n => ⟨fun hn => ⟨hw.mesh n hn, ?_⟩, fun hn => ?_⟩, fun r hr => ?_⟩
  · exact (hw.agree n (hw.mesh n hn)).mp hn
  · exact (hw.agree n hn.1).mpr hn.2
  · obtain ⟨-, hok, htracks, hempty⟩ := tracks_defaultMeshUnBlock hr hw
    exact ⟨hok, fun n hn => htracks.free hn (by simp [hempty])⟩

/-- A machine of the meshnet, for examples. -/
def sampleMachine : MachineMap :=
  { hostname := "host.nord", publicKey := "self", address := .ofBytes 100 64 0 2
    peers := [{ hostname := "peer.nord", publicKey := "peer", address := .ofBytes 100 64 0 9,
                doIAllowInbound := true, doIAllowFileshare := true }] }

theorem working_trackingSafe (devices : List Interface) (w : World) (op : Op) :
    TrackingSafe w ⟨op, Env.working devices⟩ :=
  ⟨⟨fun _ _ _ _ _ => rfl, fun _ _ _ _ _ => rfl, fun _ _ _ => rfl⟩, fun _ _ _ _ => rfl⟩

theorem mesh_rules_tracked_after_setMesh :
    let w := (newCombined none 0xe1f1 false true).step
      ⟨.setMesh sampleMachine (.ofBytes 100 64 0 2) "key", Env.working []⟩
    w.netw.rules.length = 6 ∧ w.netw.rules.Nodup :=
  ⟨by decide, (mesh_rules_tracked (.tail _ .refl (working_trackingSafe [] _ _))).1⟩

/-- The agent refuses the first rule of a peer that may not reach the LAN: the name of
the second is tracked although neither is in memory, and a later flush fails on it. -/
theorem blockLan_tracked_without_rule :
    let a : UniqueAddress := ⟨"peer", .ofBytes 100 64 0 9⟩
    let i : Step := ⟨.allowIncoming a false,
      Env.failing [] .add (allowIncomingName a.uid a.address)⟩
    let w := (newCombined none 0xe1f1 false true).step i
    blockLanName a.uid a.address ∈ w.netw.rules ∧ blockLanName a.uid a.address ∉ w.names ∧
      (defaultMeshUnBlock (Env.working []) w).result.isOk = false := by
  decide

end NordVPN.Networker
