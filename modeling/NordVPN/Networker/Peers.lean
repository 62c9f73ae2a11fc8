import NordVPN.Networker.Working

/-!
What the meshnet leaves alone.

A set network has rules of its own, under fixed names, among them the rule against
DNS leaks. `Unmoved` compares two states in such names, in the flags of the network
and the kill switch, and in the VPN. Allowing or blocking a peer leaves all of it
alone. Replacing the configuration leaves all but the rule against DNS leaks: that
one is tracked with the rules of the meshnet and goes with them.
-/

namespace NordVPN.Networker

open NordVPN.Netip Prog

/-- The names of the rules of a set network that are not tracked. -/
def fixedNames : List String := killSwitchNames ++ allowlistRuleNames

/-- The names of the rules of a set network. -/
def networkNames : List String := fixedNames ++ [denyDNSName]

theorem MeshName.not_fixed {name : String} (h : MeshName name) : name ∉ fixedNames :=
  fun hmem => h.not_untracked (List.mem_append_left _ hmem)

theorem PeerName.not_network {name : String} (h : PeerName name) : name ∉ networkNames := by
  rw [networkNames, List.mem_append, not_or]
  exact ⟨h.1.not_fixed, fun hmem => h.2 (List.mem_singleton.mp hmem)⟩

/-- `t` is as `w` in the flags, the VPN and the names `ns` in memory. -/
structure Unmoved (ns : List String) (w t : World) : Prop where
  isNetworkSet : t.netw.isNetworkSet = w.netw.isNetworkSet
  isKillSwitchSet : t.netw.isKillSwitchSet = w.netw.isKillSwitchSet
  link : t.link = w.link
  names : ∀ n ∈ ns, n ∈ t.names ↔ n ∈ w.names

theorem Unmoved.refl (ns : List String) (w : World) : Unmoved ns w w :=
  ⟨rfl, rfl, rfl, fun _ _ => Iff.rfl⟩

theorem Unmoved.trans {ns : List String} {w t u : World} (h : Unmoved ns w t)
    (h' : Unmoved ns t u) : Unmoved ns w u :=
  ⟨h'.1.trans h.1, h'.2.trans h.2, h'.3.trans h.3, fun n hn => (h'.4 n hn).trans (h.4 n hn)⟩

/-- `J` reads what `Unmoved` compares, and the allowlist. -/
structure NetworkProperty (ns : List String) (J : World → Prop) : Prop where
  stays : ∀ {w t : World}, J w → Unmoved ns w t → t.netw.allowlist = w.netw.allowlist → J t

namespace NetworkProperty

variable {ns : List String} {J : World → Prop} {r : Env} (hJ : NetworkProperty ns J)
include hJ

theorem quiet : QuietInvariant any J :=
  ⟨fun _ _ => trivial, fun {w w'} hcore hlink hw => hJ.stays hw
    ⟨congrArg Core.isNetworkSet hcore, congrArg Core.isKillSwitchSet hcore, hlink, fun n _ => by
      rw [World.names, World.names, show w'.fw = w.fw from congrArg Core.fw hcore]⟩
    (congrArg Core.allowlist hcore)⟩

theorem fwAdd {rs : List Rule} (h : ∀ rule ∈ rs, rule.name ∉ ns) : Keeps r any J (fwAdd rs) := by
  intro w hw
  refine wp_post (fwAdd_frame rs w) ?_
  rintro x _ ⟨⟨fw, rfl⟩, hnames⟩
  refine hJ.stays hw ⟨rfl, rfl, rfl, fun n hn => hnames n fun hmem => ?_⟩ rfl
  obtain ⟨rule, hrule, rfl⟩ := List.mem_map.mp hmem
  exact h rule hrule hn

theorem fwDelete {names : List String} (h : ∀ n ∈ names, n ∉ ns) :
    Keeps r any J (fwDelete names) := by
  intro w hw
  refine wp_post (fwDelete_frame names w) ?_
  rintro x _ ⟨⟨fw, rfl⟩, hnames⟩
  exact hJ.stays hw ⟨rfl, rfl, rfl, fun n hn => hnames n fun hmem => h n hmem hn⟩ rfl

/-- Fields that `J` does not read may change. -/
theorem fields {w : World} (hw : J w) {f : Combined → Combined}
    (hset : (f w.netw).isNetworkSet = w.netw.isNetworkSet)
    (hks : (f w.netw).isKillSwitchSet = w.netw.isKillSwitchSet)
    (hvpn : (f w.netw).isVpnSet = w.netw.isVpnSet) (hvpnet : (f w.netw).vpnet = w.netw.vpnet)
    (hlist : (f w.netw).allowlist = w.netw.allowlist) : J (w.withNetw f) := by
  refine hJ.stays hw ⟨hset, hks, ?_, fun _ _ => Iff.rfl⟩ hlist
  rw [World.link, World.withNetw_netw, hvpn, hvpnet]
  rfl

theorem rules (f : Combined → List String) :
    Keeps r any J (setNetw fun c => { c with rules := f c }) :=
  keeps_setNetw hJ.quiet fun _ hw => hJ.fields hw rfl rfl rfl rfl rfl

end NetworkProperty

/-! ### Single peers -/

section

variable {J : World → Prop} {r : Env} (hJ : NetworkProperty networkNames J)
include hJ

theorem NetworkProperty.nameUpkeep : NameUpkeep r any J where
  toQuietInvariant := hJ.quiet
  add _ h := hJ.fwAdd fun rule hrule => (h rule hrule).not_network
  delete _ h := hJ.fwDelete fun _ hn => List.mem_singleton.mp hn ▸ h.not_network
  record _ _ := hJ.rules _
  forget _ _ := hJ.rules _

theorem NetworkProperty.peerUpkeep {okAddr : Addr → Prop} : PeerUpkeep r any J okAddr := by
  have hmemory (w : World) (fw : Firewall) (hw : J w) (h : fw.rules = w.fw.rules) :
      J (w.withFw fw) := by
    refine hJ.stays hw ⟨rfl, rfl, rfl, fun n _ => ?_⟩ rfl
    rw [World.withFw_names, h, World.names]
  exact hJ.nameUpkeep.peerUpkeep (hJ.fwDelete (by decide))
    (keeps_firewall_memory (fun _ _ => trivial) hmemory Firewall.keeps_enable)
    (keeps_firewall_memory (fun _ _ => trivial) hmemory Firewall.keeps_disable)

end

/-- `J` also survives that the rule against DNS leaks goes. -/
structure MeshProperty (J : World → Prop) : Prop extends NetworkProperty networkNames J where
  undenied : ∀ {w t : World}, J w → Unmoved fixedNames w t →
    t.netw.allowlist = w.netw.allowlist → denyDNSName ∉ t.names → J t

/-! ### Replacing the configuration -/

section

variable {J : World → Prop} {r : Env}

/-- A flush takes nothing from the network but the rule against DNS leaks. -/
theorem flush_network (hJ : MeshProperty J) (hr : r.DeletesMesh) {w : World} (htracks : Tracks w)
    (hw : J w) :
    wp defaultMeshUnBlock r any (fun _ t => Flushed t ∧ J t) w := by
  have hframe : wp defaultMeshUnBlock r any (fun _ t => Unmoved fixedNames w t ∧
      t.netw.allowlist = w.netw.allowlist) w := by
    refine wp_netw_bind.mpr (wp_seq (P := fun _ t => Unmoved fixedNames w t ∧
      t.netw.allowlist = w.netw.allowlist) (wp_post (fwDelete_frame w.netw.rules w) ?_)
      (fun _ t ht => wp_setNetw.mpr ⟨trivial, ⟨ht.1.1, ht.1.2, ht.1.3, ht.1.4⟩, ht.2⟩)
      fun _ _ ht => ht)
    rintro x _ ⟨⟨fw, rfl⟩, hnames⟩
    exact ⟨⟨rfl, rfl, rfl, fun n hn => hnames n fun h => (htracks.mesh n h).not_fixed hn⟩, rfl⟩
  refine wp_post (wp_both (tracks_defaultMeshUnBlock hr htracks) hframe) ?_
  rintro x t ⟨⟨-, hflushed⟩, ht⟩
  exact ⟨hflushed, hJ.undenied hw ht.1 ht.2 (hflushed.1.free .denyDNS (by simp [hflushed.2]))⟩

theorem network_meshUpkeep (hJ : MeshProperty J) (hadds : r.AddsMesh) (hdeletes : r.DeletesMesh)
    (henable : ∀ self privateKey,
      Keeps r any (fun w => Tracks w ∧ J w) (enableMesh self privateKey)) :
    MeshUpkeep r any (fun w => Tracks w ∧ J w) (fun w => Flushed w ∧ J w) any where
  between := flushed_core.toQuiet.and hJ.quiet
  sub _ hw := ⟨hw.1.1, hw.2⟩
  flush _ hw := flush_network hJ hdeletes hw.1 hw.2
  cfg _ _ hw _ := ⟨hw.1, hJ.fields hw.2 rfl rfl rfl rfl rfl⟩
  block ip w hw := wp_post (wp_both (tracks_defaultMeshBlock hadds ip hw.1)
    (hJ.nameUpkeep.keeps_defaultMeshBlock ip w hw.2)) fun _ _ ht => ⟨ht.1.1, ht.2⟩
  enableMesh := henable
  on _ hw _ := ⟨hw.1, hJ.fields hw.2 rfl rfl rfl rfl rfl⟩
  off _ hw := ⟨hw.1, hJ.fields hw.2 rfl rfl rfl rfl rfl⟩
  valid _ _ := trivial
  stored _ _ _ := trivial

end

end NordVPN.Networker
