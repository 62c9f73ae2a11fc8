import NordVPN.Networker.Tracking

/-!
The rules that block traffic while the network is set.

`drop` and `drop-fw` are only added by `blockTraffic` and only deleted by
`unblockTraffic`. So a property that reads the two flags of the network and which of
the two names are in memory is kept, at every single step, by everything else, as
long as neither name is tracked as a meshnet rule.
-/

namespace NordVPN.Networker

open NordVPN.Netip Prog

/-- The names of the rules that block traffic. -/
def blockNames : List String := ["drop-fw", "drop"]

/-- None of the blocking rules is tracked. -/
def Untracked (w : World) : Prop := ∀ n ∈ w.netw.rules, n ∉ blockNames

/-- `J` reads the flags and the blocking rules only. -/
structure KillSwitchProperty (J : World → Prop) : Prop where
  stays : ∀ {w t : World}, J w → t.netw.isNetworkSet = w.netw.isNetworkSet →
    t.netw.isKillSwitchSet = w.netw.isKillSwitchSet →
    (∀ n ∈ blockNames, n ∈ t.names ↔ n ∈ w.names) → J t

def Guarded (J : World → Prop) (w : World) : Prop := J w ∧ Untracked w

/-- The name of a meshnet rule is no name of a blocking rule. -/
theorem MeshName.not_block {name : String} (h : MeshName name) : name ∉ blockNames :=
  fun hmem => h.not_untracked ((by decide : ∀ n ∈ blockNames, n ∈ untrackedNames) name hmem)

/-- Nor are the names that an allowlist uses. -/
theorem allowlist_not_block : ∀ n ∈ allowlistRuleNames, n ∉ blockNames := by decide

section Guarded

variable {J : World → Prop} (hJ : KillSwitchProperty J) {r : Env}
include hJ

/-- The guard reads the core of the world only, so calls outside of it keep it. -/
theorem guarded_core : CoreInvariant (Guarded J) (Guarded J) := by
  refine ⟨fun _ => id, fun {w w'} h hw => ⟨hJ.stays hw.1 (congrArg Core.isNetworkSet h)
    (congrArg Core.isKillSwitchSet h) fun n _ => ?_, ?_⟩⟩
  · have hfw : w'.fw = w.fw := congrArg Core.fw h
    rw [World.names, World.names, hfw]
  · have hrules : w'.netw.rules = w.netw.rules := congrArg Core.rules h
    unfold Untracked
    rw [hrules]
    exact hw.2

/-- Another memory with the same blocking rules. -/
theorem Guarded.withFw {w : World} (hw : Guarded J w) {fw : Firewall}
    (h : ∀ n ∈ blockNames, n ∈ fw.rules.names ↔ n ∈ w.names) : Guarded J (w.withFw fw) :=
  ⟨hJ.stays hw.1 rfl rfl h, hw.2⟩

/-- What agents hold may change as long as the rules in memory do not. -/
theorem Guarded.memory {w : World} (hw : Guarded J w) {fw : Firewall}
    (h : fw.rules = w.fw.rules) : Guarded J (w.withFw fw) :=
  hw.withFw hJ fun n _ => by rw [h, World.names]

/-- Rules with other names may be added, also where only some of them are. -/
theorem guarded_fwAdd {rs : List Rule} (h : ∀ rule ∈ rs, rule.name ∉ blockNames) :
    Keeps r (Guarded J) (Guarded J) (fwAdd rs) := by
  intro w hw
  have hkeep : Keeps r.agent _ _ (Firewall.add rs) := Firewall.keeps_add
    (I := fun mem => ∀ n ∈ blockNames, n ∈ mem.names ↔ n ∈ w.names)
    fun mem rule hn hrule hmem n hks => by
      rw [OrderedRules.mem_names_put, hmem n hks, or_iff_left]
      rintro rfl
      exact h rule hrule hks
  exact wp_zoom.mpr (wp_mono (hkeep w.fw fun _ _ => Iff.rfl) (fun _ ht => hw.withFw hJ ht)
    fun _ _ ht => hw.withFw hJ ht)

/-- Rules with other names may be deleted, also where only some of them are. -/
theorem guarded_fwDelete {names : List String} (h : ∀ n ∈ names, n ∉ blockNames) :
    Keeps r (Guarded J) (Guarded J) (fwDelete names) := by
  intro w hw
  have hkeep : Keeps r.agent _ _ (Firewall.delete names) := Firewall.keeps_delete
    (I := fun mem => ∀ n ∈ blockNames, n ∈ mem.names ↔ n ∈ w.names)
    fun mem mem' name hname hdel hmem n hks => by
      rw [OrderedRules.mem_names_delete hdel, hmem n hks, and_iff_left]
      rintro rfl
      exact h n hname hks
  exact wp_zoom.mpr (wp_mono (hkeep w.fw fun _ _ => Iff.rfl) (fun _ ht => hw.withFw hJ ht)
    fun _ _ ht => hw.withFw hJ ht)

/-- The tracked names may change to others that are not blocking. -/
theorem guarded_rules {f : Combined → List String}
    (h : ∀ c, (∀ n ∈ c.rules, n ∉ blockNames) → ∀ n ∈ f c, n ∉ blockNames) :
    Keeps r (Guarded J) (Guarded J) (setNetw fun c => { c with rules := f c }) :=
  keeps_setNetw (guarded_core hJ).toQuiet fun w hw =>
    ⟨hJ.stays hw.1 rfl rfl fun _ _ => Iff.rfl, h w.netw hw.2⟩

/-- Tracking further meshnet rules. -/
theorem guarded_append {names : List String} (h : ∀ n ∈ names, MeshName n) :
    Keeps r (Guarded J) (Guarded J) (setNetw fun c => { c with rules := c.rules ++ names }) :=
  guarded_rules hJ fun c hc n hn => by
    rcases List.mem_append.mp hn with hn | hn
    · exact hc n hn
    · exact (h n hn).not_block

/-- Forgetting a tracked rule. -/
theorem guarded_erase (name : String) :
    Keeps r (Guarded J) (Guarded J) (setNetw fun c => { c with rules := c.rules.erase name }) :=
  guarded_rules hJ fun _ hc n hn => hc n (List.mem_of_mem_erase hn)

/-- So every update of meshnet rules and their names keeps the guard. -/
theorem guarded_nameUpkeep : NameUpkeep r (Guarded J) (Guarded J) where
  toQuietInvariant := (guarded_core hJ).toQuiet
  add _ h := guarded_fwAdd hJ fun rule hrule => (h rule hrule).1.not_block
  delete _ h := guarded_fwDelete hJ fun _ hn => List.mem_singleton.mp hn ▸ h.1.not_block
  record _ h := guarded_append hJ fun n hn => (h n hn).1
  forget name _ := guarded_erase hJ name

/-- The rules against DNS leaks have names of their own. -/
theorem guarded_denyDNS : Keeps r (Guarded J) (Guarded J) denyDNS :=
  keeps_netw.seq <| Keeps.when fun _ =>
    (guarded_fwAdd hJ (by decide)).mapError.seq <|
      guarded_append hJ (List.forall_mem_singleton.mpr .denyDNS)

theorem guarded_undenyDNS : Keeps r (Guarded J) (Guarded J) undenyDNS :=
  keeps_netw.seq <| Keeps.when fun _ =>
    (guarded_fwDelete hJ (by decide)).seq <| guarded_erase hJ _

/-- The names that this deletes are the tracked ones, none of them blocking. -/
theorem guarded_defaultMeshUnBlock : Keeps r (Guarded J) (Guarded J) defaultMeshUnBlock := by
  intro w hw
  exact wp_netw_bind.mpr (((guarded_fwDelete hJ hw.2).seq <|
    guarded_rules hJ fun _ _ _ => List.not_mem_nil.elim) w hw)

/-- The procedures on rules keep the guard, for any address. -/
theorem guarded_ruleUpkeep : RuleUpkeep r (Guarded J) (Guarded J) any where
  toPeerUpkeep := (guarded_nameUpkeep hJ).peerUpkeep (guarded_fwDelete hJ (by decide))
    (keeps_firewall_memory (fun _ => id) (fun _ _ hw ht => hw.memory hJ ht) Firewall.keeps_enable)
    (keeps_firewall_memory (fun _ => id) (fun _ _ hw ht => hw.memory hJ ht) Firewall.keeps_disable)
  addAllowlist _ h := guarded_fwAdd hJ fun rule hrule => allowlist_not_block _ (h rule hrule)
  deleteAllowlist _ h := guarded_fwDelete hJ fun n hn =>
    allowlist_not_block n (List.mem_singleton.mp hn ▸ h)
  denyDNS := guarded_denyDNS hJ
  undenyDNS := guarded_undenyDNS hJ
  allowlist _ _ hw := ⟨hJ.stays hw.1 rfl rfl fun _ _ => Iff.rfl, hw.2⟩

/-- And so do the procedures of the meshnet. -/
theorem guarded_meshUpkeep :
    MeshUpkeep r (Guarded J) (Guarded J) (Guarded J) any where
  between := (guarded_core hJ).toQuiet
  sub _ := id
  flush := guarded_defaultMeshUnBlock hJ
  cfg _ _ hw _ := ⟨hJ.stays hw.1 rfl rfl fun _ _ => Iff.rfl, hw.2⟩
  block := (guarded_nameUpkeep hJ).keeps_defaultMeshBlock
  enableMesh := keeps_enableMesh (guarded_core hJ)
  on _ hw _ := ⟨hJ.stays hw.1 rfl rfl fun _ _ => Iff.rfl, hw.2⟩
  off _ hw := ⟨hJ.stays hw.1 rfl rfl fun _ _ => Iff.rfl, hw.2⟩
  valid _ _ := trivial
  stored _ _ _ := trivial

end Guarded

end NordVPN.Networker
