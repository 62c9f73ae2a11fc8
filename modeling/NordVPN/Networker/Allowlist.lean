import NordVPN.Networker.Peers

/-!
What taking an allowlist away and setting one do, when the calls they need succeed.

When it is taken away, its rules may be there or not: `ErrRuleNotFound` is tolerated
for them. The rule against DNS leaks is only looked for if port 53 is not
allowlisted, and it must then be in memory if it is tracked. When one is set, none of
its rules may be there in the same form.
-/

namespace NordVPN.Networker

open NordVPN.Netip Prog

/-- The calls that taking the allowlist away needs. -/
structure Env.UnsetsAllowlist (r : Env) : Prop where
  deletes : ∀ n rule, rule.name ∈ allowlistRuleNames → r.agent.fails n .delete rule = false
  deletesDeny : ∀ n rule, rule.name = denyDNSName → r.agent.fails n .delete rule = false
  disablesPorts : ∀ n, r.fails n .disablePorts = false

theorem Env.Succeeds.unsetsAllowlist {r : Env} (h : r.Succeeds) : r.UnsetsAllowlist :=
  ⟨fun n rule _ => h.agent n _ rule, fun n rule _ => h.agent n _ rule, fun n => h.calls n _⟩

section

variable {r : Env}

/-! ### Taking it away -/

/-- A rule of the allowlist is deleted if it is there. -/
theorem deleteAllowlist_spec (hr : r.UnsetsAllowlist) {name : String}
    (hname : name ∈ allowlistRuleNames) (w : World) :
    wp (context "disabling allowlist firewall rules"
      (tolerate (isErr .ruleNotFound) (fwDelete [name]))) r any (fun x t =>
        x = .ok () ∧ t.netw = w.netw ∧ ∀ n, n ∈ t.names ↔ n ∈ w.names ∧ n ≠ name) w := by
  refine wp_mapError.mpr (wp_tolerate.mpr ?_)
  by_cases hmem : name ∈ w.names
  · refine wp_fwDelete_one hmem (fun _ _ rule n heq hn _ => ?_) fun _ ht => ⟨rfl, rfl, ht⟩
    exact absurd hn (by simp [hr.deletes n rule (heq ▸ hname)])
  · refine wp_fwDelete_absent hmem ⟨rfl, rfl, fun n => (and_iff_left_of_imp ?_).symm⟩
    rintro hn rfl
    exact hmem hn

theorem deleteAllowlists_spec (hr : r.UnsetsAllowlist) {names : List String}
    (hnames : ∀ n ∈ names, n ∈ allowlistRuleNames) (w : World) :
    wp (forEach (fun rule => context "disabling allowlist firewall rules"
      (tolerate (isErr .ruleNotFound) (fwDelete [rule]))) names) r any (fun x t =>
        x = .ok () ∧ t.netw = w.netw ∧ ∀ n, n ∈ t.names ↔ n ∈ w.names ∧ n ∉ names) w := by
  induction names generalizing w with
  | nil => exact wp_forEach_nil.mpr ⟨rfl, rfl, by simp⟩
  | cons name names ih =>
    rw [List.forall_mem_cons] at hnames
    refine wp_next (deleteAllowlist_spec hr hnames.1 w) fun t ht => ?_
    obtain ⟨hnetw, ht⟩ := ht
    refine wp_post (ih hnames.2 t) ?_
    rintro x u ⟨rfl, hu, hnames'⟩
    refine ⟨rfl, hu.trans hnetw, fun n => ?_⟩
    rw [hnames', ht, List.mem_cons, not_or, and_assoc]

variable {w : World} {a : Allowlist}

/-- `undenyDNS` when the agent deletes the rule. -/
theorem undenyDNS_spec (hr : r.UnsetsAllowlist)
    (hdeny : denyDNSName ∈ w.netw.rules → denyDNSName ∈ w.names) :
    wp undenyDNS r any (fun x t =>
      x = .ok () ∧ t.netw = { w.netw with rules := w.netw.rules.erase denyDNSName } ∧
        ∀ n, n ∈ t.names ↔ n ∈ w.names ∧ (n = denyDNSName → denyDNSName ∉ w.netw.rules)) w := by
  refine wp_netw_bind.mpr (wp_when.mpr ⟨fun h => ?_, fun h => ?_⟩)
  · have hmem : denyDNSName ∈ w.netw.rules := by simpa using h
    refine wp_bind.mpr (wp_fwDelete_one (hdeny hmem) (fun _ _ rule n heq hn _ => ?_) fun t ht => ?_)
    · exact absurd hn (by simp [hr.deletesDeny n rule heq])
    · rw [onOk_ok, wp_setNetw]
      refine ⟨trivial, rfl, rfl, fun n => ?_⟩
      rw [World.withNetw_names, World.withFw_names, ht]
      simp [hmem]
  · have hmem : denyDNSName ∉ w.netw.rules := by simpa using h
    refine ⟨rfl, ?_, fun n => by simp [hmem]⟩
    rw [List.erase_of_not_mem hmem]

/-- The names tracked after the allowlist is taken away. -/
def Combined.rulesWithoutDeny (c : Combined) : List String :=
  if c.allowlist.allowsDNS then c.rules else c.rules.erase denyDNSName

/-- `unsetAllowlist` succeeds and takes away the rules of the allowlist, and the rule
against DNS leaks unless port 53 is allowlisted. -/
theorem unsetAllowlist_spec (hr : r.UnsetsAllowlist)
    (hdeny : w.netw.allowlist.allowsDNS = false → denyDNSName ∈ w.netw.rules →
      denyDNSName ∈ w.names) :
    wp unsetAllowlist r any (fun x t =>
      x = .ok () ∧ t.netw = { w.netw with rules := w.netw.rulesWithoutDeny } ∧
        ∀ n, n ∈ t.names ↔ n ∈ w.names ∧ n ∉ allowlistRuleNames ∧
          (n = denyDNSName → w.netw.allowlist.allowsDNS = true ∨
            denyDNSName ∉ w.netw.rules)) w := by
  refine wp_ignoreCall_bind.mpr (wp_next (deleteAllowlists_spec hr (fun _ => id) _) fun u hu => ?_)
  refine (wp_contextCall_bind hr.disablesPorts).mpr ?_
  have hnetw' : (u.after r .disablePorts false).netw = w.netw := hu.1
  have hnames' (n : String) : n ∈ (u.after r .disablePorts false).names ↔
      n ∈ w.names ∧ n ∉ allowlistRuleNames := hu.2 n
  refine wp_netw_bind.mpr ?_
  rw [hnetw']
  refine wp_when.mpr ⟨fun h => ?_, fun h => ?_⟩
  · have hdns : w.netw.allowlist.allowsDNS = false := by simpa using h
    refine wp_mapError.mpr
      (wp_post (undenyDNS_spec hr fun hmem => (hnames' _).mpr ⟨?_, by decide⟩) ?_)
    · exact hdeny hdns (hnetw' ▸ hmem)
    · rintro x z ⟨rfl, hz, hznames⟩
      refine ⟨rfl, ?_, fun n => ?_⟩
      · rw [hz, hnetw', Combined.rulesWithoutDeny, hdns, if_neg (by decide)]
      · rw [hznames, hnames', hnetw', hdns]
        simp [and_assoc]
  · have hdns : w.netw.allowlist.allowsDNS = true := by simpa using h
    refine ⟨rfl, ?_, fun n => ?_⟩
    · rw [hnetw', Combined.rulesWithoutDeny, if_pos hdns]
    · rw [hnames', hdns]
      simp

/-! ### Setting one -/

/-- Every subnet is a CIDR. -/
def Allowlist.Parses (a : Allowlist) : Prop :=
  ∀ cidr ∈ a.subnets, (parsePrefix cidr).isSome = true

theorem parseSubnets_ok {subnets : List String}
    (h : ∀ cidr ∈ subnets, (parsePrefix cidr).isSome = true) :
    ∃ prefixes, parseSubnets subnets = .ok prefixes := by
  induction subnets with
  | nil => exact ⟨[], rfl⟩
  | cons cidr subnets ih =>
    rw [List.forall_mem_cons] at h
    obtain ⟨subnet, hsubnet⟩ := Option.isSome_iff_exists.mp h.1
    obtain ⟨rest, hrest⟩ := ih h.2
    exact ⟨subnet :: rest, by simp [parseSubnets, hsubnet, hrest, Except.map]⟩

/-- The allowlist that `setAllowlist` puts in force. -/
def Combined.inForce (c : Combined) (a : Allowlist) : Allowlist :=
  if c.lanDiscovery then addLANPermissions a else a

@[simp] theorem Combined.inForce_allowsDNS (c : Combined) (a : Allowlist) :
    (c.inForce a).allowsDNS = a.allowsDNS := by
  unfold Combined.inForce
  split <;> rfl

theorem Combined.inForce_parses (c : Combined) (ha : a.Parses) : (c.inForce a).Parses := by
  have hlocal : ∀ cidr ∈ ["10.0.0.0/8", "172.16.0.0/12", "192.168.0.0/16", "169.254.0.0/16"],
      (parsePrefix cidr).isSome = true := by decide
  unfold Combined.inForce
  split
  · intro cidr hcidr
    rcases List.mem_append.mp hcidr with hcidr | hcidr
    · exact ha cidr hcidr
    · exact hlocal cidr (List.mem_of_mem_filter hcidr)
  · exact ha

theorem allowPorts_working (hr : r.Succeeds) (ifaces : List Interface) (protocol : String)
    (ports : List Int) (w : World) :
    wp (allowPorts ifaces protocol ports) r any (fun x t =>
      ∃ rs : List Rule, x = .ok rs ∧ (rs.map Rule.name).Sublist ["allowlist_ports_" ++ protocol] ∧
        Same w t) w := by
  unfold allowPorts
  refine wp_ite.mpr ⟨fun _ => wp_pure.mpr ⟨[], rfl, List.nil_sublist _, .refl w⟩, fun _ => ?_⟩
  refine wp_netw_bind.mpr (wp_next (wp_mapError_ok (Passes.call hr.calls _ rfl w)) fun t ht => ?_)
  exact wp_pure.mpr ⟨_, rfl, List.Sublist.refl _, ht⟩

/-- The names of the rules that `setAllowlist` adds are distinct. -/
theorem names_allowlistSubnetRules (ifaces : List Interface) (subnets : List Prefix) :
    ((allowlistSubnetRules ifaces subnets).map Rule.name).Sublist
      ["allowlist_subnets", "allowlist_subnets_forward"] := by
  unfold allowlistSubnetRules
  split
  · exact List.nil_sublist _
  · exact List.Sublist.refl _

theorem denyDNS_working (hr : r.Succeeds) (hw : Tracks w) :
    wp denyDNS r any (fun x t => x = .ok () ∧
      (∃ rules, t.netw = { w.netw with rules }) ∧ denyDNSName ∈ t.netw.rules) w := by
  refine wp_netw_bind.mpr (wp_when.mpr ⟨fun h => ?_, fun h => ⟨rfl, ⟨_, rfl⟩, by simpa using h⟩⟩)
  have hfree : denyDNSName ∉ w.names := hw.free .denyDNS (by simpa using h)
  refine wp_next (P := fun t => t.netw = w.netw) (wp_mapError.mpr (wp_fwAdd_fresh
    (by decide) hfree (fun _ _ n hn _ => absurd hn (by simp [hr.agent])) fun _ _ => ⟨rfl, rfl⟩))
    fun t ht => wp_setNetw.mpr ⟨trivial, rfl, ⟨w.netw.rules ++ [denyDNSName], ?_⟩, by simp⟩
  rw [World.withNetw_netw, ht]

/-- What a successful `setAllowlist` makes of the fields `c`. -/
structure Listed (a : Allowlist) (c c' : Combined) : Prop where
  fields : ∃ rules, c' = { c with rules, allowlist := c.inForce a }
  deny : denyDNSName ∈ c'.rules ↔ denyDNSName ∈ c.rules ∨ a.allowsDNS = false

theorem Listed.parses {c c' : Combined} (h : Listed a c c') (ha : a.Parses) :
    c'.allowlist.Parses := by
  obtain ⟨rules, rfl⟩ := h.fields
  exact c.inForce_parses ha

theorem Listed.allowsDNS {c c' : Combined} (h : Listed a c c') :
    c'.allowlist.allowsDNS = a.allowsDNS := by
  obtain ⟨rules, rfl⟩ := h.fields
  exact c.inForce_allowsDNS a

/-- The part of `setAllowlist` after the rules are added. -/
theorem listAllowlist_working (hr : r.Succeeds) (a : Allowlist) (hw : Tracks w) :
    wp (do
      when (!(w.netw.inForce a).allowsDNS) denyDNS
      setNetw fun c => { c with allowlist := w.netw.inForce a }
      context "setting routing rules" (setupRoutingRules false (w.netw.inForce a).subnets)) r
      any (fun x t => x = .ok () ∧ Listed a w.netw t.netw) w := by
  refine wp_next (P := fun t => (∃ rules, t.netw = { w.netw with rules }) ∧
    (denyDNSName ∈ t.netw.rules ↔ denyDNSName ∈ w.netw.rules ∨ a.allowsDNS = false))
    (wp_when.mpr ⟨fun h => ?_, fun h => ⟨rfl, ⟨_, rfl⟩, ?_⟩⟩) fun t ht => ?_
  · refine wp_post (denyDNS_working hr hw) fun x t ht => ⟨ht.1, ht.2.1, ?_⟩
    have hdns : a.allowsDNS = false := by simpa using h
    simp [ht.2.2, hdns]
  · have hdns : a.allowsDNS = true := by simpa using h
    simp [hdns]
  · obtain ⟨⟨rules, hnetw⟩, hdeny⟩ := ht
    refine wp_next (P := fun u => Listed a w.netw u.netw) (wp_setNetw.mpr
      ⟨trivial, rfl, ⟨rules, ?_⟩, hdeny⟩) fun u hu => ?_
    · rw [World.withNetw_netw, hnetw]
    · refine wp_post ((Passes.setupRoutingRules hr.calls _ _).context u) ?_
      rintro x v ⟨rfl, hv⟩
      exact ⟨rfl, hv.netw ▸ hu⟩

/-- `setAllowlist` with working dependencies: it fails only on a rule that is there
already, and then has set nothing. -/
theorem setAllowlist_working (hr : r.Succeeds) (ha : a.Parses) (hw : Tracks w) :
    wp (setAllowlist a) r any (fun x t => x = .ok () ∧ Listed a w.netw t.netw ∨
      x = .error (.sentinel .ruleAlreadyExists) ∧ t.netw = w.netw ∧
        ∃ n ∈ allowlistRuleNames, n ∈ w.names) w := by
  refine wp_yields (devices_working hr w) fun ifaces t ht => ?_
  obtain ⟨prefixes, hparse⟩ := parseSubnets_ok fun cidr hcidr =>
    w.netw.inForce_parses ha cidr ((r.rangeOrder_perm t.log.length _).mem_iff.mp hcidr)
  rw [wp_netw_bind, wp_bind, wp_env, onOk_ok, wp_bind, wp_state, onOk_ok, ht.netw,
    show (if w.netw.lanDiscovery = true then addLANPermissions a else a) =
      w.netw.inForce a from rfl,
    hparse]
  refine wp_yields (allowPorts_working hr _ _ _ t) fun tcp u hu => ?_
  refine wp_yields (allowPorts_working hr _ _ _ u) fun udp v hv => ?_
  have hsame : Same w v := (ht.trans hu.2).trans hv.2
  have hadded : ((allowlistSubnetRules ifaces prefixes ++ tcp ++ udp).map Rule.name).Sublist
      allowlistRuleNames := by
    rw [List.map_append, List.map_append]
    exact ((names_allowlistSubnetRules ifaces prefixes).append hu.1).append hv.1
  have hmem (rule : Rule) (hrule : rule ∈ allowlistSubnetRules ifaces prefixes ++ tcp ++ udp) :
      rule.name ∈ allowlistRuleNames := hadded.subset (List.mem_map_of_mem hrule)
  have hadd := wp_and (wp_fwAdd_working (w := v) hr.agent
    (fun rule hrule h => by simpa [h, allowlistRuleNames] using hmem rule hrule)
    (hadded.nodup (by decide)))
    (tracks_fwAdd (r := r) (fun rule hrule => by simp [untrackedNames, hmem rule hrule]) v
      (hsame.tracks hw))
  refine wp_seq (wp_mono hadd (fun _ _ => trivial) fun _ _ h => h) ?_ ?_
  · rintro _ z ⟨⟨hz, -⟩, hzw⟩
    have hrest := listAllowlist_working hr a hzw
    rw [hz, hsame.netw] at hrest
    exact wp_post hrest fun x u hu => .inl hu
  · rintro e z ⟨⟨hz, h⟩, -⟩
    obtain ⟨he, n, hn, hnv⟩ := h.resolve_left fun h => by cases h
    exact .inr ⟨he, hz.trans hsame.netw, n, hadded.subset hn, hsame.names ▸ hnv⟩

/-! ### Replacing one -/

/-- With no rule of an allowlist in memory nothing is in the way. -/
theorem setAllowlist_free (hr : r.Succeeds) (ha : a.Parses) (hw : Tracks w)
    (hfree : ∀ n ∈ allowlistRuleNames, n ∉ w.names) :
    wp (setAllowlist a) r any (fun x t => x = .ok () ∧ Listed a w.netw t.netw) w := by
  refine wp_post (setAllowlist_working hr ha hw) ?_
  rintro x t (h | ⟨-, -, n, hn, hmem⟩)
  · exact h
  · exact absurd hmem (hfree n hn)

/-- `unsetAllowlist` makes room for any allowlist. -/
theorem unsetAllowlist_free (hr : r.Succeeds) (hw : Tracks w) :
    wp unsetAllowlist r any (fun x t => x = .ok () ∧ Tracks t ∧
      t.netw = { w.netw with rules := w.netw.rulesWithoutDeny } ∧
        ∀ n ∈ allowlistRuleNames, n ∉ t.names) w := by
  refine wp_post (wp_both (unsetAllowlist_spec hr.unsetsAllowlist fun _ hmem =>
    (hw.agree _ .denyDNS).mp hmem) (tracks_unsetAllowlist w hw)) ?_
  rintro x t ⟨⟨hx, hnetw, hnames⟩, ht⟩
  exact ⟨hx, ht, hnetw, fun n hn hmem => ((hnames n).mp hmem).2.1 hn⟩

/-- What the replacement of an allowlist makes of the fields `c`. -/
abbrev Relisted (a : Allowlist) (c c' : Combined) : Prop :=
  Listed a { c with rules := c.rulesWithoutDeny } c'

theorem replaceAllowlist_working (hr : r.Succeeds) (ha : a.Parses) (hw : Tracks w) :
    wp (do
      unsetAllowlist
      setAllowlist a) r any
      (fun x t => x = .ok () ∧ Relisted a w.netw t.netw ∧ Tracks t) w := by
  refine wp_next (unsetAllowlist_free hr hw) fun t ht => ?_
  obtain ⟨htracks, hnetw, hfree⟩ := ht
  have hset :=
    wp_and (setAllowlist_free hr ha htracks hfree) (tracks_setAllowlist (r := r) a t htracks)
  rw [hnetw] at hset
  exact wp_mono hset (fun _ _ => trivial) fun _ _ h => ⟨h.1.1, h.1.2, h.2⟩

/-- `resetAllowlist` replaces the allowlist in force by itself. -/
theorem wp_resetAllowlist (hr : r.Succeeds) (hw : Tracks w) {P : World → Prop}
    (h : wp (do
      unsetAllowlist
      setAllowlist w.netw.allowlist) r any (fun x t => x = .ok () ∧ P t) w) :
    wp resetAllowlist r any (fun x t => x = .ok () ∧ P t) w := by
  refine wp_bind.mpr (wp_mapError.mpr (wp_post
    (wp_both (wp_bind.mp h) (unsetAllowlist_free hr hw)) ?_))
  rintro x t ⟨hset, rfl, -, hnetw, -⟩
  rw [onOk_ok] at hset
  rw [mapError_ok, onOk_ok, wp_netw_bind, hnetw]
  exact wp_mapError_ok hset

theorem resetAllowlist_working (hr : r.Succeeds) (hw : Tracks w) (ha : w.netw.allowlist.Parses) :
    wp resetAllowlist r any
      (fun x t => x = .ok () ∧ Relisted w.netw.allowlist w.netw t.netw ∧ Tracks t) w :=
  wp_resetAllowlist hr hw (replaceAllowlist_working hr ha hw)

end

end NordVPN.Networker
