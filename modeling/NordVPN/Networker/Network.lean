import NordVPN.Networker.Allowlist

/-!
What setting and unsetting the network do, when every call of theirs succeeds.

Even then they may fail: `Add` on a rule that is already there, `Delete` on one that
is not. Setting a network only adds names to the memory. Unsetting one needs
`api_allowlist` to be there and leaves `drop` behind if `drop-fw` is gone.
-/

namespace NordVPN.Networker

open NordVPN.Netip Prog

section

variable {r : Env}

/-! ### The allowlist leaves the kill switch alone -/

theorem unmoved_property (ns : List String) (w : World) : NetworkProperty ns (Unmoved ns w) :=
  ⟨fun hw ht _ => hw.trans ht⟩

theorem unmoved_allowlist (w : World) :
    (∀ rs : List Rule, (∀ rule ∈ rs, rule.name ∈ allowlistRuleNames) →
      Keeps r any (Unmoved killSwitchNames w) (fwAdd rs)) ∧
    (∀ name ∈ allowlistRuleNames,
      Keeps r any (Unmoved killSwitchNames w) (fwDelete [name])) := by
  have hJ := unmoved_property killSwitchNames w
  have hdisjoint : ∀ n ∈ allowlistRuleNames, n ∉ killSwitchNames := by decide
  exact ⟨fun _ h => hJ.fwAdd fun rule hrule => hdisjoint _ (h rule hrule),
    fun _ h => hJ.fwDelete fun _ hn => List.mem_singleton.mp hn ▸ hdisjoint _ h⟩

theorem setAllowlist_unmoved (a : Allowlist) (w : World) :
    wp (setAllowlist a) r any (fun _ t => Unmoved killSwitchNames w t) w := by
  have hJ := unmoved_property killSwitchNames w
  refine keeps_setAllowlist hJ.quiet (unmoved_allowlist w).1 ?_ (fun t _ ht => ?_) a w (.refl _ w)
  · exact keeps_netw.seq <| Keeps.when fun _ =>
      (hJ.fwAdd (by decide)).mapError.seq <| hJ.rules _
  · exact ⟨ht.1, ht.2, ht.3, ht.4⟩

theorem unsetAllowlist_unmoved (w : World) :
    wp unsetAllowlist r any (fun _ t => Unmoved killSwitchNames w t) w := by
  have hJ := unmoved_property killSwitchNames w
  refine keeps_unsetAllowlist hJ.quiet (unmoved_allowlist w).2 ?_ w (.refl _ w)
  exact keeps_netw.seq <| Keeps.when fun _ =>
    (hJ.fwDelete (by decide)).seq <| hJ.rules _

/-! ### Setting the network -/

/-- `Add` of one rule by a working agent. Either way its name is in memory. -/
theorem fwAdd_one_working (hr : r.Succeeds) {rule : Rule} (hnamed : rule.name ≠ "") (w : World) :
    wp (fwAdd [rule]) r any (fun x t => (∃ fw, t = w.withFw fw) ∧
      (∀ n, n ∈ t.names ↔ n ∈ w.names ∨ n = rule.name) ∧
      (x = .ok () ∨ x = .error (.sentinel .ruleAlreadyExists) ∧ rule.name ∈ w.names)) w := by
  refine wp_fwAdd_one hnamed (fun h => ⟨⟨w.fw, rfl⟩, fun n => ?_, .inr ⟨rfl, h⟩⟩)
    (fun _ _ n hn _ => absurd hn (by simp [hr.agent])) (fun t ht => ⟨⟨t, rfl⟩, ht, .inl rfl⟩)
    fun _ _ _ n _ hn _ => absurd hn (by simp [hr.agent])
  exact (or_iff_left_of_imp fun hn => hn ▸ h).symm

/-- `drop-fw` is not there without `drop`. -/
def Paired (w : World) : Prop := "drop-fw" ∈ w.names → "drop" ∈ w.names

/-- What an attempt to block traffic leaves: at most the two rules are new, and if they
are paired both are there. -/
structure Blocked (w t : World) : Prop where
  netw : t.netw = w.netw
  tunnelUp : t.tunnelUp = w.tunnelUp
  grown : ∀ n ∈ w.names, n ∈ t.names
  new : ∀ n ∈ t.names, n ∈ w.names ∨ n = "drop-fw" ∨ n = "drop"
  both : Paired w → "drop-fw" ∈ t.names ∧ "drop" ∈ t.names

theorem blockTraffic_working (hr : r.Succeeds) (w : World) :
    wp blockTraffic r any (fun x t => Blocked w t ∧
      (x = .ok () ∨ x = .error (.sentinel .ruleAlreadyExists))) w := by
  refine wp_yields (devices_working hr w) fun ifaces t ht => ?_
  obtain ⟨hnetw, hnames, hup⟩ : t.netw = w.netw ∧ t.names = w.names ∧ t.tunnelUp = w.tunnelUp :=
    ⟨ht.netw, ht.names, ht.tunnelUp⟩
  refine wp_seq (fwAdd_one_working hr (by simp [dropFwRule]) t) ?_ ?_
  · rintro _ _ ⟨⟨fw, rfl⟩, hfw, -⟩
    refine wp_post (fwAdd_one_working hr (by simp [dropRule]) _) ?_
    rintro x _ ⟨⟨fw', rfl⟩, hfw', hx⟩
    have hiff (n : String) : n ∈ ((t.withFw fw).withFw fw').names ↔
        n ∈ w.names ∨ n = "drop-fw" ∨ n = "drop" := by
      rw [hfw', hfw, hnames, or_assoc]
      rfl
    exact ⟨⟨hnetw, hup, fun n hn => (hiff n).mpr (.inl hn), fun n => (hiff n).mp,
      fun _ => ⟨(hiff _).mpr (.inr (.inl rfl)), (hiff _).mpr (.inr (.inr rfl))⟩⟩,
      hx.imp_right And.left⟩
  · -- `drop` is not even tried
    rintro e _ ⟨⟨fw, rfl⟩, hfw, hx⟩
    obtain ⟨he, hmem⟩ := hx.resolve_left fun h => by cases h
    have hdrop : "drop-fw" ∈ w.names := hnames ▸ hmem
    have hiff (n : String) : n ∈ (t.withFw fw).names ↔ n ∈ w.names := by
      rw [hfw, hnames]
      exact or_iff_left_of_imp fun hn => hn ▸ hdrop
    exact ⟨⟨hnetw, hup, fun n => (hiff n).mpr, fun n hn => .inl ((hiff n).mp hn),
      fun hpaired => ⟨(hiff _).mpr hdrop, (hiff _).mpr (hpaired hdrop)⟩⟩, .inr he⟩

/-- What `setNetwork` leaves with working dependencies. It fails only on a rule that is
there already, and then has set no field. -/
structure NetworkSet (a : Allowlist) (w : World) (x : Except Error Unit) (t : World) : Prop where
  link : t.link = w.link
  names : Paired w → ∀ n ∈ killSwitchNames, n ∈ t.names
  outcome : (x = .ok () ∧ ∃ c, Listed a w.netw c ∧ t.netw = { c with isNetworkSet := true }) ∨
    (x = .error (.sentinel .ruleAlreadyExists) ∧ t.netw = w.netw ∧ ∃ n ∈ fixedNames, n ∈ w.names)

variable {w : World}

/-- The rest of `setNetwork` once traffic is blocked and the API is allowed. -/
theorem allowNetwork_working (hr : r.Succeeds) {a : Allowlist} (ha : a.Parses) {t : World}
    (hw : Tracks w) (hnetw : t.netw = w.netw) (hup : t.tunnelUp = w.tunnelUp)
    (hgrown : ∀ n ∈ w.names, n ∈ t.names) (hnew : ∀ n ∈ t.names, n ∈ w.names ∨ n ∈ killSwitchNames)
    (hks : Paired w → ∀ n ∈ killSwitchNames, n ∈ t.names) :
    wp (do
      setAllowlist a
      let c ← netw
      ignore (call (.exitNodeResetFirewall c.lanDiscovery true))
      setNetw fun c => { c with isNetworkSet := true }) r any (NetworkSet a w) t := by
  have hlink : t.link = w.link := by rw [World.link, World.link, hnetw, hup]
  have ht : Tracks t := by
    unfold Tracks
    rw [hnetw]
    refine Tracked.congr hw fun n hn => ⟨fun h => (hnew n h).resolve_right fun hmem => ?_, hgrown n⟩
    exact hn.not_fixed (List.mem_append_left _ hmem)
  have hset := wp_both (setAllowlist_working hr ha ht) (setAllowlist_unmoved (r := r) a t)
  refine wp_seq hset ?_ ?_
  · rintro _ u ⟨hu, hunmoved⟩
    obtain ⟨-, hlisted⟩ := hu.resolve_right fun h => by cases h.1
    refine wp_netw_bind.mpr (wp_ignoreCall_bind.mpr (wp_setNetw.mpr ⟨trivial,
      hunmoved.link.trans hlink, fun hpaired n hn => (hunmoved.names n hn).mpr (hks hpaired n hn),
      .inl ⟨rfl, u.netw, ?_, rfl⟩⟩))
    rw [← hnetw]
    exact hlisted
  · rintro e u ⟨hu, hunmoved⟩
    obtain ⟨he, hunetw, n, hn, hmem⟩ := hu.resolve_left fun h => by cases h.1
    refine ⟨hunmoved.link.trans hlink, fun hpaired n hn =>
      (hunmoved.names n hn).mpr (hks hpaired n hn),
      .inr ⟨he, hunetw.trans hnetw, n, List.mem_append_right _ hn, (hnew n hmem).resolve_right ?_⟩⟩
    exact (by decide : ∀ n ∈ allowlistRuleNames, n ∉ killSwitchNames) n hn

theorem setNetwork_working (hr : r.Succeeds) {a : Allowlist} (ha : a.Parses) (hw : Tracks w) :
    wp (setNetwork a) r any (fun x t => Tracks t ∧ NetworkSet a w x t) w := by
  suffices h : wp (setNetwork a) r any (NetworkSet a w) w from
    wp_both (tracks_setNetwork a w hw) h
  refine wp_next (P := Blocked w) (wp_tolerate.mpr (wp_post (blockTraffic_working hr w) ?_))
    fun t ht => ?_
  · rintro x t ⟨ht, rfl | rfl⟩
    · exact ⟨rfl, ht⟩
    · exact ⟨rfl, ht⟩
  refine wp_yields (devices_working hr t) fun ifaces u hu => ?_
  obtain ⟨hnetw, hnames, hup⟩ : u.netw = t.netw ∧ u.names = t.names ∧ u.tunnelUp = t.tunnelUp :=
    ⟨hu.netw, hu.names, hu.tunnelUp⟩
  -- whether or not the rule for the API is new, the three names are there
  have hks (fw : Firewall)
      (hadded : ∀ n, n ∈ (u.withFw fw).names ↔ n ∈ u.names ∨ n = "api_allowlist")
      (hpaired : Paired w) : ∀ n ∈ killSwitchNames, n ∈ (u.withFw fw).names := by
    obtain ⟨hdropFw, hdrop⟩ := ht.both hpaired
    intro n hn
    rw [hadded, hnames]
    simp only [killSwitchNames, List.mem_cons, List.not_mem_nil, or_false] at hn
    rcases hn with rfl | rfl | rfl
    · exact .inl hdropFw
    · exact .inl hdrop
    · exact .inr rfl
  refine wp_netw_bind.mpr (wp_seq (fwAdd_one_working hr (by simp [apiAllowlistRule]) u) ?_ ?_)
  · rintro _ _ ⟨⟨fw, rfl⟩, hadded, -⟩
    refine allowNetwork_working hr ha hw (hnetw.trans ht.netw) (hup.trans ht.tunnelUp)
      (fun n hn => (hadded n).mpr (.inl (hnames ▸ ht.grown n hn))) (fun n hn => ?_) (hks fw hadded)
    rcases (hadded n).mp hn with hn | rfl
    · refine (ht.new n (hnames ▸ hn)).imp_right ?_
      rintro (rfl | rfl) <;> decide
    · exact .inr (by simp [apiAllowlistRule, killSwitchNames])
  · rintro e _ ⟨⟨fw, rfl⟩, hadded, hx⟩
    obtain ⟨he, hmem⟩ := hx.resolve_left fun h => by cases h
    have hapi : "api_allowlist" ∈ w.names :=
      (ht.new _ (hnames ▸ hmem)).resolve_right (by decide)
    refine ⟨?_, hks fw hadded, .inr ⟨he, hnetw.trans ht.netw, _, by decide, hapi⟩⟩
    rw [World.link, World.link, World.withFw_netw, World.withFw_tunnelUp, hnetw, ht.netw, hup,
      ht.tunnelUp]

/-! ### Unsetting the network -/

/-- Without `api_allowlist` nothing is unset. -/
theorem unsetNetwork_absent (h : "api_allowlist" ∉ w.names) :
    wp unsetNetwork r any (fun x t =>
      x = .error (.wrap "getting api_allowlist" (.sentinel .ruleNotFound)) ∧ t = w) w :=
  wp_bind.mpr (wp_fwDelete_absent h ⟨rfl, rfl⟩)

/-- What `unblockTraffic` leaves: `drop` goes only if `drop-fw` was there. -/
theorem unblockTraffic_working (hr : r.Succeeds) (w : World) :
    wp (tolerate (isErr .ruleNotFound) unblockTraffic) r any (fun x t => x = .ok () ∧
      (∃ fw, t = w.withFw fw) ∧ ∀ n, n ∈ t.names ↔
        n ∈ w.names ∧ n ≠ "drop-fw" ∧ (n = "drop" → "drop-fw" ∉ w.names)) w := by
  refine wp_tolerate.mpr ?_
  by_cases hfw : "drop-fw" ∈ w.names
  · refine wp_bind.mpr (wp_fwDelete_one hfw (fun _ _ rule n _ hn _ => ?_) fun t ht => ?_)
    · exact absurd hn (by simp [hr.agent])
    rw [onOk_ok]
    by_cases hdrop : "drop" ∈ (w.withFw t).names
    · refine wp_fwDelete_one hdrop (fun _ _ rule n _ hn _ => ?_) fun u hu =>
        ⟨rfl, ⟨u, rfl⟩, fun n => ?_⟩
      · exact absurd hn (by simp [hr.agent])
      · rw [World.withFw_names, hu, World.withFw_names, ht]
        simp [hfw, and_assoc]
    · refine wp_fwDelete_absent hdrop ⟨rfl, ⟨t, rfl⟩, fun n => ?_⟩
      rw [World.withFw_names, ht]
      refine and_congr_right fun hn => (and_iff_left_of_imp ?_).symm
      rintro hne rfl
      exact absurd ((ht _).mpr ⟨hn, hne⟩) hdrop
  · refine wp_bind.mpr (wp_fwDelete_absent hfw ⟨rfl, ⟨w.fw, rfl⟩, fun n => ?_⟩)
    refine (and_iff_left_of_imp fun hn => ⟨?_, fun _ => hfw⟩).symm
    rintro rfl
    exact hfw hn

/-- The names that `unsetNetwork` takes out of the memory of `w`. -/
def Removed (w : World) (n : String) : Prop :=
  n = "api_allowlist" ∨ n = "drop-fw" ∨ (n = "drop" ∧ "drop-fw" ∈ w.names) ∨
    n ∈ allowlistRuleNames ∨
    (n = denyDNSName ∧ w.netw.allowlist.allowsDNS = false ∧ denyDNSName ∈ w.netw.rules)

/-- Of the rules of a network only `drop` may be left, and only without `drop-fw`. -/
theorem removed_of_fixed (hpair : "drop" ∈ w.names → "drop-fw" ∈ w.names) {n : String}
    (hn : n ∈ fixedNames) (hmem : n ∈ w.names) : Removed w n := by
  rcases List.mem_append.mp hn with hn | hn
  · simp only [killSwitchNames, List.mem_cons, List.not_mem_nil, or_false] at hn
    rcases hn with rfl | rfl | rfl
    · exact .inr (.inl rfl)
    · exact .inr (.inr (.inl ⟨rfl, hpair hmem⟩))
    · exact .inl rfl
  · exact .inr (.inr (.inr (.inl hn)))

/-- What `unsetNetwork` leaves when it goes through. -/
structure NetworkUnset (w t : World) : Prop where
  netw : t.netw = { w.netw with rules := w.netw.rulesWithoutDeny, isNetworkSet := false }
  tunnelUp : t.tunnelUp = w.tunnelUp
  names : ∀ n, n ∈ t.names ↔ n ∈ w.names ∧ ¬ Removed w n

theorem unsetNetwork_working (hr : r.Succeeds) (hapi : "api_allowlist" ∈ w.names)
    (hdeny : w.netw.allowlist.allowsDNS = false → denyDNSName ∈ w.netw.rules →
      denyDNSName ∈ w.names) :
    wp unsetNetwork r any (fun x t => x = .ok () ∧ NetworkUnset w t) w := by
  refine wp_bind.mpr (wp_fwDelete_one hapi (fun _ _ _ n _ hn _ => ?_) fun fw hfw => ?_)
  · exact absurd hn (by simp [hr.agent])
  rw [onOk_ok]
  refine wp_next (unblockTraffic_working hr _) ?_
  rintro _ ⟨⟨fw', rfl⟩, hfw'⟩
  have hnames (n : String) : n ∈ fw'.rules.names ↔ (n ∈ w.names ∧ n ≠ "api_allowlist") ∧
      n ≠ "drop-fw" ∧ (n = "drop" → "drop-fw" ∉ w.names) := by
    have h := hfw' n
    simp only [World.withFw_names, hfw] at h
    simpa using h
  have hunset := wp_both (unsetAllowlist_spec hr.unsetsAllowlist
    (w := (w.withFw fw).withFw fw') fun hdns hmem => (hnames _).mpr
      ⟨⟨hdeny hdns hmem, by decide⟩, by decide, fun h => absurd h (by decide)⟩)
    (unsetAllowlist_unmoved (r := r) ((w.withFw fw).withFw fw'))
  refine wp_seq hunset ?_ fun _ _ ht => nomatch ht.1.1
  rintro _ u ⟨⟨-, hnetw, hunames⟩, hunmoved⟩
  refine wp_ignoreCall_bind.mpr (wp_setNetw.mpr ⟨trivial, rfl, ?_,
    congrArg Link.tunnelUp hunmoved.link, fun n => (hunames n).trans ?_⟩)
  · rw [World.withNetw_netw, World.after_netw, hnetw]
    rfl
  · rw [World.withFw_names, hnames, Removed]
    simp only [World.withFw_netw, not_or, not_and, and_assoc]
    refine and_congr_right fun _ => and_congr_right fun _ => and_congr_right fun _ =>
      and_congr_right fun _ => and_congr_right fun _ => forall_congr' fun _ => ?_
    cases w.netw.allowlist.allowsDNS <;> simp

/-- From a state whose tracked rules are in memory, only a missing `api_allowlist` is in
the way. -/
theorem unsetNetwork_tracked (hr : r.Succeeds) (hw : Tracks w) :
    wp unsetNetwork r any (fun x t => Tracks t ∧
      (x = .ok () ∧ NetworkUnset w t ∨ x ≠ .ok () ∧ t = w ∧ "api_allowlist" ∉ w.names)) w := by
  by_cases hapi : "api_allowlist" ∈ w.names
  · exact wp_post (wp_both (unsetNetwork_working hr hapi fun _ hmem =>
      (hw.agree _ .denyDNS).mp hmem) (tracks_unsetNetwork w hw))
      fun _ _ h => ⟨h.2, .inl h.1⟩
  · refine wp_post (unsetNetwork_absent hapi) ?_
    rintro x t ⟨rfl, rfl⟩
    exact ⟨hw, .inr ⟨nofun, rfl, hapi⟩⟩

/-! ### Network changes -/

/-- With working dependencies a network change is handled without new tunnels. -/
theorem handleNetworkChanged_working (hr : r.Succeeds) (hw : Tracks w)
    (ha : w.netw.allowlist.Parses) :
    wp handleNetworkChanged r any (fun x _ => x = .ok ()) w := by
  refine wp_netw_bind.mpr ((Passes.call hr.calls _ rfl).when.next fun t ht => ?_)
  refine wp_when.mpr ⟨fun _ => (Passes.call hr.calls _ rfl).when.next fun u hu => ?_, fun _ => rfl⟩
  refine (Passes.fixForLinuxMint20 hr.calls).next fun v hv => ?_
  have hsame := (ht.trans hu).trans hv
  refine wp_post (resetAllowlist_working hr (hsame.tracks hw) ?_) fun _ _ h => h.1
  rw [hsame.netw]
  exact ha

/-- `refreshVPN` when no new interface has a default route. -/
theorem refreshVPN_handled (hr : r.Succeeds) (hw : Tracks w) (ha : w.netw.allowlist.Parses)
    (hifaces : ∀ n, ∀ d ∈ r.defaultRoutes n, d ∈ w.netw.interfaces) {Q : World → Prop}
    (hsame : Q w) (hchanged : ∀ t, Same w t → wp handleNetworkChanged r any (fun _ u => Q u) t) :
    wp refreshVPN r any (fun _ t => Q t) w := by
  refine wp_netw_bind.mpr (wp_ite.mpr ⟨fun _ => wp_pure.mpr hsame, fun _ => ?_⟩)
  refine wp_bind.mpr (wp_ask.mpr ⟨trivial, ?_⟩)
  have hafter : Same w (w.after r (.interfacesWithDefaultRoute w.netw.tunName) false) :=
    ⟨rfl, rfl, rfl⟩
  rw [onOk_ok, if_pos (by simpa using hifaces w.log.length)]
  refine wp_returns (a := none) (P := Q) (wp_failure.mpr (wp_post (wp_both
    (handleNetworkChanged_working hr (hafter.tracks hw) (hafter.netw ▸ ha))
      (hchanged _ hafter)) ?_)) ?_
  · rintro x t ⟨rfl, ht⟩
    exact ⟨rfl, ht⟩
  · exact fun t ht => wp_pure.mpr ht

end

end NordVPN.Networker
