import NordVPN.Networker.Network

/-!
Taking a network down again after a failure.

`unsetNetwork` is a chain of deletes that starts with `api_allowlist`, the one rule whose
absence is an error. If the agent fails on that first delete, nothing has changed and a
second attempt goes as the first would have gone. If it fails on any other, `api_allowlist`
is gone, and no later attempt gets past it.
-/

namespace NordVPN.Networker

open NordVPN.Netip Prog

/-- The only calls that fail are those that delete the rule `name`. -/
structure Env.FailsDelete (r : Env) (name : String) : Prop where
  calls : ∀ n c, r.fails n c = false
  agent : ∀ n op rule, r.agent.fails n op rule = true ↔ op = .delete ∧ rule.name = name

/-- Unsetting the network of `w` has the agent delete the rule `name`, unless an earlier
delete fails. -/
def World.Deletes (w : World) (name : String) : Prop :=
  w.fw.current = .working ∧ "api_allowlist" ∈ w.names ∧ name ∈ w.names ∧ Removed w name

/-- The calls that unset the network, and when. -/
def Op.tearsDown : Op → Combined → Bool
  | .stop, c => c.isVpnSet && c.vpnet.isSome && !c.isKillSwitchSet
  | .unsetKillSwitch, c => !c.isVpnSet
  | .unsetFirewall, c => !c.isKillSwitchSet
  | _, _ => false

/-! ### What a successful call has removed -/

/-- `t` has the fields of `w` and at most its rules. -/
structure Fewer (w t : World) : Prop where
  netw : t.netw = w.netw
  names : ∀ n ∈ t.names, n ∈ w.names

theorem Fewer.refl (w : World) : Fewer w w := ⟨rfl, fun _ h => h⟩

theorem Fewer.trans {w t u : World} (h : Fewer w t) (h' : Fewer t u) : Fewer w u :=
  ⟨h'.netw.trans h.netw, fun n hn => h.names n (h'.names n hn)⟩

section

variable {r : Env}

theorem fewer_fwDelete (names : List String) (w : World) :
    wp (fwDelete names) r any (fun x t => Fewer w t ∧
      (∀ n ∈ w.names, n ∉ names → n ∈ t.names) ∧ (x = .ok () → ∀ n ∈ names, n ∉ t.names)) w := by
  refine wp_firewall.mpr (wp_post (Firewall.delete_names r.agent w.fw names) ?_)
  rintro x t ⟨hsub, hkeep, hall⟩
  exact ⟨⟨rfl, hsub⟩, hkeep, hall⟩

/-- `ErrRuleNotFound` says that the rule is gone, too. -/
theorem fewer_tolerate (name : String) (w : World) :
    wp (tolerate (isErr .ruleNotFound) (fwDelete [name])) r any (fun x t =>
      Fewer w t ∧ (x = .ok () → name ∉ t.names)) w := by
  refine wp_tolerate.mpr ?_
  by_cases hmem : name ∈ w.names
  · refine wp_fwDelete_one hmem (fun t text rule n _ _ ht => ⟨⟨rfl, fun n hn => ?_⟩, nofun⟩)
      fun t ht => ⟨⟨rfl, fun n hn => ((ht n).mp hn).1⟩, fun _ hn => ((ht _).mp hn).2 rfl⟩
    rw [World.withFw_names, ht] at hn
    exact hn
  · exact wp_fwDelete_absent hmem ⟨.refl w, fun _ => hmem⟩

theorem fewer_unblockTraffic (w : World) :
    wp (tolerate (isErr .ruleNotFound) unblockTraffic) r any (fun x t => Fewer w t ∧
      (x = .ok () → "drop-fw" ∉ t.names ∧ ("drop-fw" ∈ w.names → "drop" ∉ t.names))) w := by
  refine wp_tolerate.mpr (wp_bind.mpr ?_)
  by_cases hfw : "drop-fw" ∈ w.names
  · refine wp_fwDelete_one hfw (fun t text rule n _ _ ht => ⟨⟨rfl, fun n hn => ?_⟩, nofun⟩)
      fun t ht => ?_
    · rw [World.withFw_names, ht] at hn
      exact hn
    · have hgone : Fewer w (w.withFw t) := ⟨rfl, fun n hn => ((ht n).mp hn).1⟩
      rw [onOk_ok]
      refine wp_post (wp_tolerate.mp (fewer_tolerate "drop" (w.withFw t))) ?_
      rintro x u ⟨hu, hdrop⟩
      refine ⟨hgone.trans hu, fun hx => ⟨fun hn => ?_, fun _ => hdrop hx⟩⟩
      exact ((ht _).mp (hu.names _ hn)).2 rfl
  · exact wp_fwDelete_absent hfw ⟨.refl w, fun _ => ⟨hfw, fun h => absurd h hfw⟩⟩

theorem fewer_allowlist (names : List String) (w : World) :
    wp (forEach (fun rule => context "disabling allowlist firewall rules"
      (tolerate (isErr .ruleNotFound) (fwDelete [rule]))) names) r any (fun x t =>
        Fewer w t ∧ (x = .ok () → ∀ n ∈ names, n ∉ t.names)) w := by
  induction names generalizing w with
  | nil => exact wp_forEach_nil.mpr ⟨.refl w, fun _ _ h => absurd h List.not_mem_nil⟩
  | cons name names ih =>
    refine wp_seq (P := fun x t => Fewer w t ∧ (x = .ok () → name ∉ t.names)) (wp_mapError.mpr
      (wp_post (fewer_tolerate name w) fun x t ht => ⟨ht.1, fun hx => ht.2 ?_⟩)) (fun _ t ht => ?_)
      fun _ _ ht => ⟨ht.1, nofun⟩
    · cases x with
      | ok _ => rfl
      | error e => cases hx
    · refine wp_post (ih t) ?_
      rintro x u ⟨hu, hall⟩
      refine ⟨ht.1.trans hu, fun hx n hn => ?_⟩
      rcases List.mem_cons.mp hn with rfl | hn
      · exact fun hmem => ht.2 rfl (hu.names _ hmem)
      · exact hall hx n hn

theorem fewer_call (w : World) (c : Call) : Keeps r any (Fewer w) (call c) :=
  fun _ ht => wp_call.mpr ⟨trivial, ht.netw, ht.names⟩

/-- What a successful `unsetAllowlist` has removed, whatever may fail. -/
theorem unsetAllowlist_removes (w : World) :
    wp unsetAllowlist r any (fun x t => (∃ rules, t.netw = { w.netw with rules }) ∧
      (∀ n ∈ t.names, n ∈ w.names) ∧ (x = .ok () → (∀ n ∈ allowlistRuleNames, n ∉ t.names) ∧
        (w.netw.allowlist.allowsDNS = false → denyDNSName ∈ w.netw.rules →
          denyDNSName ∈ w.names ∧ denyDNSName ∉ t.names))) w := by
  refine wp_seq ((fewer_call w _).ignore w (.refl w)) (fun _ t ht => ?_) fun _ t ht =>
    ⟨⟨w.netw.rules, ht.netw⟩, ht.names, nofun⟩
  refine wp_seq (fewer_allowlist allowlistRuleNames t) (fun _ u hu => ?_) fun _ u hu =>
    ⟨⟨w.netw.rules, (ht.trans hu.1).netw⟩, (ht.trans hu.1).names, nofun⟩
  refine wp_seq ((fewer_call u _).mapError u (.refl u)) (fun _ v hv => ?_) fun _ v hv =>
    ⟨⟨w.netw.rules, ((ht.trans hu.1).trans hv).netw⟩, ((ht.trans hu.1).trans hv).names, nofun⟩
  have hfewer := (ht.trans hu.1).trans hv
  have hlist (z : World) (hz : ∀ n ∈ z.names, n ∈ v.names) :
      ∀ n ∈ allowlistRuleNames, n ∉ z.names :=
    fun n hn hmem => hu.2 rfl n hn (hv.names n (hz n hmem))
  refine wp_netw_bind.mpr ?_
  rw [hfewer.netw]
  refine wp_when.mpr ⟨fun _ => wp_mapError.mpr (wp_netw_bind.mpr (wp_when.mpr
    ⟨fun _ => ?_, fun hno => ?_⟩)), fun hdns => ?_⟩
  · by_cases hmem : denyDNSName ∈ v.names
    · refine wp_bind.mpr (wp_post (fewer_fwDelete [denyDNSName] v) ?_)
      rintro x z ⟨hz, -, hgone⟩
      cases x with
      | error e =>
        exact ⟨⟨w.netw.rules, (hfewer.trans hz).netw⟩, (hfewer.trans hz).names, nofun⟩
      | ok _ =>
        rw [onOk_ok, wp_setNetw]
        refine ⟨trivial, ⟨_, congrArg (fun c : Combined =>
          { c with rules := c.rules.erase denyDNSName }) (hfewer.trans hz).netw⟩,
          (hfewer.trans hz).names, fun _ => ⟨hlist z hz.names, fun _ _ => ?_⟩⟩
        exact ⟨hfewer.names _ hmem, hgone rfl _ List.mem_cons_self⟩
    · exact wp_bind.mpr (wp_fwDelete_absent hmem ⟨⟨w.netw.rules, hfewer.netw⟩, hfewer.names, nofun⟩)
  · rw [hfewer.netw] at hno
    refine ⟨⟨w.netw.rules, hfewer.netw⟩, hfewer.names, fun _ =>
      ⟨hlist v fun _ h => h, fun _ hmem => ?_⟩⟩
    simp [hmem] at hno
  · refine ⟨⟨w.netw.rules, hfewer.netw⟩, hfewer.names, fun _ =>
      ⟨hlist v fun _ h => h, fun hoff => ?_⟩⟩
    simp [hoff] at hdns

/-- What a successful `unsetNetwork` has removed, and what a failed one has changed,
whatever may fail. -/
theorem unsetNetwork_removes (w : World) :
    wp unsetNetwork r any (fun x t =>
      (x = .ok () → (∀ n, Removed w n → n ∉ t.names) ∧ (w.netw.allowlist.allowsDNS = false →
        denyDNSName ∈ w.netw.rules → denyDNSName ∈ w.names)) ∧
      (x ≠ .ok () → ∃ rules, t.netw = { w.netw with rules })) w := by
  refine wp_seq (fewer_fwDelete ["api_allowlist"] w) (fun _ t ht => ?_) fun _ t ht =>
    ⟨nofun, fun _ => ⟨w.netw.rules, ht.1.netw⟩⟩
  refine wp_seq (fewer_unblockTraffic t) (fun _ u hu => ?_) fun _ u hu =>
    ⟨nofun, fun _ => ⟨w.netw.rules, (ht.1.trans hu.1).netw⟩⟩
  have hnetw := (ht.1.trans hu.1).netw
  refine wp_seq (unsetAllowlist_removes u) (fun _ v hv => ?_) fun _ v hv =>
    ⟨nofun, fun _ => hnetw ▸ hv.1⟩
  obtain ⟨-, hsub, hgone⟩ := hv
  rw [hnetw] at hgone
  refine wp_ignoreCall_bind.mpr (wp_setNetw.mpr ⟨trivial, fun _ => ⟨fun n hn => ?_, ?_⟩,
    fun h => absurd rfl h⟩)
  · change n ∉ v.names
    rcases hn with rfl | rfl | ⟨rfl, hfw⟩ | hn | ⟨rfl, hdns, hmem⟩
    · exact fun h => ht.2.2 rfl _ List.mem_cons_self (hu.1.names _ (hsub _ h))
    · exact fun h => (hu.2 rfl).1 (hsub _ h)
    · exact fun h => (hu.2 rfl).2 (ht.2.1 _ hfw (by decide)) (hsub _ h)
    · exact (hgone rfl).1 n hn
    · exact ((hgone rfl).2 hdns hmem).2
  · exact fun hdns hmem => (ht.1.trans hu.1).names _ ((hgone rfl).2 hdns hmem).1

end

/-! ### A run with one failing delete -/

/-- The rule is in memory, and the working agent is asked to delete it. -/
def Held (name : String) (w : World) : Prop := name ∈ w.names ∧ w.fw.current = .working

section

variable {r : Env} {name : String}

theorem held_core : CoreInvariant any (Held name) :=
  ⟨fun _ _ => trivial, fun {w t} h hw => by
    have hfw : t.fw = w.fw := congrArg Core.fw h
    unfold Held World.names
    rw [hfw]
    exact hw⟩

/-- A rule that the agent does not delete stays. -/
theorem held_fwDelete (hr : r.FailsDelete name) (names : List String) :
    Keeps r any (Held name) (fwDelete names) := fun w hw =>
  wp_firewall.mpr (Firewall.keeps_refused (fun _ _ h => (hr.agent _ _ _).mpr ⟨rfl, h⟩) w.fw hw)

theorem held_unsetNetwork (hr : r.FailsDelete name) : Keeps r any (Held name) unsetNetwork := by
  have hquiet : QuietInvariant any (Held name) := held_core.toQuiet
  have hundeny : Keeps r any (Held name) undenyDNS :=
    keeps_netw.seq <| Keeps.when fun _ => (held_fwDelete hr _).seq <|
      keeps_setNetw hquiet fun _ hw => hw
  exact keeps_unsetNetwork hquiet (fun _ _ => held_fwDelete hr _)
    (keeps_unsetAllowlist hquiet (fun _ _ => held_fwDelete hr _) hundeny) fun _ hw => hw

/-- If the first delete fails, nothing changes. -/
theorem unsetNetwork_refused (hr : r.FailsDelete "api_allowlist") {w : World}
    (hw : Held "api_allowlist" w) :
    wp unsetNetwork r any (fun _ t => t.netw = w.netw ∧
      ∀ n, n ∈ t.names ↔ n ∈ w.names) w := by
  have hdelete : wp (fwDelete ["api_allowlist"]) r any (fun x t =>
      "api_allowlist" ∉ t.names ∨ x ≠ .ok () ∧ t.netw = w.netw ∧ ∀ n, n ∈ t.names ↔ n ∈ w.names)
      w := by
    refine wp_fwDelete_one hw.1 (fun t _ _ _ _ _ ht => .inr ⟨nofun, rfl, fun n => ?_⟩)
      fun t ht => .inl fun h => ((ht _).mp h).2 rfl
    rw [World.withFw_names, ht, World.names]
  refine wp_seq (wp_both hdelete (held_fwDelete hr _ w hw)) (fun _ t ht => ?_) fun _ t ht => ?_
  · exact absurd rfl (ht.1.resolve_left (not_not.mpr ht.2.1)).1
  · exact (ht.1.resolve_left (not_not.mpr ht.2.1)).2

/-- If a later delete fails, `api_allowlist` is gone. -/
theorem unsetNetwork_past_api (hr : r.FailsDelete name) (hne : name ≠ "api_allowlist") {w : World}
    (hapi : "api_allowlist" ∈ w.names) :
    wp unsetNetwork r any (fun _ t => "api_allowlist" ∉ t.names) w := by
  have hquiet : QuietInvariant any fun w => "api_allowlist" ∉ w.names :=
    ⟨fun _ _ => trivial, fun {w t} hcore _ hw => by
      rw [World.names, show t.fw = w.fw from congrArg Core.fw hcore]
      exact hw⟩
  have hdelete (names : List String) :
      Keeps r any (fun w => "api_allowlist" ∉ w.names) (fwDelete names) :=
    fun w hw => wp_post (fewer_fwDelete names w) fun _ _ ht hmem => hw (ht.1.names _ hmem)
  have hunset : Keeps r any (fun w => "api_allowlist" ∉ w.names) unsetAllowlist :=
    keeps_unsetAllowlist hquiet (fun _ _ => hdelete _) (keeps_netw.seq <| Keeps.when fun _ =>
      (hdelete _).seq <| keeps_setNetw hquiet fun _ hw => hw)
  refine wp_keeps (wp_fwDelete_one hapi
    (fun _ _ rule n hrule hfails _ => ?_) fun t ht h => ((ht _).mp h).2 rfl)
    fun _ => ((hdelete _).seq <| hdelete _).tolerate.seq <| hunset.seq <|
      (keeps_call hquiet _ rfl).ignore.seq <| keeps_setNetw hquiet fun _ hw => hw
  exact absurd (((hr.agent _ _ _).mp hfails).2.symm.trans hrule) hne

/-- A run of `unsetNetwork` in which the delete of `name` fails does not succeed, and
leaves all fields but the tracked rules. -/
theorem unsetNetwork_failing (hr : r.FailsDelete name) {w : World} (hname : w.Deletes name) :
    wp unsetNetwork r any (fun x t => x ≠ .ok () ∧
      ∃ rules, t.netw = { w.netw with rules }) w := by
  obtain ⟨hworking, -, hmem, hremoved⟩ := hname
  refine wp_post (wp_both (unsetNetwork_removes w) (held_unsetNetwork hr w ⟨hmem, hworking⟩)) ?_
  rintro x t ⟨⟨hok, hrules⟩, hheld⟩
  have hx : x ≠ .ok () := fun hx => (hok hx).1 name hremoved hheld.1
  exact ⟨hx, hrules hx⟩

end

/-! ### The public methods -/

/-- What the rest of a method makes of the outcome of `unsetNetwork`. -/
structure TornDown (x : Except Error Unit) (u : World) (y : Except Error Unit) (z : World) :
    Prop where
  fw : z.fw = u.fw
  done : x = .ok () → y = .ok () ∧ z.netw.isNetworkSet = u.netw.isNetworkSet
  failed : x ≠ .ok () → ∃ interfaces, z.netw = { u.netw with interfaces }

/-- A method that unsets the network changes no field and no rule before. -/
theorem wp_tearDown {r : Env} (op : Op) (hr : ∀ n c, r.fails n c = false) {w : World}
    (hop : op.tearsDown w.netw = true) {Q : Except Error Unit → World → Prop}
    (h : ∀ t : World, t.netw = w.netw → t.fw = w.fw →
      wp unsetNetwork r any (fun x u => ∀ y z, TornDown x u y z → Q y z) t) :
    wp op.exec r any Q w := by
  cases op with
  | stop =>
    simp only [Op.tearsDown, Bool.and_eq_true] at hop
    obtain ⟨⟨hvpn, hvpnet⟩, hks⟩ := hop
    refine wp_netw_bind.mpr (wp_when.mpr ⟨fun _ => ?_, fun hoff =>
      absurd (hvpn.symm.trans hoff) (by decide)⟩)
    refine wp_seq (P := fun x u => (x = .ok () → Q (.ok ()) (u.withNetw fun c =>
      { c with interfaces := [] })) ∧ (x ≠ .ok () → Q x u)) (wp_tolerate.mpr ?_)
      (fun _ u hu => wp_setNetw.mpr ⟨trivial, hu.1 rfl⟩) fun _ u hu => hu.2 nofun
    refine wp_netw_bind.mpr ?_
    rw [if_neg (by simpa [Option.isSome_iff_ne_none] using hvpnet)]
    refine (Passes.call hr _ rfl).ignore.next fun t₁ h₁ => (Passes.unsetDNS hr).next fun t₂ h₂ =>
      (Passes.call hr _ rfl).ignore.when.next fun t₃ h₃ =>
        (Passes.call hr _ rfl).context.when.next fun t₄ h₄ =>
          (Passes.call hr _ rfl).ignore.next fun t₅ h₅ => ?_
    have hsame := (((h₁.trans h₂).trans h₃).trans h₄).trans h₅
    refine wp_bind.mpr (wp_call.mpr ⟨trivial, ?_⟩)
    rw [hr, if_neg (by decide), onOk_ok]
    refine wp_bind.mpr (wp_when.mpr ⟨fun _ => wp_mapError.mpr (wp_post (h _ hsame.netw hsame.fw)
      fun x u hu => ?_), fun hoff => absurd (hks.symm.trans hoff) (by decide)⟩)
    cases x with
    | ok _ =>
      rw [mapError_ok, onOk_ok, wp_setNetw]
      refine ⟨trivial, fun _ => hu _ _ ⟨rfl, fun _ => ⟨rfl, ?_⟩, fun h => absurd rfl h⟩,
        fun h => absurd rfl h⟩
      exact congrArg Core.isNetworkSet (core_switchToNextVpn u)
    | error e =>
      exact ⟨fun _ => hu _ _ ⟨rfl, nofun, fun _ => ⟨[], rfl⟩⟩,
        fun _ => hu _ _ ⟨rfl, nofun, fun _ => ⟨_, rfl⟩⟩⟩
  | unsetKillSwitch =>
    refine wp_netw_bind.mpr (wp_bind.mpr (wp_when.mpr ⟨fun _ => wp_post (h w rfl rfl)
      fun x u hu => ?_, fun hoff => absurd (hop.symm.trans hoff) (by decide)⟩))
    cases x with
    | ok _ =>
        exact wp_setNetw.mpr ⟨trivial, hu _ _ ⟨rfl, fun _ => ⟨rfl, rfl⟩, fun h => absurd rfl h⟩⟩
    | error e => exact hu _ _ ⟨rfl, nofun, fun _ => ⟨_, rfl⟩⟩
  | unsetFirewall =>
    refine wp_netw_bind.mpr (wp_when.mpr ⟨fun _ => wp_post (h w rfl rfl)
      fun x u hu => ?_, fun hoff => absurd (hop.symm.trans hoff) (by decide)⟩)
    exact hu x u ⟨rfl, fun hx => ⟨hx, rfl⟩, fun _ => ⟨_, rfl⟩⟩
  | _ => exact absurd hop (by simp [Op.tearsDown])

/-- The network is down: what the second attempt is to bring about. -/
def TeardownDone (y : Except Error Unit) (z : World) : Prop :=
  y = .ok () ∧ z.netw.isNetworkSet = false ∧ ∀ n ∈ fixedNames, n ∉ z.names

section

variable {r : Env} {op : Op} {w : World}

/-- Without `api_allowlist` no attempt succeeds. -/
theorem teardown_absent (hr : r.Succeeds) (hop : op.tearsDown w.netw = true)
    (hset : w.netw.isNetworkSet = true) (hapi : "api_allowlist" ∉ w.names) :
    wp op.exec r any (fun y z => ¬ TeardownDone y z) w := by
  refine wp_tearDown _ hr.calls hop fun t hnetw hfw => ?_
  have hapi' : "api_allowlist" ∉ t.names := by
    rw [World.names, hfw]
    exact hapi
  refine wp_post (unsetNetwork_absent hapi') ?_
  rintro x u ⟨rfl, rfl⟩ y z htorn ⟨-, hoff, -⟩
  obtain ⟨interfaces, hz⟩ := htorn.failed fun h => by cases h
  rw [hz, hnetw, hset] at hoff
  cases hoff

/-- An attempt over a complete set of rules. -/
theorem teardown_present (hr : r.Succeeds) (hop : op.tearsDown w.netw = true)
    (hset : w.netw.isNetworkSet = true) (hapi : "api_allowlist" ∈ w.names) :
    wp op.exec r any (fun y z => TeardownDone y z ↔
      ("drop" ∈ w.names → "drop-fw" ∈ w.names) ∧ (w.netw.allowlist.allowsDNS = false →
        denyDNSName ∈ w.netw.rules → denyDNSName ∈ w.names)) w := by
  refine wp_tearDown _ hr.calls hop fun t hnetw hfw => ?_
  have hnames : t.names = w.names := by rw [World.names, World.names, hfw]
  by_cases hdeny : w.netw.allowlist.allowsDNS = false → denyDNSName ∈ w.netw.rules →
      denyDNSName ∈ w.names
  · refine wp_post (unsetNetwork_working hr (hnames ▸ hapi) ?_) ?_
    · rw [hnetw, hnames]
      exact hdeny
    rintro x u ⟨rfl, hunset⟩ y z htorn
    obtain ⟨hy, hoff⟩ := htorn.done rfl
    have hz (n : String) : n ∈ z.names ↔ n ∈ t.names ∧ ¬ Removed t n := by
      rw [World.names, htorn.fw]
      exact hunset.names n
    rw [← hnames]
    refine ⟨fun hdone => ⟨fun hdrop => ?_, hnames ▸ hdeny⟩, fun hpair =>
      ⟨hy, ?_, fun n hn hmem => ?_⟩⟩
    · -- `drop` is removed with `drop-fw` only
      by_contra hfw
      refine hdone.2.2 "drop" (by decide) ((hz _).mpr ⟨hdrop, ?_⟩)
      simp [Removed, hfw, allowlistRuleNames, denyDNSName]
    · rw [hoff, hunset.netw]
    · exact ((hz n).mp hmem).2 (removed_of_fixed hpair.1 hn ((hz n).mp hmem).1)
  · -- the missing rule stops every attempt
    refine wp_post (unsetNetwork_removes t) ?_
    rintro x u ⟨hok, hfailed⟩ y z htorn
    rw [hnetw, hnames] at hok
    have hx : x ≠ .ok () := fun hx => hdeny (hok hx).2
    refine iff_of_false (fun hdone => ?_) fun h => hdeny h.2
    obtain ⟨interfaces, hz⟩ := htorn.failed hx
    obtain ⟨rules, hu⟩ := hfailed hx
    have hoff := hdone.2.1
    rw [hz, hu, hnetw, hset] at hoff
    cases hoff

theorem Op.tearsDown_fields (op : Op) (c : Combined) (rules interfaces : List String) :
    op.tearsDown { c with rules, interfaces } = op.tearsDown c := by
  cases op <;> rfl

/-- The state after an attempt in which the delete of `name` failed. -/
theorem teardown_failing {name : String} (hr : r.FailsDelete name)
    (hop : op.tearsDown w.netw = true) (hname : w.Deletes name) :
    wp op.exec r any (fun _ z =>
      (∃ rules interfaces, z.netw = { w.netw with rules, interfaces }) ∧
      (name ≠ "api_allowlist" → "api_allowlist" ∉ z.names) ∧
      (name = "api_allowlist" → z.netw.rules = w.netw.rules ∧ ∀ n, n ∈ z.names ↔
        n ∈ w.names)) w := by
  refine wp_tearDown _ hr.calls hop fun t hnetw hfw => ?_
  have hnames : t.names = w.names := by rw [World.names, World.names, hfw]
  have hname' : t.Deletes name := by
    unfold World.Deletes Removed
    rw [hnames, hnetw, hfw]
    exact hname
  have hplace : wp unsetNetwork r any (fun _ u =>
      (name ≠ "api_allowlist" → "api_allowlist" ∉ u.names) ∧
      (name = "api_allowlist" → u.netw = t.netw ∧ ∀ n, n ∈ u.names ↔ n ∈ t.names)) t := by
    by_cases hapi : name = "api_allowlist"
    · subst hapi
      exact wp_post (unsetNetwork_refused hr ⟨hname'.2.1, hname'.1⟩) fun _ _ h =>
        ⟨fun hne => absurd rfl hne, fun _ => h⟩
    · exact wp_post (unsetNetwork_past_api hr hapi hname'.2.1) fun _ _ h =>
        ⟨fun _ => h, fun heq => absurd heq hapi⟩
  refine wp_post (wp_both (unsetNetwork_failing hr hname') hplace) ?_
  rintro x u ⟨⟨hx, rules, hu⟩, hpast, hrefused⟩ y z htorn
  obtain ⟨interfaces, hz⟩ := htorn.failed hx
  have hznames : z.names = u.names := by rw [World.names, World.names, htorn.fw]
  rw [hznames, ← hnames, ← hnetw]
  refine ⟨⟨rules, interfaces, by rw [hz, hu]⟩, hpast, fun heq => ⟨?_, (hrefused heq).2⟩⟩
  rw [hz, (hrefused heq).1]

end

/-- **Teardown can be retried only from its first step.** The agent fails on the delete of
one rule while `Stop`, `UnsetKillSwitch` or `UnsetFirewall` unsets the network. The same
call with working dependencies then takes the network down exactly if that rule was
`api_allowlist` and the memory was complete: with `drop` there was `drop-fw`, and a
tracked rule against DNS leaks was there. -/
theorem teardown_retry_iff {w : World} {op : Op} {name : String} {r r' : Env}
    (hop : op.tearsDown w.netw = true) (hset : w.netw.isNetworkSet = true)
    (hname : w.Deletes name) (hr : r.FailsDelete name) (hr' : r'.Succeeds) :
    ((w.step ⟨op, r⟩).returns ⟨op, r'⟩ = .ok () ∧
      ((w.step ⟨op, r⟩).step ⟨op, r'⟩).netw.isNetworkSet = false ∧
      ∀ n ∈ ["api_allowlist", "drop", "drop-fw", "allowlist_subnets", "allowlist_subnets_forward",
        "allowlist_ports_tcp", "allowlist_ports_udp"],
        n ∉ ((w.step ⟨op, r⟩).step ⟨op, r'⟩).names) ↔
    name = "api_allowlist" ∧ ("drop" ∈ w.names → "drop-fw" ∈ w.names) ∧
      (w.netw.allowlist.allowsDNS = false → "deny-private-dns" ∈ w.netw.rules →
        "deny-private-dns" ∈ w.names) := by
  have hnames : ∀ n, n ∈ ["api_allowlist", "drop", "drop-fw", "allowlist_subnets",
      "allowlist_subnets_forward", "allowlist_ports_tcp",
        "allowlist_ports_udp"] ↔ n ∈ fixedNames := by
    intro n
    simp only [fixedNames, killSwitchNames, allowlistRuleNames, List.cons_append, List.nil_append,
      List.mem_cons, List.not_mem_nil, or_false]
    tauto
  simp only [hnames]
  obtain ⟨-, ⟨rules, interfaces, ht⟩, hpast, hrefused⟩ := teardown_failing hr hop hname
  have hop' : op.tearsDown (w.step ⟨op, r⟩).netw = true := by
    rw [World.step, ht, Op.tearsDown_fields]
    exact hop
  have hset' : (w.step ⟨op, r⟩).netw.isNetworkSet = true := by
    rw [World.step, ht]
    exact hset
  by_cases hapi : name = "api_allowlist"
  · obtain ⟨hrules, hsame⟩ := hrefused hapi
    have hagain := (teardown_present hr' hop' hset' ((hsame _).mpr hname.2.1)).2
    have hlist : (w.step ⟨op, r⟩).netw.allowlist = w.netw.allowlist := by rw [World.step, ht]
    have hrules' : (w.step ⟨op, r⟩).netw.rules = w.netw.rules := hrules
    have hsame' (n : String) : n ∈ (w.step ⟨op, r⟩).names ↔ n ∈ w.names := hsame n
    rw [hlist, hrules', hsame', hsame', hsame'] at hagain
    exact hagain.trans (and_iff_right hapi).symm
  · have hagain := (teardown_absent hr' hop' hset' (hpast hapi)).2
    exact iff_of_false hagain fun h => hapi h.1

theorem Env.failing_failsDelete (devices : List Interface) (name : String) :
    (Env.failing devices .delete name).FailsDelete name :=
  ⟨fun _ _ => rfl, fun _ op rule => by simp [Env.failing]⟩

theorem teardown_retry_iff_api :
    let w := (newCombined (some ⟨"nordlynx", true⟩) 0xe1f1 false true).step
      ⟨.start {} { ip := .ofBytes 1 2 3 4 } {} [] true, Env.working []⟩
    let t := w.step ⟨.stop, Env.failing [] .delete "api_allowlist"⟩
    t.netw.isNetworkSet = true ∧ t.returns ⟨.stop, Env.working []⟩ = .ok () := by
  intro w t
  have hop : Op.stop.tearsDown w.netw = true := by decide
  have hname : w.Deletes "api_allowlist" := ⟨rfl, by decide, by decide, .inl rfl⟩
  have hretry := teardown_retry_iff hop (by decide) hname (Env.failing_failsDelete [] _)
    (Env.working_succeeds [])
  exact ⟨by decide, (hretry.mpr ⟨rfl, by decide, by decide⟩).1⟩

/-- The agent fails to delete `drop` while the VPN is stopped. `Stop` cannot be repeated:
`api_allowlist` is gone, and its absence is an error. -/
theorem teardown_stuck :
    let w := (newCombined (some ⟨"nordlynx", true⟩) 0xe1f1 false true).step
      ⟨.start {} { ip := .ofBytes 1 2 3 4 } {} [] true, Env.working []⟩
    let t := w.step ⟨.stop, Env.failing [] .delete "drop"⟩
    let u := t.step ⟨.stop, Env.working []⟩
    (t.returns ⟨.stop, Env.working []⟩).isOk = false ∧ u.netw.isNetworkSet = true ∧
      "drop" ∈ u.names := by
  decide

end NordVPN.Networker
