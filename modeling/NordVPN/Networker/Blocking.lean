import NordVPN.Networker.Allowlist
import NordVPN.Networker.Reconnect

/-!
When a kill switch or a connection that is reported as set really blocks traffic.

`blockTraffic` adds `drop-fw`, then `drop`, and `setNetwork` tolerates that a rule
already exists. If the first exists the second is not even tried, so a `drop-fw`
without `drop`, left over from a failure, lets `setNetwork` succeed without `drop`.
Similarly a teardown that fails half way leaves the network marked as set. `Sound`
excludes both; it survives every step in which a few agent calls succeed.
-/

namespace NordVPN.Networker

open NordVPN.Netip Prog

/-- Both blocking rules are in memory. -/
def BothRules (w : World) : Prop := "drop" ∈ w.names ∧ "drop-fw" ∈ w.names

/-- A set network has both blocking rules, and `drop-fw` is never there without
`drop`. -/
def Sound (w : World) : Prop :=
  (w.netw.isNetworkSet = true → BothRules w) ∧ ("drop-fw" ∈ w.names → "drop" ∈ w.names)

theorem bothRules_property : KillSwitchProperty BothRules where
  stays hw _ _ hnames := ⟨(hnames _ (by decide)).mpr hw.1, (hnames _ (by decide)).mpr hw.2⟩

theorem sound_property : KillSwitchProperty Sound where
  stays := fun ⟨hset, hpair⟩ hset' _ hnames => by
    unfold Sound BothRules
    rw [hset', hnames "drop" (by decide), hnames "drop-fw" (by decide)]
    exact ⟨hset, hpair⟩

/-- `drop-fw` is not in memory. -/
theorem unblocked_property : KillSwitchProperty fun w => "drop-fw" ∉ w.names where
  stays hw _ _ hnames h := hw ((hnames _ (by decide)).mp h)

/-- The calls that have to succeed. -/
structure Env.KeepsBlocking (r : Env) : Prop where
  adds : r.AddsMesh
  deletes : r.DeletesMesh
  addsDrop : ∀ n rule, rule.name = "drop" → r.agent.fails n .add rule = false
  deletesDrop : ∀ n rule, rule.name = "drop" → r.agent.fails n .delete rule = false
  deletesAllowlist : ∀ n rule, rule.name ∈ allowlistRuleNames →
    r.agent.fails n .delete rule = false
  disablesPorts : ∀ n, r.fails n .disablePorts = false

theorem Env.KeepsBlocking.unsetsAllowlist {r : Env} (hr : r.KeepsBlocking) : r.UnsetsAllowlist :=
  ⟨hr.deletesAllowlist, fun n rule h => hr.deletes n rule (h ▸ .denyDNS), hr.disablesPorts⟩

variable {w : World}

section

variable {r : Env}

/-! ### Setting the network -/

/-- What an attempt to block traffic leaves: both rules, unless it failed on something
other than an existing rule. -/
def BlockOutcome (x : Except Error Unit) (w : World) : Prop :=
  Sound w ∧ (BothRules w ∨ ∃ e, x = .error e ∧ isErr .ruleAlreadyExists e = false)

theorem BlockOutcome.done {x : Except Error Unit} (h : BothRules w) :
    BlockOutcome x w :=
  ⟨⟨fun _ => h, fun _ => h.1⟩, .inl h⟩

theorem BlockOutcome.failed {e : Error} (h : Sound w) (he : isErr .ruleAlreadyExists e = false) :
    BlockOutcome (.error e) w :=
  ⟨h, .inr ⟨e, rfl, he⟩⟩

/-- The same names in memory. -/
theorem Sound.withFw (hw : Sound w) {fw : Firewall} (h : ∀ n, n ∈ fw.rules.names ↔ n ∈ w.names) :
    Sound (w.withFw fw) :=
  sound_property.stays hw rfl rfl fun n _ => h n

theorem blockTraffic_outcome (hr : r.KeepsBlocking) (hw : Sound w) :
    wp blockTraffic r any BlockOutcome w := by
  refine wp_seq (P := fun x t => Sound t ∧ ∀ e, x = .error e → e = .external "dependency")
    (wp_devices.mpr ⟨trivial, hw, ?_⟩) (fun ifaces t ht => ?_) fun e t ht => ?_
  · intro e he
    split at he
    · exact (Except.error.inj he).symm
    · cases he
  · refine wp_seq (P := fun x u => (x = .ok () → "drop-fw" ∈ u.names) ∧
      (x ≠ .ok () → BlockOutcome x u)) ?_ (fun _ u hu => ?_) fun e u hu => hu.2 nofun
    · refine wp_fwAdd_one (by simp [dropFwRule]) (fun hmem => ⟨nofun, fun _ => ?_⟩)
        (fun fw _ _ _ hfw => ⟨nofun, fun _ => ?_⟩) (fun fw hfw => ⟨fun _ => ?_, nofun⟩)
        fun fw _ _ _ _ _ hfw => ⟨nofun, fun _ => ?_⟩
      · exact .done ⟨ht.1.2 hmem, hmem⟩
      · exact .failed (ht.1.withFw fun n => by rw [hfw, World.names]) rfl
      · exact (hfw _).mpr (.inr rfl)
      · exact .failed (ht.1.withFw hfw) rfl
    · have hfw := hu.1 rfl
      refine wp_fwAdd_one (by simp [dropRule]) (fun hmem => .done ⟨hmem, hfw⟩)
        (fun _ _ n hn _ => ?_) (fun fw' h => .done ⟨(h _).mpr (.inr rfl), (h _).mpr (.inl hfw)⟩)
        fun fw' _ _ _ hmem _ h => .done ⟨(h _).mpr hmem, (h _).mpr hfw⟩
      exact absurd hn (by simp [hr.addsDrop n (dropRule ifaces) rfl])
  · rw [ht.2 e rfl]
    exact .failed ht.1 rfl

/-- The invariant of runs. -/
def SoundTracks (w : World) : Prop := Guarded Sound w ∧ Tracks w

theorem soundTracks_core : CoreInvariant any SoundTracks :=
  ⟨fun _ _ => trivial, fun h hw =>
    ⟨(guarded_core sound_property).stays h hw.1, tracks_core.stays h hw.2⟩⟩

theorem setNetwork_outcome (hr : r.KeepsBlocking) (allowlist : Allowlist) (hw : Guarded Sound w) :
    wp (setNetwork allowlist) r any (fun x t => BlockOutcome x t ∧ Untracked t) w := by
  have huntracked : Keeps r (Guarded fun _ => True) (Guarded fun _ => True) blockTraffic :=
    keeps_blockTraffic (guarded_core trivial_property).toQuiet fun _ _ => untracked_firewall _
  have hblock : wp blockTraffic r any (fun x t => BlockOutcome x t ∧ Untracked t) w :=
    wp_post (wp_both (blockTraffic_outcome hr hw.1) (huntracked w ⟨trivial, hw.2⟩)) fun _ _ h =>
      ⟨h.1, h.2.2⟩
  refine wp_seq (P := fun x t => (x = .ok () → Guarded BothRules t) ∧
    (x ≠ .ok () → BlockOutcome x t ∧ Untracked t)) (wp_tolerate.mpr (wp_post hblock ?_))
    (fun _ t ht => ?_) fun e t ht => ht.2 nofun
  · rintro x t ⟨⟨hsound, hboth | ⟨e, rfl, he⟩⟩, ht⟩
    · exact ⟨fun _ => ⟨hboth, ht⟩, fun _ => ⟨.done hboth, ht⟩⟩
    · rw [forgive_error, he]
      exact ⟨nofun, fun _ => ⟨.failed hsound he, ht⟩⟩
  · have hcore : QuietInvariant any (Guarded BothRules) :=
      (guarded_core bothRules_property).toQuiet.weaken fun _ _ => trivial
    refine wp_post ((?_ : Keeps r any (Guarded BothRules) _) t (ht.1 rfl))
      fun _ u hu => ⟨.done hu.1, hu.2⟩
    refine (keeps_devices hcore).bind fun ifaces => keeps_netw.bind fun c =>
      ((guarded_fwAdd bothRules_property ?_).weaken fun _ _ => trivial).seq <|
        ((guarded_ruleUpkeep bothRules_property).keeps_setAllowlist allowlist |>.weaken
          fun _ _ => trivial).seq <| keeps_netw.seq <|
            (keeps_call hcore _ rfl).ignore.seq <| keeps_setNetw hcore fun _ hw => hw
    simp [apiAllowlistRule, blockNames]

theorem soundTracks_setNetwork (hr : r.KeepsBlocking) (allowlist : Allowlist) :
    Keeps r any SoundTracks (setNetwork allowlist) := fun w hw =>
  wp_post (wp_both (setNetwork_outcome hr allowlist hw.1) (tracks_setNetwork allowlist w hw.2))
    fun _ _ h => ⟨⟨h.1.1.1, h.1.2⟩, h.2⟩

/-! ### Unsetting the network -/

/-- After `unblockTraffic`, `drop-fw` is gone, unless the agent refused to delete it. -/
theorem unblockTraffic_outcome (hr : r.KeepsBlocking) (hw : Sound w) :
    wp (tolerate (isErr .ruleNotFound) unblockTraffic) r any
      (fun x t => (x = .ok () → "drop-fw" ∉ t.names) ∧ (x ≠ .ok () → Sound t)) w := by
  refine wp_tolerate.mpr ?_
  by_cases hfw : "drop-fw" ∈ w.names
  · refine wp_bind.mpr
      (wp_fwDelete_one hfw (fun t _ _ _ _ _ ht => ⟨(fun h => by cases h), fun _ => ?_⟩)
      fun t ht => ?_)
    · exact hw.withFw fun n => by rw [ht, World.names]
    · have hgone : "drop-fw" ∉ (w.withFw t).names := fun h => ((ht _).mp h).2 rfl
      rw [onOk_ok]
      by_cases hdrop : "drop" ∈ (w.withFw t).names
      · refine wp_fwDelete_one hdrop (fun _ _ rule n heq hn _ => ?_) fun u hu =>
          ⟨fun _ h => ?_, fun hne => absurd rfl hne⟩
        · exact absurd hn (by simp [hr.deletesDrop n rule heq])
        · exact hgone ((hu _).mp h).1
      · exact wp_fwDelete_absent hdrop ⟨fun _ => hgone, fun hne => absurd rfl hne⟩
  · exact wp_bind.mpr (wp_fwDelete_absent hfw ⟨fun _ => hfw, fun hne => absurd rfl hne⟩)

theorem soundTracks_unsetNetwork (hr : r.KeepsBlocking) : Keeps r any SoundTracks unsetNetwork := by
  intro w hw
  have hapi : Keeps r any SoundTracks (fwDelete ["api_allowlist"]) := fun w hw =>
    wp_both (guarded_fwDelete sound_property (by decide) w hw.1)
      (tracks_fwDelete (by decide) w hw.2)
  refine wp_seq (hapi w hw) (fun _ t ht => ?_) fun _ _ ht => ht
  have huntracked : Keeps r (Guarded fun _ => True) (Guarded fun _ => True) unblockTraffic :=
    (untracked_firewall _).seq <| untracked_firewall _
  have htracks : Keeps r any Tracks unblockTraffic :=
    (tracks_fwDelete (by decide)).seq <| tracks_fwDelete (by decide)
  refine wp_seq (wp_both (unblockTraffic_outcome hr ht.1.1)
    (wp_and (huntracked.tolerate t ⟨trivial, ht.1.2⟩) (htracks.tolerate t ht.2))) (fun _ u hu =>
      ?_) fun e u hu => ?_
  · -- once `drop-fw` is gone the rest goes through to the end
    obtain ⟨hgone, ⟨-, huntracked⟩, htracks⟩ := hu
    have hunset := unsetAllowlist_spec hr.unsetsAllowlist (w := u)
      fun _ hmem => (htracks.agree _ .denyDNS).mp hmem
    have hkeep := wp_and ((guarded_ruleUpkeep unblocked_property).keeps_unsetAllowlist (r := r) u
      ⟨hgone.1 rfl, huntracked⟩) (tracks_unsetAllowlist u htracks)
    refine wp_seq (wp_both hunset hkeep) (fun _ v hv => ?_) fun _ _ hv => nomatch hv.1.1
    exact wp_ignoreCall_bind.mpr (wp_setNetw.mpr ⟨trivial,
      ⟨⟨nofun, fun h => absurd h hv.2.1.1⟩, hv.2.1.2⟩, hv.2.2⟩)
  · exact ⟨⟨hu.1.2 nofun, hu.2.1.2⟩, hu.2.2⟩

/-! ### Every method -/

theorem soundTracks_upkeep (hr : r.KeepsBlocking) : Upkeep r any SoundTracks any any :=
  ((guarded_ruleUpkeep sound_property).and (tracks_ruleUpkeep hr.adds)).upkeep soundTracks_core
    (soundTracks_setNetwork hr) (soundTracks_unsetNetwork hr) fun _ _ hw => hw

theorem soundTracks_meshUpkeep (hr : r.KeepsBlocking) :
    MeshUpkeep r any SoundTracks (fun w => Guarded Sound w ∧ Flushed w) any :=
  (guarded_meshUpkeep sound_property).and (tracks_meshUpkeep hr.adds hr.deletes)

/-- When `configureFirewall` succeeds, both rules are in memory. -/
theorem configureFirewall_both (hr : r.KeepsBlocking) (allowlist : Allowlist) (hw : SoundTracks w) :
    wp (configureFirewall allowlist) r any
      (fun x t => x = .ok () → Guarded BothRules t) w := by
  have hreset : Keeps r any (Guarded BothRules) resetAllowlist :=
    (guarded_ruleUpkeep bothRules_property).keeps_resetAllowlist.weaken fun _ _ => trivial
  have hset := wp_both (setNetwork_outcome hr allowlist hw.1)
    (soundTracks_setNetwork hr allowlist w hw)
  refine wp_bind.mpr (wp_attempt.mpr (wp_post hset ?_))
  rintro x t ⟨⟨⟨-, houtcome⟩, huntracked⟩, hsound⟩
  rw [onOk_ok]
  cases x with
  | ok u =>
    have hboth := houtcome.resolve_right nofun
    exact wp_post (hreset t ⟨hboth, huntracked⟩) fun _ _ h _ => h
  | error e =>
    refine wp_netw_bind.mpr (wp_ite.mpr ⟨fun h => ?_, fun _ => wp_fail.mpr nofun⟩)
    have hboth : BothRules t := by
      rcases houtcome with hboth | ⟨e', he', hexists⟩
      · exact hboth
      · -- another error is only passed over when the network was set before
        obtain rfl : e = e' := Except.error.inj he'
        rw [hexists, Bool.false_or] at h
        exact hsound.1.1.1 h
    exact wp_post (hreset t ⟨hboth, huntracked⟩) fun _ _ h _ => h

theorem start_both (hr : r.KeepsBlocking) (creds : Credentials) (serverData : ServerData)
    (allowlist : Allowlist) (nameservers : List String) :
    Attains r SoundTracks BothRules (start creds serverData allowlist nameservers) := by
  have hcore : CoreInvariant any (Guarded BothRules) :=
    ⟨fun _ _ => trivial, (guarded_core bothRules_property).stays⟩
  refine attains_start fun w hw => wp_startBody soundTracks_core hcore (fun _ _ _ _ => nofun)
    (fun _ _ h _ _ => h.1) creds serverData nameservers
    (fun t ht => wp_post (configureFirewall_both hr allowlist ht) ?_)
    (fun t ht _ => wp_mono ((guarded_ruleUpkeep bothRules_property).keeps_refresh (r := r)
      (guarded_meshUpkeep bothRules_property) trivial t ht) (fun _ _ => trivial) fun _ _ h => h) hw
  intro x t ht
  cases x with
  | ok u => exact ht rfl
  | error e => exact fun _ => nofun

/-- When `setKillSwitch` succeeds, the network is set. -/
theorem setKillSwitch_isNetworkSet (allowlist : Allowlist) :
    Attains r any (fun t => t.netw.isNetworkSet = true) (setKillSwitch allowlist) := by
  have hset : Attains r any (fun t => t.netw.isNetworkSet = true) (setNetwork allowlist) :=
    .skip <| .skip <| .skip <| .skip <| .skip <| .skip <| .skip <| .assign fun _ _ => rfl
  have hwhen (w : World) : wp (when (!w.netw.isNetworkSet) (setNetwork allowlist)) r any
      (fun x t => ∀ a, x = .ok a → t.netw.isNetworkSet = true) w :=
    wp_when.mpr ⟨fun _ => hset w trivial, fun h _ _ => by simpa using h⟩
  exact fun w _ => wp_netw_bind.mpr (wp_seq (hwhen w)
    (fun _ t ht => wp_setNetw.mpr ⟨trivial, fun _ _ => ht () rfl⟩) fun _ _ _ _ => nofun)

end

/-! ### Runs -/

/-- The two cases in which a success promises that traffic is blocked: `SetKillSwitch`,
and `Start` without a connection. -/
def PromisesBlocking (w : World) (i : Step) : Prop :=
  match i.op with
  | .setKillSwitch _ => True
  | .start .. => w.isConnected i.env = false
  | _ => False

theorem soundTracks_reached {vpnet : Option Vpn} {fwmark : Nat}
    {lanDiscovery firewallEnabled : Bool}
    (h : World.Reached (fun _ i => i.env.KeepsBlocking)
      (newCombined vpnet fwmark lanDiscovery firewallEnabled) w) :
    SoundTracks w :=
  h.invariant ⟨⟨⟨nofun, nofun⟩, nofun⟩, tracks_newCombined _ _ _ _⟩ fun _ i hw hi =>
    Upkeep.step (soundTracks_upkeep hi) (fun _ => soundTracks_meshUpkeep hi)
      i.op.allows_any i.op.lists_any (fun _ _ _ => trivial) hw

/-- **Kill-switch safety.** In every run in which the agent adds `drop` and the meshnet
rules and deletes `drop`, the allowlist rules and the meshnet rules, and allowlist
routing can be disabled, while any other call may fail: whenever `SetKillSwitch`, or
`Start` without a connection, returns `nil`, both blocking rules are in memory. -/
theorem killSwitch_blocks {vpnet : Option Vpn} {fwmark : Nat} {lanDiscovery firewallEnabled : Bool}
    {w : World} {i : Step}
    (h : World.Reached (fun _ i => i.env.KeepsBlocking)
      (newCombined vpnet fwmark lanDiscovery firewallEnabled) w)
    (hi : i.env.KeepsBlocking) (hop : PromisesBlocking w i) (hret : w.returns i = .ok ()) :
    "drop" ∈ (w.step i).names ∧ "drop-fw" ∈ (w.step i).names := by
  have hw := soundTracks_reached h
  obtain ⟨op, r⟩ := i
  cases op with
  | setKillSwitch allowlist =>
    have hsound := ((soundTracks_upkeep hi).keeps_setKillSwitch allowlist trivial w hw).2
    have hset := ((setKillSwitch_isNetworkSet (r := r) allowlist).ok trivial ()).2 hret
    exact hsound.1.1.1 hset
  | start creds serverData allowlist nameservers enableLocalTraffic =>
    have hstart : wp (Api.start creds serverData allowlist nameservers enableLocalTraffic) r
        any (fun x t => x = .ok () → BothRules t) w := by
      refine wp_apiStart (fun _ hconnected => ?_) fun t _ hcore _ =>
        (start_both hi _ _ _ _).ok (soundTracks_core.stays hcore hw) ()
      exact absurd (hconnected.symm.trans hop) (by decide)
    exact hstart.2 hret
  | _ => exact hop.elim

theorem working_keepsBlocking (devices : List Interface) : (Env.working devices).KeepsBlocking :=
  ⟨⟨fun _ _ _ _ _ => rfl, fun _ _ _ _ _ => rfl, fun _ _ _ => rfl⟩, fun _ _ _ => rfl,
    fun _ _ _ => rfl, fun _ _ _ => rfl, fun _ _ _ => rfl, fun _ => rfl⟩

theorem killSwitch_blocks_after_stop :
    let start : Step := ⟨.start {} { ip := .ofBytes 1 2 3 4 } {} [] true, Env.working []⟩
    let stop : Step := ⟨.stop, Env.working []⟩
    let w := ((newCombined (some ⟨"nordlynx", true⟩) 0xe1f1 false true).step start).step stop
    "drop" ∉ w.names ∧ "drop" ∈ (w.step ⟨.setKillSwitch {}, Env.working []⟩).names := by
  have hworks := working_keepsBlocking []
  intro start stop w
  have hw : World.Reached (fun _ i => i.env.KeepsBlocking) _ w :=
    .tail _ (.tail _ .refl hworks) hworks
  exact ⟨by decide, (killSwitch_blocks (i := ⟨.setKillSwitch {}, Env.working []⟩) hw hworks trivial
    (by decide)).1⟩

/-- The agent adds `drop-fw` but not `drop`, so `SetKillSwitch` fails. Tried again with
a working agent it returns `nil`, and there is still no `drop`. -/
theorem killSwitch_set_without_drop :
    let w₀ := newCombined (some ⟨"nordlynx", true⟩) 0xe1f1 false true
    let w := w₀.step ⟨.setKillSwitch {}, Env.failing [] .add "drop"⟩
    let retry : Step := ⟨.setKillSwitch {}, Env.working []⟩
    w.returns retry = .ok () ∧ "drop-fw" ∈ (w.step retry).names ∧
      "drop" ∉ (w.step retry).names := by
  decide

end NordVPN.Networker
