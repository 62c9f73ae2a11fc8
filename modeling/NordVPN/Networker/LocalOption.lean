import NordVPN.Networker.Session

/-!
The local-network option of `Start`.

`Start` stores its option before it chooses between `start` and `restart`. `start` sets up the
routing rules with it, and so do `setAllowlist`, `setMesh` and `SetLanDiscovery`; `stop` sets them
up with the default. `restart` relies on the rules of the connection before, so an option that
differs from the one stored then has no effect until something else sets up the rules.
-/

namespace NordVPN.Networker

open NordVPN.Netip Prog

/-! ### The option in the log -/

/-- The option of a call to `SetupRoutingRules`. -/
def localOptionOf : Call × Bool → Option Bool
  | (.setupRoutingRules _ enableLocal _ _, _) => some enableLocal
  | _ => none

/-- The option that the routing rules were set up with last. -/
def World.localOption (w : World) : Option Bool := w.log.findSome? localOptionOf

/-- The calls that do not set up the routing rules. -/
def Call.offRules : Call → Bool
  | .setupRoutingRules .. => false
  | _ => true

/-- The calls that neither set up the routing rules nor move the tunnel. -/
def Call.offTunnel : Call → Bool
  | .setupRoutingRules .. | .vpnStart .. | .vpnStop => false
  | _ => true

/-- The stored option and the one set up last. -/
structure OptionView (stored : Bool) (last : Option Bool) (w : World) : Prop where
  stored : w.netw.enableLocalTraffic = stored
  last : w.localOption = last

/-- While the tunnel is up, the routing rules are set up with the stored option. -/
def Settled (w : World) : Prop :=
  w.tunnelUp = true → w.localOption = some w.netw.enableLocalTraffic

section Views

variable {r : Env} {w : World} {b : Bool} {last : Option Bool}

theorem localOption_after (r : Env) (c : Call) (fails : Bool) (h : c.offRules = true) :
    (w.after r c fails).localOption = w.localOption := by
  cases c <;> first | rfl | cases h

theorem tunnelUp_after (r : Env) (c : Call) (fails : Bool) (h : c.offTunnel = true) :
    (w.after r c fails).tunnelUp = w.tunnelUp := by
  cases c <;> first | rfl | cases h

theorem offRules_of_offTunnel (c : Call) (h : c.offTunnel = true) : c.offRules = true := by
  cases c <;> first | rfl | cases h

theorem optionView_deaf : Deaf Call.offRules (OptionView b last) where
  unheard r fails hc hw := ⟨hw.stored, (localOption_after r _ fails hc).trans hw.last⟩
  stays {w t} hsession _ hlog hw := by
    constructor
    · exact (congrArg Session.enableLocalTraffic hsession).trans hw.stored
    · rw [World.localOption, hlog]
      exact hw.last

/-- The stored option is the one that the rules are set up with. -/
theorem setupRoutingRules_option (ipv6 : Bool) (subnets : List String)
    (hw : w.netw.enableLocalTraffic = b) :
    wp (setupRoutingRules ipv6 subnets) r any (fun _ t => OptionView b (some b) t) w := by
  apply wp_netw_bind.mpr
  refine wp_call.mpr ⟨trivial, hw, ?_⟩
  rw [hw]
  rfl

end Views

/-! ### Invariants that read the option, the tunnel and the log -/

/-- `I` reads the stored option, the tunnel and the log only, and hears no call that leaves the
routing rules and the tunnel alone. -/
structure OptionReader (I : World → Prop) : Prop where
  unheard : ∀ {w : World} {c : Call} (r : Env) (fails : Bool), c.offTunnel = true → I w →
    I (w.after r c fails)
  stays : ∀ {w t : World}, t.netw.enableLocalTraffic = w.netw.enableLocalTraffic →
    t.tunnelUp = w.tunnelUp → t.log = w.log → I w → I t

/-- It is also kept where the rules are set up with the stored option. -/
structure OptionInvariant (r : Env) (I : World → Prop) : Prop extends OptionReader I where
  rules : ∀ ipv6 subnets, Keeps r (fun _ => True) I (setupRoutingRules ipv6 subnets)

theorem optionView_reader (b : Bool) (last : Option Bool) : OptionReader (OptionView b last) where
  unheard r fails hc hw := optionView_deaf.unheard r fails (offRules_of_offTunnel _ hc) hw
  stays {w t} hstored _ hlog hw := by
    constructor
    · exact hstored.trans hw.stored
    · rw [World.localOption, hlog]
      exact hw.last

theorem option_invariant (r : Env) (b : Bool) : OptionInvariant r (OptionView b (some b)) where
  toOptionReader := optionView_reader b (some b)
  rules ipv6 subnets _ hw := setupRoutingRules_option ipv6 subnets hw.stored

theorem settled_invariant (r : Env) : OptionInvariant r Settled where
  unheard {w c} r fails hc hw hup := by
    rw [tunnelUp_after r c fails hc] at hup
    rw [localOption_after r c fails (offRules_of_offTunnel c hc)]
    exact hw hup
  stays {w t} hstored hup hlog hw h := by
    rw [World.localOption, hlog, hstored]
    exact hw (hup.symm.trans h)
  rules ipv6 subnets w _ := by
    apply wp_post (setupRoutingRules_option ipv6 subnets rfl)
    intro _ t ht _
    rw [ht.last, ht.stored]

theorem down_invariant (r : Env) : OptionInvariant r fun w => w.tunnelUp = false where
  unheard r fails hc hw := (tunnelUp_after r _ fails hc).trans hw
  stays _ hup _ hw := hup.trans hw
  rules _ _ _ hw := wp_netw_bind.mpr (wp_call.mpr ⟨trivial, hw⟩)

namespace OptionReader

variable {r : Env} {I : World → Prop} (h : OptionReader I)
include h

theorem keeps_setNetw {f : Combined → Combined}
    (hf : ∀ c, (f c).enableLocalTraffic = c.enableLocalTraffic) :
    Keeps r any I (setNetw f) :=
  Keeps.assign fun w => h.stays (hf w.netw) rfl rfl

theorem deaf {quiet : Call → Bool} (hquiet : ∀ c, quiet c = true → c.offTunnel = true) :
    Deaf quiet I where
  unheard r' fails hc := h.unheard r' fails (hquiet _ hc)
  stays hsession := h.stays (congrArg Session.enableLocalTraffic hsession)

theorem offTunnel : Deaf Call.offTunnel I := h.deaf fun _ hc => hc

theorem keeps_refresh (cfg : MachineMap) : Keeps r any I (refresh cfg) :=
  (h.deaf fun c (hc : c.ofRefresh = true) => by cases c <;> first | rfl | cases hc).keeps_refresh
    cfg

theorem keeps_disableIPv6IfNeeded : Keeps r any I disableIPv6IfNeeded :=
  keeps_netw.seq <| Keeps.when fun _ =>
    (h.keeps_setNetw (f := fun c => { c with ipv6Enabled := false }) fun _ => rfl).seq <|
      keeps_netw.seq <| Keeps.when fun _ => h.offTunnel.keeps_call rfl

end OptionReader

namespace OptionInvariant

variable {r : Env} {I : World → Prop} (h : OptionInvariant r I)
include h

theorem networked : Networked r I where
  deaf := h.deaf fun c hc => by cases c <;> first | rfl | cases hc
  rules := h.rules

/-- `setMesh` neither moves the tunnel nor changes the option. -/
theorem keeps_setMesh (cfg : MachineMap) (self : Addr) (privateKey : String) :
    Keeps r any I (setMesh cfg self privateKey) := by
  have hrecover (routingRulesSet : Bool) :
      Keeps r any I (meshRecover routingRulesSet) :=
    (h.offTunnel.keeps_call rfl).ignore.guard.seq <|
      h.networked.deaf.keeps_defaultMeshUnBlock.ignore.seq <|
        (h.offTunnel.keeps_call rfl).ignore.seq <| (h.offTunnel.keeps_call rfl).ignore.seq <|
          (h.offTunnel.keeps_call rfl).ignore.seq <| (h.offTunnel.keeps_call rfl).ignore
  have henable : Keeps r any I (enableMesh self privateKey) := by
    apply (h.offTunnel.keeps_call rfl).attempt.bind
    intro x
    cases x with
    | ok _ => exact Keeps.pure _
    | error e =>
      exact keeps_netw.seq <| Keeps.ite ((h.offTunnel.keeps_ask rfl _).seq <|
        (Keeps.fail _).ite ((h.keeps_setNetw (f := fun c => { c with isVpnSet := false })
          fun _ => rfl).seq <| Keeps.fail _)) (Keeps.fail _)
  have hprepare : Keeps r any I (prepareMesh self privateKey) :=
    keeps_netw.seq <| (h.offTunnel.keeps_call rfl).ignore.guard.seq <|
      henable.seq <| keeps_netw.seq <|
        (h.offTunnel.keeps_addDefaultRoute rfl fun _ => rfl).guard.seq <| (h.rules _ _).mapError
  have hfinish : Keeps r any I (finishMesh cfg privateKey) :=
    (h.offTunnel.keeps_ask rfl _).seq <| (h.offTunnel.keeps_ask rfl _).seq <|
      (h.offTunnel.keeps_call rfl).mapError.seq <| (h.keeps_refresh _).seq <|
        h.keeps_setNetw
        (f := fun c => { c with isMeshnetSet := true, lastPrivateKey := privateKey })
          fun _ => rfl
  exact keeps_netw.seq <| (Keeps.fail _).ite
    (((hrecover _).onError hprepare).seq <| (hrecover _).onError hfinish)

theorem keeps_apiSetAllowlist (allowlist : Allowlist) :
    Keeps r any I (Api.setAllowlist allowlist) :=
  keeps_netw.seq <| (h.networked.keeps_unsetAllowlist.seq <|
    h.networked.keeps_setAllowlist _).guard.seq <| h.offTunnel.keeps_call rfl

theorem keeps_apiSetLanDiscovery (enabled : Bool) : Keeps r any I (Api.setLanDiscovery enabled) :=
  (h.keeps_setNetw (f := fun c => { c with lanDiscovery := enabled }) fun _ => rfl).seq <|
    keeps_netw.seq <| (h.rules _ _).ignore.guard.seq <| (h.offTunnel.keeps_call rfl).ignore

end OptionInvariant

/-! ### Starting and stopping -/

section Sessions

variable {r : Env} {w : World} {b : Bool} {last : Option Bool}

/-- The recovery of a failed start takes the tunnel down. -/
theorem failureRecover_down (hr : ∀ n, r.fails n .vpnStop = false) :
    wp failureRecover r any (fun _ t => t.tunnelUp = false) w := by
  have hdown := down_invariant r
  apply wp_netw_bind.mpr
  refine NeverFails.ignore.when.next fun _ _ => NeverFails.ignore.next fun _ t => ?_
  refine wp_keeps (wp_ignore.mpr (wp_call.mpr ⟨trivial, ?_⟩)) fun _ => ?_
  · rw [hr]
    rfl
  · exact hdown.networked.keeps_unsetNetwork.ignore.guard.seq <|
      ((hdown.offTunnel.keeps_fwDelete _).seq <|
        hdown.keeps_setNetw (f := fun c => { c with isV6TrafficAllowed := false })
          fun _ => rfl).ignore.guard.seq <|
        hdown.keeps_setNetw (f := fun c => { c with isVpnSet := false }) fun _ => rfl

theorem settled_onError (hr : ∀ n, r.fails n .vpnStop = false) {m : Netw Unit}
    (h : wp m r any (fun x t => x = .ok () → Settled t) w) :
    wp (onError failureRecover m) r any (fun _ t => Settled t) w := by
  refine wp_recover h (fun _ _ ht => ht rfl) fun _ _ _ => wp_post (failureRecover_down hr) ?_
  intro _ u hdown hup
  rw [hdown] at hup
  cases hup

variable (creds : Credentials) (serverData : ServerData)

/-- A start sets up the rules with the stored option, and nothing after that changes it. -/
theorem startBody_option (allowlist : Allowlist) (nameservers : List String) :
    Attains r (OptionView b last) (OptionView b (some b))
      (startBody creds serverData allowlist nameservers) := by
  have hkeeps := option_invariant r b
  have hconfigure {s : ServerData} :
      Keeps r any (OptionView b (some b)) (configureNetwork allowlist s nameservers) :=
    (hkeeps.networked.keeps_configureFirewall _).seq <|
      (hkeeps.offTunnel.keeps_addDefaultRoute rfl fun _ => rfl).seq <|
        (hkeeps.offTunnel.keeps_configureDNS fun _ _ => rfl).seq <| keeps_netw.seq <|
          (hkeeps.keeps_refresh _).mapError.guard.seq <| hkeeps.keeps_disableIPv6IfNeeded
  have hrules {ipv6 : Bool} {subnets : List String} : Attains r (OptionView b last)
      (OptionView b (some b)) (setupRoutingRules ipv6 subnets) :=
    .of_post fun _ ht => setupRoutingRules_option _ _ ht.stored
  exact keeps_netw.attains <| (optionView_deaf.keeps_startVpn rfl rfl).attains <| hrules.seq <|
    .of_post <| hconfigure.seq <| (hkeeps.offTunnel.keeps_ask rfl _).seq <|
      hkeeps.keeps_setNetw fun _ => rfl

/-- A restart does not set up the rules. -/
theorem restartBody_option (nameservers : List String) :
    Keeps r any (OptionView b last) (restartBody creds serverData nameservers) := by
  have hreader := optionView_reader b last
  have hswitch (c : Combined) : c.switchToNextVpn.enableLocalTraffic = c.enableLocalTraffic := by
    unfold Combined.switchToNextVpn
    split <;> rfl
  exact (hreader.offTunnel.keeps_call rfl).ignore.seq <| (optionView_deaf.keeps_call rfl).seq <|
    (hreader.keeps_setNetw hswitch).seq <| keeps_netw.seq <|
      (optionView_deaf.keeps_startVpn rfl rfl).seq <|
        (hreader.offTunnel.keeps_addDefaultRoute rfl fun _ => rfl).seq <|
          (hreader.offTunnel.keeps_configureDNS fun _ _ => rfl).seq <|
            hreader.keeps_disableIPv6IfNeeded.ignore.seq <| hreader.keeps_setNetw fun _ => rfl

theorem settled_start (hr : ∀ n, r.fails n .vpnStop = false) (creds : Credentials)
    (serverData : ServerData) (allowlist : Allowlist) (nameservers : List String) :
    Keeps r any Settled (start creds serverData allowlist nameservers) := by
  intro w hw
  refine wp_netw_bind.mpr (wp_ite.mpr ⟨fun _ => wp_fail.mpr hw, fun _ =>
    wp_ite.mpr ⟨fun _ => wp_fail.mpr hw, fun _ => settled_onError hr ?_⟩⟩)
  apply wp_post ((startBody_option creds serverData allowlist nameservers).ok ⟨rfl, rfl⟩ ())
  intro x t ht hok _
  rw [(ht hok).last, (ht hok).stored]

theorem settled_restart (hr : ∀ n, r.fails n .vpnStop = false) (creds : Credentials)
    (serverData : ServerData) (nameservers : List String) (hw : OptionView b (some b) w) :
    wp (restart creds serverData nameservers) r any (fun _ t => Settled t) w := by
  have hsettled {t : World} (ht : OptionView b (some b) t) : Settled t := by
    intro _
    rw [ht.last, ht.stored]
  refine wp_netw_bind.mpr (wp_ite.mpr ⟨fun _ => wp_fail.mpr (hsettled hw), fun _ =>
    settled_onError hr ?_⟩)
  apply wp_post (restartBody_option creds serverData nameservers w hw)
  intro _ t ht _
  exact hsettled ht

theorem neverFails_contextCall (hr : ∀ n c, r.fails n c = false) (text : String) (c : Call) :
    NeverFails r (context text (call c)) := by
  intro w
  refine wp_mapError.mpr (wp_call.mpr ⟨trivial, (), ?_⟩)
  rw [hr]
  rfl

/-- A stop takes the tunnel down, or does nothing without a VPN. -/
theorem settled_stop (hr : ∀ n c, r.fails n c = false) : Keeps r any Settled stop := by
  intro w hw
  have hdown := down_invariant r
  have hcalls := neverFails_contextCall hr
  refine wp_netw_bind.mpr (wp_ite.mpr ⟨fun _ => wp_fail.mpr hw, fun _ => ?_⟩)
  refine NeverFails.ignore.next fun _ t => ?_
  refine NeverFails.next (fun u => wp_netw_bind.mpr (hcalls _ _ u)) fun _ t => ?_
  refine NeverFails.ignore.when.next fun _ t => ?_
  refine (hcalls _ _).when.next fun _ t => NeverFails.ignore.next fun _ t => ?_
  apply wp_seq (P := fun _ u => u.tunnelUp = false)
  · refine wp_call.mpr ⟨trivial, ?_⟩
    rw [hr]
    rfl
  · intro _ u hu
    refine wp_post ((?_ : Keeps r any (fun w => w.tunnelUp = false) _) u hu) fun _ v hv hup => ?_
    · exact hdown.networked.keeps_unsetNetwork.mapError.guard.seq <| Keeps.assign fun _ ht => ht
    · rw [hv] at hup
      cases hup
  · intro _ u hu hup
    rw [hu] at hup
    cases hup

/-- Asking for the connection changes neither the option nor the tunnel. -/
theorem isConnectedToVPN_option (hw : OptionView b last w) :
    wp isConnectedToVPN r any (fun x t => x = .ok (w.isConnected r) ∧
      OptionView b last t ∧ t.tunnelUp = w.tunnelUp) w := by
  apply wp_post (wp_both (optionView_deaf.keeps_isConnectedToVPN rfl w hw) (wp_isConnectedToVPN
    (Q := fun x t => x = .ok (w.isConnected r) ∧ t.tunnelUp = w.tunnelUp)
    fun t _ _ hup => ⟨trivial, rfl, hup⟩))
  rintro x t ⟨hview, hx, hup⟩
  exact ⟨hx, hview, hup⟩

theorem tunnelUp_of_isConnected (h : w.isConnected r = true) : w.tunnelUp = true := by
  rw [World.isConnected, Bool.and_eq_true, Bool.and_eq_true] at h
  exact h.2.1

theorem settled_apiStop (hr : ∀ n c, r.fails n c = false) : Keeps r any Settled Api.stop :=
  keeps_netw.seq <| Keeps.when fun _ => (settled_stop hr).tolerate.seq <|
    (settled_invariant r).keeps_setNetw fun _ => rfl

/-- What `Start` does to the option: a restart leaves the rules alone. -/
theorem apiStart_option (allowlist : Allowlist) (nameservers : List String) (b : Bool) (w : World) :
    wp (Api.start creds serverData allowlist nameservers b) r any
      (fun x t => x = .ok () →
        OptionView b (if w.isConnected r then w.localOption else some b) t) w := by
  have hview :
      OptionView b w.localOption (w.withNetw fun c => { c with enableLocalTraffic := b }) :=
    ⟨rfl, rfl⟩
  refine wp_setNetw_bind.mpr ?_
  refine wp_returns (a := w.isConnected r) (isConnectedToVPN_option hview) fun t ht =>
    wp_ite.mpr ⟨fun h => ?_, fun h => ?_⟩
  · rw [if_pos h]
    exact (attains_restart <| .of_post <| restartBody_option _ _ _).ok ht.1 ()
  · rw [if_neg h]
    exact (attains_start <| startBody_option _ _ _ _).ok ht.1 ()

/-- `Start` with the stored option, if the tunnel is up. -/
theorem settled_apiStart (hr : ∀ n, r.fails n .vpnStop = false) (hw : Settled w)
    (hb : w.tunnelUp = true → b = w.netw.enableLocalTraffic) (creds : Credentials)
    (serverData : ServerData) (allowlist : Allowlist) (nameservers : List String) :
    wp (Api.start creds serverData allowlist nameservers b) r any
      (fun _ t => Settled t) w := by
  have hview :
      OptionView b w.localOption (w.withNetw fun c => { c with enableLocalTraffic := b }) :=
    ⟨rfl, rfl⟩
  have hlast (hup : w.tunnelUp = true) : w.localOption = some b := by
    rw [hb hup]
    exact hw hup
  refine wp_setNetw_bind.mpr ?_
  refine wp_returns (a := w.isConnected r) (isConnectedToVPN_option hview) ?_
  rintro t ⟨ht, hup⟩
  refine wp_ite.mpr ⟨fun h => ?_, fun _ => settled_start hr _ _ _ _ t ?_⟩
  · rw [hlast (tunnelUp_of_isConnected h)] at ht
    exact settled_restart hr _ _ _ ht
  · intro hup'
    rw [ht.last, ht.stored]
    exact hlast (hup.symm.trans hup')

end Sessions

/-! ### Runs -/

/-- The calls of a session with meshnet. -/
def Op.ofSession : Op → Bool
  | .start .. | .stop | .setAllowlist _ | .setLanDiscovery _ | .setMesh .. => true
  | _ => false

/-- A `Start` made while the tunnel is up has the stored option. -/
def Op.Repeats (w : World) : Op → Prop
  | .start _ _ _ _ enableLocalTraffic =>
    w.tunnelUp = true → enableLocalTraffic = w.netw.enableLocalTraffic
  | _ => True

structure RepeatsOption (w : World) (i : Step) : Prop where
  session : i.op.ofSession = true
  works : i.env.Succeeds
  repeats : i.op.Repeats w

theorem settled_step {w : World} {i : Step} (hw : Settled w) (hi : RepeatsOption w i) :
    Settled (w.step i) := by
  obtain ⟨op, r⟩ := i
  obtain ⟨hsession, hr, hrepeats⟩ := hi
  have hsettled := settled_invariant r
  cases op with
  | start creds serverData allowlist nameservers enableLocalTraffic =>
    exact (settled_apiStart (fun n => hr.calls n _) hw hrepeats _ _ _ _).2
  | stop => exact (settled_apiStop hr.calls w hw).2
  | setAllowlist allowlist => exact (hsettled.keeps_apiSetAllowlist allowlist w hw).2
  | setLanDiscovery enabled => exact (hsettled.keeps_apiSetLanDiscovery enabled w hw).2
  | setMesh cfg self privateKey => exact (hsettled.keeps_setMesh cfg self privateKey w hw).2
  | _ => cases hsession

/-- In every run in which each `Start` over a tunnel that is up repeats the stored option, a `Start`
that returns without an error takes effect exactly if it finds no connection, or repeats the stored
option too. -/
theorem local_option_takes_effect_iff {vpnet : Option Vpn} {fwmark : Nat}
    {lanDiscovery firewallEnabled : Bool} {w : World}
    (hrun : World.Reached RepeatsOption (newCombined vpnet fwmark lanDiscovery firewallEnabled) w)
    {r : Env} {creds : Credentials} {serverData : ServerData} {allowlist : Allowlist}
    {nameservers : List String} {enableLocalTraffic : Bool}
    (hok : w.returns ⟨.start creds serverData allowlist nameservers enableLocalTraffic, r⟩ = .ok
      ()) :
    (w.step ⟨.start creds serverData allowlist nameservers enableLocalTraffic, r⟩).localOption =
        some enableLocalTraffic ↔
      (w.isConnected r = true → enableLocalTraffic = w.netw.enableLocalTraffic) := by
  have hsettled : Settled w :=
    hrun.invariant (I := Settled) (fun hup => nomatch hup) fun _ _ hw hi => settled_step hw hi
  have hlast : (w.step ⟨.start creds serverData allowlist nameservers enableLocalTraffic,
      r⟩).localOption = if w.isConnected r then w.localOption else some enableLocalTraffic :=
    ((apiStart_option creds serverData allowlist nameservers enableLocalTraffic w).2 hok).last
  rw [hlast]
  by_cases hconnected : w.isConnected r = true
  · rw [if_pos hconnected, hsettled (tunnelUp_of_isConnected hconnected),
      Option.some.injEq, eq_comm]
    exact ⟨fun h _ => h, fun h => h hconnected⟩
  · rw [if_neg hconnected]
    exact iff_of_true rfl fun h => absurd h hconnected

def startWith (enableLocalTraffic : Bool) : Step :=
  ⟨.start {} { ip := .ofBytes 1 2 3 4 } {} [] enableLocalTraffic, Env.working []⟩

theorem local_option_sample :
    let w := (newCombined (some ⟨"nordlynx", true⟩) 0xe1f1 false true).step (startWith false)
    w.isConnected (Env.working []) = true ∧
    (w.step (startWith false)).localOption = some false := by
  have hrun : World.Reached RepeatsOption (newCombined (some ⟨"nordlynx", true⟩) 0xe1f1 false true)
      ((newCombined (some ⟨"nordlynx", true⟩) 0xe1f1 false true).step (startWith false)) :=
    .tail _ .refl ⟨rfl, Env.working_succeeds [], nofun⟩
  exact ⟨by decide, (local_option_takes_effect_iff hrun (by decide)).mpr (by decide)⟩

/-- A reconnection with another option: the rules stay as they are. -/
theorem restart_ignores_local_option :
    let w := (newCombined (some ⟨"nordlynx", true⟩) 0xe1f1 false true).step (startWith true)
    w.returns (startWith false) = .ok () ∧ (w.step (startWith false)).localOption = some true := by
  decide

end NordVPN.Networker
