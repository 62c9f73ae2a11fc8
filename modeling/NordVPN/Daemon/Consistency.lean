import NordVPN.Daemon.Balance

/-!
The rules between the stored settings.

A rule ties two settings together, and requests of different handlers write them. A run of requests
keeps a rule if every plan that is carried out saves settings that follow it, so each handler is
looked at once, with the settings it decided on.
-/

namespace NordVPN.Daemon

open NordVPN.Netip NordVPN.Networker NordVPN.Servers Prog

/-! ### What a run saves -/

variable {request : Request}

section Saves

variable {r : DaemonEnv} {s : Rpc} {J : Config → Prop}

/-- The settings that a decision saves, if it saves any. -/
def Decision.Saves (J : Config → Prop) (cfg : Config) : Decision → Prop
  | .proceed plan => J (plan.save cfg)
  | _ => True

variable {d : Decision} {cfg : Config}

theorem Decision.Saves.ite {c : Prop} [Decidable c] {e : Decision} (hd : c → d.Saves J cfg)
    (he : ¬c → e.Saves J cfg) : (if c then d else e).Saves J cfg := by
  by_cases hc : c
  · rw [if_pos hc]
    exact hd hc
  · rw [if_neg hc]
    exact he hc

/-- Nothing is saved on one side of a check. -/
theorem Decision.Saves.guard {c : Prop} [Decidable c] {reply : Reply}
    (h : ¬c → d.Saves J cfg) : (if c then .answer reply else d).Saves J cfg :=
  .ite (fun _ => trivial) h

theorem Decision.Saves.mono {J' : Config → Prop} (h : d.Saves J cfg)
    (hJ : ∀ c, J c → J' c) : d.Saves J' cfg := by
  cases d with
  | proceed plan => exact hJ _ h
  | answer reply | hang => trivial

theorem keeps_cfg_onNetw {α : Type} {m : Netw α} :
    Keeps r any (fun t => t.cfg = cfg) (onNetw m) := by
  intro t ht
  exact wp_onNetw.mpr (wp_mono wp_true (fun _ _ => trivial) fun _ _ _ => ht)

theorem wp_carryOut_cfg {plan : Plan} (hs : J s.cfg) (hsave : J (plan.save s.cfg)) :
    wp (carryOut plan) r any (fun _ t => J t.cfg) s := by
  refine wp_seq (keeps_callAll (fun _ _ => keeps_cfg_onNetw) s rfl) ?_ fun _ t ht => ht ▸ hs
  intro failed t ht
  cases failed with
  | some reply => exact wp_pure.mpr (ht ▸ hs)
  | none =>
    have hsaved : wp (saveWith plan.save) r any (fun _ t => J t.cfg) t := by
      simp only [saveWith, wp_bind, wp_env, onOk_ok]
      split
      · simp only [wp_bind, wp_update, onOk_ok, wp_pure, true_and]
        exact ht ▸ hsave
      · exact wp_pure.mpr (ht ▸ hs)
    refine wp_seq hsaved ?_ fun _ _ hu => hu
    intro saved u hu
    cases saved with
    | false => exact wp_pure.mpr hu
    | true =>
      have hdone : Keeps r any (fun t => t.cfg = u.cfg) (answerDone plan.done) := by
        cases plan.done with
        | reply reply => exact Keeps.pure _
        | byActive reply => exact keeps_cfg_onNetw.seq <| Keeps.pure _
      exact wp_post (((Keeps.forEach fun op _ => keeps_cfg_onNetw.ignore).seq <| hdone) u rfl)
        fun _ _ hv => hv ▸ hu

/-- A request that answers settings that do not load, or loads them, saves what it decides on the
stored settings. -/
theorem wp_handle_cfg (hload : request.loadError r = none → r.loads = true) (hs : J s.cfg)
    (h : (request.decide r s s.cfg).Saves J s.cfg) :
    wp (handle request) r any (fun _ t => J t.cfg) s := by
  by_cases hloads : r.loads = true
  · refine wp_handle (Q := fun t => J t.cfg) hs fun cfg plan hcfg hplan => ?_
    rw [hcfg hloads] at hplan
    rw [hplan] at h
    exact wp_carryOut_cfg hs h
  · obtain ⟨reply, hreply⟩ : ∃ reply, request.loadError r = some reply :=
      Option.ne_none_iff_exists'.mp fun hnone => hloads (hload hnone)
    simp only [handle, wp_bind, wp_env, wp_state, onOk_ok, hloads, hreply, Bool.false_eq_true,
      if_false, wp_pure]
    exact hs

theorem keeps_cfg_connectTo {cfg' : Config} {server : Server} {ip : Addr} :
    Keeps r any (fun t => t.cfg = cfg') (connectTo cfg server ip) := by
  refine Keeps.bind (Keeps.assign fun _ ht => ht) fun _ => ?_
  refine Keeps.env.seq <| Keeps.state.seq <| keeps_cfg_onNetw.attempt.bind fun x => ?_
  cases x with
  | error e => exact Keeps.pure _
  | ok u => exact keeps_cfg_onNetw.ignore.guard.seq <| Keeps.pure _

theorem keeps_cfg_connectServer {cfg' : Config} {server : Server} :
    Keeps r any (fun t => t.cfg = cfg') (connectServer cfg server) := by
  refine Keeps.env.bind fun _ => keeps_cfg_onNetw.ignore.guard.bind fun _ => ?_
  split
  · exact Keeps.fail _
  · refine Keeps.bind (Keeps.assign fun _ ht => ht) fun _ => ?_
    split
    · exact Keeps.fail _
    · exact keeps_cfg_connectTo

theorem keeps_cfg_disconnect : Keeps r any (fun t => t.cfg = cfg) disconnect :=
  keeps_cfg_onNetw.seq <| Keeps.ite
    (keeps_cfg_onNetw.mapError.seq <| Keeps.pure _)
    (keeps_cfg_onNetw.ignore.seq <| Keeps.pure _)

/-- Only settings requests save, and they load the settings or answer. -/
def LoadsOrAnswers (i : DaemonStep) : Prop :=
  ∀ request, i.event = .settings request → request.loadError i.env = none → i.env.loads = true

/-- What a run keeps: a step keeps it if the settings request it handles saves settings that have
it. -/
theorem cfg_step {i : DaemonStep} (hload : LoadsOrAnswers i) (hs : J s.cfg)
    (h : ∀ request, i.event = .settings request →
      (request.decide i.env s s.cfg).Saves J s.cfg) : J (s.step i).cfg := by
  obtain ⟨event, r⟩ := i
  have hkept {m : RpcM Unit} (hm : Keeps r any (fun t => t.cfg = s.cfg) m) :
      J (m r s).final.cfg := by
    rw [(hm s rfl).2]
    exact hs
  cases event with
  | settings request =>
    exact (wp_discard (Q := fun t => J t.cfg)
      (wp_handle_cfg (hload request rfl) hs (h request rfl))).2
  | connect =>
    have hconnect : Keeps r any (fun t => t.cfg = s.cfg) connect := fun t ht =>
      wp_connect (fun _ => ht) (fun _ => ht) fun _ _ _ _ => keeps_cfg_connectServer t ht
    exact hkept (hconnect.seq <| Keeps.pure _)
  | disconnect => exact hkept (keeps_cfg_disconnect.seq <| Keeps.pure _)
  | networkChange stateIsUp => exact hkept keeps_cfg_onNetw

end Saves

/-! ### LAN discovery and the allowlist -/

section Discovery

variable {P : String → Bool} {r : DaemonEnv} {s : Rpc} {cfg : Config}

/-- With LAN discovery no subnet of the kind is allowlisted. -/
def Apart (P : String → Bool) (cfg : Config) : Prop :=
  cfg.lanDiscovery = true → ∀ subnet ∈ cfg.allowlist.subnets, P subnet = false

theorem getNewAllowlist_subnets {turns : Nat} {request : AllowlistRequest} {remove : Bool}
    {allowlist : Allowlist} (h : getNewAllowlist turns cfg request remove = some (.ok allowlist)) :
    allowlist.subnets = cfg.allowlist.subnets ∨ ∃ subnet, request = .subnet subnet ∧
      (cfg.lanDiscovery = true → containsPrivateNetwork subnet = false) ∧
      isSubnetValid subnet cfg.allowlist.subnets remove = none ∧
      allowlist =
      { cfg.allowlist with subnets := updateKeys remove cfg.allowlist.subnets [subnet] } := by
  cases request with
  | subnet subnet =>
    simp only [getNewAllowlist] at h
    split at h
    · cases h
    · rename_i hprivate
      split at h
      · cases h
      · rename_i hvalid
        cases h
        refine .inr ⟨subnet, rfl, fun hlan => ?_, hvalid, rfl⟩
        simpa [hlan] using hprivate
  | ports isUdp isTcp startPort endPort =>
    simp only [getNewAllowlist] at h
    split at h
    · cases h
    · cases h
    · split at h
      · cases h
      · cases h
      · cases h
        exact .inl rfl

/-- The requests that write one of the two settings. -/
def Request.ofDiscovery : Request → Bool
  | .setAllowlist _ | .unsetAllowlist _ | .setLANDiscovery _ | .setDefaults => true
  | _ => false

theorem saves_discovery (h : request.ofDiscovery = false) :
    (request.decide r s cfg).Saves
      (fun c => c.lanDiscovery = cfg.lanDiscovery ∧ c.allowlist = cfg.allowlist) cfg := by
  cases request with
  | setAllowlist asked | unsetAllowlist asked | setLANDiscovery enabled | setDefaults => cases h
  | setTechnology technology =>
    refine .guard fun _ => ?_
    split
    · trivial
    · exact .guard fun _ => ⟨rfl, rfl⟩
  | setProtocol protocol => exact .guard fun _ => .guard fun _ => ⟨rfl, rfl⟩
  | setObfuscate enabled => exact .guard fun _ => .guard fun _ => .guard fun _ => ⟨rfl, rfl⟩
  | setPostQuantum enabled => exact .guard fun _ => .guard fun _ => .guard fun _ => ⟨rfl, rfl⟩
  | setIpv6 enabled => exact .guard fun _ => ⟨rfl, rfl⟩
  | setDNS dns => exact .guard fun _ => .guard fun _ => .guard fun _ => ⟨rfl, rfl⟩
  | setThreatProtectionLite enabled => exact .guard fun _ => ⟨rfl, rfl⟩
  | setFirewall enabled => exact .guard fun _ => .guard fun _ => ⟨rfl, rfl⟩
  | setKillSwitch killSwitch allowlist => exact .guard fun _ => .guard fun _ => ⟨rfl, rfl⟩
  | setRouting enabled => exact .guard fun _ => .guard fun _ => ⟨rfl, rfl⟩
  | setAutoConnect enabled serverTag =>
    refine .guard fun _ => .guard fun _ => .ite (fun _ => ⟨rfl, rfl⟩) fun _ => ?_
    refine .guard fun _ => .guard fun _ => ?_
    split
    split
    · trivial
    · trivial
    · exact ⟨rfl, rfl⟩
  | enableMeshnet =>
    refine .guard fun _ => .guard fun _ => .guard fun _ => .guard fun _ => ?_
    split
    · trivial
    · exact ⟨rfl, rfl⟩
    · exact ⟨rfl, rfl⟩
  | disableMeshnet => exact .guard fun _ => ⟨rfl, rfl⟩

/-- Discovery removes the subnets of the kind, and later requests add none. -/
theorem apart_decide (hkeeps : ∀ subnet, keepsUnderDiscovery subnet = true → P subnet = false)
    (hadd : ∀ subnet, request = .setAllowlist (.subnet subnet) → cfg.lanDiscovery = true →
      containsPrivateNetwork subnet = false → P subnet = false)
    (h : Apart P cfg) : (request.decide r s cfg).Saves (Apart P) cfg := by
  have hupdate (asked : AllowlistRequest) (remove : Bool)
    (hasked : ∀ subnet, asked = .subnet subnet →
      remove = false → cfg.lanDiscovery = true → containsPrivateNetwork subnet = false →
      P subnet = false) : (updateAllowlist r asked remove cfg).Saves (Apart P) cfg := by
    unfold updateAllowlist
    split
    · trivial
    · trivial
    · rename_i allowlist hnew
      intro hlan subnet hsubnet
      change subnet ∈ allowlist.subnets at hsubnet
      rcases getNewAllowlist_subnets hnew with hsame | ⟨new, rfl, hprivate, -, rfl⟩
      · rw [hsame] at hsubnet
        exact h hlan subnet hsubnet
      · cases remove with
        | true => exact h hlan subnet (mem_updateKeys_delete.mp hsubnet).1
        | false =>
          rcases mem_updateKeys_insert.mp hsubnet with hold | hnewest
          · exact h hlan subnet hold
          · obtain rfl := List.mem_singleton.mp hnewest
            exact hasked subnet rfl rfl hlan (hprivate hlan)
  cases request with
  | setAllowlist asked =>
    exact hupdate asked false fun subnet hasked _ => hadd subnet (hasked ▸ rfl)
  | unsetAllowlist asked => exact hupdate asked true fun _ _ hremove => by cases hremove
  | setLANDiscovery enabled =>
    simp only [Request.decide, setLANDiscovery]
    split
    · trivial
    · intro hlan subnet hsubnet
      obtain rfl : enabled = true := hlan
      exact hkeeps subnet (List.mem_filter.mp hsubnet).2
  | setDefaults =>
    intro hlan
    cases hlan
  | _ =>
    refine (saves_discovery rfl).mono fun c hc => ?_
    unfold Apart
    rw [hc.1, hc.2]
    exact h

end Discovery

/-! ### All rules -/

/-- The address of an allowlisted subnet, read as the request that adds it reads it, is private or
link-local. -/
def isLocalSubnet (subnet : String) : Bool :=
  match parseCIDR subnet with
  | none => false
  | some net => net.addr.isPrivate || net.addr.isLinkLocalUnicast

/-- The rules between the settings. -/
structure Consistent (cfg : Config) : Prop where
  nordlynx : cfg.technology = .nordlynx →
    cfg.autoConnectData.protocol = .udp ∧ cfg.autoConnectData.obfuscate = false
  postQuantum : cfg.autoConnectData.postquantumVpn = true →
    cfg.technology = .nordlynx ∧ cfg.mesh = false
  threatProtectionLite : cfg.autoConnectData.threatProtectionLite = true →
    cfg.autoConnectData.dns = []
  killSwitch : cfg.killSwitch = true → cfg.firewall = true
  mesh : cfg.mesh = true → cfg.routing = true
  discovery :
    cfg.lanDiscovery = true → ∀ subnet ∈ cfg.allowlist.subnets, isLocalSubnet subnet = false

/-- The request leaves no rule unchecked: obfuscation is not enabled under NordLynx, meshnet not
without routing, and with LAN discovery no local subnet is added whose number of bits has a leading
zero. -/
def Request.Checked (cfg : Config) : Request → Prop
  | .setObfuscate enabled => enabled = true → cfg.technology ≠ .nordlynx
  | .enableMeshnet => cfg.routing = true
  | .setAllowlist (.subnet subnet) =>
    cfg.lanDiscovery = true → isLocalSubnet subnet = true → paddedBits subnet = false
  | _ => True

section Rules

variable {r : DaemonEnv} {s : Rpc} {cfg : Config}

theorem consistent_newConfig : Consistent newConfig where
  nordlynx _ := ⟨rfl, rfl⟩
  postQuantum h := nomatch h
  threatProtectionLite h := nomatch h
  killSwitch h := nomatch h
  mesh h := nomatch h
  discovery h := nomatch h

theorem isLocalSubnet_of_keeps {subnet : String} (h : keepsUnderDiscovery subnet = true) :
    isLocalSubnet subnet = false := by
  unfold isLocalSubnet
  split
  · rfl
  · rename_i net hnet
    rw [keepsUnderDiscovery, parsePrefix_of_parseCIDR hnet] at h
    split at h
    · cases h
    · rename_i net' hnet'
      split at hnet'
      · cases hnet'
      · cases hnet'
        simpa using h

theorem isLocalSubnet_of_checked {subnet : String}
    (hprivate : containsPrivateNetwork subnet = false)
    (h : isLocalSubnet subnet = true → paddedBits subnet = false) :
    isLocalSubnet subnet = false := by
  by_contra hlocal
  rw [Bool.not_eq_false] at hlocal
  have hpadded := h hlocal
  unfold isLocalSubnet at hlocal
  split at hlocal
  · cases hlocal
  · rename_i net hnet
    have hparse := parsePrefix_of_parseCIDR hnet
    rw [hpadded, if_neg Bool.false_ne_true] at hparse
    rw [containsPrivateNetwork, hparse] at hprivate
    exact absurd hprivate (by simp [hlocal])

/-- The allowlist requests write no setting that another rule is about. -/
theorem consistent_updateAllowlist {asked : AllowlistRequest} {remove : Bool} (h : Consistent cfg)
    (hapart : (updateAllowlist r asked remove cfg).Saves (Apart isLocalSubnet) cfg) :
    (updateAllowlist r asked remove cfg).Saves Consistent cfg := by
  unfold updateAllowlist at hapart ⊢
  split
  · trivial
  · trivial
  · rename_i allowlist hnew
    rw [hnew] at hapart
    exact { h with discovery := hapart }

theorem consistent_setTechnology {technology : Technology} (h : Consistent cfg) :
    (setTechnology r technology cfg).Saves Consistent cfg := by
  refine .guard fun _ => ?_
  split
  · trivial
  · refine .guard fun hpq => { h with nordlynx := ?_, postQuantum := ?_ }
    · intro htech
      obtain rfl : technology = .nordlynx := htech
      exact ⟨rfl, rfl⟩
    · intro hon
      refine ⟨?_, (h.postQuantum hon).2⟩
      by_contra htech
      exact hpq ⟨htech, hon⟩

theorem consistent_setDNS {dns : List String} (h : Consistent cfg) :
    (setDNS s dns cfg).Saves Consistent cfg := by
  refine .guard fun _ => .guard fun _ => .guard fun _ =>
    { h with threatProtectionLite := fun htpl => ?_ }
  -- the saved nameservers are empty if threat protection stays on
  exact List.isEmpty_iff.mp ((Bool.and_eq_true _ _).mp htpl).2

theorem consistent_setAutoConnect {enabled : Bool} {serverTag : String} (h : Consistent cfg) :
    (setAutoConnect r s enabled serverTag cfg).Saves Consistent cfg := by
  have hkept : Consistent { cfg with autoConnect := enabled } := { h with }
  refine .guard fun _ => .guard fun _ => .ite (fun _ => hkept) fun _ => .guard fun _ =>
    .guard fun _ => ?_
  split
  split
  · trivial
  · trivial
  · exact { hkept with }

theorem consistent_enableMeshnet (h : Consistent cfg) (hrouting : cfg.routing = true) :
    (enableMeshnet r cfg).Saves Consistent cfg := by
  refine .guard fun _ => .guard fun _ => .guard fun _ => .guard fun hpq => ?_
  split
  · trivial
  · exact { h with }
  · exact { h with postQuantum := fun hon => absurd hon hpq, mesh := fun _ => hrouting }

/-- A checked request saves settings that follow the rules. -/
theorem consistent_decide (h : Consistent cfg) (hchecked : request.Checked cfg) :
    (request.decide r s cfg).Saves Consistent cfg := by
  have hapart : (request.decide r s cfg).Saves (Apart isLocalSubnet) cfg := by
    refine apart_decide (fun _ => isLocalSubnet_of_keeps) ?_ h.discovery
    rintro subnet rfl hlan hprivate
    exact isLocalSubnet_of_checked hprivate (hchecked hlan)
  cases request with
  | setTechnology technology => exact consistent_setTechnology h
  | setProtocol protocol =>
    exact .guard fun _ => .guard fun htech =>
      { h with nordlynx := fun hnordlynx => absurd hnordlynx htech }
  | setObfuscate enabled =>
    refine .guard fun _ => .guard fun _ => .guard fun _ =>
      { h with nordlynx := fun htech => ⟨(h.nordlynx htech).1, ?_⟩ }
    exact Bool.eq_false_iff.mpr fun hon => hchecked hon htech
  | setPostQuantum enabled =>
    refine .guard fun _ => .guard fun hmesh => .guard fun htech =>
      { h with postQuantum := fun hon => ⟨not_not.mp htech, ?_⟩ }
    obtain rfl : enabled = true := hon
    change cfg.mesh = false
    simpa using hmesh
  | setIpv6 enabled =>
    exact .guard fun _ => { h with }
  | setDNS dns => exact consistent_setDNS h
  | setThreatProtectionLite enabled =>
    exact .guard fun _ => { h with threatProtectionLite := fun _ => rfl }
  | setLANDiscovery enabled =>
    simp only [Request.decide, setLANDiscovery] at hapart ⊢
    split
    · trivial
    · rename_i hchanged
      rw [if_neg hchanged] at hapart
      exact { h with discovery := hapart }
  | setAllowlist asked => exact consistent_updateAllowlist h hapart
  | unsetAllowlist asked => exact consistent_updateAllowlist h hapart
  | setFirewall enabled =>
    refine .guard fun _ => .guard fun hks => { h with killSwitch := fun hon => ?_ }
    have hon : cfg.killSwitch = true := hon
    simpa [hon] using hks
  | setKillSwitch killSwitch allowlist =>
    refine .guard fun hfirewall => .guard fun _ => { h with killSwitch := fun _ => ?_ }
    simpa using hfirewall
  | setRouting enabled =>
    refine .guard fun _ => .guard fun hmesh => { h with mesh := fun hon => ?_ }
    have hon : cfg.mesh = true := hon
    simpa [hon] using hmesh
  | setAutoConnect enabled serverTag => exact consistent_setAutoConnect h
  | enableMeshnet => exact consistent_enableMeshnet h hchecked
  | disableMeshnet =>
    exact .guard fun _ => { h with
      postQuantum := fun hon => ⟨(h.postQuantum hon).1, rfl⟩
      mesh := fun hon => by cases hon }
  | setDefaults => exact consistent_newConfig

/-- A step that reads the stored settings and leaves no rule unchecked. -/
def CheckedStep (s : Rpc) (i : DaemonStep) : Prop :=
  LoadsOrAnswers i ∧ ∀ request, i.event = .settings request → request.Checked s.cfg

/-- The settings stay consistent in every run of requests that leave no rule unchecked. -/
theorem settings_stay_consistent {s₀ : Rpc} (hstart : s₀.cfg = newConfig)
    (h : Rpc.Reached CheckedStep s₀ s) : Consistent s.cfg := by
  refine h.invariant (I := fun s => Consistent s.cfg) (hstart ▸ consistent_newConfig) ?_
  intro s i hs hi
  exact cfg_step hi.1 hs fun request hrequest => consistent_decide hs (hi.2 request hrequest)

end Rules

/-- Services that succeed, with an empty meshnet. -/
def calmEnv : DaemonEnv := { DaemonEnv.working { station := "1.2.3.4" } with meshMap := .map {} }

def calmStep (request : Request) : DaemonStep := ⟨.settings request, calmEnv⟩

/-- The daemon after these requests from start-up. -/
def calmRun (requests : List Request) : Rpc :=
  (requests.map calmStep).foldl Rpc.step (Rpc.startUp newConfig 0xe1f1)

theorem consistent_with_obfuscation :
    Consistent (calmRun [.setTechnology .openvpn, .setObfuscate true]).cfg := by
  have hstart : (Rpc.startUp newConfig 0xe1f1).cfg = newConfig := rfl
  refine settings_stay_consistent hstart
    (.tail (calmStep (.setObfuscate true)) (.tail (calmStep (.setTechnology .openvpn)) .refl ?_) ?_)
  · refine ⟨fun _ _ _ => rfl, ?_⟩
    rintro asked ⟨⟩
    trivial
  · refine ⟨fun _ _ _ => rfl, ?_⟩
    rintro asked ⟨⟩ -
    decide

/-- Obfuscation is enabled under NordLynx, meshnet without routing, and with LAN discovery a private
subnet is allowlisted. -/
theorem inconsistent_settings_stored :
    ¬ Consistent (calmRun [.setObfuscate true]).cfg ∧
    ¬ Consistent (calmRun [.setRouting false, .enableMeshnet]).cfg ∧
    ¬ Consistent (calmRun [.setLANDiscovery true, .setAllowlist (.subnet "10.0.0.0/08")]).cfg := by
  refine ⟨fun h => ?_, fun h => ?_, fun h => ?_⟩
  · exact absurd (h.nordlynx (by decide)).2 (by decide)
  · exact absurd (h.mesh (by decide)) (by decide)
  · exact absurd (h.discovery (by decide) "10.0.0.0/08" (by decide)) (by decide)

end NordVPN.Daemon
