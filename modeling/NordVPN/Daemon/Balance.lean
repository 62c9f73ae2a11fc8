import NordVPN.Daemon.Rpc
import NordVPN.Networker.Bookkeeping

/-!
The networker under the daemon.

What every call of a request keeps of the networker, the request keeps. The books of
`NordVPN.Networker.Bookkeeping` are kept in this way: with working dependencies the network
stays set exactly while the VPN or the kill switch is, whatever the requests are.
-/

namespace NordVPN.Daemon

open NordVPN.Netip NordVPN.Networker NordVPN.Servers Prog

/-! ### Invariants of the networker -/

section Lift

variable {r : DaemonEnv} {I : World → Prop}

theorem keeps_onNetw {α : Type} {m : Netw α} (h : Keeps r.netw any I m) :
    Keeps r any (fun s => I s.netw) (onNetw m) :=
  fun s hs => wp_onNetw.mpr (h s.netw hs)

variable {Q : Rpc → Prop} {s : Rpc} {server : Server}

/-- The answer of a request is forgotten between the steps of a run. -/
theorem wp_discard {α : Type} {m : RpcM α} (h : wp m r any (fun _ t => Q t) s) :
    wp (do let _ ← m; pure ()) r any (fun _ t => Q t) s :=
  wp_keeps h fun _ => Keeps.pure _

theorem wp_load {A : Rpc → Prop} {Q : Except Error Config → Rpc → Prop} :
    wp load r A Q s ↔ Q (.ok (if r.loads then s.cfg else newConfig)) s := by
  simp only [load, wp_bind, wp_env, wp_state, onOk_ok, wp_pure]

theorem keeps_callAll {J : Rpc → Prop} {calls : List NetwCall}
    (h : ∀ c ∈ calls, Keeps r any J (onNetw c.op.exec)) : Keeps r any J (callAll calls) := by
  induction calls with
  | nil => exact Keeps.pure _
  | cons c rest ih =>
    rw [List.forall_mem_cons] at h
    refine h.1.attempt.bind fun x => ?_
    split
    · exact Keeps.pure _
    · exact ih h.2

/-- Every call of the plan keeps `I`. -/
structure PlanKeeps (r : DaemonEnv) (I : World → Prop) (plan : Plan) : Prop where
  before : ∀ c ∈ plan.before, Keeps r.netw (fun _ => True) I c.op.exec
  after : ∀ op ∈ plan.after, Keeps r.netw (fun _ => True) I op.exec

theorem keeps_saveWith (f : Config → Config) : Keeps r any (fun s => I s.netw) (saveWith f) := by
  have hupdate : Keeps r any (fun s : Rpc => I s.netw)
      (update fun s => { s with cfg := f s.cfg } : RpcM Unit) :=
    Keeps.assign fun _ hs => hs
  exact Keeps.env.seq <| (hupdate.seq <| Keeps.pure _).ite (Keeps.pure _)

theorem keeps_carryOut {plan : Plan} (h : PlanKeeps r I plan)
    (hactive : Keeps r.netw any I isConnectedToVPN) :
    Keeps r any (fun s => I s.netw) (carryOut plan) := by
  refine (keeps_callAll fun c hc => keeps_onNetw (h.before c hc)).bind fun failed => ?_
  cases failed with
  | some reply => exact Keeps.pure _
  | none =>
    refine (keeps_saveWith _).bind fun saved => Keeps.ite (Keeps.bind (Keeps.forEach fun op hop =>
      (keeps_onNetw (h.after op hop)).ignore) fun _ => ?_) (Keeps.pure _)
    cases plan.done with
    | reply reply => exact Keeps.pure _
    | byActive reply => exact (keeps_onNetw hactive).seq <| Keeps.pure _

/-- A settings request is answered at once, or its plan is carried out. -/
theorem wp_handle {request : Request} (hs : Q s)
    (h : ∀ cfg plan, (r.loads = true → cfg = s.cfg) → request.decide r s cfg = .proceed plan →
      wp (carryOut plan) r any (fun _ t => Q t) s) :
    wp (handle request) r any (fun _ t => Q t) s := by
  unfold handle
  rw [wp_bind, wp_env, onOk_ok, wp_bind, wp_state, onOk_ok]
  split
  · exact wp_pure.mpr hs
  · rw [wp_bind, wp_load, onOk_ok]
    split
    · exact wp_pure.mpr hs
    · exact wp_pure.mpr hs
    · rename_i plan hplan
      exact wp_keeps (h _ plan (fun hloads => if_pos hloads) hplan) fun _ => Keeps.pure _

/-- A settings request keeps what every call it may make keeps. -/
theorem wp_handle_keeps {request : Request} (hs : I s.netw)
    (h : ∀ cfg plan, (r.loads = true → cfg = s.cfg) → request.decide r s cfg = .proceed plan →
      PlanKeeps r I plan) (hactive : Keeps r.netw any I isConnectedToVPN) :
    wp (handle request) r any (fun _ t => I t.netw) s :=
  wp_handle (Q := fun t => I t.netw) hs fun cfg plan hcfg hplan =>
    keeps_carryOut (h cfg plan hcfg hplan) hactive s hs

/-- A call that succeeds is followed by the rest. -/
theorem wp_callAll_cons {c : NetwCall} {rest : List NetwCall}
    {Q : Except Error (Option Reply) → Rpc → Prop}
    (h : wp c.op.exec r.netw any (fun x w => x = .ok () ∧
      wp (callAll rest) r any Q { s with netw := w }) s.netw) :
    wp (callAll (c :: rest)) r any Q s := by
  refine wp_bind.mpr (wp_attempt.mpr (wp_onNetw.mpr (wp_post h ?_)))
  rintro x w ⟨rfl, hw⟩
  exact hw

/-- A plan whose calls succeed and that only saves afterwards. -/
theorem wp_carryOut {plan : Plan} {reply : Reply} (hsaves : r.saves = true)
    (hafter : plan.after = []) (hdone : plan.done = .reply reply)
    (h : wp (callAll plan.before) r any
      (fun x t => x = .ok none ∧ Q { t with cfg := plan.save t.cfg }) s) :
    wp (carryOut plan) r any (fun _ t => Q t) s := by
  refine wp_returns h fun t ht => ?_
  simp only [saveWith, hsaves, hafter, hdone, answerDone, if_pos, wp_bind, wp_env, onOk_ok,
    wp_update, wp_pure, wp_forEach_nil, true_and]
  exact ht

/-- `Connect` ends early, or goes on with the server that was chosen. -/
theorem wp_connect {Q : Except Error (List Reply) → Rpc → Prop} (herror : ∀ e, Q (.error e) s)
    (hearly : ∀ reply, Q (.ok [reply]) s)
    (hserver : ∀ cfg server, (r.loads = true → cfg = s.cfg) → r.selectServer cfg = .ok server →
      wp (connectServer cfg server) r any Q s) :
    wp connect r any Q s := by
  refine wp_env_bind.mpr ?_
  refine wp_ite.mpr ⟨fun _ => wp_fail.mpr (herror _), fun _ => ?_⟩
  split
  · exact wp_pure.mpr (hearly _)
  · exact wp_pure.mpr (hearly _)
  · rw [wp_bind, wp_load, onOk_ok]
    split
    · exact wp_pure.mpr (hearly _)
    · exact wp_fail.mpr (herror _)
    · exact hserver _ _ (fun hloads => if_pos hloads) ‹_›

/-- The addresses of an endpoint are those of the server. -/
theorem mem_of_endpoint {ipv6 : Bool} {endpoint : Endpoint} {a : Addr}
    (h : (if ipv6 then some (defaultEndpoint r.resolves server.ips)
      else server.ipv4.map newIPv4Endpoint) = some endpoint) (ha : a ∈ endpoint.ips) :
    a ∈ server.ips ++ server.ipv4.toList := by
  rw [List.mem_append]
  cases ipv6 with
  | true =>
    cases h
    exact .inl ha
  | false =>
    obtain ⟨ip, hip, rfl⟩ := Option.map_eq_some_iff.mp h
    obtain rfl := List.mem_singleton.mp ha
    exact .inr (Option.mem_toList.mpr hip)

/-- `connect` up to the start of the networker: IPv6 may be permitted, and the endpoint is
set. -/
theorem wp_connectServer {Q : Except Error (List Reply) → Rpc → Prop} {cfg : Config} (hs : I s.netw)
    (hpermit : cfg.ipv6 = true → Keeps r.netw any I Api.permitIPv6)
    (herror : ∀ e w endpoint, I w → Q (.error e) { s with netw := w, endpoint })
    (hto : ∀ ip w endpoint, I w → Endpoint.ip endpoint = some ip →
      (∀ a ∈ endpoint.ips, a ∈ server.ips ++ server.ipv4.toList) →
      wp (connectTo cfg server ip) r any Q { s with netw := w, endpoint }) :
    wp (connectServer cfg server) r any Q s := by
  refine wp_env_bind.mpr ?_
  refine wp_seq (P := fun _ t => ∃ w, I w ∧ t = { s with netw := w }) (wp_when.mpr
    ⟨fun hipv6 => wp_ignore.mpr (wp_onNetw.mpr (wp_post (hpermit hipv6 s.netw hs)
      fun _ w hw => ⟨w, hw, rfl⟩)), fun _ => ⟨s.netw, hs, rfl⟩⟩) ?_ ?_
  · rintro _ _ ⟨w, hw, rfl⟩
    split
    · exact wp_fail.mpr (herror _ w s.endpoint hw)
    · rename_i endpoint hendpoint
      refine wp_update_bind.mpr ⟨trivial, ?_⟩
      split
      · exact wp_fail.mpr (herror _ w _ hw)
      · exact hto _ w _ hw ‹_› fun a ha => mem_of_endpoint hendpoint ha
  · rintro e _ ⟨w, hw, rfl⟩
    exact herror e w s.endpoint hw

/-- The payloads of a failed `connect` do not report a connection. -/
theorem failed_ne_connected (canceled : Bool) :
    (.ok [.connecting, if canceled then .disconnected else .failure] : Except Error (List Reply)) ≠
      .ok [.connecting, .connected] := by
  cases canceled <;> simp

/-- `connect` from the start of the networker on. -/
theorem wp_connectTo {Q : Except Error (List Reply) → Rpc → Prop} {cfg : Config} {ip : Addr}
    (h : wp (Api.start cfg.credentials { ip, hostname := server.hostname } cfg.allowlist
      (connectNameservers s cfg server) true) r.netw any (fun x w =>
        match x with
        | .error _ => Q (.ok [.connecting, if r.canceled then .disconnected else .failure])
            { s with netw := w, lastServer := server }
        | .ok _ => wp (when (!server.supportsIPv6) (ignore denyIPv6)) r.netw any
            (fun _ u => Q (.ok [.connecting, .connected])
              { s with netw := u, lastServer := server }) w) s.netw) :
    wp (connectTo cfg server ip) r any Q s := by
  refine wp_update_bind.mpr ⟨trivial, ?_⟩
  rw [wp_bind, wp_env, onOk_ok, wp_bind, wp_state, onOk_ok, wp_bind]
  refine wp_attempt.mpr (wp_onNetw.mpr (wp_post h ?_))
  intro x w hx
  rw [onOk_ok]
  cases x with
  | error e => exact wp_pure.mpr hx
  | ok u =>
    have hx := wp_when.mp hx
    refine wp_next (P := Q (.ok [.connecting, .connected]))
      (wp_when.mpr ⟨fun hv6 => wp_ignore.mpr (wp_onNetw.mpr ?_), fun hv4 => ⟨rfl, hx.2 hv4⟩⟩)
      fun t ht => wp_pure.mpr ht
    exact wp_post (wp_ignore.mp (hx.1 hv6)) fun _ _ hu => ⟨rfl, hu⟩

end Lift

/-! ### The books of the network -/

section Balance

variable {r : DaemonEnv} {s : Rpc} (hs : Balanced s.netw)
include hs

theorem balanced_setIpv6 (enabled : Bool) :
    wp (handle (.setIpv6 enabled)) r any (fun _ t => Balanced t.netw) s := by
  refine wp_handle_keeps hs (fun cfg plan _ hplan => ?_) (keeps_isConnectedToVPN balanced_quiet)
  simp only [Request.decide, setIpv6] at hplan
  split at hplan <;> cases hplan
  exact ⟨nofun, nofun⟩

variable (hr : r.netw.Succeeds)
include hr

/-- The kill switch, with an allowlist whose subnets are CIDRs. -/
theorem balanced_handle_setKillSwitch {killSwitch : Bool} {a : Allowlist} (ha : a.Parses) :
    wp (handle (.setKillSwitch killSwitch a)) r any
      (fun _ t => Balanced t.netw) s := by
  refine wp_handle_keeps hs (fun cfg plan _ hplan => ?_) (keeps_isConnectedToVPN balanced_quiet)
  simp only [Request.decide, setKillSwitch] at hplan
  split at hplan
  · cases hplan
  · split at hplan <;> cases hplan
    refine ⟨fun c hc => ?_, nofun⟩
    obtain rfl := List.mem_singleton.mp hc
    cases killSwitch with
    | true => exact fun w hw => Networker.balanced_setKillSwitch hr ha hw
    | false => exact fun w hw => balanced_unsetKillSwitch hr hw

/-- `Disconnect`, unless it finds a VPN whose tunnel has dropped: it would then remove the
network of that VPN. -/
theorem balanced_disconnect
    (hup : s.netw.netw.isVpnSet = true → s.netw.isConnected r.netw = true) :
    wp disconnect r any (fun _ t => Balanced t.netw) s := by
  refine wp_bind.mpr (wp_onNetw.mpr (wp_isConnectedToVPN fun t hnetw hfw hlink => ⟨trivial, ?_⟩))
  have ht : Balanced t :=
    balanced_quiet.quiet (core_of_netw hnetw hfw) (link_of_netw hnetw hlink) hs
  rw [onOk_ok]
  refine wp_ite.mpr ⟨fun _ => ?_, fun hdown => ?_⟩
  · exact ((keeps_onNetw (I := Balanced) fun w hw => balanced_apiStop hr hw).mapError.bind
      fun _ => Keeps.pure _) _ ht
  · refine wp_keeps (wp_ignore.mpr (wp_onNetw.mpr (wp_netw_bind.mpr
      (wp_when.mpr ⟨fun hks => ?_, fun _ => ht⟩)))) fun _ => Keeps.pure _
    have hvpn : t.netw.isVpnSet = false := by
      rw [hnetw]
      exact Bool.eq_false_iff.mpr fun hvpn => hdown (hup hvpn)
    -- neither the kill switch nor the VPN is on, so there is nothing to remove
    obtain ⟨ks, v, hbooks⟩ := ht.off hvpn
    obtain rfl : ks = false := by
      rw [← hbooks.2.isKillSwitchSet]
      simpa using hks
    exact wp_post (unsetNetwork_absent (hbooks.2.clear rfl _ (by decide))) fun _ u hu => hu.2 ▸ ht

/-- `Connect`; a successful one leaves the network set. -/
theorem balanced_connect (hloads : r.loads = true) (ha : s.cfg.allowlist.Parses)
    (hdns : s.netw.netw.isVpnSet = false → s.netw.netw.isNetworkSet = true →
      s.cfg.allowlist.allowsDNS = true → s.netw.netw.allowlist.allowsDNS = true) :
    wp connect r any (fun x t => Balanced t.netw ∧
      (x = .ok [.connecting, .connected] → t.netw.netw.isNetworkSet = true)) s := by
  refine wp_connect (fun _ => ⟨hs, nofun⟩) (fun _ => ⟨hs, nofun⟩) fun cfg server hcfg _ => ?_
  obtain rfl := hcfg hloads
  -- permitting IPv6 changes nothing the books speak of
  have hquiet : QuietInvariant any
      (fun w => w.core = s.netw.core ∧ w.link = s.netw.link) :=
    ⟨fun _ _ => trivial, fun hcore hlink hw => ⟨hcore.trans hw.1, hlink.trans hw.2⟩⟩
  refine wp_connectServer (I := fun w => w.core = s.netw.core ∧ w.link = s.netw.link) ⟨rfl, rfl⟩
    (fun _ => (keeps_setNetw_quiet hquiet (fun _ => rfl) fun _ => rfl).seq <|
      keeps_call hquiet _ rfl) (fun _ w _ hw => ⟨balanced_quiet.quiet hw.1 hw.2 hs, nofun⟩) ?_
  rintro ip w endpoint ⟨hcore, hlink⟩ - -
  refine wp_connectTo
    (wp_post (balanced_apiStart hr ha (balanced_quiet.quiet hcore hlink hs) ?_) ?_)
  · rw [show w.netw.isVpnSet = s.netw.netw.isVpnSet from congrArg Link.isVpnSet hlink,
      show w.netw.isNetworkSet = s.netw.netw.isNetworkSet from congrArg Core.isNetworkSet hcore,
      show w.netw.allowlist = s.netw.netw.allowlist from congrArg Core.allowlist hcore]
    exact hdns
  · rintro x t ⟨ht, hset⟩
    cases x with
    | error e => exact ⟨ht, fun h => absurd h (failed_ne_connected _)⟩
    | ok u =>
      have hkeep : QuietInvariant any
          (fun w => Balanced w ∧ w.netw.isNetworkSet = true) :=
        ⟨fun _ _ => trivial, fun hcore hlink hw => ⟨balanced_quiet.quiet hcore hlink hw.1,
          (congrArg Core.isNetworkSet hcore).trans hw.2⟩⟩
      exact wp_post (Keeps.when (fun _ => (keeps_denyIPv6 hkeep).ignore) t ⟨ht, hset rfl⟩)
        fun _ _ hu => ⟨hu.1, fun _ => hu.2⟩

end Balance

end NordVPN.Daemon
