import NordVPN.Networker.Session
import NordVPN.Networker.Tracking

/-!
A failed `SetMesh` over a running VPN.

`setMesh` flushes the VPN's route before it enables the mesh, and its recovery knows nothing
of the VPN: it cleans up the routing rules the VPN shares and flushes every tracked rule, the
one against DNS leaks included. What the VPN loses depends on the call that failed.
-/

namespace NordVPN.Networker

open NordVPN.Netip Prog

/-! ### Routing, read from the log -/

/-- What call number `n` to `policyRouter` leaves. A `SetupRoutingRules` that fails removes the
rules, unless it has failed early: the rp filter or the interface groups, which come before its
recovery is deferred, could not be set. `CleanupRouting` removes the rules before anything in it
can fail. -/
def policyEffect (early : Nat → Bool) (n : Nat) : Call × Bool → Option Bool
  | (.setupRoutingRules .., true) => some true
  | (.setupRoutingRules .., false) => if early n then none else some false
  | (.cleanupRouting, _) => some false
  | _ => none

/-- What the calls of a log leave, the latest one standing first. -/
def rulesLeft (early : Nat → Bool) : List (Call × Bool) → Bool
  | [] => false
  | entry :: earlier => (policyEffect early earlier.length entry).getD (rulesLeft early earlier)

/-- What a call to the router of the VPN leaves. -/
def routeEffect : Call × Bool → Option Bool
  | (.routerAdd .vpn _, true) => some true
  | (.routerFlush .vpn, true) => some false
  | _ => none

/-- What the latest call with an effect left. -/
def World.latest (effect : Call × Bool → Option Bool) (w : World) : Bool :=
  (w.log.findSome? effect).getD false

/-- The policy routing rules are set up. -/
def World.rulesApplied (early : Nat → Bool) (w : World) : Bool := rulesLeft early w.log

/-- The default route to the tunnel is in the router. -/
def World.defaultRoute (w : World) : Bool := w.latest routeEffect

theorem latest_after (effect : Call × Bool → Option Bool) (w : World) (r : Env) (c : Call)
    (fails : Bool) :
    (w.after r c fails).latest effect = (effect (c, !fails)).getD (w.latest effect) := by
  change (List.findSome? effect ((c, !fails) :: w.log)).getD false = _
  rw [List.findSome?_cons]
  cases effect (c, !fails) <;> rfl

/-- The routing of the VPN. -/
structure Routing (early : Nat → Bool) (applied route vpn : Bool) (w : World) : Prop where
  applied : w.rulesApplied early = applied
  route : w.defaultRoute = route
  vpn : w.netw.isVpnSet = vpn

/-- The calls that change neither the rules nor the route. -/
def Call.offRoute (c : Call) : Bool :=
  match c with
  | .setupRoutingRules .. | .cleanupRouting | .routerAdd .vpn _ | .routerFlush .vpn => false
  | _ => true

section View

variable {r : Env} {w : World} {early : Nat → Bool} {applied route vpn : Bool}

/-- What a call does to the routing. -/
theorem Routing.after (hw : Routing early applied route vpn w) (r : Env) (c : Call)
    (fails : Bool) :
    Routing early ((policyEffect early w.log.length (c, !fails)).getD applied)
      ((routeEffect (c, !fails)).getD route) vpn (w.after r c fails) where
  applied := by
    rw [← hw.applied]
    rfl
  route := (latest_after _ _ _ _ _).trans (by rw [← hw.route]; rfl)
  vpn := hw.vpn

/-- A `SetupRoutingRules` that fails late has removed the rules. -/
theorem Routing.refused (hw : Routing early applied route vpn w) (r : Env)
    (ipv6 enableLocal lanDiscovery : Bool) (subnets : List String) :
    let t := w.after r (.setupRoutingRules ipv6 enableLocal lanDiscovery subnets) true
    (early w.log.length = true ∧ Routing early applied route vpn t) ∨
      (early w.log.length = false ∧ Routing early false route vpn t) := by
  have hafter := hw.after r (.setupRoutingRules ipv6 enableLocal lanDiscovery subnets) true
  rw [Bool.not_true, policyEffect] at hafter
  cases hearly : early w.log.length with
  | true =>
    rw [hearly, if_pos rfl] at hafter
    exact .inl ⟨rfl, hafter⟩
  | false =>
    rw [hearly, if_neg Bool.false_ne_true] at hafter
    exact .inr ⟨rfl, hafter⟩

theorem routing_deaf : Deaf Call.offRoute (Routing early applied route vpn) where
  unheard {w c} r fails hc hw := by
    have hafter := hw.after r c fails
    have hnone : policyEffect early w.log.length (c, !fails) = none ∧
        routeEffect (c, !fails) = none := by
      cases c with
      | setupRoutingRules | cleanupRouting => cases hc
      | routerAdd router | routerFlush router =>
        cases router with
        | vpn => cases hc
        | _ => exact ⟨rfl, rfl⟩
      | _ => exact ⟨rfl, rfl⟩
    rw [hnone.1, hnone.2] at hafter
    exact hafter
  stays hsession _ hlog hw := by
    refine ⟨?_, ?_, (congrArg Session.isVpnSet hsession).trans hw.vpn⟩
    · rw [World.rulesApplied, hlog]
      exact hw.applied
    · rw [World.defaultRoute, World.latest, hlog]
      exact hw.route

/-- The recovery of `setMesh` takes the routing rules down if it is told that they were set. -/
theorem meshRecover_routing {routingRulesSet : Bool} (hw : Routing early applied route vpn w) :
    wp (meshRecover routingRulesSet) r any
      (fun _ t => Routing early (!routingRulesSet && applied) route vpn t) w := by
  refine wp_keeps
    (wp_when.mpr ⟨fun hset => wp_ignore.mpr (wp_call.mpr ⟨trivial, ?_⟩), fun hnot => ?_⟩)
    fun _ => ?_
  · rw [hset]
    exact hw.after r .cleanupRouting _
  · rw [hnot]
    exact hw
  · exact routing_deaf.keeps_defaultMeshUnBlock.ignore.seq <|
      (routing_deaf.keeps_call rfl).ignore.seq <| (routing_deaf.keeps_call rfl).ignore.seq <|
        (routing_deaf.keeps_call rfl).ignore.seq <| (routing_deaf.keeps_call rfl).ignore

end View

/-! ### The failing call -/

/-- The route that `addDefaultRoute` adds as call number `n`. -/
def defaultRouteOf (r : Env) (w : World) (n : Nat) : Route :=
  { subnet := .ofAddr (.ofBytes 0 0 0 0) 0, device := w.netw.tunName, tableID := r.tableID n }

/-- Of the calls that `setMesh` makes before it touches the meshnet rules (a flush, the mesh,
the table, the default route, the routing rules) the last one fails, and fails early. -/
structure RulesRefused (early : Nat → Bool) (r : Env) (w : World) (ip : Addr)
    (privateKey : String) : Prop where
  enabled : r.fails (w.log.length + 1) (.meshEnable ip privateKey) = false
  routed : r.fails (w.log.length + 3)
    (.routerAdd .vpn (defaultRouteOf r w (w.log.length + 2))) = false
  refused : r.fails (w.log.length + 4) (.setupRoutingRules false w.netw.enableLocalTraffic
    w.netw.lanDiscovery w.netw.allowlist.subnets) = true
  soon : early (w.log.length + 4) = true

section Prepare

/-- A call succeeds or fails. -/
theorem wp_call_of {r : Env} {w : World} {c : Call} {Q : Except Error Unit → World → Prop}
    (hok : r.fails w.log.length c = false → Q (.ok ()) (w.after r c false))
    (herror : r.fails w.log.length c = true →
      Q (.error (.external "dependency")) (w.after r c true)) :
    wp (call c) r any Q w := by
  refine wp_call.mpr ⟨trivial, ?_⟩
  cases hfails : r.fails w.log.length c with
  | false => exact hok hfails
  | true => exact herror hfails

variable {r : Env} {w : World} {early : Nat → Bool} {applied : Bool} {ip : Addr}
  {privateKey : String}

/-- A refused mesh leaves the VPN without its route, or closes the tunnel. -/
theorem enableMesh_failed {t : World} (ht : Routing early applied false true t)
    (hfails : r.fails t.log.length (.meshEnable ip privateKey) = true) :
    wp (enableMesh ip privateKey) r any (fun x u => ∃ e, x = .error e ∧
      (isErr .tunnelClosed e = true ∨ Routing early applied false true u)) t := by
  refine wp_bind.mpr (wp_attempt.mpr (wp_call.mpr ⟨trivial, ?_⟩))
  rw [hfails, onOk_ok]
  have hafter := ht.after r (.meshEnable ip privateKey) true
  refine wp_netw_bind.mpr (wp_ite.mpr ⟨fun _ => ?_, fun hnot => absurd hafter.vpn hnot⟩)
  refine wp_ask_bind.mpr ?_
  refine wp_ite.mpr ⟨fun _ => wp_fail.mpr ⟨_, rfl, .inr (hafter.after r .meshIsActive false)⟩,
    fun _ => wp_setNetw_bind.mpr ?_⟩
  exact wp_fail.mpr ⟨_, rfl, .inl rfl⟩

theorem enableMesh_done {t : World}
    (hfails : r.fails t.log.length (.meshEnable ip privateKey) = false) :
    wp (enableMesh ip privateKey) r any (fun x u => x = .ok () ∧
      u = t.after r (.meshEnable ip privateKey) false) t := by
  refine wp_bind.mpr (wp_attempt.mpr (wp_call.mpr ⟨trivial, ?_⟩))
  rw [hfails, onOk_ok]
  exact wp_pure.mpr ⟨rfl, rfl⟩

theorem addDefaultRoute_routing {t : World} (ht : Routing early applied false true t) :
    wp addDefaultRoute r any (fun x u =>
      (x = .ok () ∧ r.fails (t.log.length + 1)
          (.routerAdd .vpn (defaultRouteOf r t t.log.length)) = false ∧
        u.log.length = t.log.length + 2 ∧ Routing early applied true true u ∧ u.netw = t.netw ∧
          u.fw = t.fw) ∨
      x ≠ .ok () ∧ r.fails (t.log.length + 1)
          (.routerAdd .vpn (defaultRouteOf r t t.log.length)) = true ∧
        Routing early applied false true u) t := by
  refine wp_netw_bind.mpr (wp_ask_bind.mpr ?_)
  have hask := ht.after r .policyTableID false
  have hadd := hask.after r (.routerAdd .vpn (defaultRouteOf r t t.log.length))
  exact wp_mapError.mpr (wp_call_of (fun hok => .inl ⟨rfl, hok, rfl, hadd false, rfl, rfl⟩)
    fun hfails => .inr ⟨nofun, hfails, hadd true⟩)

/-- The rules or the route are missing. -/
def Unrouted (early : Nat → Bool) (w : World) : Prop :=
  ∃ applied route, Routing early applied route true w ∧ (applied && route) = false

/-- What `setMesh` leaves when it fails before the routing rules are set. -/
theorem prepareMesh_failed (hflush : ∀ n, r.fails n (.routerFlush .vpn) = false)
    (hw : Routing early applied true true w) :
    wp (prepareMesh ip privateKey) r any (fun x t =>
      (x = .ok () → ¬ RulesRefused early r w ip privateKey) ∧
      ∀ e, x = .error e → isErr .tunnelClosed e = true ∨
        ¬ RulesRefused early r w ip privateKey ∧ Unrouted early t ∨
        RulesRefused early r w ip privateKey ∧ Routing early applied true true t ∧
          t.netw = w.netw ∧ t.fw = w.fw) w := by
  have hnetw : w.netw.isVpnSet = true := hw.vpn
  refine wp_netw_bind.mpr ?_
  rw [hnetw]
  refine wp_bind.mpr (wp_when.mpr ⟨fun _ => wp_ignore.mpr (wp_call.mpr ⟨trivial, ?_⟩), nofun⟩)
  rw [hflush, onOk_ok]
  have hflushed := hw.after r (.routerFlush .vpn) false
  cases henable : r.fails (w.log.length + 1) (.meshEnable ip privateKey) with
  | true =>
    refine wp_seq (enableMesh_failed hflushed henable) ?_ ?_
    · rintro _ t ⟨e, h, -⟩
      cases h
    · rintro _ t ⟨e, h, ht⟩
      cases h
      refine ⟨nofun, fun e' he => ?_⟩
      cases he
      refine ht.imp_right fun ht => .inl ⟨fun hrefused => ?_, applied, false, ht, Bool.and_false _⟩
      exact absurd (henable.symm.trans hrefused.enabled) (by decide)
  | false =>
    refine wp_next (enableMesh_done henable) ?_
    rintro t rfl
    have henabled := hflushed.after r (.meshEnable ip privateKey) false
    refine wp_netw_bind.mpr (wp_seq (wp_when.mpr ⟨fun _ => addDefaultRoute_routing henabled,
      fun hnot => absurd (henabled.vpn.symm.trans hnot) (by decide)⟩) ?_ ?_)
    · rintro _ t (⟨-, hrouted, hlen, ht, hnetw, hfw⟩ | ⟨h, -⟩)
      · refine wp_mapError.mpr (wp_netw_bind.mpr (wp_call_of
          (fun hok => ⟨fun _ hrefused => ?_, nofun⟩) fun hfails => ⟨nofun, fun e _ => .inr ?_⟩))
        · have h := hrefused.refused
          rw [hnetw, hlen] at hok
          exact absurd (hok.symm.trans h) (by decide)
        · rw [hnetw, hlen] at hfails
          rcases ht.refused r _ _ _ _ with ⟨hsoon, hafter⟩ | ⟨hlate, hafter⟩
          · exact .inr ⟨⟨henable, hrouted, hfails, hlen ▸ hsoon⟩, hafter, hnetw, hfw⟩
          · refine .inl ⟨fun hrefused => ?_, false, true, hafter, rfl⟩
            cases (hlen ▸ hlate).symm.trans hrefused.soon
      · exact absurd rfl h
    · rintro e t (⟨h, -⟩ | ⟨-, hfails, ht⟩)
      · cases h
      · refine ⟨nofun, fun _ _ => .inr (.inl ⟨fun hrefused => ?_, applied, false, ht,
          Bool.and_false _⟩)⟩
        exact absurd (hfails.symm.trans hrefused.routed) (by decide)

end Prepare

/-! ### What is left of the VPN -/

/-- The VPN as it was in `w`: the routing rules are set up, the default route is in the router,
the VPN is set, and the rule against DNS leaks is in memory if it was. -/
structure VpnIntact (early : Nat → Bool) (w t : World) : Prop where
  applied : t.rulesApplied early = true
  route : t.defaultRoute = true
  vpn : t.netw.isVpnSet = true
  denied : denyDNSName ∈ w.names → denyDNSName ∈ t.names

/-- The calls whose errors `setMesh` only logs succeed: the flush of the VPN's route and the
deletion of rules. -/
structure Env.CleansUp (r : Env) : Prop where
  flush : ∀ n, r.fails n (.routerFlush .vpn) = false
  deletes : r.DeletesMesh

section Failure

variable {r : Env} {w : World} {early : Nat → Bool} {applied : Bool} {cfg : MachineMap}
  {ip : Addr} {privateKey : String}

/-- The recovery deletes the rule against DNS leaks with the meshnet rules. -/
theorem meshRecover_undenied (hdeletes : r.DeletesMesh) {routingRulesSet : Bool} (hw : Tracks w) :
    wp (meshRecover routingRulesSet) r any (fun _ t => denyDNSName ∉ t.names) w := by
  have hcall (c : Call) (hc : c.isQuiet = true) :
      Keeps r any Flushed (ignore (call c)) :=
    (keeps_call flushed_core.toQuiet c hc).ignore
  refine wp_next (P := Tracks) (wp_when.mpr ⟨fun _ => wp_ignore.mpr
    (wp_post (keeps_call tracks_core.toQuiet _ rfl w hw) fun _ _ h => ⟨rfl, h⟩),
      fun _ => ⟨rfl, hw⟩⟩)
    fun t ht => ?_
  refine wp_next (P := Flushed) (wp_ignore.mpr (wp_post
    (tracks_defaultMeshUnBlock hdeletes ht) fun _ _ h => ⟨rfl, h.2⟩)) fun u hu => ?_
  refine wp_post (((hcall _ rfl).seq <| (hcall _ rfl).seq <| (hcall _ rfl).bind
    fun _ => hcall _ rfl) u hu) fun _ v hv => ?_
  exact hv.1.free .denyDNS (by simp [hv.2])

/-- The routing rules are set up and stay so, and no rule against DNS leaks can be lost. -/
def Spared (early : Nat → Bool) (r : Env) (w : World) (ip : Addr) (privateKey : String) : Prop :=
  RulesRefused early r w ip privateKey ∧ w.rulesApplied early = true ∧ denyDNSName ∉ w.names

theorem prepareMesh_recovered (hclean : r.CleansUp) (htracks : Tracks w)
    (hw : Routing early applied true true w) :
    wp (onError (meshRecover false) (prepareMesh ip privateKey)) r any (fun x t =>
      (x = .ok () → ¬ RulesRefused early r w ip privateKey) ∧
      ∀ e, x = .error e → isErr .tunnelClosed e = false →
        (VpnIntact early w t ↔ Spared early r w ip privateKey)) w := by
  refine wp_recover (prepareMesh_failed hclean.flush hw) (fun _ _ h => ⟨fun _ => h.1 rfl, nofun⟩)
    fun e t h => ?_
  rcases h.2 e rfl with hclosed | ⟨hnot, ht⟩ | ⟨hrefused, ht, hnetw, hfw⟩
  · refine wp_post wp_true fun _ u _ => ⟨nofun, fun e' he hopen => ?_⟩
    cases he
    exact absurd (hclosed.symm.trans hopen) (by decide)
  · obtain ⟨applied', route, ht, hmissing⟩ := ht
    refine wp_post (meshRecover_routing ht) fun _ u hu => ⟨nofun, fun _ _ _ => ?_⟩
    refine ⟨fun h => ?_, fun h => absurd h.1 hnot⟩
    have happlied : applied' = true := hu.applied.symm.trans h.applied
    have hroute : route = true := hu.route.symm.trans h.route
    rw [happlied, hroute] at hmissing
    cases hmissing
  · have htracks' : Tracks t := by
      rw [Tracks, World.names, hnetw, hfw]
      exact htracks
    refine wp_post (wp_both (meshRecover_routing ht)
      (meshRecover_undenied hclean.deletes htracks')) fun _ u hu => ⟨nofun, fun _ _ _ => ?_⟩
    have happlied : u.rulesApplied early = w.rulesApplied early :=
      hu.1.applied.trans hw.applied.symm
    exact ⟨fun h => ⟨hrefused, happlied.symm.trans h.applied, fun hmem => hu.2 (h.denied hmem)⟩,
      fun h => ⟨happlied.trans h.2.1, hu.1.route, hu.1.vpn, fun hmem => absurd hmem h.2.2⟩⟩

/-- A failed `setMesh` over a running VPN leaves it intact only if the routing rules were
refused early and there was no rule against DNS leaks. -/
theorem setMesh_failed (hclean : r.CleansUp) (htracks : Tracks w)
    (hw : Routing early applied true true w) (hmesh : w.netw.isMeshnetSet = false) :
    wp (setMesh cfg ip privateKey) r any (fun x t =>
      ∀ e, x = .error e → isErr .tunnelClosed e = false →
        (VpnIntact early w t ↔ Spared early r w ip privateKey)) w := by
  refine wp_netw_bind.mpr ?_
  rw [hmesh, if_neg (by decide)]
  refine wp_seq (prepareMesh_recovered hclean htracks hw) (fun _ t ht => ?_) fun e _ h => h.2
  refine wp_recover wp_true (fun _ _ _ _ => nofun) fun e u _ => ?_
  have hrouting : Routing early (u.rulesApplied early) _ _ u := ⟨rfl, rfl, rfl⟩
  refine wp_post (meshRecover_routing hrouting) fun _ v hv _ _ _ => ?_
  exact ⟨fun h => absurd (hv.applied.symm.trans h.applied) (by simp), fun h =>
    absurd h.1 (ht.1 rfl)⟩

end Failure

/-! ### Starting the VPN -/

/-- A VPN that is set has its route. The rules it may have lost: a `SetAllowlist` sets them up
again, and removes them if it fails in that. -/
def Routed (w : World) : Prop := w.netw.isVpnSet = true → w.defaultRoute = true

/-- The calls that do not take the route away. -/
def Call.addsRoute : Call → Bool
  | .routerFlush .vpn => false
  | _ => true

/-- The VPN is set or not, and the route is in the router if `d`. -/
structure AtLeast (vpn d : Bool) (w : World) : Prop where
  vpn : w.netw.isVpnSet = vpn
  route : d = true → w.defaultRoute = true

section Start

variable {r : Env} {w : World} {vpn d : Bool}

theorem effect_of_addsRoute {c : Call} (hc : c.addsRoute = true) (ok : Bool) :
    (routeEffect (c, ok)).getD true = true := by
  cases c with
  | routerAdd router => cases router <;> cases ok <;> rfl
  | routerFlush router =>
    cases router with
    | vpn => cases hc
    | _ => rfl
  | _ => rfl

theorem atLeast_deaf : Deaf Call.addsRoute (AtLeast vpn d) where
  unheard {w c} r fails hc hw := by
    refine ⟨hw.vpn, fun hd => ?_⟩
    have hroute : w.latest routeEffect = true := hw.route hd
    rw [World.defaultRoute, latest_after, hroute, effect_of_addsRoute hc]
  stays hsession _ hlog hw := by
    refine ⟨(congrArg Session.isVpnSet hsession).trans hw.vpn, fun hd => ?_⟩
    rw [World.defaultRoute, World.latest, hlog]
    exact hw.route hd

theorem addsRoute_of_ofNetwork (c : Call) (hc : c.ofNetwork = true) : c.addsRoute = true := by
  cases c with
  | routerFlush router =>
    cases router with
    | vpn => cases hc
    | _ => rfl
  | _ => rfl

theorem atLeast_ofNetwork : Deaf Call.ofNetwork (AtLeast vpn d) :=
  atLeast_deaf.mono addsRoute_of_ofNetwork

theorem atLeast_ofRefresh : Deaf Call.ofRefresh (AtLeast vpn d) :=
  atLeast_deaf.mono fun c hc => by cases c <;> first | rfl | cases hc

theorem routed_iff : Routed w ↔ AtLeast w.netw.isVpnSet w.netw.isVpnSet w :=
  ⟨fun hw => ⟨rfl, hw⟩, fun hw => hw.route⟩

theorem routed_deaf : Deaf Call.addsRoute Routed where
  unheard r fails hc hw := routed_iff.mpr (atLeast_deaf.unheard r fails hc (routed_iff.mp hw))
  stays {w t} hsession hup hlog hw := by
    have ht := atLeast_deaf.stays hsession hup hlog (routed_iff.mp hw)
    rw [routed_iff, ht.vpn]
    exact ht

variable (creds : Credentials) (serverData : ServerData) (nameservers : List String)

theorem keeps_atLeast_disableIPv6IfNeeded : Keeps r any (AtLeast vpn d) disableIPv6IfNeeded :=
  keeps_netw.seq <| Keeps.when fun _ => Keeps.bind (Keeps.assign
    fun _ hw => ⟨hw.vpn, hw.route⟩) fun _ => keeps_netw.seq <|
      Keeps.when fun _ => atLeast_deaf.keeps_call rfl

/-- The default route is in the router once it was added. -/
theorem addDefaultRoute_atLeast :
    Attains r (AtLeast vpn d) (AtLeast vpn true) addDefaultRoute := by
  intro w hw
  refine wp_netw_bind.mpr (wp_ask_bind.mpr ?_)
  have hask := atLeast_deaf.unheard (c := .policyTableID) r false rfl hw
  refine wp_mapError.mpr (wp_call_of (fun _ _ _ => ?_) fun _ _ => nofun)
  have hadd := atLeast_deaf.unheard (c := .routerAdd .vpn (defaultRouteOf r w w.log.length)) r false
    rfl hask
  exact ⟨hadd.vpn, fun _ => rfl⟩

theorem failureRecover_isVpnSet :
    wp failureRecover r any (fun _ t => t.netw.isVpnSet = false) w := by
  refine wp_netw_bind.mpr ?_
  refine NeverFails.ignore.when.next fun _ _ => NeverFails.ignore.next fun _ _ =>
    NeverFails.ignore.next fun _ _ => NeverFails.ignore.when.next fun _ _ =>
      NeverFails.ignore.when.next fun _ t => ?_
  exact wp_setNetw.mpr ⟨trivial, rfl⟩

/-- After a recovery the VPN is not set, so only a success matters. -/
theorem routed_onError {m : Netw Unit}
    (h : wp m r any (fun x t => x = .ok () → Routed t) w) :
    wp (onError failureRecover m) r any (fun _ t => Routed t) w :=
  wp_recover h (fun _ _ ht => ht rfl) fun _ _ _ => wp_post failureRecover_isVpnSet
    fun _ u hu hon => absurd (hu.symm.trans hon) (by decide)

theorem startBody_routed (allowlist : Allowlist) :
    Attains r (AtLeast false false) Routed (startBody creds serverData allowlist nameservers) := by
  have hconfigure {s : ServerData} : Attains r (AtLeast false false) (AtLeast false true)
      (configureNetwork allowlist s nameservers) :=
    (atLeast_ofNetwork.networked.keeps_configureFirewall _).attains <|
      addDefaultRoute_atLeast.seq <|
      (atLeast_deaf.keeps_configureDNS fun _ _ => rfl).attains <| keeps_netw.attains <|
        (atLeast_ofRefresh.keeps_refresh _).mapError.guard.attains <|
          .of_post keeps_atLeast_disableIPv6IfNeeded
  exact keeps_netw.attains <| (atLeast_deaf.keeps_startVpn rfl rfl).attains <|
    (keeps_netw.seq <| atLeast_deaf.keeps_call rfl).attains <| hconfigure.seq <|
      (atLeast_deaf.keeps_ask rfl _).attains <| .assign fun _ ht _ => ht.route rfl

theorem routed_start (allowlist : Allowlist) :
    Keeps r any Routed (start creds serverData allowlist nameservers) := by
  intro w hw
  refine wp_netw_bind.mpr (wp_ite.mpr ⟨fun _ => wp_fail.mpr hw, fun hvpn =>
    wp_ite.mpr ⟨fun _ => wp_fail.mpr hw, fun _ => routed_onError ?_⟩⟩)
  exact (startBody_routed _ _ _ _).ok ⟨by simpa using hvpn, nofun⟩ ()

theorem restartBody_routed : Attains r (AtLeast vpn d) Routed
    (restartBody creds serverData nameservers) := by
  have hflush : Attains r (AtLeast vpn d) (AtLeast vpn false)
      (ignore (call (.routerFlush .vpn))) :=
    .of_post fun _ hw => wp_ignore.mpr (wp_call.mpr ⟨trivial, hw.vpn, nofun⟩)
  have hswitch : Keeps r any (AtLeast vpn false) (setNetw Combined.switchToNextVpn) := by
    refine Keeps.assign fun w hw => ⟨?_, hw.route⟩
    rw [World.withNetw_netw, Combined.switchToNextVpn, ← hw.vpn]
    split <;> rfl
  exact hflush.seq <| (atLeast_deaf.keeps_call rfl).attains <| hswitch.attains <|
    keeps_netw.attains <| (atLeast_deaf.keeps_startVpn rfl rfl).attains <|
      addDefaultRoute_atLeast.seq <| (atLeast_deaf.keeps_configureDNS fun _ _ => rfl).attains <|
        keeps_atLeast_disableIPv6IfNeeded.ignore.attains <| .assign fun _ ht _ => ht.route rfl

theorem routed_restart : Keeps r any Routed (restart creds serverData nameservers) := by
  intro w hw
  refine wp_netw_bind.mpr (wp_ite.mpr ⟨fun _ => wp_fail.mpr hw, fun _ => routed_onError ?_⟩)
  exact (restartBody_routed _ _ _).ok (routed_iff.mp hw) ()

end Start

/-! ### Runs without a meshnet -/

section Runs

variable {r : Env}

/-- No meshnet was ever set. -/
def Meshless (w : World) : Prop := Tracks w ∧ w.netw.isMeshnetSet = false

theorem meshless_core : CoreInvariant any Meshless :=
  tracks_core.and fun h hw => (congrArg Core.isMeshnetSet h).trans hw

/-- What keeps the agreement of the rules, and is not of the meshnet. -/
theorem meshless_keeps {m : Netw Unit} (htracks : Keeps r any Tracks m)
    (hmesh : Keeps r any (fun w => w.netw.isMeshnetSet = false) m) :
    Keeps r any Meshless m :=
  htracks.and hmesh

theorem meshless_setNetwork (allowlist : Allowlist) : Keeps r any Meshless (setNetwork allowlist) :=
  meshless_keeps (tracks_setNetwork _) ((meshFlag_upkeep false).setNetwork _ trivial)

theorem meshless_apiStart (creds : Credentials) (serverData : ServerData) (allowlist : Allowlist)
    (nameservers : List String) (enableLocalTraffic : Bool) :
    Keeps r any Meshless
      (Api.start creds serverData allowlist nameservers enableLocalTraffic) := by
  have hunset : Keeps r any Meshless unsetNetwork :=
    meshless_keeps tracks_unsetNetwork (meshFlag_upkeep false).unsetNetwork
  have hipv6 : Keeps r any Meshless (fwDelete ipv6Names) :=
    meshless_keeps (tracks_fwDelete (by decide)) (meshFlag_upkeep false).ipv6
  have hreset : Keeps r any Meshless resetAllowlist :=
    meshless_keeps (tracks_unsetAllowlist.mapError.seq <| keeps_netw.seq <|
      (tracks_setAllowlist _).mapError) (meshFlag_upkeep false).resetAllowlist
  exact (keeps_setNetw_core meshless_core fun _ => rfl).seq <|
    (keeps_isConnectedToVPN meshless_core.toQuiet).seq <|
      (keeps_restart meshless_core (fun w hw _ => hunset w hw) hipv6 _ _ _).ite
        (keeps_start meshless_core (fun w hw _ => hunset w hw) hipv6 _ _ _
          (fun w hw => keeps_configureFirewall (meshless_setNetwork _ w hw) hreset)
          fun w hw hon => absurd (hw.2.symm.trans hon) (by decide))

/-- The methods that the runs here are made of. -/
def Op.isVpnOnly : Op → Bool
  | .start .. | .setAllowlist _ | .setKillSwitch _ => true
  | _ => false

theorem meshless_step {w : World} {i : Step} (hi : i.op.isVpnOnly = true)
    (hw : Meshless w ∧ Routed w) : Meshless (w.step i) ∧ Routed (w.step i) := by
  obtain ⟨op, r⟩ := i
  have hrouted : Networked r Routed := (routed_deaf.mono addsRoute_of_ofNetwork).networked
  cases op with
  | start creds serverData allowlist nameservers enableLocalTraffic =>
    refine ⟨(meshless_apiStart _ _ _ _ _ w hw.1).2, ?_⟩
    have hoption : Keeps r any Routed (setNetw fun c => { c with enableLocalTraffic }) :=
      Keeps.assign fun _ ht => ht
    exact ((hoption.seq <| (routed_deaf.keeps_isConnectedToVPN rfl).seq <|
      (routed_restart _ _ _).ite (routed_start _ _ _ _)) w hw.2).2
  | setAllowlist allowlist =>
    constructor
    · have hreplace := meshless_keeps (tracks_unsetAllowlist (r := r).seq <|
        tracks_setAllowlist allowlist) ((meshFlag_upkeep false).replaceAllowlist _ trivial)
      exact ((keeps_netw.seq <| hreplace.guard.seq <|
        keeps_call meshless_core.toQuiet _ rfl) w hw.1).2
    · exact ((keeps_netw.seq <| (hrouted.keeps_unsetAllowlist.bind
        fun _ => hrouted.keeps_setAllowlist _).guard.seq <| routed_deaf.keeps_call rfl) w hw.2).2
  | setKillSwitch allowlist =>
    constructor
    · exact ((keeps_netw.seq <| (meshless_setNetwork _).guard.seq <|
        keeps_setNetw (f := fun c => { c with isKillSwitchSet := true }) meshless_core.toQuiet
          fun _ ht => ht) w hw.1).2
    · exact ((keeps_netw.seq <| (hrouted.keeps_setNetwork _).guard.bind
        fun _ => routed_deaf.keeps_setNetw (f := fun c => { c with isKillSwitchSet := true })
          fun _ => rfl) w hw.2).2
  | _ => cases hi

end Runs

/-- **A failed `SetMesh` over a running VPN.** In every state that `Start`, `SetAllowlist` and
`SetKillSwitch` reach, whatever fails in them, a `SetMesh` that fails without closing the tunnel
leaves the VPN untouched exactly if the routing rules, which were set up before, were refused early,
after the mesh and the default route were not, and no rule against DNS leaks was in memory. -/
theorem failed_setMesh_leaves_vpn_iff (early : Nat → Bool) {vpnet : Option Vpn} {fwmark : Nat}
    {lanDiscovery firewallEnabled : Bool} {w : World}
    (hrun : World.Reached (fun _ i => i.op.isVpnOnly = true)
      (newCombined vpnet fwmark lanDiscovery firewallEnabled) w)
    (hvpn : w.netw.isVpnSet = true) {r : Env} (hclean : r.CleansUp) {cfg : MachineMap}
    {ip : Addr} {privateKey : String} {e : Error}
    (herror : w.returns ⟨.setMesh cfg ip privateKey, r⟩ = .error e)
    (hopen : isErr .tunnelClosed e = false) :
    VpnIntact early w (w.step ⟨.setMesh cfg ip privateKey, r⟩) ↔
      RulesRefused early r w ip privateKey ∧ w.rulesApplied early = true ∧
        "deny-private-dns" ∉ w.names := by
  have hinit : Meshless (newCombined vpnet fwmark lanDiscovery firewallEnabled) ∧
      Routed (newCombined vpnet fwmark lanDiscovery firewallEnabled) :=
    ⟨⟨tracks_newCombined _ _ _ _, rfl⟩, fun h => nomatch h⟩
  obtain ⟨⟨htracks, hmesh⟩, hrouted⟩ := hrun.invariant (I := fun w => Meshless w ∧ Routed w) hinit
    fun _ _ hw hi => meshless_step hi hw
  exact (setMesh_failed hclean htracks ⟨rfl, hrouted hvpn, hvpn⟩ hmesh).2 e herror hopen

/-- Dependencies of which one kind of call fails. -/
def Env.refusing (c : Call) : Env := { Env.working [] with fails := fun _ c' => c' == c }

def vpnStarted (allowlist : Allowlist) : World :=
  (newCombined (some ⟨"nordlynx", true⟩) 0xe1f1 false true).step
    ⟨.start {} { ip := .ofBytes 1 2 3 4 } allowlist [] true, Env.working []⟩

theorem vpn_intact_after_refused_rules :
    let w := vpnStarted { ports := { udp := [53] } }
    let r := Env.refusing (.setupRoutingRules false true false [])
    VpnIntact (fun _ => true) w
      (w.step ⟨.setMesh sampleMachine (.ofBytes 100 64 0 2) "key", r⟩) := by
  intro w r
  have hclean : r.CleansUp := ⟨fun _ => rfl, fun _ _ _ => rfl⟩
  exact (failed_setMesh_leaves_vpn_iff (fun _ => true) (.tail _ .refl rfl) (by decide) hclean
    (e := .wrap "setting routing rules" (.external "dependency")) (by decide) rfl).mpr
      ⟨⟨by decide, by decide, by decide, rfl⟩, by decide, by decide⟩

/-- The exit node cannot be enabled: the VPN stays set, without its routing rules and without
the rule against DNS leaks. A mesh that cannot be enabled costs it its default route, and routing
rules that are refused late cost it those it had. -/
theorem vpn_damaged_by_failed_setMesh :
    let late : Nat → Bool := fun _ => false
    let w := vpnStarted {}
    let set (r : Env) : Step := ⟨.setMesh sampleMachine (.ofBytes 100 64 0 2) "key", r⟩
    let exitNode := w.step (set (.refusing .exitNodeEnable))
    let mesh := w.step (set (.refusing (.meshEnable (.ofBytes 100 64 0 2) "key")))
    let rules := w.step (set (.refusing (.setupRoutingRules false true false [])))
    (w.rulesApplied late = true ∧ w.defaultRoute = true ∧ w.netw.isVpnSet = true ∧
      "deny-private-dns" ∈ w.names) ∧
    (w.returns (set (.refusing .exitNodeEnable)) =
        .error (.wrap "enabling exit node" (.external "dependency")) ∧
      exitNode.netw.isVpnSet = true ∧ exitNode.rulesApplied late = false ∧
        "deny-private-dns" ∉ exitNode.names) ∧
    (mesh.netw.isVpnSet = true ∧ mesh.defaultRoute = false) ∧
    rules.netw.isVpnSet = true ∧ rules.rulesApplied late = false := by
  decide

end NordVPN.Networker
