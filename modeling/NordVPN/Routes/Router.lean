import NordVPN.Lib.Runs
import NordVPN.Firewall.Service

/-!
The route service (`daemon/routes/router.go`) over the agent that adds routes through
netlink (`daemon/routes/netlink/netlink.go`).

Both remember routes: the service in `applied`, for the agent to which it will switch, and
the agent in `routes`, for its `Flush`. The two lists part where one of them is changed by a
call that fails: `Flush` of the agent forgets its routes even if deleting them failed, and
`Enable` of the service stops half-way with the routes so far added.

The service is written for any agent. The no-op agent (`norouter.Facade`) does nothing.
-/

namespace NordVPN.Routes

open NordVPN.Netip Prog

/-! ### Routes and agents -/

/-- `routes.Route`. -/
structure Route where
  gateway : Addr := .invalid
  subnet : Prefix
  device : Interface := {}
  tableID : Nat
deriving DecidableEq, Repr

namespace Route

/-- `Route.IsEqual`. -/
def isEqual (r other : Route) : Bool :=
  r.gateway == other.gateway && r.subnet == other.subnet && r.device.name == other.device.name &&
    r.tableID == other.tableID

/-- The same route in another table. -/
def inTable (tableID : Nat) (r : Route) : Route := { r with tableID }

/-- `Enable` moves the routes that are not in the main table. -/
def retable (tableID : Nat) (r : Route) : Route := if r.tableID ≠ 0 then r.inTable tableID else r

end Route

/-- `routes.Agent`, working on a state `σ`. -/
structure Agent (ρ σ : Type) where
  add : Route → Prog ρ σ Error Unit
  flush : Prog ρ σ Error Unit

/-! ### The service -/

/-- `routes.Router`, with the state of its working agent. -/
structure Router (σ : Type) where
  current : AgentId
  applied : List Route := []
  isEnabled : Bool
  working : σ

/-- `NewRouter`. -/
def newRouter {σ : Type} (working : σ) (enabled : Bool) : Router σ :=
  { current := if enabled then .working else .noop, isEnabled := enabled, working }

namespace Router

variable {ρ σ : Type}

def withWorking (working : σ) (r : Router σ) : Router σ := { r with working }

/-- A call of the working agent. -/
def onWorking (m : Prog ρ σ Error Unit) : Prog ρ (Router σ) Error Unit :=
  Prog.zoom id Router.working withWorking m

/-- A call of the agent in use. -/
def onCurrent (m : Prog ρ σ Error Unit) : Prog ρ (Router σ) Error Unit := do
  let r ← Prog.state
  match r.current with
  | .noop => pure ()
  | .working => onWorking m

variable (agent : Agent ρ σ)

/-- `Router.Add`. -/
def add (route : Route) : Prog ρ (Router σ) Error Unit := do
  onCurrent (agent.add route)
  Prog.update fun r => { r with applied := r.applied ++ [route] }

/-- `Router.Flush`. -/
def flush : Prog ρ (Router σ) Error Unit := do
  onCurrent agent.flush
  Prog.update fun r => { r with applied := [] }

/-- `Router.Enable`. -/
def enable (tableID : Nat) : Prog ρ (Router σ) Error Unit := do
  let r ← Prog.state
  when (!r.isEnabled) do
    forEach (fun route => onWorking (agent.add (route.retable tableID))) r.applied
    Prog.update fun r => { r with isEnabled := true, current := .working }

/-- `Router.Disable`. -/
def disable : Prog ρ (Router σ) Error Unit := do
  let r ← Prog.state
  when r.isEnabled do
    onCurrent agent.flush
    Prog.update fun r => { r with isEnabled := false, current := .noop }

end Router

/-! ### The netlink agent -/

inductive NetlinkError where
  | exist | other
deriving DecidableEq, Repr

/-- What netlink answers. One call of the service asks about a route at most once. -/
structure NetlinkEnv where
  /-- the error of `netlink.RouteAdd` -/
  routeAdd : Route → Option NetlinkError
  /-- `netlink.RouteDel` fails -/
  routeDel : Route → Bool

/-- `netlink.Router`. -/
structure Netlink where
  routes : List Route := []
deriving DecidableEq

namespace Netlink

/-- `has`. -/
def has (n : Netlink) (route : Route) : Bool := n.routes.any route.isEqual

/-- `Router.Add`. The errors print the route too. -/
def add (route : Route) : Prog NetlinkEnv Netlink Error Unit := do
  let r ← Prog.env
  let n ← Prog.state
  if n.has route then Prog.fail (.plain "route already exists")
  else match r.routeAdd route with
    | some .exist => Prog.fail (.sentinel .routeToOtherDestinationExists)
    | some .other => Prog.fail (.wrap "adding route to a routing table" (.external "netlink"))
    | none => Prog.update fun n => { n with routes := n.routes ++ [route] }

/-- `errors.Join(errs...)`, one error for each route that could not be deleted. -/
def joinErrors : List Route → Option Error
  | [] => none
  | _ :: rest => GoError.joinOpt (some (.wrap "deleting route" (.external "netlink")))
      (joinErrors rest)

/-- `Router.Flush`: the routes are forgotten in any case. -/
def flush : Prog NetlinkEnv Netlink Error Unit := do
  let r ← Prog.env
  let n ← Prog.state
  Prog.update fun n => { n with routes := [] }
  match joinErrors (n.routes.filter r.routeDel) with
  | none => pure ()
  | some e => Prog.fail e

/-- The agent. -/
def agent : Agent NetlinkEnv Netlink where
  add := add
  flush := flush

end Netlink

/-! ### What the agent does -/

section Netlink

variable {r : NetlinkEnv} {n : Netlink}

/-- A route that is refused leaves the agent as it is. -/
theorem Netlink.wp_add (route : Route) :
    wp (Netlink.add route) r any (fun x t =>
      (x = .ok () ∧ t.routes = n.routes ++ [route] ∨ x ≠ .ok () ∧ t = n) ∧
        (x = .ok () ↔ n.has route = false ∧ r.routeAdd route = none)) n := by
  simp only [Netlink.add, wp_bind, wp_env, wp_state, onOk_ok]
  cases hhas : n.has route with
  | true => simp
  | false =>
    cases hadd : r.routeAdd route with
    | none => simp
    | some e => cases e <;> simp

theorem Netlink.joinErrors_eq_none {routes : List Route} :
    Netlink.joinErrors routes = none ↔ routes = [] := by
  cases routes with
  | nil => exact iff_of_true rfl rfl
  | cons route rest =>
    apply iff_of_false
    · intro h
      cases hrest : Netlink.joinErrors rest <;>
        simp [Netlink.joinErrors, hrest, GoError.joinOpt] at h
    · exact List.cons_ne_nil _ _

theorem Netlink.wp_flush :
    wp Netlink.flush r any (fun x t => t.routes = [] ∧
      (x = .ok () ↔ ∀ route ∈ n.routes, r.routeDel route = false)) n := by
  have hnone : Netlink.joinErrors (n.routes.filter r.routeDel) = none ↔
      ∀ route ∈ n.routes, r.routeDel route = false := by
    rw [Netlink.joinErrors_eq_none, List.filter_eq_nil_iff]
    simp
  simp only [Netlink.flush, wp_bind, wp_env, wp_state, onOk_ok, wp_update, true_and]
  cases herrs : Netlink.joinErrors (n.routes.filter r.routeDel) with
  | none => exact wp_pure.mpr ⟨rfl, iff_of_true rfl (hnone.mp herrs)⟩
  | some e =>
    refine wp_fail.mpr ⟨rfl, iff_of_false (fun h => by cases h) ?_⟩
    intro h
    rw [hnone.mpr h] at herrs
    cases herrs

end Netlink

/-! ### Runs over netlink -/

/-- A call of a method. -/
inductive Op where
  | add (route : Route)
  | flush
  | enable (tableID : Nat)
  | disable

def Op.exec : Op → Prog NetlinkEnv (Router Netlink) Error Unit
  | .add route => Router.add Netlink.agent route
  | .flush => Router.flush Netlink.agent
  | .enable tableID => Router.enable Netlink.agent tableID
  | .disable => Router.disable Netlink.agent

/-- A call and what netlink answers. -/
structure Step where
  op : Op
  env : NetlinkEnv

namespace Router

def step (s : Router Netlink) (i : Step) : Router Netlink := (i.op.exec i.env s).final

def returns (s : Router Netlink) (i : Step) : Except Error Unit := (i.op.exec i.env s).result

/-- The agent has the routes of the service, up to their tables, and none while the service
is disabled. -/
structure InStep (s : Router Netlink) : Prop where
  current : s.current = if s.isEnabled then .working else .noop
  enabled : s.isEnabled = true →
    s.applied.map (Route.inTable 0) = s.working.routes.map (Route.inTable 0)
  disabled : s.isEnabled = false → s.working.routes = []

theorem InStep.current_enabled {s : Router Netlink} (h : InStep s) (hon : s.isEnabled = true) :
    s.current = .working := by
  rw [h.current, hon, if_pos rfl]

theorem InStep.current_disabled {s : Router Netlink} (h : InStep s) (hoff : s.isEnabled = false) :
    s.current = .noop := by
  rw [h.current, hoff, if_neg Bool.false_ne_true]

/-- No two of the routes are equal. -/
def Distinct (routes : List Route) : Prop := routes.Pairwise fun a b => b.isEqual a = false

/-- No route is lost on the way: netlink deletes what is flushed, and `Enable` adds all
routes or, netlink refusing the first one, none. -/
def Undisturbed (s : Router Netlink) (i : Step) : Prop :=
  match i.op with
  | .add _ => True
  | .flush | .disable =>
    s.isEnabled = true → ∀ route ∈ s.working.routes, i.env.routeDel route = false
  | .enable tableID => s.isEnabled = false →
      (Distinct (s.applied.map (Route.retable tableID)) ∧
        ∀ route ∈ s.applied, i.env.routeAdd (route.retable tableID) = none) ∨
      ∃ first ∈ s.applied.head?, i.env.routeAdd (first.retable tableID) ≠ none

section Calls

variable {ρ σ : Type} {r : ρ} {m : Prog ρ σ Error Unit} {s : Router σ}
  {Q : Except Error Unit → Router σ → Prop}

theorem wp_onWorking :
    wp (onWorking m) r any Q s ↔
      wp m r any (fun x t => Q x (s.withWorking t)) s.working := by
  rw [onWorking, wp_zoom]
  rfl

theorem wp_onCurrent_working (h : s.current = .working) :
    wp (onCurrent m) r any Q s ↔
      wp m r any (fun x t => Q x (s.withWorking t)) s.working := by
  simp only [onCurrent, wp_bind, wp_state, onOk_ok, h]
  exact wp_onWorking

theorem wp_onCurrent_noop (h : s.current = .noop) : wp (onCurrent m) r any Q s ↔ Q (.ok ()) s := by
  simp only [onCurrent, wp_bind, wp_state, onOk_ok, h, wp_pure]

end Calls

section Steps

variable {r : NetlinkEnv} {s : Router Netlink}

theorem inStep_add (h : InStep s) (route : Route) :
    wp (add Netlink.agent route) r any (fun _ t => InStep t) s := by
  rw [add, wp_bind]
  cases hon : s.isEnabled with
  | true =>
    rw [wp_onCurrent_working (h.current_enabled hon)]
    apply wp_post (Netlink.wp_add route)
    intro x t ht
    rcases ht.1 with ⟨rfl, hroutes⟩ | ⟨hx, rfl⟩
    · rw [onOk_ok, wp_update]
      refine ⟨trivial, h.current, fun _ => ?_, fun hoff => ?_⟩
      · simp [withWorking, hroutes, h.enabled hon]
      · exact absurd (hon.symm.trans hoff) (by simp)
    · cases x with
      | ok u => exact absurd rfl hx
      | error e => exact h
  | false =>
    rw [wp_onCurrent_noop (h.current_disabled hon), onOk_ok, wp_update]
    refine ⟨trivial, h.current, fun hon' => ?_, h.disabled⟩
    exact absurd (hon.symm.trans hon') (by simp)

theorem inStep_flush (h : InStep s)
    (hdel : s.isEnabled = true → ∀ route ∈ s.working.routes, r.routeDel route = false) :
    wp (flush Netlink.agent) r any (fun _ t => InStep t) s := by
  rw [flush, wp_bind]
  cases hon : s.isEnabled with
  | true =>
    rw [wp_onCurrent_working (h.current_enabled hon)]
    apply wp_post Netlink.wp_flush
    intro x t ht
    rw [ht.2.mpr (hdel hon), onOk_ok, wp_update]
    refine ⟨trivial, h.current, fun _ => ?_, fun _ => ht.1⟩
    simp [withWorking, ht.1]
  | false =>
    rw [wp_onCurrent_noop (h.current_disabled hon), onOk_ok, wp_update]
    refine ⟨trivial, h.current, fun hon' => ?_, h.disabled⟩
    exact absurd (hon.symm.trans hon') (by simp)

theorem inStep_disable (h : InStep s)
    (hdel : s.isEnabled = true → ∀ route ∈ s.working.routes, r.routeDel route = false) :
    wp (disable Netlink.agent) r any (fun _ t => InStep t) s := by
  simp only [disable, wp_bind, wp_state, onOk_ok]
  cases hon : s.isEnabled with
  | true =>
    rw [when, if_pos rfl, wp_bind, wp_onCurrent_working (h.current_enabled hon)]
    apply wp_post Netlink.wp_flush
    intro x t ht
    rw [ht.2.mpr (hdel hon), onOk_ok, wp_update]
    exact ⟨trivial, rfl, (fun h => by cases h), fun _ => ht.1⟩
  | false => exact wp_ret.mpr h

/-- The loop of `Enable` over routes that netlink adds. -/
theorem wp_addAll (tableID : Nat) (routes : List Route)
    (hdistinct : Distinct (s.working.routes ++ routes.map (Route.retable tableID)))
    (hadd : ∀ route ∈ routes, r.routeAdd (route.retable tableID) = none) :
    wp (forEach (fun route => onWorking (Netlink.agent.add (route.retable tableID))) routes) r
      any (fun x t => x = .ok () ∧
        t = s.withWorking ⟨s.working.routes ++ routes.map (Route.retable tableID)⟩) s := by
  induction routes generalizing s with
  | nil =>
    rw [wp_forEach_nil, List.map_nil, List.append_nil]
    exact ⟨rfl, rfl⟩
  | cons route rest ih =>
    rw [List.forall_mem_cons] at hadd
    rw [List.map_cons, ← List.singleton_append, ← List.append_assoc] at hdistinct
    have hnew : s.working.has (route.retable tableID) = false := by
      rw [Netlink.has, List.any_eq_false]
      intro old hold
      have hpair := (List.pairwise_append.mp (List.pairwise_append.mp hdistinct).1).2.2
      rw [hpair old hold _ List.mem_cons_self]
      exact Bool.false_ne_true
    rw [wp_forEach_cons, wp_onWorking]
    apply wp_post (Netlink.wp_add (route.retable tableID))
    intro x t ht
    rcases ht.1 with ⟨rfl, hroutes⟩ | ⟨hx, -⟩
    · obtain rfl : t = ⟨s.working.routes ++ [route.retable tableID]⟩ := by
        cases t
        exact congrArg Netlink.mk hroutes
      rw [onOk_ok]
      apply wp_post (ih hdistinct hadd.2)
      intro y u hu
      refine ⟨hu.1, ?_⟩
      rw [hu.2]
      simp [withWorking]
    · exact absurd (ht.2.mpr ⟨hnew, hadd.1⟩) hx

/-- Netlink refuses the first route. -/
theorem wp_addAll_refused {tableID : Nat} {first : Route} {rest : List Route}
    (h : r.routeAdd (first.retable tableID) ≠ none) :
    wp (forEach (fun route => onWorking (Netlink.agent.add (route.retable tableID)))
      (first :: rest)) r any (fun x t => x ≠ .ok () ∧ t = s) s := by
  rw [wp_forEach_cons, wp_onWorking]
  apply wp_post (Netlink.wp_add (first.retable tableID))
  intro x t ht
  have hx : x ≠ .ok () := fun hok => h (ht.2.mp hok).2
  rcases ht.1 with ⟨hok, -⟩ | ⟨-, rfl⟩
  · exact absurd hok hx
  · cases x with
    | ok u => exact absurd rfl hx
    | error e => exact ⟨nofun, rfl⟩

theorem map_inTable_retable (tableID : Nat) (routes : List Route) :
    (routes.map (Route.retable tableID)).map (Route.inTable 0) = routes.map (Route.inTable 0) := by
  rw [List.map_map]
  apply List.map_congr_left
  intro route _
  rw [Function.comp_apply, Route.retable]
  split <;> rfl

theorem wp_enable (h : InStep s) {tableID : Nat}
    (hdistinct : s.isEnabled = false → Distinct (s.applied.map (Route.retable tableID)))
    (hadd : s.isEnabled = false → ∀ route ∈ s.applied, r.routeAdd (route.retable tableID) = none) :
    wp (enable Netlink.agent tableID) r any (fun x t => x = .ok () ∧ InStep t) s := by
  simp only [enable, wp_bind, wp_state, onOk_ok]
  cases hon : s.isEnabled with
  | true => exact wp_ret.mpr ⟨rfl, h⟩
  | false =>
    have hnone := h.disabled hon
    rw [when, Bool.not_false, if_pos rfl, wp_bind]
    apply wp_post (wp_addAll tableID s.applied (by rw [hnone]; exact hdistinct hon) (hadd hon))
    rintro x t ⟨rfl, rfl⟩
    rw [onOk_ok, wp_update]
    refine ⟨trivial, rfl, rfl, fun _ => ?_, fun h => by cases h⟩
    change s.applied.map (Route.inTable 0) = (s.working.routes ++ _).map (Route.inTable 0)
    rw [hnone, List.nil_append, map_inTable_retable]

theorem inStep_enable (h : InStep s) {tableID : Nat}
    (hi : Undisturbed s ⟨.enable tableID, r⟩) :
    wp (enable Netlink.agent tableID) r any (fun _ t => InStep t) s := by
  cases hon : s.isEnabled with
  | true =>
    have hoff : s.isEnabled ≠ false := by simp [hon]
    exact wp_post (wp_enable h (fun h => absurd h hoff) fun h => absurd h hoff) fun _ _ ht => ht.2
  | false =>
    rcases hi hon with ⟨hdistinct, hadd⟩ | ⟨first, hfirst, hrefused⟩
    · exact wp_post (wp_enable h (fun _ => hdistinct) fun _ => hadd) fun _ _ ht => ht.2
    · obtain ⟨rest, happlied⟩ : ∃ rest, s.applied = first :: rest :=
        List.head?_eq_some_iff.mp hfirst
      simp only [enable, wp_bind, wp_state, onOk_ok, hon, happlied]
      rw [when, Bool.not_false, if_pos rfl, wp_bind]
      apply wp_post (wp_addAll_refused hrefused)
      rintro x t ⟨hx, rfl⟩
      cases x with
      | ok u => exact absurd rfl hx
      | error e => exact h

end Steps

/-- One call that netlink does not disturb. -/
theorem inStep_step {s : Router Netlink} {i : Step} (h : InStep s) (hi : Undisturbed s i) :
    InStep (s.step i) := by
  obtain ⟨op, r⟩ := i
  cases op with
  | add route => exact (inStep_add h route).2
  | flush => exact (inStep_flush h hi).2
  | enable tableID => exact (inStep_enable h hi).2
  | disable => exact (inStep_disable h hi).2

theorem inStep_newRouter (enabled : Bool) : InStep (newRouter (⟨[]⟩ : Netlink) enabled) :=
  ⟨rfl, fun _ => rfl, fun _ => rfl⟩

/-- **Route memory agrees with the agent.** In every run that netlink does not disturb, the
routes of an enabled service are those of its agent up to their tables, and the agent of a
disabled one has none. From every state so reached `Enable` succeeds once netlink adds routes,
unless two of the remembered ones are equal. -/
theorem memory_agrees (enabled : Bool) {s : Router Netlink}
    (h : Reaches step Undisturbed (newRouter (⟨[]⟩ : Netlink) enabled) s) :
    (s.isEnabled = true →
      s.applied.map (Route.inTable 0) = s.working.routes.map (Route.inTable 0)) ∧
    (s.isEnabled = false → s.working.routes = []) ∧
    ∀ tableID r, Distinct (s.applied.map (Route.retable tableID)) →
      (∀ route, r.routeAdd route = none) → s.returns ⟨.enable tableID, r⟩ = .ok () := by
  have hstep : InStep s := h.invariant (inStep_newRouter enabled) fun _ _ => inStep_step
  refine ⟨hstep.enabled, hstep.disabled, fun tableID r hdistinct hadd => ?_⟩
  exact (wp_enable hstep (fun _ => hdistinct) fun _ route _ => hadd _).2.1

/-- Netlink does all it is asked to. -/
def answering : NetlinkEnv := ⟨fun _ => none, fun _ => false⟩

def routeA : Route := { subnet := .ofAddr (.ofBytes 10 0 0 0) 8, tableID := 205 }

def routeB : Route := { subnet := .ofAddr (.ofBytes 192 168 0 0) 16, tableID := 205 }

/-- Two routes that a disabled service remembers. -/
def twoRoutes : Router Netlink :=
  ((newRouter (⟨[]⟩ : Netlink) false).step ⟨.add routeA, answering⟩).step ⟨.add routeB, answering⟩

theorem memory_agrees_sample :
    (twoRoutes.step ⟨.enable 206, answering⟩).isEnabled = true ∧
      (twoRoutes.step ⟨.enable 206, answering⟩).working.routes.map (Route.inTable 0) =
        [routeA.inTable 0, routeB.inTable 0] := by
  have hrun : Reaches step Undisturbed (newRouter (⟨[]⟩ : Netlink) false)
      (twoRoutes.step ⟨.enable 206, answering⟩) := by
    apply Reaches.tail
    · exact .tail (⟨.add routeB, answering⟩ : Step)
        (.tail (⟨.add routeA, answering⟩ : Step) .refl trivial) trivial
    · intro _
      left
      constructor
      · unfold Distinct
        decide
      · intro route _
        rfl
  exact ⟨rfl, ((memory_agrees false hrun).1 rfl).symm⟩

/-- The second route is refused. -/
def refusing : NetlinkEnv :=
  ⟨fun route => if route = routeB then some .other else none, fun _ => false⟩

/-- Routes cannot be deleted. -/
def keeping : NetlinkEnv := ⟨fun _ => none, fun _ => true⟩

/-- An `Enable` that stops half-way leaves routes behind and cannot be repeated, since the
agent refuses the routes it has. After a failed `Flush` the service remembers routes that its
agent has forgotten. -/
theorem half_enabled_stays_half_enabled :
    (twoRoutes.step ⟨.enable 205, refusing⟩).isEnabled = false ∧
      (twoRoutes.step ⟨.enable 205, refusing⟩).working.routes = [routeA] ∧
      (twoRoutes.step ⟨.enable 205, refusing⟩).returns ⟨.enable 205, answering⟩ ≠ .ok () ∧
      ((twoRoutes.step ⟨.enable 205, answering⟩).step ⟨.flush, keeping⟩).isEnabled = true ∧
      ((twoRoutes.step ⟨.enable 205, answering⟩).step ⟨.flush, keeping⟩).applied =
        [routeA, routeB] ∧
      ((twoRoutes.step ⟨.enable 205, answering⟩).step ⟨.flush, keeping⟩).working.routes = [] := by
  decide

end Router

end NordVPN.Routes
