import NordVPN.Networker.State
import NordVPN.Routes.Router

/-!
Routing switched off and on (`EnableRouting` and `DisableRouting` of
`networker/networker.go`), with the policy router of `daemon/routes/rule.go`.

While routing is disabled the routers and the policy router remember what they are asked
for. Every route is recorded with the table that the policy router names at that moment, and
while it is disabled that is the table 0 of the no-op agent (`norule.Facade`); `Enable` moves
only routes of other tables.
-/

namespace NordVPN.Routes

open NordVPN.Netip Prog
open NordVPN.Networker (RouterId)

/-! ### The policy router -/

/-- The arguments of `SetupRoutingRules`. -/
structure PolicyRule where
  ipv6 : Bool
  enableLocal : Bool
  lanDiscovery : Bool
  allowSubnets : List String
deriving DecidableEq, Repr

/-- `routes.PolicyAgent`, working on a state `π`. -/
structure PolicyAgent (ρ π : Type) where
  setupRoutingRules : PolicyRule → Prog ρ π Error Unit
  cleanupRouting : Prog ρ π Error Unit
  tableID : π → Nat

/-- `routes.PolicyRouter`, with the state of its working agent. -/
structure PolicyRouter (π : Type) where
  current : AgentId
  appliedRule : Option PolicyRule := none
  isEnabled : Bool
  working : π

/-- `NewPolicyRouter`. -/
def newPolicyRouter {π : Type} (working : π) (enabled : Bool) : PolicyRouter π :=
  { current := if enabled then .working else .noop, isEnabled := enabled, working }

namespace PolicyRouter

variable {ρ π : Type}

/-- A call of the working agent. -/
def onWorking (m : Prog ρ π Error Unit) : Prog ρ (PolicyRouter π) Error Unit :=
  Prog.zoom id PolicyRouter.working (fun working p => { p with working }) m

/-- A call of the agent in use. -/
def onCurrent (m : Prog ρ π Error Unit) : Prog ρ (PolicyRouter π) Error Unit := do
  let p ← Prog.state
  match p.current with
  | .noop => pure ()
  | .working => onWorking m

variable (agent : PolicyAgent ρ π)

/-- `PolicyRouter.SetupRoutingRules`. -/
def setupRoutingRules (rule : PolicyRule) : Prog ρ (PolicyRouter π) Error Unit := do
  onCurrent (agent.setupRoutingRules rule)
  Prog.update fun p => { p with appliedRule := some rule }

/-- `PolicyRouter.CleanupRouting`. -/
def cleanupRouting : Prog ρ (PolicyRouter π) Error Unit := do
  onCurrent agent.cleanupRouting
  Prog.update fun p => { p with appliedRule := none }

/-- `PolicyRouter.TableID`. -/
def tableID (p : PolicyRouter π) : Nat :=
  match p.current with
  | .noop => 0
  | .working => agent.tableID p.working

/-- `PolicyRouter.Enable`. -/
def enable : Prog ρ (PolicyRouter π) Error Unit := do
  let p ← Prog.state
  when (!p.isEnabled) do
    match p.appliedRule with
    | some rule => onWorking (agent.setupRoutingRules rule)
    | none => pure ()
    Prog.update fun p => { p with current := .working, isEnabled := true }

/-- `PolicyRouter.Disable`. -/
def disable : Prog ρ (PolicyRouter π) Error Unit := do
  let p ← Prog.state
  when p.isEnabled do
    onCurrent agent.cleanupRouting
    Prog.update fun p => { p with current := .noop, isEnabled := false }

end PolicyRouter

/-! ### The services of the networker -/

/-- The routing services of `Combined`. -/
@[ext] structure Routing (π σ : Type) where
  policy : PolicyRouter π
  routers : RouterId → Router σ

namespace Routing

variable {ρ π σ : Type}

def onPolicy (m : Prog ρ (PolicyRouter π) Error Unit) : Prog ρ (Routing π σ) Error Unit :=
  Prog.zoom id Routing.policy (fun policy s => { s with policy }) m

def onRouter (id : RouterId) (m : Prog ρ (Router σ) Error Unit) : Prog ρ (Routing π σ) Error Unit :=
  Prog.zoom (fun r => r) (fun s => s.routers id)
    (fun router s => { s with routers := Function.update s.routers id router }) m

variable (policyAgent : PolicyAgent ρ π) (agent : Agent ρ σ)

/-- `router.Add` as `addDefaultRoute` and `setMesh` call it: the table is the one that the
policy router names. -/
def addRoute (id : RouterId) (route : Route) : Prog ρ (Routing π σ) Error Unit := do
  let s ← Prog.state
  onRouter id (Router.add agent (route.inTable (s.policy.tableID policyAgent)))

/-- `EnableRouting`: errors are only logged. -/
def enableRouting : Prog ρ (Routing π σ) Error Unit := do
  ignore (onPolicy (PolicyRouter.enable policyAgent))
  let s ← Prog.state
  forEach (fun id => ignore (onRouter id (Router.enable agent (s.policy.tableID policyAgent))))
    [.allowlist, .vpn, .peers]

/-- `DisableRouting`. -/
def disableRouting : Prog ρ (Routing π σ) Error Unit := do
  forEach (fun id => ignore (onRouter id (Router.disable agent))) [.allowlist, .vpn, .peers]
  ignore (onPolicy (PolicyRouter.disable policyAgent))

end Routing

/-! ### Agents that do what they are asked to -/

/-- A route agent that keeps its routes. -/
def keeper : Agent Unit (List Route) where
  add route := Prog.update fun routes => routes ++ [route]
  flush := Prog.update fun _ => []

/-- A policy agent that keeps the rules set up last; while it has rules, its table is
`table`. -/
def ruleKeeper (table : Nat) : PolicyAgent Unit (Option PolicyRule) where
  setupRoutingRules rule := Prog.update fun _ => some rule
  cleanupRouting := Prog.update fun _ => none
  tableID rule := if rule.isSome then table else 0

abbrev Kept := Routing (Option PolicyRule) (List Route)

/-- A call of the networker on its routing services. -/
inductive RoutingOp where
  | setupRoutingRules (rule : PolicyRule)
  | cleanupRouting
  | addRoute (id : RouterId) (route : Route)
  | flush (id : RouterId)
  | enableRouting
  | disableRouting

def RoutingOp.exec (table : Nat) : RoutingOp → Prog Unit Kept Error Unit
  | .setupRoutingRules rule =>
    Routing.onPolicy (PolicyRouter.setupRoutingRules (ruleKeeper table) rule)
  | .cleanupRouting => Routing.onPolicy (PolicyRouter.cleanupRouting (ruleKeeper table))
  | .addRoute id route => Routing.addRoute (ruleKeeper table) keeper id route
  | .flush id => Routing.onRouter id (Router.flush keeper)
  | .enableRouting => Routing.enableRouting (ruleKeeper table) keeper
  | .disableRouting => Routing.disableRouting (ruleKeeper table) keeper

/-- The call switches routing off or on. -/
def RoutingOp.switches : RoutingOp → Bool
  | .enableRouting | .disableRouting => true
  | _ => false

def Routing.step (table : Nat) (s : Kept) (op : RoutingOp) : Kept := (op.exec table () s).final

def newRouting (enabled : Bool) : Kept :=
  { policy := newPolicyRouter none enabled, routers := fun _ => newRouter [] enabled }

/-- A step beside the same step of services on which routing is never switched. -/
def sideBySide (table : Nat) (p : Kept × Kept) (op : RoutingOp) : Kept × Kept :=
  (p.1.step table op, if op.switches then p.2 else p.2.step table op)

/-! ### What each call leaves -/

/-- A router whose agent holds what it remembers, or nothing while it is disabled. -/
def settledRouter (on : Bool) (routes : List Route) : Router (List Route) :=
  { current := if on then .working else .noop, applied := routes, isEnabled := on,
    working := if on then routes else [] }

/-- The services when all of them agree on the switch and the agents hold what the services
remember, or nothing while routing is disabled. -/
def settled (on : Bool) (rule : Option PolicyRule) (routes : RouterId → List Route) : Kept where
  policy :=
    { current := if on then .working else .noop, appliedRule := rule, isEnabled := on,
      working := if on then rule else none }
  routers id := settledRouter on (routes id)

/-- The table under which a route is recorded. -/
def recordedTable (table : Nat) (on : Bool) (rule : Option PolicyRule) : Nat :=
  if on && rule.isSome then table else 0

section Calls

variable {table : Nat} {on : Bool} {rule : Option PolicyRule} {routes : RouterId → List Route}

theorem step_setupRoutingRules (new : PolicyRule) :
    (settled on rule routes).step table (.setupRoutingRules new) =
      settled on (some new) routes := by
  cases on <;> rfl

theorem step_cleanupRouting :
    (settled on rule routes).step table .cleanupRouting = settled on none routes := by
  cases on <;> rfl

theorem update_settled (id : RouterId) (new : List Route) :
    Function.update (settled on rule routes).routers id (settledRouter on new) =
      (settled on rule (Function.update routes id new)).routers :=
  (Function.comp_update (settledRouter on) routes id new).symm

theorem step_addRoute (id : RouterId) (route : Route) :
    (settled on rule routes).step table (.addRoute id route) = settled on rule
      (Function.update routes id (routes id ++ [route.inTable (recordedTable table on rule)])) := by
  apply Routing.ext
  · cases on <;> rfl
  · rw [← update_settled]
    cases on <;> rfl

theorem step_flush (id : RouterId) :
    (settled on rule routes).step table (.flush id) =
      settled on rule (Function.update routes id []) := by
  apply Routing.ext
  · cases on <;> rfl
  · rw [← update_settled]
    cases on <;> rfl

theorem step_disableRouting :
    (settled on rule routes).step table .disableRouting = settled false rule routes := by
  apply Routing.ext
  · cases on <;> rfl
  · funext id
    cases on <;> cases id <;> rfl

/-- The loop of `Enable`. -/
theorem wp_keepAll (tableID : Nat) (rest : List Route) (s : Router (List Route)) :
    wp (forEach (fun route => Router.onWorking (keeper.add (route.retable tableID))) rest) ()
      any (fun x t => x = .ok () ∧
        t = s.withWorking (s.working ++ rest.map (Route.retable tableID))) s := by
  induction rest generalizing s with
  | nil =>
    rw [wp_forEach_nil, List.map_nil, List.append_nil]
    exact ⟨rfl, rfl⟩
  | cons route rest ih =>
    rw [wp_forEach_cons, Router.wp_onWorking]
    refine wp_update.mpr ⟨trivial, ?_⟩
    rw [onOk_ok]
    apply wp_post (ih _)
    rintro x t ⟨hx, rfl⟩
    exact ⟨hx, by simp [Router.withWorking]⟩

/-- `Enable` of a disabled router hands the remembered routes to its agent. -/
theorem wp_enable (tableID : Nat) (routes : List Route) :
    wp (Router.enable keeper tableID) () any (fun _ t =>
      t = { settledRouter true routes with working := routes.map (Route.retable tableID) })
      (settledRouter false routes) := by
  simp only [Router.enable, wp_bind, wp_state, onOk_ok]
  change wp (when true _) () _ _ _
  rw [when, if_pos rfl, wp_bind]
  apply wp_post (wp_keepAll tableID routes _)
  rintro x t ⟨rfl, rfl⟩
  rw [onOk_ok, wp_update]
  exact ⟨trivial, rfl⟩

/-- The remembered routes are not moved by `Enable`. -/
theorem step_enableRouting
    (h : on = false → ∀ id, (routes id).map (Route.retable (recordedTable table true rule)) =
      routes id) :
    (settled on rule routes).step table .enableRouting = settled true rule routes := by
  cases on with
  | true =>
    apply Routing.ext
    · rfl
    · funext id
      cases id <;> rfl
  | false =>
    have hrouter (id : RouterId) : ((Router.enable keeper (recordedTable table true rule)) ()
        (settledRouter false (routes id))).final = settledRouter true (routes id) := by
      rw [(wp_enable _ (routes id)).2, h rfl id]
      rfl
    apply Routing.ext
    · cases rule <;> rfl
    · funext id
      cases rule <;> cases id <;> exact hrouter _

end Calls

/-! ### Switching is transparent -/

/-- No route is recorded under the table of the no-op agent while rules are set up, and
routing is not enabled without rules while routes of another table are remembered. -/
def Transparent (s : Kept) : RoutingOp → Prop
  | .addRoute _ _ => s.policy.isEnabled = true ∨ s.policy.appliedRule = none
  | .enableRouting => s.policy.isEnabled = false → s.policy.appliedRule = none →
      ∀ id, ∀ route ∈ (s.routers id).applied, route.tableID = 0
  | _ => True

/-- Both sides remember the same, and only routes of the policy router's tables. -/
def Alike (table : Nat) (p : Kept × Kept) : Prop :=
  ∃ on rule routes, p = (settled on rule routes, settled true rule routes) ∧
    ∀ id, ∀ route ∈ routes id, route.tableID = 0 ∨ route.tableID = table

theorem recordedTable_eq {table : Nat} {on : Bool} {rule : Option PolicyRule}
    (h : on = true ∨ rule = none) :
    recordedTable table on rule = recordedTable table true rule := by
  rcases h with rfl | rfl
  · rfl
  · simp [recordedTable]

theorem recordedTable_cases (table : Nat) (on : Bool) (rule : Option PolicyRule) :
    recordedTable table on rule = 0 ∨ recordedTable table on rule = table := by
  unfold recordedTable
  split
  · exact .inr rfl
  · exact .inl rfl

theorem map_retable_self {table : Nat} {rule : Option PolicyRule} {routes : List Route}
    (htables : ∀ route ∈ routes, route.tableID = 0 ∨ route.tableID = table)
    (hrule : rule = none → ∀ route ∈ routes, route.tableID = 0) :
    routes.map (Route.retable (recordedTable table true rule)) = routes := by
  have hsame : ∀ route ∈ routes, route.retable (recordedTable table true rule) = route := by
    intro route hroute
    unfold Route.retable
    split
    · rename_i hne
      have htable : route.tableID = table := (htables route hroute).resolve_left hne
      have hsome : rule.isSome = true :=
        Option.isSome_iff_ne_none.mpr fun hnone => hne (hrule hnone route hroute)
      rw [recordedTable, hsome, Bool.and_self, if_pos rfl, ← htable]
      rfl
    · rfl
  rw [List.map_congr_left hsame, List.map_id']

theorem alike_step {table : Nat} {p : Kept × Kept} {op : RoutingOp} (h : Alike table p)
    (hop : Transparent p.1 op) : Alike table (sideBySide table p op) := by
  obtain ⟨on, rule, routes, rfl, htables⟩ := h
  have hupdate (id : RouterId) (new : List Route)
      (hnew : ∀ route ∈ new, route.tableID = 0 ∨ route.tableID = table) (id' : RouterId) :
      ∀ route ∈ Function.update routes id new id', route.tableID = 0 ∨ route.tableID = table := by
    by_cases hid : id' = id
    · subst hid
      rwa [Function.update_self]
    · rw [Function.update_of_ne hid]
      exact htables id'
  cases op with
  | setupRoutingRules new =>
    refine ⟨on, some new, routes, ?_, htables⟩
    rw [sideBySide, step_setupRoutingRules]
    rfl
  | cleanupRouting =>
    refine ⟨on, none, routes, ?_, htables⟩
    rw [sideBySide, step_cleanupRouting]
    rfl
  | addRoute id route =>
    have hhop : on = true ∨ rule = none := hop
    let new := routes id ++ [route.inTable (recordedTable table true rule)]
    refine ⟨on, rule, Function.update routes id new, ?_, hupdate id new ?_⟩
    · rw [sideBySide, step_addRoute, recordedTable_eq hhop]
      exact congrArg (Prod.mk _) (step_addRoute id route)
    · intro added hadded
      rcases List.mem_append.mp hadded with hold | hnew
      · exact htables id added hold
      · rw [List.mem_singleton.mp hnew]
        exact recordedTable_cases table true rule
  | flush id =>
    refine ⟨on, rule, _, ?_, hupdate id [] nofun⟩
    rw [sideBySide, step_flush]
    exact congrArg (Prod.mk _) (step_flush id)
  | enableRouting =>
    refine ⟨true, rule, routes, ?_, htables⟩
    rw [sideBySide, step_enableRouting]
    · rfl
    · intro hoff id
      exact map_retable_self (htables id) fun hrule => hop hoff hrule id
  | disableRouting =>
    refine ⟨false, rule, routes, ?_, htables⟩
    rw [sideBySide, step_disableRouting]
    rfl

/-- **Switching routing off and on is transparent.** Run any calls on the services, with
agents that do all they are asked to, and beside them the same calls without those that
switch routing. As long as no call of the run is one of the two kinds `Transparent` excludes,
whenever routing is enabled the agents hold the same rules and the same routes, tables
included, on both sides. -/
theorem switching_transparent (table : Nat) (enabled : Bool) {s t : Kept}
    (h : Reaches (sideBySide table) (fun p op => Transparent p.1 op)
      (newRouting enabled, newRouting true) (s, t)) (hon : s.policy.isEnabled = true) :
    s.policy.working = t.policy.working ∧
      ∀ id, (s.routers id).working = (t.routers id).working := by
  have halike : Alike table (s, t) := by
    apply h.invariant
    · refine ⟨enabled, none, fun _ => [], ?_, nofun⟩
      cases enabled <;> rfl
    · intro p op hp hop
      exact alike_step hp hop
  obtain ⟨on, rule, routes, heq, -⟩ := halike
  obtain ⟨rfl, rfl⟩ := Prod.mk.inj heq
  obtain rfl : on = true := hon
  exact ⟨rfl, fun _ => rfl⟩

def sampleRule : PolicyRule := ⟨false, true, false, []⟩

/-- The default route through the tunnel. -/
def defaultRoute : Route :=
  { subnet := .ofAddr (.ofBytes 0 0 0 0) 0, device := { name := "nordlynx" }, tableID := 0 }

/-- Routing set up as by `Start`. -/
def started : List RoutingOp := [.setupRoutingRules sampleRule, .addRoute .vpn defaultRoute]

/-- Two runs side by side from fresh services. -/
def runs (ops : List RoutingOp) : Kept × Kept :=
  ops.foldl (sideBySide 205) (newRouting true, newRouting true)

theorem switching_transparent_sample :
    ((runs (started ++ [.disableRouting, .enableRouting])).1.routers .vpn).working =
      [defaultRoute.inTable 205] := by
  have hrun : Reaches (sideBySide 205) (fun p op => Transparent p.1 op)
      (newRouting true, newRouting true) (runs (started ++ [.disableRouting, .enableRouting])) := by
    apply Reaches.tail
    · apply Reaches.tail
      · apply Reaches.tail
        · exact .tail (RoutingOp.setupRoutingRules sampleRule) .refl trivial
        · exact .inl rfl
      · exact trivial
    · intro _ hrule
      cases hrule
  exact (switching_transparent 205 true hrun rfl).2 .vpn

/-- Started while routing is disabled, the VPN has its default route in the main table once
routing is enabled, and not in the table that the rules look up. -/
theorem route_recorded_while_disabled :
    (runs ([.disableRouting] ++ started ++ [.enableRouting])).1.policy.isEnabled = true ∧
      ((runs ([.disableRouting] ++ started ++ [.enableRouting])).1.routers .vpn).working =
        [defaultRoute.inTable 0] ∧
      ((runs ([.disableRouting] ++ started ++ [.enableRouting])).2.routers .vpn).working =
        [defaultRoute.inTable 205] :=
  ⟨rfl, rfl, rfl⟩

end NordVPN.Routes
