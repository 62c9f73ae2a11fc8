import Mathlib.Data.List.Sort
import NordVPN.Lib.Rounds

/-!
The gateway to an address (`daemon/routes/netlink/retriever.go`).

The routes that contain the address are sorted as the kernel would, and then grouped by the first
rule that applies to them. `ruleAppliesForRoute` compares the inversion of a rule with all of its
other conditions together, the table and the mark included, so that an inverted rule applies to
the routes of all other tables.
-/

namespace NordVPN.Retriever

/-! ### Networks -/

/-- `net.IPNet`. -/
structure IPNet where
  ip : List UInt8
  mask : List UInt8
deriving DecidableEq, Repr

/-- `IP.To4`. -/
def to4 (ip : List UInt8) : Option (List UInt8) :=
  if ip.length = 4 then some ip
  else if ip.length = 16 && ip.take 12 == List.replicate 10 0 ++ [0xff, 0xff] then some (ip.drop 12)
  else none

/-- `simpleMaskLength`, of a mask that is ones and then zeros. -/
def simpleMaskLength : List UInt8 → Option Nat
  | [] => some 0
  | v :: rest =>
    if v = 0xff then (simpleMaskLength rest).map (· + 8)
    else if rest.all (· == 0) then [0, 0x80, 0xc0, 0xe0, 0xf0, 0xf8, 0xfc, 0xfe].idxOf? v
    else none

namespace IPNet

/-- `Mask.Size`, the number of ones. -/
def size (n : IPNet) : Nat := (simpleMaskLength n.mask).getD 0

/-- `networkNumberAndMask`. -/
def networkNumberAndMask (n : IPNet) : List UInt8 × List UInt8 :=
  let ip := (to4 n.ip).getD (if n.ip.length = 16 then n.ip else [])
  if ip = [] then ([], [])
  else if n.mask.length = 4 then if ip.length = 4 then (ip, n.mask) else ([], [])
  else if n.mask.length = 16 then (ip, if ip.length = 4 then n.mask.drop 12 else n.mask)
  else ([], [])

/-- `IPNet.Contains`. -/
def contains (n : IPNet) (ip : List UInt8) : Bool :=
  let (nn, m) := n.networkNumberAndMask
  let ip := (to4 ip).getD ip
  ip.length == nn.length &&
    List.zipWith (· &&& ·) nn m == List.zipWith (· &&& ·) ip m

end IPNet

/-- `isSubnet`. A missing network is one of no bits. -/
def isSubnet (network subnet : Option IPNet) : Bool :=
  match network, subnet with
  | none, _ => true
  | some _, none => false
  | some network, some subnet => network.contains subnet.ip && network.size ≤ subnet.size

/-! ### Routes and rules -/

/-- `netlink.Route`. -/
structure Route where
  linkIndex : Int := 0
  dst : Option IPNet := none
  gw : Option (List UInt8) := none
  table : Int := 0
  priority : Int := 0
deriving DecidableEq, Repr

/-- `netlink.Rule`, as `netlink.NewRule` makes it: what is not given is `-1`. -/
structure Rule where
  table : Int := 0
  mark : Int := -1
  src : Option IPNet := none
  suppressPrefixlen : Int := -1
  suppressIfgroup : Int := -1
  invert : Bool := false
deriving DecidableEq, Repr

/-- `netlink.LinkAttrs`. -/
structure LinkAttrs where
  index : Int
  group : Nat
deriving DecidableEq, Repr

/-- The number of bits of the destination, no destination being all. -/
def Route.prefixLen (route : Route) : Nat := (route.dst.map IPNet.size).getD 0

/-- `routeCmp`. -/
def routeCmp (a b : Route) : Int :=
  if a.prefixLen > b.prefixLen then -1
  else if a.prefixLen < b.prefixLen then 1
  else if a.priority < b.priority then -1
  else if a.priority > b.priority then 1
  else 0

/-- `filterRoutes`. -/
def filterRoutes (routes : List Route) (subnet : IPNet) (ignoreTable : Int) : List Route :=
  routes.filter fun r => !(r.table == ignoreTable || !isSubnet r.dst (some subnet))

/-- `ruleAppliesForRoute`. -/
def ruleAppliesForRoute (rule : Rule) (route : Route) (ifgroup : Nat) : Bool :=
  rule.invert != (rule.mark < 0 && rule.table == route.table && isSubnet rule.src route.dst &&
    (rule.suppressPrefixlen < 0 || rule.suppressPrefixlen < route.prefixLen) &&
    (rule.suppressIfgroup < 0 || rule.suppressIfgroup != ifgroup))

/-- The group that `linksGroupMap` has for a link. A later entry replaces an earlier one. -/
def linkGroup (links : List (Option LinkAttrs)) (linkIndex : Int) : Nat :=
  links.foldl (fun group link =>
    match link with
    | none => group
    | some attrs => if attrs.index = linkIndex then attrs.group else group) 0

/-- The test of the inner loop of `orderRoutesByRules`. -/
def selects (links : List (Option LinkAttrs)) (rule : Rule) (route : Route) : Bool :=
  ruleAppliesForRoute rule route (linkGroup links route.linkIndex)

/-- `orderRoutesByRules`. -/
def orderRoutesByRules (rules : List Rule) (routes : List Route)
    (links : List (Option LinkAttrs)) : List Route :=
  Rounds.marking (selects links) rules routes (List.replicate routes.length false)

/-- `slices.SortFunc`. How it orders elements that compare as equal is not specified. -/
structure SortFunc {α : Type} (cmp : α → α → Int) where
  sort : List α → List α
  perm : ∀ l, (sort l).Perm l
  sorted : ∀ l, (sort l).Pairwise fun a b => cmp a b ≤ 0

/-! ### The order -/

/-- A route with a longer destination, or else a lower metric, comes first. -/
def Finer (a b : Route) : Prop :=
  b.prefixLen < a.prefixLen ∨ a.prefixLen = b.prefixLen ∧ a.priority ≤ b.priority

theorem routeCmp_nonpos {a b : Route} : routeCmp a b ≤ 0 ↔ Finer a b := by
  unfold routeCmp Finer
  split_ifs <;> omega

theorem Finer.total (a b : Route) : Finer a b ∨ Finer b a := by
  unfold Finer
  omega

theorem Finer.trans {a b c : Route} (hab : Finer a b) (hbc : Finer b c) : Finer a c := by
  unfold Finer at *
  omega

/-- The sort that keeps the order of equal routes. -/
def SortFunc.insertion : SortFunc routeCmp where
  sort := List.insertionSort fun a b => routeCmp a b ≤ 0
  perm := List.perm_insertionSort _
  sorted := by
    have htotal : Std.Total fun a b => routeCmp a b ≤ 0 :=
      ⟨fun a b => by simpa only [routeCmp_nonpos] using Finer.total a b⟩
    have htrans : IsTrans Route fun a b => routeCmp a b ≤ 0 :=
      ⟨fun a b c => by simpa only [routeCmp_nonpos] using Finer.trans⟩
    exact List.pairwise_insertionSort _

/-- Some rule selects the route. -/
def Selected (rules : List Rule) (links : List (Option LinkAttrs)) (route : Route) : Prop :=
  ∃ rule ∈ rules, selects links rule route = true

/-- The index of the first rule that selects the route. -/
def firstRule (rules : List Rule) (links : List (Option LinkAttrs)) (route : Route) : Nat :=
  rules.findIdx fun rule => selects links rule route

/-- The order by the first rule that selects a route, and then by the route itself. -/
def Precedes (rules : List Rule) (links : List (Option LinkAttrs)) (a b : Route) : Prop :=
  firstRule rules links a < firstRule rules links b ∨
    firstRule rules links a = firstRule rules links b ∧ Finer a b

variable {route : Route}

section Order

variable {rules : List Rule} {routes : List Route} {links : List (Option LinkAttrs)}

theorem orderRoutesByRules_eq :
    orderRoutesByRules rules routes links = Rounds.taken (selects links) rules routes := by
  rw [orderRoutesByRules, Rounds.marking_eq_taken, Rounds.left_unmarked]

theorem mem_filterRoutes {subnet : IPNet} {ignoreTable : Int} :
    route ∈ filterRoutes routes subnet ignoreTable ↔
      route ∈ routes ∧ route.table ≠ ignoreTable ∧ isSubnet route.dst (some subnet) = true := by
  simp [filterRoutes]

theorem order_subperm (sort : SortFunc routeCmp) :
    (orderRoutesByRules rules (sort.sort routes) links).Subperm routes := by
  rw [orderRoutesByRules_eq]
  exact (Rounds.taken_subperm rules (sort.sort routes)).trans (sort.perm routes).subperm

theorem order_head (sort : SortFunc routeCmp) (hroute : route ∈ routes)
    (hselected : Selected rules links route) :
    ∃ first, (orderRoutesByRules rules (sort.sort routes) links).head? = some first ∧
      Precedes rules links first route := by
  rw [orderRoutesByRules_eq]
  have hsorted : (sort.sort routes).Pairwise Finer :=
    (sort.sorted routes).imp fun h => routeCmp_nonpos.mp h
  exact Rounds.taken_head hsorted (fun _ => .inr ⟨rfl, Int.le_refl _⟩)
    ((sort.perm routes).mem_iff.mpr hroute) hselected

end Order

theorem selects_of_not_invert {links : List (Option LinkAttrs)} {rule : Rule}
    (hinvert : rule.invert = false) (h : selects links rule route = true) :
    rule.mark < 0 ∧ route.table = rule.table := by
  simp only [selects, ruleAppliesForRoute, hinvert, Bool.false_bne, Bool.and_eq_true,
    decide_eq_true_eq, beq_iff_eq] at h
  exact ⟨h.1.1.1.1, h.1.1.1.2.symm⟩

/-- An inverted rule selects what has another table, and everything if it has a mark. -/
theorem selects_of_invert {links : List (Option LinkAttrs)} {rule : Rule}
    (hinvert : rule.invert = true) (h : 0 ≤ rule.mark ∨ route.table ≠ rule.table) :
    selects links rule route = true := by
  have hbody : (decide (rule.mark < 0) && rule.table == route.table) = false := by
    rcases h with hmark | htable
    · simp [Int.not_lt.mpr hmark]
    · simp [Ne.symm htable]
  simp only [selects, ruleAppliesForRoute, hinvert, hbody, Bool.false_and, Bool.bne_false]

/-- The order of the routes is that of the rules exactly if an inverted rule has no mark and all
routes are of its table. -/
theorem gateway_order_iff (sort : SortFunc routeCmp) (rules : List Rule) (routes : List Route)
    (links : List (Option LinkAttrs)) (subnet : IPNet) (ignoreTable : Int) :
    let listed := filterRoutes routes subnet ignoreTable
    let ordered := orderRoutesByRules rules (sort.sort listed) links
    (ordered.Subperm routes ∧
      (∀ route ∈ ordered,
        route.table ≠ ignoreTable ∧ isSubnet route.dst (some subnet) = true) ∧
      (∀ route ∈ listed, Selected rules links route →
        ∃ first, ordered.head? = some first ∧ Precedes rules links first route) ∧
      (∀ rule ∈ rules, ∀ route ∈ listed, selects links rule route = true →
        route.table = rule.table) ∧
      (∀ rule ∈ rules, 0 ≤ rule.mark → ∀ route ∈ listed, selects links rule route = false)) ↔
    ∀ rule ∈ rules, rule.invert = true →
      ∀ route ∈ listed, rule.mark < 0 ∧ route.table = rule.table := by
  intro listed ordered
  constructor
  · rintro ⟨-, -, -, htable, hmark⟩ rule hrule hinvert route hroute
    constructor
    · by_contra hnot
      have hselects := hmark rule hrule (Int.not_lt.mp hnot) route hroute
      rw [selects_of_invert hinvert (.inl (Int.not_lt.mp hnot))] at hselects
      cases hselects
    · by_contra hnot
      exact hnot (htable rule hrule route hroute (selects_of_invert hinvert (.inr hnot)))
  · intro h
    have hsound : ∀ rule ∈ rules, ∀ route ∈ listed, selects links rule route = true →
        rule.mark < 0 ∧ route.table = rule.table := by
      intro rule hrule route hroute hselects
      cases hinvert : rule.invert with
      | false => exact selects_of_not_invert hinvert hselects
      | true => exact h rule hrule hinvert route hroute
    have hsub : ordered.Subperm listed := order_subperm sort
    refine ⟨hsub.trans List.filter_sublist.subperm, ?_, ?_, ?_, ?_⟩
    · intro route hroute
      exact (mem_filterRoutes.mp (hsub.subset hroute)).2
    · intro route hroute hselected
      exact order_head sort hroute hselected
    · intro rule hrule route hroute hselects
      exact (hsound rule hrule route hroute hselects).2
    · intro rule hrule hmark route hroute
      by_contra hnot
      have hneg := (hsound rule hrule route hroute (Bool.eq_true_of_not_eq_false hnot)).1
      omega

/-- The inverted rule for all that has not the mark of the tunnel selects a route of a table that no
rule leads to. -/
theorem route_of_unused_table_first : let rules : List Rule :=
      [{ table := 205, mark := 0xe1f1, invert := true }, { table := 254 }]
    let default : Route := { table := 254, gw := some [192, 168, 1, 1] }
    let other : Route :=
      { table := 100, gw := some [10, 0, 0, 1], dst := some ⟨[1, 2, 0, 0], [255, 255, 0, 0]⟩ }
    let subnet : IPNet := ⟨[1, 2, 3, 4], [255, 255, 255, 255]⟩
    let listed := filterRoutes [default, other] subnet 205
    (∀ rule ∈ rules, rule.table ≠ other.table) ∧
      orderRoutesByRules rules (SortFunc.insertion.sort listed) [] = [other, default] ∧
      selects [] { table := 205, mark := 0xe1f1, invert := true } other = true := by
  decide

end NordVPN.Retriever
