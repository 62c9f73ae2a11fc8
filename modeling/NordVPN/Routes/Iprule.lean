import NordVPN.Lib.Prog
import NordVPN.Lib.Runs
import NordVPN.Errors
import NordVPN.Net.Netip

/-!
Policy-based routing (`daemon/routes/iprule/iprule.go`) over the kernel's two tables of rules, one
for each address family.

The kernel keeps a table in the order of priorities. A delete request removes the first rule that
agrees with every attribute the request carries, whoever added it. A request for a rule with a
destination goes to a table that `Env.place` tells: the rule names a family of its own, and the
netlink library may take that of the destination instead.
-/

namespace NordVPN.Iprule

open NordVPN.Netip Prog

/-! ### Rules -/

/-- `netlink.Rule`, the fields that the package reads or sets. An attribute that is not given is
`-1`, an unspecified table also `0`. -/
structure IpRule where
  priority : Int := -1
  ipv6 : Bool := false
  table : Int := 0
  mark : Int := -1
  mask : Int := -1
  dst : Option Prefix := none
  suppressIfgroup : Int := -1
  suppressPrefixlen : Int := -1
  invert : Bool := false
deriving DecidableEq, Repr

/-- `unix.RT_TABLE_MAIN`. -/
def mainTable : Int := 254

/-- `ifgroup.Group`. -/
def group : Int := 0xe1f1

def allowSubnetRule (prioID : Int) (subnet : Prefix) (ipv6 : Bool) : IpRule :=
  { priority := prioID, invert := false, table := mainTable, dst := some subnet, ipv6 }

def fwmarkRule (prioID : Int) (fwmark : Nat) (tableID : Int) (ipv6 : Bool) : IpRule :=
  { priority := prioID, invert := true, mark := fwmark, table := tableID, ipv6 }

def suppressRule (prioID : Int) (ipv6 skipGroup : Bool) : IpRule :=
  { priority := prioID, table := mainTable, ipv6, suppressPrefixlen := 0,
    suppressIfgroup := if skipGroup then -1 else group }

/-- `isRuleSame`: one of the two suppressions has to agree. -/
def isRuleSame (rule target : IpRule) : Bool :=
  rule.invert == target.invert && rule.mark == target.mark && rule.table == target.table &&
    (rule.suppressIfgroup == target.suppressIfgroup ||
      rule.suppressPrefixlen == target.suppressPrefixlen)

/-- Conversion to `uint`. -/
def uint (n : Int) : Nat := (n % 2 ^ 64).toNat

/-- Conversion to `int`. -/
def int (n : Nat) : Int := Int.bmod n (2 ^ 64)

/-! ### The kernel -/

/-- The mask the kernel gives to a mark without one. -/
def fullMask : Int := 0xffffffff

/-- The rule agrees with every attribute of the request. A destination of no bits is none, and
whether the rule is inverted does not matter. -/
def answers (request rule : IpRule) : Bool :=
  (request.priority < 0 || rule.priority == request.priority) &&
  (request.table ≤ 0 || rule.table == request.table) &&
  (request.mark ≤ 0 || rule.mark == request.mark && rule.mask == fullMask) &&
  (request.suppressIfgroup < 0 || rule.suppressIfgroup == request.suppressIfgroup) &&
  (request.suppressPrefixlen < 0 || rule.suppressPrefixlen == request.suppressPrefixlen) &&
  match request.dst with
  | none => true
  | some subnet => subnet.bits == 0 || rule.dst == some subnet

/-- The table with the rule after those of its priority. -/
def insertRule (rule : IpRule) (rules : List IpRule) : List IpRule :=
  rules.takeWhile (·.priority ≤ rule.priority) ++ rule :: rules.dropWhile
    (·.priority ≤ rule.priority)

inductive NlCall where
  | rpFilterSet
  | ifgroupSet
  | ruleList (ipv6 : Bool)
  | ruleAdd (rule : IpRule)
  | ruleDel (rule : IpRule)
  | routeList (ipv6 : Bool)
deriving DecidableEq

/-- What the system answers, by call number. -/
structure Env where
  fails : Nat → NlCall → Bool
  /-- the tables of `netlink.RouteListFiltered` -/
  routeTables : Nat → List Nat
  /-- the priority of a rule added without one -/
  defaultPriority : Nat → Int
  /-- the family of the table for a rule of family `ipv6` with that destination -/
  place : Bool → Prefix → Bool

/-- The family of the table that a rule belongs to. -/
def Env.familyOf (r : Env) (rule : IpRule) : Bool :=
  match rule.dst with
  | none => rule.ipv6
  | some subnet => r.place rule.ipv6 subnet

/-- `iprule.Router` with the kernel's tables (`true` is IPv6) and the log of calls, latest
first. -/
structure Router where
  fwmark : Nat
  tableID : Nat := 0
  allowSubnets : List String := []
  rules : Bool → List IpRule
  log : List (NlCall × Bool) := []

abbrev Ip := Prog Env Router Error

namespace Router

def logged (s : Router) (c : NlCall) (ok : Bool) : Router := { s with log := (c, ok) :: s.log }

/-- The state with another table for one family. -/
def withRules (s : Router) (ipv6 : Bool) (rules : List IpRule) : Router :=
  { s with rules := fun family => if family = ipv6 then rules else s.rules family }

/-- A rule as the kernel stores it. -/
def stored (s : Router) (r : Env) (rule : IpRule) : IpRule :=
  { rule with
    priority := if rule.priority < 0 then r.defaultPriority s.log.length else rule.priority
    mask := if 0 < rule.mark then fullMask else -1 }

/-- The kernel's part of `netlink.RuleAdd`. -/
def add (s : Router) (r : Env) (rule : IpRule) : Router :=
  s.withRules (r.familyOf rule) (insertRule (s.stored r rule) (s.rules (r.familyOf rule)))

/-- The kernel's part of `netlink.RuleDel`; it needs a rule that answers. -/
def del? (s : Router) (r : Env) (rule : IpRule) : Option Router :=
  if (s.rules (r.familyOf rule)).any (answers rule) then
    some (s.withRules (r.familyOf rule) ((s.rules (r.familyOf rule)).eraseP (answers rule)))
  else none

end Router

/-- Make a call that fails, or has the given effect if it has one. -/
def call (c : NlCall) (effect : Env → Router → Option Router) : Ip Unit := do
  let r ← env
  let s ← state
  match if r.fails s.log.length c then none else effect r s with
  | none => do
    update fun s => s.logged c false
    fail (.external "netlink")
  | some t => update fun _ => t.logged c true

/-- `fmt.Errorf("context: %w", err)`. -/
def context {α : Type} (text : String) (m : Ip α) : Ip α := mapError (.wrap text) m

def ruleList (ipv6 : Bool) : Ip (List IpRule) := do
  call (.ruleList ipv6) fun _ s => some s
  let s ← state
  pure (s.rules ipv6)

def ruleAdd (rule : IpRule) : Ip Unit := call (.ruleAdd rule) fun r s => some (s.add r rule)

def ruleDel (rule : IpRule) : Ip Unit := call (.ruleDel rule) fun r s => s.del? r rule

/-! ### Priorities and tables -/

/-- The loop of `calculateRulePriority` over the rules: the priority of the last one that is not a
rule of the main table. -/
def lastPriority (rules : List IpRule) : Nat :=
  rules.foldl (fun prioID rule =>
    if isRuleSame rule { table := mainTable } then prioID else uint rule.priority) 0

/-- The loop of `calculateRulePriority` below a priority. -/
def freeBelow (used : List Nat) : Nat → Option Nat
  | 0 | 1 => none
  | n + 2 => if used.contains (n + 1) then freeBelow used (n + 1) else some (n + 1)

/-- `calculateRulePriority`. -/
def calculateRulePriority (ipv6 : Bool) : Ip Nat := do
  let rules ← context "listing ip rules" (ruleList ipv6)
  if lastPriority rules = 0 then fail (.plain "unable to calculate ip rule priority id")
  else match freeBelow (rules.map fun rule => uint rule.priority) (lastPriority rules) with
    | none => fail (.plain "unable to calculate rule priority id")
    | some prioID => pure prioID

/-- The loop of `calculateCustomTableID`, for the given number of turns. -/
def freeTable (used : List Nat) : Nat → Nat → Option Nat
  | 0, _ => none
  | turns + 1, tblID => if used.contains tblID then freeTable used turns (tblID + 1) else some tblID

/-- `calculateCustomTableID`: from `routes.TableID()` on, at most 60000. -/
def calculateCustomTableID (ipv6 : Bool) : Ip Nat := do
  let s ← state
  context "listing ip rules" (call (.routeList ipv6) fun _ s => some s)
  let r ← env
  match freeTable (r.routeTables s.log.length) (60000 - 205 + 1) 205 with
  | none => fail (.plain "unable to calculate custom table id")
  | some tblID => pure tblID

/-! ### Single rules -/

def addFwmarkRule (fwMarkVal prioID tblID : Nat) (ipv6 : Bool) : Ip Unit :=
  if fwMarkVal = 0 then fail (.plain "fwmark cannot be 0")
  else context "adding fwmark rule" (ruleAdd (fwmarkRule (int prioID) fwMarkVal (int tblID) ipv6))

/-- `findFwmarkRule`: the table of the first rule with the mark, or 0. -/
def findFwmarkRule (fwMarkVal : Nat) (ipv6 : Bool) : Ip Nat :=
  if fwMarkVal = 0 then fail (.plain "fwmark cannot be 0")
  else do
    let rules ← context "listing ip rules" (ruleList ipv6)
    match rules.find? fun rule => isRuleSame rule (fwmarkRule (-1) fwMarkVal rule.table ipv6) with
    | some rule => pure (uint rule.table)
    | none => pure 0

def removeFwmarkRule (fwMarkVal : Nat) (ipv6 : Bool) : Ip Unit :=
  if fwMarkVal = 0 then fail (.plain "fwmark cannot be 0")
  else context "removing fwmark rule" (ruleDel (fwmarkRule (-1) fwMarkVal (-1) ipv6))

/-- The network of `net.ParseCIDR`. -/
def ipNet (subnet : String) : Option Prefix := (parseCIDR subnet).map Prefix.masked

def addAllowSubnetRule (prioID : Nat) (subnet : Prefix) (ipv6 : Bool) : Ip Unit :=
  context "adding allow subnet rule" (ruleAdd (allowSubnetRule (int prioID) subnet ipv6))

def removeAllowSubnetRule (subnet : Prefix) (ipv6 : Bool) : Ip Unit :=
  context "removing allow subnet rule" (ruleDel (allowSubnetRule (-1) subnet ipv6))

/-- `removeAllowSubnetRules`: what cannot be removed is only logged. -/
def removeAllowSubnetRules (subnets : List String) (ipv6 : Bool) : Ip Unit :=
  forEach (fun subnet =>
    match ipNet subnet with
    | none => pure ()
    | some subnetIPNet => ignore (removeAllowSubnetRule subnetIPNet ipv6)) subnets

def addSuppressRule (prioID : Nat) (ipv6 skipGroup : Bool) : Ip Unit :=
  mapError (fun e => .plain ("adding suppress rule: " ++ e.text Sentinel.text))
    (ruleAdd (suppressRule (int prioID) ipv6 skipGroup))

def checkSuppressRule (ipv6 : Bool) : Ip Bool := do
  let rules ← context "listing ip rules" (ruleList ipv6)
  pure (rules.any fun rule => isRuleSame rule (suppressRule (-1) ipv6 false))

def removeSuppressRule (ipv6 : Bool) : Ip Unit :=
  context "removing suppress prefix rule" (ruleDel (suppressRule (-1) ipv6 true))

/-! ### The router -/

/-- `enableLocalTraffic`. Without a priority it returns no error. -/
def enableLocalTraffic (ipv6Enabled skipGroup : Bool) : Ip Unit := do
  let rulePresent ← checkSuppressRule ipv6Enabled
  when rulePresent (ignore (removeSuppressRule ipv6Enabled))
  let ruleID ← attempt (calculateRulePriority ipv6Enabled)
  match ruleID with
  | .error _ => pure ()
  | .ok ruleID => addSuppressRule ruleID ipv6Enabled skipGroup

/-- One subnet of the loop of `SetupRoutingRules`. -/
def allowSubnet (ipv6 : Bool) (subnet : String) : Ip Unit := do
  let subnetRuleID ← calculateRulePriority ipv6
  match ipNet subnet with
  | none => fail (.external "invalid CIDR address")
  | some subnetIPNet => addAllowSubnetRule subnetRuleID subnetIPNet ipv6

/-- The table of the rule with the mark, which is added if there is none. -/
def ensureFwmarkRule (fwmark : Nat) (ipv6 : Bool) : Ip Nat := do
  let routingTableID ← findFwmarkRule fwmark ipv6
  if routingTableID = 0 then do
    let fwMarkRuleID ← calculateRulePriority ipv6
    let routingTableID ← calculateCustomTableID ipv6
    addFwmarkRule fwmark fwMarkRuleID routingTableID ipv6
    pure routingTableID
  else pure routingTableID

/-- The body of the loop of `SetupRoutingRules` over the address families. -/
def setupFamily (enableLocal lanDiscovery : Bool) (allowSubnets : List String) (ipv6 : Bool) :
    Ip Unit := do
  let s ← state
  let routingTableID ← ensureFwmarkRule s.fwmark ipv6
  update fun s => { s with tableID := routingTableID }
  if enableLocal then enableLocalTraffic ipv6 lanDiscovery
  else ignore (removeSuppressRule ipv6)
  removeAllowSubnetRules s.allowSubnets ipv6
  forEach (allowSubnet ipv6) allowSubnets

/-- The deferred function of `SetupRoutingRules`. -/
def recover (allowSubnets : List String) (ipv6EnabledList : List Bool) : Ip Unit :=
  forEach (fun ipv6 => do
    let s ← state
    ignore (removeSuppressRule ipv6)
    ignore (removeFwmarkRule s.fwmark ipv6)
    removeAllowSubnetRules allowSubnets ipv6) ipv6EnabledList

/-- `SetupRoutingRules`. -/
def setupRoutingRules (ipv6Enabled enableLocal lanDiscovery : Bool) (allowSubnets : List String) :
    Ip Unit := do
  context "setting rp filter" (call .rpFilterSet fun _ s => some s)
  context "setting ifgroups" (call .ifgroupSet fun _ s => some s)
  let ipv6EnabledList := if ipv6Enabled then [false, true] else [false]
  onError (recover allowSubnets ipv6EnabledList)
    (forEach (setupFamily enableLocal lanDiscovery allowSubnets) ipv6EnabledList)
  update fun s => { s with allowSubnets }

end NordVPN.Iprule
