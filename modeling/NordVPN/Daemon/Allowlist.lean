import NordVPN.Daemon.Config

/-!
Requests that change the allowlist (`daemon/rpc_set_allowlist.go`,
`config/allowlistlist.go`).

Ports are `int64`, and the loops over a range of ports count with them: after the largest
number comes the smallest. A loop is given the number of turns it may take and returns
`none` if that is not enough, so a request that never returns is one that returns `none`
for every number.
-/

namespace NordVPN.Daemon

open NordVPN.Netip NordVPN.Networker

/-! ### Sets of keys -/

section Sets

variable {α : Type} [DecidableEq α]

/-- `set[x] = true`. -/
def insertKey (set : List α) (x : α) : List α := if x ∈ set then set else set ++ [x]

/-- `delete(set, x)`. -/
def deleteKey (set : List α) (x : α) : List α := set.filter (· ≠ x)

/-- The loop of `UpdateUDPPorts` and `UpdateTCPPorts`. -/
def updateKeys (remove : Bool) (set xs : List α) : List α :=
  xs.foldl (if remove then deleteKey else insertKey) set

theorem mem_insertKey {set : List α} {x y : α} : y ∈ insertKey set x ↔ y ∈ set ∨ y = x := by
  unfold insertKey
  split
  · rename_i h
    constructor
    · exact .inl
    · rintro (hy | rfl)
      · exact hy
      · exact h
  · simp

theorem mem_deleteKey {set : List α} {x y : α} : y ∈ deleteKey set x ↔ y ∈ set ∧ y ≠ x := by
  simp [deleteKey]

theorem mem_updateKeys_insert {set xs : List α} {y : α} :
    y ∈ updateKeys false set xs ↔ y ∈ set ∨ y ∈ xs := by
  unfold updateKeys
  induction xs generalizing set with
  | nil => simp
  | cons x xs ih =>
    have hstep := @ih (insertKey set x)
    simp only [Bool.false_eq_true, ↓reduceIte] at hstep
    simp only [Bool.false_eq_true, ↓reduceIte, List.foldl_cons, hstep, mem_insertKey,
      List.mem_cons, or_assoc]

theorem mem_updateKeys_delete {set xs : List α} {y : α} :
    y ∈ updateKeys true set xs ↔ y ∈ set ∧ y ∉ xs := by
  unfold updateKeys
  induction xs generalizing set with
  | nil => simp
  | cons x xs ih =>
    have hstep := @ih (deleteKey set x)
    simp only [↓reduceIte] at hstep
    simp only [↓reduceIte, List.foldl_cons, hstep, mem_deleteKey, List.mem_cons, not_or, and_assoc]

end Sets

/-! ### Validation -/

/-- `containsPrivateNetwork`. -/
def containsPrivateNetwork (subnet : String) : Bool :=
  match parsePrefix subnet with
  | none => false
  | some net => net.addr.isPrivate || net.addr.isLinkLocalUnicast

/-- `isSubnetValid`: the error code, if there is one. -/
def isSubnetValid (subnet : String) (currentSubnets : List String) (remove : Bool) : Option Reply :=
  if (parseCIDR subnet).isNone then some .allowlistInvalidSubnet
  else if currentSubnets.contains subnet != remove then some .allowlistSubnetNoop
  else none

/-- A number as an `int64`. -/
def wrap64 (n : Int) : Int := (n + 2 ^ 63) % 2 ^ 64 - 2 ^ 63

def allowlistMinPort : Int := 1

def allowlistMaxPort : Int := 65535

/-- The loop of `arePortsValid` that a removal runs: whether all ports of the range are
there. -/
def hasPorts (currentPorts : List Int) : Nat → Int → Int → Option Bool
  | 0, port, stop => if port ≤ stop then none else some true
  | turns + 1, port, stop =>
    if port ≤ stop then
      if currentPorts.contains port then hasPorts currentPorts turns (wrap64 (port + 1)) stop
      else some false
    else some true

/-- `arePortsValid`: the error code, if there is one. The second condition compares the start
of the range again where its end is meant. -/
def arePortsValid (turns : Nat) (portRangeStart portRangeEnd : Int) (currentPorts : List Int)
    (remove : Bool) : Option (Option Reply) :=
  if portRangeStart < allowlistMinPort || portRangeStart > allowlistMaxPort then
    some (some .allowlistPortOutOfRange)
  else if portRangeEnd != 0 && ((portRangeStart < allowlistMinPort ||
      portRangeStart > allowlistMaxPort) || portRangeEnd < portRangeStart) then
    some (some .allowlistPortOutOfRange)
  else do
    let present ← (if remove then hasPorts currentPorts turns portRangeStart portRangeEnd
      else some true)
    if !present then some (some .allowlistPortNoop)
    else if portRangeEnd == 0 && currentPorts.contains portRangeStart != remove then
      some (some .allowlistPortNoop)
    else some none

/-- The loop of `getPortsInARange`. -/
def portsFrom : Nat → Int → Int → Option (List Int)
  | 0, port, stop => if port ≤ stop then none else some []
  | turns + 1, port, stop =>
    if port ≤ stop then (portsFrom turns (wrap64 (port + 1)) stop).map (port :: ·) else some []

/-- `getPortsInARange`. -/
def getPortsInARange (turns : Nat) (start stop : Int) : Option (List Int) :=
  (portsFrom turns (wrap64 (start + 1)) stop).map (start :: ·)

/-! ### The new allowlist -/

/-- `pb.SetAllowlistRequest`. -/
inductive AllowlistRequest where
  | subnet (subnet : String)
  | ports (isUdp isTcp : Bool) (startPort endPort : Int)
deriving DecidableEq, Repr

/-- One of the two halves of a ports request. -/
def updatePorts (turns : Nat) (startPort endPort : Int) (remove : Bool) (ports : List Int) :
    Option (Except Reply (List Int)) :=
  match arePortsValid turns startPort endPort ports remove with
  | none => none
  | some (some code) => some (.error code)
  | some none => (getPortsInARange turns startPort endPort).map fun range =>
    .ok (updateKeys remove ports range)

/-- `getNewAllowlist` after the configuration is loaded. -/
def getNewAllowlist (turns : Nat) (cfg : Config) (request : AllowlistRequest) (remove : Bool) :
    Option (Except Reply Allowlist) :=
  match request with
  | .subnet subnet =>
    if cfg.lanDiscovery && containsPrivateNetwork subnet then
      some (.error .privateSubnetLANDiscovery)
    else match isSubnetValid subnet cfg.allowlist.subnets remove with
      | some code => some (.error code)
      | none => some (.ok { cfg.allowlist with
          subnets := updateKeys remove cfg.allowlist.subnets [subnet] })
  | .ports isUdp isTcp startPort endPort =>
    let update (chosen : Bool) (ports : List Int) : Option (Except Reply (List Int)) :=
      if chosen then updatePorts turns startPort endPort remove ports else some (.ok ports)
    match update isUdp cfg.allowlist.ports.udp with
    | none => none
    | some (.error code) => some (.error code)
    | some (.ok udp) =>
      match update isTcp cfg.allowlist.ports.tcp with
      | none => none
      | some (.error code) => some (.error code)
      | some (.ok tcp) => some (.ok { cfg.allowlist with ports := { tcp, udp } })

end NordVPN.Daemon
