import NordVPN.Errors
import NordVPN.Net.Netip

/-!
Firewall rules and the memory of the firewall service (`daemon/firewall/rule.go`).

A Go slice is a list and `nil` is the empty list: every slice of a rule that the
daemon builds is `nil` exactly when it has no element.
-/

namespace NordVPN

open NordVPN.Netip

/-- `net.Interface`, with the hardware address in its text form. -/
structure Interface where
  index : Int := 0
  mtu : Int := 0
  name : String := ""
  hardwareAddr : String := ""
  flags : Nat := 0
deriving DecidableEq, Repr

/-- `device.InterfacesAreEqual`. -/
def interfacesAreEqual (a b : Interface) : Bool :=
  a.index == b.index && a.mtu == b.mtu && a.name == b.name &&
    a.hardwareAddr == b.hardwareAddr && a.flags == b.flags

inductive PortsDirection where
  | sourceAndDestination | destination | source
deriving DecidableEq, Repr

inductive ConnectionState where
  | established | related | new
deriving DecidableEq, Repr

inductive Direction where
  | inbound | outbound | twoWay | forward
deriving DecidableEq, Repr

structure ConnectionStates where
  srcAddr : Addr := .invalid
  states : List ConnectionState := []
deriving DecidableEq, Repr

/-- `firewall.Rule`. A field left out in a Go literal has its zero value. -/
structure Rule where
  name : String
  interfaces : List Interface := []
  remoteNetworks : List Prefix := []
  localNetworks : List Prefix := []
  ports : List Int := []
  portsDirection : PortsDirection := .sourceAndDestination
  protocols : List String := []
  direction : Direction := .inbound
  connectionStates : ConnectionStates := {}
  marks : List Nat := []
  allow : Bool := false
  ipv6Only : Bool := false
  icmpv6Types : List Int := []
  hopLimit : Nat := 0
  sourcePorts : List Int := []
  destinationPorts : List Int := []
  comment : String := ""
deriving DecidableEq, Repr

/-- `slices.EqualFunc`. -/
def equalFunc {α : Type} (eq : α → α → Bool) : List α → List α → Bool
  | [], [] => true
  | a :: as, b :: bs => eq a b && equalFunc eq as bs
  | _, _ => false

/-- `Rule.Equal`: all seventeen fields. -/
def Rule.equal (r other : Rule) : Bool :=
  r.name == other.name &&
    equalFunc interfacesAreEqual r.interfaces other.interfaces &&
    r.remoteNetworks == other.remoteNetworks &&
    r.localNetworks == other.localNetworks &&
    r.ports == other.ports &&
    r.portsDirection == other.portsDirection &&
    r.protocols == other.protocols &&
    r.direction == other.direction &&
    r.connectionStates == other.connectionStates &&
    r.marks == other.marks &&
    r.allow == other.allow &&
    r.ipv6Only == other.ipv6Only &&
    r.icmpv6Types == other.icmpv6Types &&
    r.hopLimit == other.hopLimit &&
    r.sourcePorts == other.sourcePorts &&
    r.destinationPorts == other.destinationPorts &&
    r.comment == other.comment

theorem interfacesAreEqual_iff {a b : Interface} : interfacesAreEqual a b = true ↔ a = b := by
  cases a; cases b
  simp [interfacesAreEqual, and_assoc]

theorem equalFunc_iff {α : Type} {eq : α → α → Bool} (h : ∀ a b, eq a b = true ↔ a = b) :
    ∀ as bs : List α, equalFunc eq as bs = true ↔ as = bs
  | [], [] => by simp [equalFunc]
  | [], _ :: _ => by simp [equalFunc]
  | _ :: _, [] => by simp [equalFunc]
  | a :: as, b :: bs => by simp [equalFunc, h, equalFunc_iff h as bs]

/-- `Rule.Equal` compares every field of the struct, so it is equality. -/
theorem Rule.equal_iff {r other : Rule} : r.equal other = true ↔ r = other := by
  cases r; cases other
  simp [Rule.equal, equalFunc_iff fun _ _ => interfacesAreEqual_iff, and_assoc]

/-! ### The ordered memory -/

/-- `OrderedRules`: the rules in the order they were added. Every rule is named,
and no two rules share a name. -/
structure OrderedRules where
  rules : List Rule
  named : ∀ r ∈ rules, r.name ≠ ""
  distinct : (rules.map Rule.name).Nodup

namespace OrderedRules

def empty : OrderedRules := ⟨[], by simp, by simp⟩

def names (mem : OrderedRules) : List String := mem.rules.map Rule.name

/-- `byName`. -/
def byName (name : String) (rule : Rule) : Bool := rule.name == name

/-- `OrderedRules.Get`. -/
def get? (mem : OrderedRules) (name : String) : Option Rule := mem.rules.find? (byName name)

/-- The rules with the first one of that name cut out (`slices.Delete` at the index
of the name, when there is one). -/
def cut (mem : OrderedRules) (name : String) : List Rule := mem.rules.eraseP (byName name)

variable {mem : OrderedRules} {name n : String} {rule : Rule}

theorem mem_names : n ∈ mem.names ↔ ∃ r ∈ mem.rules, r.name = n := List.mem_map

theorem nodup_names (mem : OrderedRules) : mem.names.Nodup := mem.distinct

theorem get?_some (h : mem.get? name = some rule) : rule ∈ mem.rules ∧ rule.name = name :=
  ⟨List.mem_of_find?_eq_some h, by simpa [byName] using List.find?_some h⟩

theorem get?_eq_none : mem.get? name = none ↔ name ∉ mem.names := by
  simp [get?, mem_names, byName]

theorem get?_isSome : (∃ r, mem.get? name = some r) ↔ name ∈ mem.names := by
  rw [← Option.isSome_iff_exists, Option.isSome_iff_ne_none, Ne, get?_eq_none, not_not]

/-- Names are pairwise distinct, so cutting the first rule of a name removes the
name from a list of rules and nothing else. -/
theorem map_name_eraseP (rs : List Rule) (name : String) :
    (rs.eraseP (byName name)).map Rule.name = (rs.map Rule.name).erase name := by
  induction rs with
  | nil => rfl
  | cons r rs ih =>
    by_cases h : r.name = name
    · simp [byName, h]
    · simp [byName, h, ← ih]

theorem names_cut (mem : OrderedRules) (name : String) :
    (mem.cut name).map Rule.name = mem.names.erase name :=
  map_name_eraseP _ _

theorem named_cut : ∀ r ∈ mem.cut name, r.name ≠ "" :=
  fun r hr => mem.named r (List.mem_of_mem_eraseP hr)

theorem distinct_cut : ((mem.cut name).map Rule.name).Nodup := by
  rw [names_cut]
  exact mem.distinct.erase name

/-- The memory with `rule` at the end and any older rule of its name removed. -/
def put (mem : OrderedRules) (rule : Rule) (h : rule.name ≠ "") : OrderedRules where
  rules := mem.cut rule.name ++ [rule]
  named := by
    intro r hr
    rcases List.mem_append.mp hr with hr | hr
    · exact named_cut r hr
    · exact List.mem_singleton.mp hr ▸ h
  distinct := by
    rw [List.map_append, names_cut]
    refine List.Nodup.append (mem.nodup_names.erase _) (by simp) ?_
    simpa using mem.nodup_names.not_mem_erase

/-- `OrderedRules.Add`. -/
def add (mem : OrderedRules) (rule : Rule) : Except Error OrderedRules :=
  if h : rule.name = "" then .error (.sentinel .ruleWithoutName)
  else match mem.get? rule.name with
    | some existing =>
      if existing.equal rule then .error (.sentinel .ruleAlreadyExists) else .ok (mem.put rule h)
    | none => .ok (mem.put rule h)

/-- `OrderedRules.Delete`. A memory of one rule is reset to the empty slice. -/
def delete (mem : OrderedRules) (name : String) : Except Error OrderedRules :=
  match mem.get? name with
  | none => .error (.sentinel .ruleNotFound)
  | some _ =>
    if mem.rules.length ≤ 1 then .ok empty
    else .ok ⟨mem.cut name, named_cut, distinct_cut⟩

theorem mem_names_put {h : rule.name ≠ ""} :
    n ∈ (mem.put rule h).names ↔ n ∈ mem.names ∨ n = rule.name := by
  simp only [names, put, List.map_append, List.mem_append, List.map_cons, List.map_nil,
    List.mem_singleton]
  rw [names_cut]
  by_cases hn : n = rule.name
  · simp [hn]
  · simp [hn, List.mem_erase_of_ne, names]

variable {mem' : OrderedRules}

/-- What an accepted `Delete` did: it cut the rule of that name. -/
theorem delete_ok (h : mem.delete name = .ok mem') :
    name ∈ mem.names ∧ mem'.rules = mem.cut name := by
  unfold delete at h
  split at h
  · cases h
  · rename_i r hr
    refine ⟨get?_isSome.mp ⟨r, hr⟩, ?_⟩
    split at h
    · rename_i hlen
      obtain ⟨hmem, hname⟩ := get?_some hr
      have hone : mem.rules = [r] := by
        match hm : mem.rules with
        | [] => simp [hm] at hmem
        | [x] => rw [hm] at hmem; rw [List.mem_singleton.mp hmem]
        | _ :: _ :: _ => simp [hm] at hlen
      rw [← Except.ok.inj h]
      simp [empty, cut, hone, byName, hname]
    · rw [← Except.ok.inj h]

theorem names_delete (h : mem.delete name = .ok mem') :
    mem'.names = mem.names.erase name := by
  rw [names, (delete_ok h).2, names_cut]

theorem mem_names_delete (h : mem.delete name = .ok mem') :
    n ∈ mem'.names ↔ n ∈ mem.names ∧ n ≠ name := by
  rw [names_delete h, mem.nodup_names.mem_erase_iff, and_comm]

end OrderedRules

end NordVPN
