import NordVPN.Firewall.Iptables
import NordVPN.Lib.Decimal

/-!
The port matches of the lines of a rule.

`ruleToIPTables` groups the ports of a rule into ranges and writes a line for each range, under each
port flag. A range that begins with 0 stands for no restriction, so its line has no port match.
Ports come from callers that only drop values above 65535, and 0 is one of those they let through.
-/

namespace NordVPN

open NordVPN.Netip

/-! ### The ranges -/

/-- Every port of the range is listed. -/
def PortRange.Within (range : PortRange) (ports : List Int) : Prop :=
  ∀ port, range.min ≤ port → port ≤ range.max → port ∈ ports

/-- The range has the port. -/
def PortRange.Has (range : PortRange) (port : Int) : Prop := range.min ≤ port ∧ port ≤ range.max

section Ranges

variable {r range : PortRange} {prev port : Int} {ports rest : List Int}

/-- The ranges have the ports of the open range and those still to come. -/
theorem has_portRangesFrom_iff (hmax : r.max = prev) (hmin : r.min ≤ prev) :
    (∃ range ∈ portRangesFrom r prev rest, range.Has port) ↔ r.Has port ∨ port ∈ rest := by
  induction rest generalizing r prev with
  | nil => simp [portRangesFrom]
  | cons next rest ih =>
    unfold portRangesFrom
    split
    · rw [ih rfl (show r.min ≤ next by omega), List.mem_cons, ← or_assoc]
      apply or_congr_left
      simp only [PortRange.Has]
      omega
    · rw [List.exists_mem_cons_iff, ih rfl (Int.le_refl next), List.mem_cons]
      apply or_congr_right
      apply or_congr_left
      simp only [PortRange.Has]
      omega

/-- In a sorted list a range begins at a port without the one before it, or at a second copy. -/
theorem begins_portRangesFrom (hsorted : (prev :: rest).Pairwise (· ≤ ·)) :
    (∃ range ∈ portRangesFrom r prev rest, range.min = port) ↔ r.min = port ∨
      port ∈ rest ∧ (port - 1 ∉ prev :: rest ∨ 2 ≤ (prev :: rest).count port) := by
  induction rest generalizing r prev with
  | nil => simp [portRangesFrom]
  | cons next rest ih =>
    obtain ⟨hprev, hrest⟩ := List.pairwise_cons.mp hsorted
    obtain ⟨hnext, -⟩ := List.pairwise_cons.mp hrest
    have hle := hprev next List.mem_cons_self
    -- a port after `next` is at least as large, so only `next` can be next to `prev`
    have hcount : port ∈ rest ↔ 0 < rest.count port := List.count_pos_iff.symm
    unfold portRangesFrom
    split
    · rename_i hsucc
      rw [ih hrest]
      apply or_congr_right
      by_cases hmem : port ∈ rest
      · have hport := hnext port hmem
        simp only [hmem, List.mem_cons, List.count_cons, true_and, or_true]
        grind
      · simp only [hmem, List.mem_cons, List.count_cons, false_and, or_false, false_iff]
        grind
    · rename_i hsucc
      simp only [List.exists_mem_cons_iff, ih hrest]
      apply or_congr_right
      by_cases hmem : port ∈ rest
      · have hport := hnext port hmem
        simp only [hmem, List.mem_cons, List.count_cons, true_and, or_true]
        grind
      · simp only [hmem, List.mem_cons, List.count_cons, false_and, or_false]
        grind

theorem mem_iff_portsToPortRanges (ports : List Int) (port : Int) :
    port ∈ ports ↔ ∃ range ∈ portsToPortRanges ports, range.Has port := by
  rw [← (List.perm_insertionSort (· ≤ ·) ports).mem_iff]
  unfold portsToPortRanges
  cases ports.insertionSort (· ≤ ·) with
  | nil => simp
  | cons first rest =>
    rw [has_portRangesFrom_iff rfl (Int.le_refl first), List.mem_cons]
    apply or_congr_left
    simp only [PortRange.Has]
    omega

theorem within_portsToPortRanges (h : range ∈ portsToPortRanges ports) : range.Within ports :=
  fun port hmin hmax => (mem_iff_portsToPortRanges ports port).mpr ⟨range, h, hmin, hmax⟩

theorem begins_portsToPortRanges :
    (∃ range ∈ portsToPortRanges ports, range.min = port) ↔
      port ∈ ports ∧ (port - 1 ∉ ports ∨ 2 ≤ ports.count port) := by
  have hperm := List.perm_insertionSort (· ≤ ·) ports
  have hsorted := List.pairwise_insertionSort (· ≤ ·) ports
  rw [← hperm.mem_iff, ← hperm.mem_iff, ← hperm.count_eq]
  unfold portsToPortRanges
  cases hsort : ports.insertionSort (· ≤ ·) with
  | nil => simp
  | cons first rest =>
    rw [hsort] at hsorted
    have hfirst := (List.pairwise_cons.mp hsorted).1
    rw [begins_portRangesFrom hsorted]
    constructor
    · rintro (hmin | ⟨hmem, hstart⟩)
      · obtain rfl : first = port := hmin
        refine ⟨List.mem_cons_self, .inl ?_⟩
        intro hmem
        rcases List.mem_cons.mp hmem with heq | hmem
        · omega
        · have := hfirst _ hmem
          omega
      · exact ⟨List.mem_cons_of_mem _ hmem, hstart⟩
    · rintro ⟨hmem, hstart⟩
      rcases List.mem_cons.mp hmem with rfl | hmem
      · exact .inl rfl
      · exact .inr ⟨hmem, hstart⟩

end Ranges

/-! ### The combinations of the loops -/

/-- One element of each list that the loops of `ruleToIPTables` go over, the ports apart. -/
structure Combination where
  iface : Interface
  remoteNetwork : Prefix
  localNetwork : Prefix
  protocol : String
  chain : RuleChain
  icmpv6Type : Int
  target : RuleTarget
  mark : Nat

namespace Combination

/-- The loops of the rule come to the combination. -/
structure Of (c : Combination) (rule : Rule) : Prop where
  iface : c.iface ∈ nonEmpty {} rule.interfaces
  remoteNetwork : c.remoteNetwork ∈ nonEmpty .zero rule.remoteNetworks
  localNetwork : c.localNetwork ∈ nonEmpty .zero rule.localNetworks
  protocol : c.protocol ∈ nonEmpty "" rule.protocols
  chain : c.chain ∈ toChainSlice rule.direction
  icmpv6Type : c.icmpv6Type ∈ defaultIcmpv6 rule.icmpv6Types
  target : c.target ∈ toTargetSlice rule.allow c.chain (nonEmpty 0 rule.marks)
  mark : c.mark ∈ nonEmpty 0 rule.marks

variable (c : Combination) (rule : Rule) (module stateFlag chainPrefix : String)

/-- The tables that the lines of the combination go to. -/
def tables : List IPTable := tablesOf rule.ipv6Only c.remoteNetwork c.localNetwork

/-- The words of its lines before the port match. -/
def headWords : List String :=
  [chainPrefix ++ c.chain.text] ++
    Words.given (c.iface.name != "") [c.chain.ifaceFlag, c.iface.name] ++
    Words.given (c.remoteNetwork != .zero) [c.chain.remoteAddrFlag, c.remoteNetwork.toString] ++
    Words.given (c.localNetwork != .zero) [c.chain.localAddrFlag, c.localNetwork.toString] ++
    Words.given (c.protocol != "") ["-p", c.protocol] ++
    Words.given (c.mark != 0)
      ["-m", if c.target = .connmark then "mark" else "connmark", "--mark", Words.hex c.mark]

/-- The words of its lines after the port match. -/
def tailWords : List String :=
  Words.given (module != "") ["-m", module] ++
    stateWords stateFlag rule.connectionStates ++
    Words.given (0 < c.icmpv6Type) ["--icmpv6-type", toString c.icmpv6Type] ++
    Words.given (0 < rule.hopLimit) ["-m", "hl", "--hl-eq", toString rule.hopLimit] ++
    ["-m", "comment", "--comment", if rule.comment = "" then "nordvpn" else rule.comment] ++
    ["-j", c.target.text]

/-- The line of the combination with a port match. -/
def withPorts (ports : List String) : String :=
  Words.join (c.headWords chainPrefix ++ ports ++ c.tailWords rule module stateFlag)

/-- The port match of a range. -/
def rangeWords (portFlag : String) (range : PortRange) : List String :=
  [portFlag, toString range.min ++ ":" ++ toString range.max]

/-- Its lines for a range. -/
def linesFor (range : PortRange) : List String :=
  if range.min ≠ 0 then
    (portsDirectionToPortsFlag rule.portsDirection).map fun portFlag =>
      c.withPorts rule module stateFlag chainPrefix (rangeWords portFlag range)
  else
    [c.withPorts rule module stateFlag chainPrefix
      (portWords range "" rule.sourcePorts rule.destinationPorts)]

/-- The loops write the line into the table when they come to the combination. -/
def Makes (table : IPTable) (line : String) : Prop :=
  table ∈ c.tables rule ∧ ∃ range ∈ portsToPortRanges (nonEmpty 0 rule.ports),
    line ∈ c.linesFor rule module stateFlag chainPrefix range

theorem line_eq (range : PortRange) (portFlag : String) (sports dports : List Int) :
    generateIPTablesRule c.chain c.target c.iface c.remoteNetwork c.localNetwork c.protocol range
      module stateFlag rule.connectionStates chainPrefix portFlag c.icmpv6Type rule.hopLimit sports
      dports rule.comment c.mark =
      c.withPorts rule module stateFlag chainPrefix (portWords range portFlag sports dports) := by
  simp only [generateIPTablesRule, withPorts, headWords, tailWords, restWords, List.append_assoc]

variable {c rule module stateFlag chainPrefix} {portFlag : String}

theorem rangeWords_eq {range : PortRange} (hmin : range.min ≠ 0) (hflag : portFlag ≠ "") :
    portWords range portFlag [] [] = rangeWords portFlag range :=
  if_pos ⟨hmin, hflag⟩

theorem flag_mem {direction : PortsDirection} (h : portFlag ∈ portsDirectionToPortsFlag direction) :
    portFlag ∈ ["--sport", "--dport"] := by
  cases direction with
  | sourceAndDestination => exact h
  | destination => exact List.mem_cons_of_mem _ h
  | source =>
    obtain rfl := List.mem_singleton.mp h
    exact List.mem_cons_self

theorem flag_ne_empty {direction : PortsDirection}
    (h : portFlag ∈ portsDirectionToPortsFlag direction) : portFlag ≠ "" := by
  rintro rfl
  exact absurd (flag_mem h) (by decide)

/-- The lines that the innermost body of the loops writes. -/
theorem linesFor_eq (range : PortRange) :
    c.linesFor rule module stateFlag chainPrefix range =
      let line (portFlag : String) (sports dports : List Int) :=
        generateIPTablesRule c.chain c.target c.iface c.remoteNetwork
          c.localNetwork c.protocol range
          module stateFlag rule.connectionStates chainPrefix portFlag c.icmpv6Type rule.hopLimit
          sports dports rule.comment c.mark
      if range.min ≠ 0 then
        (portsDirectionToPortsFlag rule.portsDirection).map fun portFlag => line portFlag [] []
      else [line "" rule.sourcePorts rule.destinationPorts] := by
  simp only [line_eq, linesFor]
  split
  · rename_i hmin
    apply List.map_congr_left
    intro portFlag hflag
    rw [rangeWords_eq hmin (flag_ne_empty hflag)]
  · rfl

/-- Every line is made by a combination of the loops. -/
theorem mem_ruleToIPTables_iff {table : IPTable} {line : String} :
    line ∈ ruleToIPTables rule module stateFlag chainPrefix table ↔
      ∃ c : Combination, c.Of rule ∧ c.Makes rule module stateFlag chainPrefix table line := by
  simp only [ruleToIPTables, List.mem_map, List.mem_filter, tableLines, List.mem_flatMap,
    decide_eq_true_eq]
  constructor
  · rintro ⟨entry,
      ⟨⟨iface, hiface, remote, hremote, near, hnear, range, hrange, protocol, hprotocol,
      chain, hchain, icmpv6Type, hicmp, target, htarget, mark, hmark, text,
        htext, rfl⟩, htable⟩, rfl⟩
    refine ⟨⟨iface, remote, near, protocol, chain, icmpv6Type, target, mark⟩,
      ⟨hiface, hremote, hnear, hprotocol, hchain, hicmp, htarget, hmark⟩, htable, range, hrange, ?_⟩
    rw [linesFor_eq]
    exact htext
  · rintro ⟨c, hc, htable, range, hrange, hline⟩
    rw [linesFor_eq] at hline
    exact ⟨(c.tables rule, line), ⟨⟨c.iface, hc.iface, c.remoteNetwork, hc.remoteNetwork,
      c.localNetwork, hc.localNetwork, range, hrange, c.protocol, hc.protocol, c.chain, hc.chain,
      c.icmpv6Type, hc.icmpv6Type, c.target, hc.target, c.mark, hc.mark, line, hline, rfl⟩, htable⟩,
      rfl⟩

/-! ### Lines without a range -/

theorem colon_notMem_portList (ports : List Int) : ':' ∉ (portList ports).toList := by
  rw [portList, String.toList_intercalate, List.map_map]
  apply Words.notMem_intercalate (by decide)
  intro l hl
  obtain ⟨i, -, rfl⟩ := List.mem_map.mp hl
  exact Decimal.notMem_repr (by decide) (by decide) i

/-- Lists of ports are written without a colon. -/
theorem colon_notMem_portWords {range : PortRange} {sports dports : List Int} :
    ∀ w ∈ portWords range "" sports dports, ':' ∉ w.toList := by
  have hgiven (cond : Bool) (flag : String) (ports : List Int) (hflag : ':' ∉ flag.toList) :
      ∀ w ∈ Words.given cond [flag, portList ports], ':' ∉ w.toList := by
    cases cond with
    | false => exact List.forall_mem_nil _
    | true =>
      rw [Words.given, if_pos rfl, List.forall_mem_cons, List.forall_mem_singleton]
      exact ⟨hflag, colon_notMem_portList ports⟩
  rw [portWords, if_neg fun h => h.2 rfl, List.forall_mem_append]
  exact ⟨hgiven _ _ _ (by decide), hgiven _ _ _ (by decide)⟩

/-- A line without a range is not the line of the same combination with one. -/
theorem withPorts_ne_rangeWords {range range' : PortRange} {sports dports : List Int} :
    c.withPorts rule module stateFlag chainPrefix
      (portWords range "" sports dports) ≠
        c.withPorts rule module stateFlag chainPrefix (rangeWords portFlag range') := by
  intro h
  have hcount := congrArg (fun s : String => s.toList.count ':') h
  have hnone : ((portWords range "" sports dports).map fun w => w.toList.count ':').sum = 0 := by
    rw [List.sum_eq_zero_iff_forall_eq_nat, List.forall_mem_map]
    intro w hw
    exact List.count_eq_zero.mpr (colon_notMem_portWords w hw)
  simp only [withPorts, Words.count_join (show ':' ≠ ' ' by decide), List.map_append,
    List.sum_append, hnone, rangeWords, List.map_cons, String.toList_append, List.count_append,
    List.sum_cons] at hcount
  have hcolon : List.count ':' ":".toList = 1 := by decide
  omega

end Combination

/-! ### Ports survive the translation -/

open Combination

/-- Every line of the rule, as it is made for a combination, has a port match with a range of listed
ports; and every listed port is matched by a line of every combination, under every port flag. -/
structure PortsKept (rule : Rule) (module stateFlag chainPrefix : String) : Prop where
  matched : ∀ table, ∀ line ∈ ruleToIPTables rule module stateFlag chainPrefix table,
    (∃ c : Combination, c.Of rule ∧ c.Makes rule module stateFlag chainPrefix table line) ∧
    ∀ c : Combination, c.Of rule → c.Makes rule module stateFlag chainPrefix table line →
      ∃ portFlag ∈ ["--sport", "--dport"], ∃ range : PortRange, range.Within rule.ports ∧
        line = c.withPorts rule module stateFlag chainPrefix (rangeWords portFlag range)
  covered : ∀ c : Combination, c.Of rule → ∀ table ∈ c.tables rule, ∀ port ∈ rule.ports,
    ∀ portFlag ∈ portsDirectionToPortsFlag rule.portsDirection, ∃ range : PortRange,
      range.Within rule.ports ∧ range.Has port ∧
        c.withPorts rule module stateFlag chainPrefix (rangeWords portFlag range) ∈
          ruleToIPTables rule module stateFlag chainPrefix table

section

variable {rule : Rule} {module stateFlag chainPrefix : String}

/-- The loops come to some combination, and its lines go to some table. -/
theorem exists_combination (rule : Rule) :
    ∃ c : Combination, c.Of rule ∧ ∃ table, table ∈ c.tables rule := by
  have hnonEmpty {α : Type} (filler : α) (as : List α) : ∃ a, a ∈ nonEmpty filler as := by
    cases as with
    | nil => exact ⟨filler, List.mem_singleton_self _⟩
    | cons a as => exact ⟨a, List.mem_cons_self⟩
  obtain ⟨iface, hiface⟩ := hnonEmpty {} rule.interfaces
  obtain ⟨remote, hremote⟩ := hnonEmpty .zero rule.remoteNetworks
  obtain ⟨near, hnear⟩ := hnonEmpty .zero rule.localNetworks
  obtain ⟨protocol, hprotocol⟩ := hnonEmpty "" rule.protocols
  obtain ⟨mark, hmark⟩ := hnonEmpty 0 rule.marks
  obtain ⟨chain, hchain⟩ : ∃ chain, chain ∈ toChainSlice rule.direction := by
    cases rule.direction <;> exact ⟨_, List.mem_cons_self⟩
  obtain ⟨icmpv6Type, hicmp⟩ : ∃ i, i ∈ defaultIcmpv6 rule.icmpv6Types := by
    unfold defaultIcmpv6
    cases rule.icmpv6Types <;> exact ⟨_, List.mem_cons_self⟩
  obtain ⟨table, htable⟩ : ∃ table, table ∈ tablesOf rule.ipv6Only remote near := by
    unfold tablesOf
    split
    · exact ⟨_, List.mem_cons_self⟩
    · split <;> exact ⟨_, List.mem_cons_self⟩
  exact ⟨⟨iface, remote, near, protocol, chain, icmpv6Type, if rule.allow then .accept else .drop,
    mark⟩, ⟨hiface, hremote, hnear, hprotocol, hchain, hicmp, List.mem_cons_self, hmark⟩, table,
    htable⟩

theorem nonEmpty_eq {α : Type} {filler : α} {as : List α} (h : as ≠ []) :
    nonEmpty filler as = as := by
  cases as with
  | nil => exact absurd rfl h
  | cons a as => rfl

theorem portsKept_of_ranges (hports : rule.ports ≠ [])
    (h : ∀ range ∈ portsToPortRanges rule.ports, range.min ≠ 0) :
    PortsKept rule module stateFlag chainPrefix := by
  constructor
  · intro table line hline
    refine ⟨mem_ruleToIPTables_iff.mp hline, ?_⟩
    rintro c hc ⟨-, range, hrange, hmade⟩
    rw [nonEmpty_eq hports] at hrange
    rw [linesFor, if_pos (h range hrange)] at hmade
    obtain ⟨portFlag, hflag, rfl⟩ := List.mem_map.mp hmade
    exact ⟨portFlag, flag_mem hflag, range, within_portsToPortRanges hrange, rfl⟩
  · intro c hc table htable port hport portFlag hflag
    obtain ⟨range, hrange, hhas⟩ := (mem_iff_portsToPortRanges _ _).mp hport
    refine ⟨range, within_portsToPortRanges hrange, hhas, ?_⟩
    rw [mem_ruleToIPTables_iff]
    refine ⟨c, hc, htable, range, ?_, ?_⟩
    · rwa [nonEmpty_eq hports]
    · rw [linesFor, if_pos (h range hrange)]
      exact List.mem_map_of_mem hflag

theorem ranges_of_portsKept (hports : rule.ports ≠ [])
    (h : PortsKept rule module stateFlag chainPrefix) :
    ∀ range ∈ portsToPortRanges rule.ports, range.min ≠ 0 := by
  intro range hrange hzero
  obtain ⟨c, hc, table, htable⟩ := exists_combination rule
  have hmakes : c.Makes rule module stateFlag chainPrefix table
      (c.withPorts rule module stateFlag chainPrefix
        (portWords range "" rule.sourcePorts rule.destinationPorts)) := by
    refine ⟨htable, range, ?_, ?_⟩
    · rwa [nonEmpty_eq hports]
    · rw [linesFor, if_neg (not_not.mpr hzero)]
      exact List.mem_singleton_self _
  obtain ⟨-, hmatched⟩ := h.matched table _ (mem_ruleToIPTables_iff.mpr ⟨c, hc, hmakes⟩)
  obtain ⟨portFlag, -, range', -, heq⟩ := hmatched c hc hmakes
  exact withPorts_ne_rangeWords heq

theorem no_range_from_zero_iff {ports : List Int} :
    (∀ range ∈ portsToPortRanges ports, range.min ≠ 0) ↔
      (0 ∈ ports → -1 ∈ ports ∧ ports.count 0 = 1) := by
  have hbegins := not_congr (@begins_portsToPortRanges 0 ports)
  rw [not_exists] at hbegins
  simp only [not_and, not_or, not_not, not_le, Int.zero_sub] at hbegins
  rw [hbegins]
  apply forall_congr'
  intro hmem
  apply and_congr_right
  intro _
  have hpos := List.count_pos_iff.mpr hmem
  omega

end

/-- The ports of a rule are kept exactly when no run of them begins with 0: when 0 is not listed, or
once only and next to -1. -/
theorem ports_kept_iff (rule : Rule) (hports : rule.ports ≠ [])
    (module stateFlag chainPrefix : String) :
    PortsKept rule module stateFlag chainPrefix ↔
      (0 ∈ rule.ports → -1 ∈ rule.ports ∧ rule.ports.count 0 = 1) := by
  rw [← no_range_from_zero_iff]
  exact ⟨ranges_of_portsKept hports, portsKept_of_ranges hports⟩

/-- The rule that `setAllowlist` adds for tcp ports on a machine without interfaces. -/
def tcpPorts (ports : List Int) : Rule :=
  { name := "allowlist_ports_tcp", protocols := ["tcp"], ports,
    direction := .twoWay, allow := true }

theorem ports_kept_sample :
    (tcpPorts [80, 22]).ports ≠ [] ∧ PortsKept (tcpPorts [80, 22]) "" "" "" :=
  ⟨by decide, (ports_kept_iff (tcpPorts [80, 22]) (by decide) "" "" "").mpr (by decide)⟩

/-- With port 0 in the list all tcp ports are accepted. -/
theorem port_zero_accepts_all :
    ruleToIPTables (tcpPorts [0]) "" "" "" .ipv4 =
      ["INPUT -p tcp -m comment --comment nordvpn -j ACCEPT",
        "OUTPUT -p tcp -m comment --comment nordvpn -j ACCEPT"] ∧
      ¬ PortsKept (tcpPorts [0]) "" "" "" := by
  constructor
  · decide
  · intro h
    exact ranges_of_portsKept (by decide) h ⟨0, 0⟩ (by decide) rfl

end NordVPN
