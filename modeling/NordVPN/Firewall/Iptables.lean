import NordVPN.Lib.Words
import NordVPN.Firewall.Rule

/-!
The iptables agent (`daemon/firewall/iptables/iptables.go`): how a firewall rule
becomes lines of `iptables` and `ip6tables`.

A rule is a product of lists, and an empty list is no restriction: it is filled
with one element that stands for nothing, and the line leaves that match out. The
prefix that stands for nothing is also the prefix of an invalid address.
-/

namespace NordVPN

open NordVPN.Netip

/-- The commands `iptables` and `ip6tables`. -/
inductive IPTable where
  | ipv4 | ipv6
deriving DecidableEq, Repr

inductive RuleTarget where
  | accept | drop | connmark
deriving DecidableEq, Repr

/-- What is passed to `-j`. -/
def RuleTarget.text : RuleTarget → String
  | .accept => "ACCEPT"
  | .drop => "DROP"
  | .connmark => "CONNMARK --save-mark --nfmask 0xffffffff --ctmask 0xffffffff"

inductive RuleChain where
  | input | output | forward
deriving DecidableEq, Repr

namespace RuleChain

def text : RuleChain → String
  | .input => "INPUT"
  | .output => "OUTPUT"
  | .forward => "FORWARD"

/-- The remote side is the source of what comes in and the destination of the rest. -/
def remoteAddrFlag : RuleChain → String
  | .input => "-s"
  | .output | .forward => "-d"

def localAddrFlag : RuleChain → String
  | .input => "-d"
  | .output | .forward => "-s"

def ifaceFlag : RuleChain → String
  | .input => "-i"
  | .output | .forward => "-o"

end RuleChain

structure PortRange where
  min : Int
  max : Int
deriving DecidableEq, Repr

/-- The loop of `PortsToPortRanges`: `r` is the range under construction and `prev` the
port before the rest. -/
def portRangesFrom (r : PortRange) (prev : Int) : List Int → List PortRange
  | [] => [r]
  | port :: rest =>
    if port = prev + 1 then portRangesFrom { r with max := port } port rest
    else r :: portRangesFrom ⟨port, port⟩ port rest

/-- `PortsToPortRanges`. -/
def portsToPortRanges (ports : List Int) : List PortRange :=
  match ports.insertionSort (· ≤ ·) with
  | [] => []
  | port :: rest => portRangesFrom ⟨port, port⟩ port rest

example : portsToPortRanges [80, 22, 23, 24, 81] = [⟨22, 24⟩, ⟨80, 81⟩] := by decide

/-- `portsDirectionToPortsFlag`. -/
def portsDirectionToPortsFlag : PortsDirection → List String
  | .sourceAndDestination => ["--sport", "--dport"]
  | .destination => ["--dport"]
  | .source => ["--sport"]

/-- `defaultIcmpv6`. -/
def defaultIcmpv6 (icmp6Types : List Int) : List Int :=
  if icmp6Types.isEmpty then [0] else icmp6Types

/-- `toChainSlice`. -/
def toChainSlice : Direction → List RuleChain
  | .inbound => [.input]
  | .outbound => [.output]
  | .twoWay => [.input, .output]
  | .forward => [.forward]

/-- `toTargetSlice`: packets that leave with a mark also have it saved. -/
def toTargetSlice (allowPackets : Bool) (chain : RuleChain) (marks : List Nat) : List RuleTarget :=
  (if allowPackets then .accept else .drop) ::
    if chain = .output ∧ marks.headD 0 ≠ 0 then [.connmark] else []

/-- `connectionStateToString`. -/
def connectionStateToString : ConnectionState → String
  | .related => "RELATED"
  | .established => "ESTABLISHED"
  | .new => "NEW"

/-- A list with an element in it. -/
def nonEmpty {α : Type} (filler : α) : List α → List α
  | [] => [filler]
  | a :: as => a :: as

/-- `generateNonEmptyRule`. -/
def generateNonEmptyRule (rule : Rule) : Rule :=
  { rule with
    remoteNetworks := nonEmpty .zero rule.remoteNetworks
    localNetworks := nonEmpty .zero rule.localNetworks
    protocols := nonEmpty "" rule.protocols
    interfaces := nonEmpty {} rule.interfaces
    ports := nonEmpty 0 rule.ports
    marks := nonEmpty 0 rule.marks }

/-- `strings.Join(internal.IntsToStrings(ports), ",")`. -/
def portList (ports : List Int) : String := ",".intercalate (ports.map toString)

/-- The words of the port matches: a range under one flag, or lists of ports. -/
def portWords (portRange : PortRange) (portFlag : String) (sports dports : List Int) :
    List String :=
  if portRange.min ≠ 0 ∧ portFlag ≠ "" then
    [portFlag, toString portRange.min ++ ":" ++ toString portRange.max]
  else
    Words.given (!sports.isEmpty) ["--sport", portList sports] ++
      Words.given (!dports.isEmpty) ["--dport", portList dports]

/-- The words of the match on connection states. -/
def stateWords (stateFlag : String) (states : ConnectionStates) : List String :=
  Words.given (stateFlag != "" && !states.states.isEmpty)
    ([stateFlag, ",".intercalate (states.states.map connectionStateToString)] ++
      Words.given (states.srcAddr.isValid && !states.srcAddr.isUnspecified)
        ["--ctorigsrc", states.srcAddr.toString])

/-- The words of a line after its network matches. -/
def restWords (target : RuleTarget) (protocol : String) (portRange : PortRange)
    (module stateFlag : String) (states : ConnectionStates) (portFlag : String) (icmpv6Type : Int)
    (hopLimit : Nat) (sports dports : List Int) (comment : String) (mark : Nat) : List String :=
  Words.given (protocol != "") ["-p", protocol] ++
    Words.given (mark != 0)
      ["-m", if target = .connmark then "mark" else "connmark", "--mark", Words.hex mark] ++
    portWords portRange portFlag sports dports ++
    Words.given (module != "") ["-m", module] ++
    stateWords stateFlag states ++
    Words.given (0 < icmpv6Type) ["--icmpv6-type", toString icmpv6Type] ++
    Words.given (0 < hopLimit) ["-m", "hl", "--hl-eq", toString hopLimit] ++
    ["-m", "comment", "--comment", if comment = "" then "nordvpn" else comment] ++
    ["-j", target.text]

/-- `generateIPTablesRule`. Every piece is appended after a blank. -/
def generateIPTablesRule (direction : RuleChain) (target : RuleTarget) (iface : Interface)
    (remoteNetwork localNetwork : Prefix) (protocol : String) (portRange : PortRange)
    (module stateFlag : String) (states : ConnectionStates) (chainPrefix portFlag : String)
    (icmpv6Type : Int) (hopLimit : Nat) (sports dports : List Int) (comment : String)
    (mark : Nat) : String :=
  Words.join ([chainPrefix ++ direction.text] ++
    Words.given (iface.name != "") [direction.ifaceFlag, iface.name] ++
    Words.given (remoteNetwork != .zero) [direction.remoteAddrFlag, remoteNetwork.toString] ++
    Words.given (localNetwork != .zero) [direction.localAddrFlag, localNetwork.toString] ++
    restWords target protocol portRange module stateFlag states portFlag icmpv6Type hopLimit
      sports dports comment mark)

/-- The tables a line goes to: that of its address family, or both. -/
def tablesOf (ipv6Only : Bool) (remoteNetwork localNetwork : Prefix) : List IPTable :=
  if ipv6Only || remoteNetwork.addr.is6 || localNetwork.addr.is6 then [.ipv6]
  else if remoteNetwork.addr.is4 || localNetwork.addr.is4 then [.ipv4]
  else [.ipv6, .ipv4]

/-- The lines of a rule with the tables they go to, in the order of the nested loops of
`ruleToIPTables`. -/
def tableLines (rule : Rule) (module stateFlag chainPrefix : String) :
    List (List IPTable × String) :=
  rule.interfaces.flatMap fun iface =>
  rule.remoteNetworks.flatMap fun remoteNetwork =>
  rule.localNetworks.flatMap fun localNetwork =>
  (portsToPortRanges rule.ports).flatMap fun pRange =>
  rule.protocols.flatMap fun protocol =>
  (toChainSlice rule.direction).flatMap fun chain =>
  (defaultIcmpv6 rule.icmpv6Types).flatMap fun icmpv6Type =>
  (toTargetSlice rule.allow chain rule.marks).flatMap fun target =>
  rule.marks.flatMap fun mark =>
    let line (portFlag : String) (sports dports : List Int) :=
      generateIPTablesRule chain target iface remoteNetwork localNetwork protocol pRange module
        stateFlag rule.connectionStates chainPrefix portFlag icmpv6Type rule.hopLimit sports dports
        rule.comment mark
    let lines := if pRange.min ≠ 0 then
        (portsDirectionToPortsFlag rule.portsDirection).map fun portFlag => line portFlag [] []
      else [line "" rule.sourcePorts rule.destinationPorts]
    lines.map fun text => (tablesOf rule.ipv6Only remoteNetwork localNetwork, text)

/-- `ruleToIPTables`. -/
def ruleToIPTables (rule : Rule) (module stateFlag chainPrefix : String) (table : IPTable) :
    List String :=
  ((tableLines (generateNonEmptyRule rule) module stateFlag chainPrefix).filter
    fun entry => table ∈ entry.1).map Prod.snd

/-! ### What a line matches -/

section Lines

variable {rule : Rule} {module stateFlag chainPrefix line : String} {table : IPTable}

/-- A line comes from one element of each list of the rule. -/
theorem mem_ruleToIPTables (h : line ∈ ruleToIPTables rule module stateFlag chainPrefix table) :
    ∃ chain ∈ toChainSlice rule.direction,
    ∃ iface ∈ nonEmpty {} rule.interfaces,
    ∃ remoteNetwork ∈ nonEmpty .zero rule.remoteNetworks,
    ∃ localNetwork ∈ nonEmpty .zero rule.localNetworks,
    ∃ target ∈ toTargetSlice rule.allow chain (nonEmpty 0 rule.marks),
    ∃ protocol pRange portFlag icmpv6Type sports dports mark,
      line = generateIPTablesRule chain target iface remoteNetwork localNetwork protocol pRange
        module stateFlag rule.connectionStates chainPrefix portFlag icmpv6Type rule.hopLimit sports
        dports rule.comment mark := by
  obtain ⟨entry, hentry, rfl⟩ := List.mem_map.mp h
  have hmem := (List.mem_filter.mp hentry).1
  simp only [tableLines, List.mem_flatMap, List.mem_map] at hmem
  obtain ⟨iface, hiface, remote, hremote, near, hnear, pRange, -, protocol, -, chain, hchain,
    icmpv6Type, -, target, htarget, mark, -, text, htext, rfl⟩ := hmem
  refine ⟨chain, hchain, iface, hiface, remote, hremote, near, hnear, target, htarget, protocol,
    pRange, ?_⟩
  split at htext
  · obtain ⟨portFlag, -, rfl⟩ := List.mem_map.mp htext
    exact ⟨portFlag, icmpv6Type, [], [], mark, rfl⟩
  · obtain rfl := List.mem_singleton.mp htext
    exact ⟨"", icmpv6Type, _, _, mark, rfl⟩

theorem chain_ne_flag (chainPrefix : String) : chainPrefix ++ "INPUT" ≠ "-s" := by
  intro h
  have hlast := congrArg (fun s => s.toList.getLast?) h
  simp at hlast

/-- The lines of an inbound rule on all interfaces match the source that the rule names. -/
theorem source_of_inbound {p : Prefix} (hdirection : rule.direction = .inbound)
    (hinterfaces : rule.interfaces = []) (hremote : rule.remoteNetworks = [p]) (hp : p ≠ .zero)
    (hword : ' ' ∉ p.text) (hstart : Words.IsWord chainPrefix)
    (h : line ∈ ruleToIPTables rule module stateFlag chainPrefix table) :
    Words.argument "-s" (Words.split line) = some p.toString := by
  obtain ⟨chain, hchain, iface, hiface, remote, hmem, near, -, target, -, protocol, pRange,
    portFlag, icmpv6Type, sports, dports, mark, rfl⟩ := mem_ruleToIPTables h
  rw [hdirection] at hchain
  rw [hinterfaces] at hiface
  rw [hremote] at hmem
  obtain rfl : chain = .input := by simpa [toChainSlice] using hchain
  obtain rfl : iface = {} := by simpa [nonEmpty] using hiface
  obtain rfl : remote = p := by simpa [nonEmpty] using hmem
  -- the chain and the source come first, whatever follows them
  obtain ⟨v, vs, hrest⟩ : ∃ v vs, Words.given (near != .zero) ["-d", near.toString] ++
      restWords target protocol pRange module stateFlag rule.connectionStates portFlag icmpv6Type
        rule.hopLimit sports dports rule.comment mark = v :: vs :=
    List.exists_cons_of_ne_nil (by simp [restWords])
  have hline : generateIPTablesRule .input target {} remote near protocol pRange module stateFlag
      rule.connectionStates chainPrefix portFlag icmpv6Type rule.hopLimit sports dports rule.comment
      mark = Words.join ((chainPrefix ++ "INPUT") :: "-s" :: remote.toString :: v :: vs) := by
    rw [← hrest]
    simp [generateIPTablesRule, Words.given, hp, RuleChain.text, RuleChain.remoteAddrFlag,
      RuleChain.localAddrFlag]
  have hremoteWord : Words.IsWord remote.toString := by
    rwa [Words.IsWord, Prefix.toString, String.toList_ofList]
  have hchainWord : Words.IsWord (chainPrefix ++ "INPUT") := hstart.append (by decide)
  rw [hline, Words.split_join_cons hchainWord (List.cons_ne_nil _ _),
    Words.split_join_cons (by decide : Words.IsWord "-s") (List.cons_ne_nil _ _),
    Words.split_join_cons hremoteWord (List.cons_ne_nil _ _),
    Words.argument_cons_of_ne (chain_ne_flag _), Words.argument_self]

end Lines

end NordVPN
