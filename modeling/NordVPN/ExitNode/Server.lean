import NordVPN.Lib.Runs
import NordVPN.Firewall.Iptables
import NordVPN.ExitNode.Filtering

/-!
The exit node server (`meshnet/exitnode/server.go`) and its allowlist
(`meshnet/exitnode/allowlist.go`).

The server and its allowlist manager each keep a list of peers. The manager's is
replaced only when the machine's own network is not available.
-/

namespace NordVPN.ExitNode

open NordVPN.Netip Networker Prog

def server : Exit Server := do
  let s ← state
  pure s.server

def setServer (f : Server → Server) : Exit Unit := update fun s => { s with server := f s.server }

/-! ### The allowlist -/

def meshAllowlistRuleComment : String := "nordvpn-exitnode-allowlist"

/-- `operation`. -/
inductive Operation where
  | remove | add
deriving DecidableEq

def Operation.flag : Operation → String
  | .remove => "-D"
  | .add => "-I"

/-- The words of an allowlist line: `destination` is a port, a port range or, if
`portType` is empty, a subnet. -/
def allowlistLine (address : Addr) (destination portType : String) : Line :=
  ["-s", address.toString, "-j", "ACCEPT", "-m", "comment", "--comment",
    meshAllowlistRuleComment] ++
    if portType = "" then ["-d", destination]
    else ["-p", portType, "-m", portType, "--dport", destination]

/-- Whether a peer gets the line: port lines of a peer without routing would let it
reach the outside world on those ports. -/
def getsLine (portType : String) (peer : MachinePeer) : Bool :=
  peer.doIAllowLocalNetwork && peer.address.isValid && (portType == "" || peer.doIAllowRouting)

/-- `allowlistRuleToFirewall`. -/
def allowlistRuleToFirewall (peers : List MachinePeer) (op : Operation)
    (destination portType : String) : Exit Unit :=
  forEach (fun peer => when (getsLine portType peer) (context "calling iptables"
    (tolerate isMissingRule (execute
      (op.flag :: "FORWARD" :: allowlistLine peer.address destination portType))))) peers

/-- The text of a port range. -/
def rangeText (range : PortRange) : String :=
  if range.min = range.max then toString range.min
  else toString range.min ++ ":" ++ toString range.max

/-- The port ranges of an allowlist, with their protocols. -/
def portRanges (allowlist : Allowlist) : List (String × PortRange) :=
  [("tcp", allowlist.ports.tcp), ("udp", allowlist.ports.udp)].flatMap fun pair =>
    (portsToPortRanges (pair.2.filter (· ≤ 65535))).map fun range => (pair.1, range)

/-- One turn of the subnet loop of `allowlistToFirewall`: errors are passed on only when
rules are added. -/
def allowlistSubnet (peers : List MachinePeer) (op : Operation) (subnet : String) : Exit Unit :=
  match parsePrefix subnet with
  | none => fail (.wrap "failed to parse subnet" (.plain subnet))
  | some parsed => when (parsed.addr.isPrivate || parsed.addr.isLinkLocalUnicast)
      (match op with
      | .add => context "adding allowlist rule to firewall"
          (allowlistRuleToFirewall peers op subnet "")
      | .remove => ignore (allowlistRuleToFirewall peers op subnet ""))

/-- `allowlistToFirewall`. -/
def allowlistToFirewall (allowlist : Allowlist) (peers : List MachinePeer) (op : Operation) :
    Exit Unit := do
  let r ← env
  let s ← state
  forEach (allowlistSubnet peers op) (r.rangeOrder s.calls allowlist.subnets)
  forEach (fun pair => context "adding allowlist rule to firewall"
    (allowlistRuleToFirewall peers op (rangeText pair.2) pair.1)) (portRanges allowlist)

/-- `enableAllowlist`. -/
def enableAllowlist : Exit Unit := do
  let en ← server
  allowlistToFirewall en.allowlistManager.allowlist en.allowlistManager.peers .add

/-- `disableAllowlist`. -/
def disableAllowlist : Exit Unit := do
  let en ← server
  allowlistToFirewall en.allowlistManager.allowlist en.allowlistManager.peers .remove

/-- `setAllowlist`. -/
def setManagerAllowlist (allowlist : Allowlist) : Exit Unit :=
  setServer fun en => { en with allowlistManager := { en.allowlistManager with allowlist } }

/-- `setPeers`. -/
def setManagerPeers (peers : List MachinePeer) : Exit Unit :=
  setServer fun en => { en with allowlistManager := { en.allowlistManager with peers } }

/-! ### The server -/

/-- `sysctlSetter.Set` or `sysctlSetter.Unset`. -/
def sysctl : Exit Unit := do
  let r ← env
  let s ← state
  update fun s => { s with calls := s.calls + 1 }
  if r.sysctlFails s.calls then fail (.external "sysctl") else pure ()

/-- `Enable`. -/
def enable : Exit Unit := do
  context "enabling ipv4 forwarding" sysctl
  context "enabling filtering" enableFiltering
  setServer fun en => { en with enabled := true }

/-- The peers with an address, as `resetPeersTraffic` takes them. -/
def trafficPeers (peers : List MachinePeer) (lanAvailable : Bool) : List TrafficPeer :=
  (peers.filter (·.address.isValid)).map fun peer =>
    { ip := .single peer.address, routing := peer.doIAllowRouting,
      localNetwork := peer.doIAllowLocalNetwork && lanAvailable }

/-- `resetPeers`. -/
def resetPeersRules (lanAvailable killswitch : Bool) : Exit Unit := do
  let en ← server
  resetPeersTraffic (trafficPeers en.peers lanAvailable) en.interfaceNames killswitch
  disableAllowlist
  -- without full access to its own network, only allowlisted destinations are open
  when (!lanAvailable) do
    setManagerPeers en.peers
    enableAllowlist

/-- `ResetFirewall`. -/
def resetFirewall (lanAvailable killswitch : Bool) : Exit Unit := do
  let en ← server
  when en.enabled (resetPeersRules lanAvailable killswitch)

/-- `ResetPeers`. -/
def resetPeers (peers : List MachinePeer) (lanAvailable killswitch : Bool) : Exit Unit := do
  setServer fun en => { en with peers }
  resetPeersRules lanAvailable killswitch

/-- `Disable`. -/
def disable : Exit Unit := do
  context "clearing filtering" clearFiltering
  context "clearing masquerading" clearMasquerading
  context "unsetting the forwarding value" sysctl
  context "disabling allowlist" disableAllowlist
  setServer fun en => { en with enabled := false }

/-- `SetAllowlist`. -/
def setAllowlist (allowlist : Allowlist) (lanAvailable : Bool) : Exit Unit := do
  disableAllowlist
  setManagerAllowlist allowlist
  let en ← server
  when (en.enabled && !lanAvailable) enableAllowlist

/-! ### Runs -/

/-- A call of a method. -/
inductive Op where
  | enable
  | resetPeers (peers : List MachinePeer) (lanAvailable killswitch : Bool)
  | resetFirewall (lanAvailable killswitch : Bool)
  | setAllowlist (allowlist : Allowlist) (lanAvailable : Bool)
  | disable

def Op.exec : Op → Exit Unit
  | .enable => ExitNode.enable
  | .resetPeers peers lanAvailable killswitch => ExitNode.resetPeers peers lanAvailable killswitch
  | .resetFirewall lanAvailable killswitch => ExitNode.resetFirewall lanAvailable killswitch
  | .setAllowlist allowlist lanAvailable => ExitNode.setAllowlist allowlist lanAvailable
  | .disable => ExitNode.disable

/-- A call and what its commands meet with. -/
structure Step where
  op : Op
  env : Env

/-- The state after a call. -/
def State.step (s : State) (i : Step) : State := (i.op.exec i.env s).final

/-- What the call returns. -/
def State.returns (s : State) (i : Step) : Except Error Unit := (i.op.exec i.env s).result

/-- Tables without lines. -/
def emptyTables : Tables := ⟨fun _ => [], fun _ => .accept⟩

/-- `NewServer`, over the tables it finds. -/
def newServer (interfaceNames : List InterfaceName) (allowlist : Allowlist) (tables : Tables) :
    State :=
  { tables, server := { interfaceNames, allowlistManager := { allowlist } } }

end NordVPN.ExitNode
