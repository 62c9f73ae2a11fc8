import NordVPN.ExitNode.Tables

/-!
The forwarding rules of the exit node (`meshnet/exitnode/fw.go`), under their source
names.

Permanent lines drop what comes from or goes to the meshnet, transient lines above
them let peers through. Transient lines are removed by printing the chain, looking for
their comment in the text and running the printed command with `-A` replaced by `-D`.
-/

namespace NordVPN.ExitNode

open NordVPN.Netip Prog

export Firewall (context)

def meshSrcSubnet : String := "100.64.0.0/10"

def msqRuleComment : String := "nordvpn"

def filterRuleComment : String := "nordvpn-exitnode-permanent"

def transientFilterRuleComment : String := "nordvpn-exitnode-transient"

def privateSubnets : List Prefix :=
  [.ofAddr (.ofBytes 10 0 0 0) 8, .ofAddr (.ofBytes 172 16 0 0) 12,
    .ofAddr (.ofBytes 192 168 0 0) 16, .ofAddr (.ofBytes 169 254 0 0) 16]

/-- A command whose output is of no interest. -/
def execute (args : List String) : Exit Unit := do
  let _ ← iptables args
  pure ()

/-- The same, given as one text. -/
def executeText (args : String) : Exit Unit := execute (Words.split args)

/-! ### Removing lines -/

/-- Print a chain and delete, one by one, the lines whose text contains `comment`. -/
def clearLines (listArgs tableArgs : List String) (comment listing deleting : String) :
    Exit Unit := do
  let out ← context listing (iptables listArgs)
  forEach (fun line => when (Words.contains line comment)
    (context deleting (execute (tableArgs ++ Words.split (Words.replaceAll line "-A" "-D"))))) out

/-- `clearMasquerading`. -/
def clearMasquerading : Exit Unit :=
  clearLines ["-t", "nat", "-S", "POSTROUTING"] ["-t", "nat"] msqRuleComment
    "iptables listing rules" "iptables deleting rule"

/-- `clearExitnodeForwardRules`. -/
def clearExitnodeForwardRules : Exit Unit :=
  clearLines ["-S", "FORWARD"] [] transientFilterRuleComment "listing iptables"
    "deleting iptables rule"

/-- The test of `clearFiltering` on a printed line. -/
def isFilteringLine (line : String) : Bool :=
  Words.contains line "FORWARD" &&
    (Words.contains line ("--comment " ++ filterRuleComment) ||
      Words.contains line ("--comment " ++ transientFilterRuleComment))

/-- `clearFiltering`. All chains are printed, and the blank after `-A` belongs to the
text that is replaced. -/
def clearFiltering : Exit Unit := do
  let out ← context "listing iptables rules" (iptables ["-S"])
  forEach (fun line => when (isFilteringLine line) (context ("deleting FORWARD rule " ++ line)
    (executeText (Words.replaceAll line "-A " "-D ")))) out

/-! ### Permanent lines -/

/-- `ruleContainsAllIPs`. -/
def ruleContainsAllIPs (line : String) (cidrIPs : List String) : Bool :=
  cidrIPs.all fun ip => Words.contains line (trimHost ip)

/-- The test of `checkFilteringRulesLine` on a line. -/
def isExitnodeLine (cidrIPs : List String) (line : String) : Bool :=
  line != "" && ruleContainsAllIPs line cidrIPs &&
    (Words.contains line filterRuleComment || Words.contains line transientFilterRuleComment)

/-- `checkFilteringRulesLine`. -/
def checkFilteringRulesLine (cidrIPs : List String) : Exit (Option Nat) := do
  let out ← context "iptables listing rules" (iptablesText "-t filter -L FORWARD -v -n")
  pure (out.findIdx? (isExitnodeLine cidrIPs))

/-- `checkFilteringRule`. -/
def checkFilteringRule (cidrIP : String) : Exit Bool := do
  let line ← checkFilteringRulesLine [cidrIP]
  pure line.isSome

/-- `enableFiltering`: drop all, except who is allowed by lines inserted above. -/
def enableFiltering : Exit Unit := do
  let ok ← checkFilteringRule meshSrcSubnet
  when (!ok) do
    forEach (fun flag => context "iptables inserting rule" (executeText (Words.join
      ["-t", "filter", "-I", "FORWARD", "1", flag, meshSrcSubnet, "-j", "DROP", "-m", "comment",
        "--comment", filterRuleComment]))) ["-s", "-d"]
    context "iptables inserting rule" (executeText (Words.join
      ["-t", "filter", "-I", "FORWARD", "1", "-d", meshSrcSubnet, "-m", "conntrack", "--ctstate",
        "RELATED,ESTABLISHED", "-j", "ACCEPT", "-m", "comment", "--comment", filterRuleComment]))

/-! ### Transient lines -/

structure TrafficPeer where
  ip : Prefix
  routing : Bool
  localNetwork : Bool
deriving DecidableEq

/-- `enableMasquerading`. -/
def enableMasquerading (peerAddress : String) : Exit Unit :=
  context "iptables adding masquerading rule" (executeText (Words.join
    ["-t", "nat", "-A", "POSTROUTING", "-s", peerAddress, "!", "-d", meshSrcSubnet, "-j",
      "MASQUERADE", "-m", "comment", "--comment", msqRuleComment]))

/-- `modifyPeerTraffic`. -/
def modifyPeerTraffic (subnet : Prefix) (flag : String) (source allow : Bool) : Exit Unit :=
  context "iptables modifying rule" (executeText (Words.join
    (["-t", "filter", flag, "FORWARD"] ++
      (if source then ["-s"] else ["-s", meshSrcSubnet, "-d"]) ++
      [subnet.toString, "-j", if allow then "ACCEPT" else "DROP", "-m", "comment", "--comment",
        transientFilterRuleComment])))

/-- `strings.Contains(err.Error(), missingRuleMessage)`. -/
def isMissingRule (e : Error) : Bool := Words.contains (e.text Sentinel.text) missingRuleMessage

/-- `refreshPrivateSubnetsBlock`. -/
def refreshPrivateSubnetsBlock : Exit Unit :=
  forEach (fun subnet => do
    context "deleting private subnets block"
      (tolerate isMissingRule (modifyPeerTraffic subnet "-D" false false))
    context ("blocking traffic to '" ++ subnet.toString ++ "'")
      (modifyPeerTraffic subnet "-I" false false)) privateSubnets

/-- `blockPhysicalForwarding`. -/
def blockPhysicalForwarding (intfNames : List InterfaceName) : Exit Unit :=
  forEach (fun name => context "iptables inserting rule" (executeText (Words.join
    ["-t", "filter", "-I", "FORWARD", "-o", name.text, "-j", "DROP", "-m", "comment", "--comment",
      transientFilterRuleComment]))) intfNames

/-- `allowLocalNetworkAccess`. -/
def allowLocalNetworkAccess (subnet : Prefix) (flag : String) : Exit Unit :=
  forEach (fun localSubnet => context "iptables modifying rule" (executeText (Words.join
    ["-t", "filter", flag, "FORWARD", "-s", subnet.toString, "-d", localSubnet.toString, "-j",
      "ACCEPT", "-m", "comment", "--comment", transientFilterRuleComment]))) privateSubnets

/-- `resetPeersTraffic`. Each line is inserted above those before it. -/
def resetPeersTraffic (peers : List TrafficPeer) (interfaceNames : List InterfaceName)
    (killswitch : Bool) : Exit Unit := do
  context "clearing masquerade rules" clearMasquerading
  context "clearing exitnode forward rules" clearExitnodeForwardRules
  -- non-private destinations, for peers with routing
  forEach (fun peer => when (peer.routing && (!peer.localNetwork || killswitch))
    (context "adding rule while resetting peers traffic for peer"
      (modifyPeerTraffic peer.ip "-I" true true))) peers
  context "refreshing private subnets block while resetting peers traffic"
    refreshPrivateSubnetsBlock
  when killswitch
    (context "adding killswitch physical forwarding block rules while resetting peers traffic"
      (blockPhysicalForwarding interfaceNames))
  -- with both permissions and no kill switch, one line allows everything
  forEach (fun peer => when peer.localNetwork
    (if peer.routing && !killswitch then
      context "adding rule while resetting peers traffic for peer"
        (modifyPeerTraffic peer.ip "-I" true true)
    else
      context "adding rules to access local network while resetting peers traffic"
        (allowLocalNetworkAccess peer.ip "-I"))) peers
  forEach (fun peer => when peer.routing (context "enabling masquerading for peer"
    (enableMasquerading peer.ip.toString))) peers

end NordVPN.ExitNode
