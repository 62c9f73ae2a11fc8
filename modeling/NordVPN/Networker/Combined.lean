import NordVPN.Lib.Words
import NordVPN.Networker.State

/-!
The methods of `networker.Combined` (`networker/networker.go`, `networker/vpn.go`,
`networker/listener.go`), under their source names.

A Go function that returns an error is a `Netw` procedure: state written before a
failing call stays written. `defer` with a recovery is `Prog.onError`, an error that
is only logged is `Prog.ignore`, and an error tolerated with `errors.Is` is
`Prog.tolerate`.
-/

namespace NordVPN.Networker

open NordVPN.Netip Prog

export Firewall (context)

/-- The errors that are a given sentinel. -/
def isErr (kind : Sentinel) (e : Error) : Bool := e.is kind

/-- `defaultMeshSubnet`, 100.64.0.0/10. -/
def defaultMeshSubnet : Prefix := .ofAddr (.ofBytes 100 64 0 0) 10

def privateSubnets : List Prefix :=
  [.ofAddr (.ofBytes 10 0 0 0) 8, .ofAddr (.ofBytes 172 16 0 0) 12,
    .ofAddr (.ofBytes 192 168 0 0) 16, .ofAddr (.ofBytes 169 254 0 0) 16]

/-- The name of the VPN's tunnel interface. -/
def Combined.tunName (c : Combined) : String := (c.vpnet.map Vpn.tunName).getD ""

/-- `switchToNextVpn`. -/
def Combined.switchToNextVpn (c : Combined) : Combined :=
  match c.nextVPN with
  | some v => { c with vpnet := some v, nextVPN := none }
  | none => c

/-! ### Firewall rules of the kill switch -/

def dropFwRule (ifaces : List Interface) : Rule :=
  { name := "drop-fw", direction := .forward, interfaces := ifaces, allow := false }

def dropRule (ifaces : List Interface) : Rule :=
  { name := "drop", direction := .twoWay, interfaces := ifaces, allow := false }

def apiAllowlistRule (ifaces : List Interface) (fwmark : Nat) : Rule :=
  { name := "api_allowlist", interfaces := ifaces, direction := .twoWay, marks := [fwmark],
    allow := true }

/-- `blockTraffic`: FORWARD first, then INPUT and OUTPUT. -/
def blockTraffic : Netw Unit := do
  let ifaces ← devices
  fwAdd [dropFwRule ifaces]
  fwAdd [dropRule ifaces]

/-- `unblockTraffic`. -/
def unblockTraffic : Netw Unit := do
  fwDelete ["drop-fw"]
  fwDelete ["drop"]

/-- `stopAllowedIPv6Traffic`. -/
def stopAllowedIPv6Traffic : Netw Unit := do
  fwDelete ["vpn_allowlist_icmp6_errors", "vpn_allowlist_icmp6_address",
    "vpn_allowlist_icmp6_multicast", "vpn_allowlist_dhcp6_in", "vpn_allowlist_dhcp6_out"]
  setNetw fun c => { c with isV6TrafficAllowed := false }

/-! ### DNS, IPv6 and the default route -/

/-- `setDNS`. -/
def setDNS (nameservers : List String) : Netw Unit := do
  let c ← netw
  context "networker setting dns" (call (.dnsSet c.tunName nameservers))

/-- `unsetDNS`. -/
def unsetDNS : Netw Unit := do
  let c ← netw
  context "networker unsetting dns" (call (.dnsUnset c.tunName))

/-- `denyIPv6`. -/
def denyIPv6 : Netw Unit := do
  setNetw fun c => { c with ipv6Enabled := false }
  let c ← netw
  when c.isNetworkSet (call .ipv6Block)

/-- `disableIPv6IfNeeded`. -/
def disableIPv6IfNeeded : Netw Unit := do
  let c ← netw
  when (!c.ipv6Enabled) denyIPv6

/-- `configureDNS`: a meshnet peer used as a server gets the default nameservers
(`dns.NameServers.Get(false, false)`). -/
def configureDNS (serverData : ServerData) (nameservers : List String) : Netw Unit := do
  let c ← netw
  if c.isMeshnetSet && defaultMeshSubnet.contains serverData.ip then
    setDNS ["103.86.96.100", "103.86.99.100"]
  else setDNS nameservers

/-- `addDefaultRoute`. -/
def addDefaultRoute : Netw Unit := do
  let c ← netw
  let tableID ← ask .policyTableID Env.tableID
  context "adding the default route" (call (.routerAdd .vpn
    { subnet := .ofAddr (.ofBytes 0 0 0 0) 0, device := c.tunName, tableID }))

/-- `policyRouter.SetupRoutingRules` for the given address family and subnets. -/
def setupRoutingRules (ipv6 : Bool) (subnets : List String) : Netw Unit := do
  let c ← netw
  call (.setupRoutingRules ipv6 c.enableLocalTraffic c.lanDiscovery subnets)

/-! ### The allowlist -/

def denyDNSName : String := "deny-private-dns"

def denyDNSRule : Rule :=
  { name := denyDNSName, direction := .outbound, protocols := ["udp", "tcp"], ports := [53],
    portsDirection := .destination, remoteNetworks := privateSubnets, allow := false }

/-- `undenyDNS`. -/
def undenyDNS : Netw Unit := do
  let c ← netw
  when (c.rules.contains denyDNSName) do
    fwDelete [denyDNSName]
    setNetw fun c => { c with rules := c.rules.erase denyDNSName }

/-- `denyDNS`. -/
def denyDNS : Netw Unit := do
  let c ← netw
  when (!c.rules.contains denyDNSName) do
    context "adding deny-private-dns rule to firewall" (fwAdd [denyDNSRule])
    setNetw fun c => { c with rules := c.rules ++ [denyDNSName] }

/-- The subnets of an allowlist in iteration order, or the error of the first one
that does not parse. -/
def parseSubnets : List String → Except Error (List Prefix)
  | [] => .ok []
  | cidr :: rest =>
    match parsePrefix cidr with
    | none => .error (.join (.plain "parsing subnet CIDR") (.external cidr))
    | some subnet => (parseSubnets rest).map (subnet :: ·)

/-- The ports of a set that fit 16 bits, in the order `EnablePorts` leaves them: it
sorts the slice the rule shares. -/
def allowedPorts (ports : List Int) : List Int :=
  (ports.filter (· ≤ 65535)).insertionSort (· ≤ ·)

def allowlistSubnetRules (ifaces : List Interface) (subnets : List Prefix) : List Rule :=
  if subnets.isEmpty then []
  else
    [{ name := "allowlist_subnets", interfaces := ifaces, remoteNetworks := subnets,
       direction := .twoWay, allow := true },
     { name := "allowlist_subnets_forward", interfaces := ifaces, remoteNetworks := subnets,
       direction := .forward, allow := true }]

def allowlistPortRule (ifaces : List Interface) (protocol : String) (ports : List Int) : Rule :=
  { name := "allowlist_ports_" ++ protocol, interfaces := ifaces, protocols := [protocol],
    direction := .twoWay, ports, allow := true }

/-- One turn of the port loop of `setAllowlist`: the rule for a protocol, once its
ports are marked for routing. -/
def allowPorts (ifaces : List Interface) (protocol : String) (ports : List Int) :
    Netw (List Rule) := do
  let ports := allowedPorts ports
  if ports.isEmpty then pure []
  else do
    let c ← netw
    mapError (.join (.plain "enabling allowlist routing"))
      (call (.enablePorts ports protocol (Words.hex c.fwmark)))
    pure [allowlistPortRule ifaces protocol ports]

/-- `setAllowlist`. -/
def setAllowlist (allowlist : Allowlist) : Netw Unit := do
  let ifaces ← devices
  let c ← netw
  let allowlist := if c.lanDiscovery then addLANPermissions allowlist else allowlist
  let r ← env
  let w ← state
  match parseSubnets (r.rangeOrder w.log.length allowlist.subnets) with
  | .error e => fail e
  | .ok subnets => do
    let tcp ← allowPorts ifaces "tcp" allowlist.ports.tcp
    let udp ← allowPorts ifaces "udp" allowlist.ports.udp
    fwAdd (allowlistSubnetRules ifaces subnets ++ tcp ++ udp)
    -- if port 53 is allowlisted, the rule against DNS leaks is not added
    when (!allowlist.allowsDNS) denyDNS
    setNetw fun c => { c with allowlist }
    context "setting routing rules" (setupRoutingRules false allowlist.subnets)

def allowlistRuleNames : List String :=
  ["allowlist_subnets", "allowlist_subnets_forward", "allowlist_ports_tcp", "allowlist_ports_udp"]

/-- `unsetAllowlist`. The rule against DNS leaks is removed only if the allowlist in
force does not allow port 53. -/
def unsetAllowlist : Netw Unit := do
  ignore (call (.routerFlush .allowlist))
  forEach (fun rule => context "disabling allowlist firewall rules"
    (tolerate (isErr .ruleNotFound) (fwDelete [rule]))) allowlistRuleNames
  context "disabling allowlist routing" (call .disablePorts)
  let c ← netw
  when (!c.allowlist.allowsDNS) (context "unsetting deny dns" undenyDNS)

/-- `resetAllowlist`. -/
def resetAllowlist : Netw Unit := do
  context "unsetting allowlist" unsetAllowlist
  let c ← netw
  context "re-setting allowlist" (setAllowlist c.allowlist)

/-! ### Setting and unsetting the network -/

/-- `setNetwork`. An already existing rule is no error of `blockTraffic`. -/
def setNetwork (allowlist : Allowlist) : Netw Unit := do
  tolerate (isErr .ruleAlreadyExists) blockTraffic
  let ifaces ← devices
  let c ← netw
  fwAdd [apiAllowlistRule ifaces c.fwmark]
  setAllowlist allowlist
  let c ← netw
  ignore (call (.exitNodeResetFirewall c.lanDiscovery true))
  setNetw fun c => { c with isNetworkSet := true }

/-- `unsetNetwork`. -/
def unsetNetwork : Netw Unit := do
  fwDelete ["api_allowlist"]
  tolerate (isErr .ruleNotFound) unblockTraffic
  unsetAllowlist
  ignore (call (.exitNodeResetFirewall true false))
  setNetw fun c => { c with isNetworkSet := false }

/-- `setKillSwitch`. -/
def setKillSwitch (allowlist : Allowlist) : Netw Unit := do
  let c ← netw
  when (!c.isNetworkSet) (setNetwork allowlist)
  setNetw fun c => { c with isKillSwitchSet := true }

/-- `unsetKillSwitch`. -/
def unsetKillSwitch : Netw Unit := do
  let c ← netw
  when (!c.isVpnSet) unsetNetwork
  setNetw fun c => { c with isKillSwitchSet := false }

/-- `configureFirewall`. A failed `setNetwork` is passed over if it failed on an
existing rule or if the network was set before. -/
def configureFirewall (allowlist : Allowlist) : Netw Unit := do
  let x ← attempt (setNetwork allowlist)
  match x with
  | .ok _ => resetAllowlist
  | .error e => do
    let c ← netw
    if isErr .ruleAlreadyExists e || c.isNetworkSet then resetAllowlist else fail e

/-! ### Meshnet -/

def allowIncomingName (publicKey : String) (address : Addr) : String :=
  publicKey ++ "-allow-rule-" ++ address.toString

def blockLanName (publicKey : String) (address : Addr) : String :=
  publicKey ++ "-block-lan-rule-" ++ address.toString

def allowFileshareName (publicKey : String) (address : Addr) : String :=
  publicKey ++ "-allow-fileshare-rule-" ++ address.toString

def allowIncomingRule (publicKey : String) (address : Addr) : Rule :=
  { name := allowIncomingName publicKey address, direction := .inbound,
    remoteNetworks := [.single address], allow := true }

def blockLanRule (publicKey : String) (address : Addr) : Rule :=
  { name := blockLanName publicKey address, direction := .inbound,
    localNetworks := privateSubnets, remoteNetworks := [.single address], allow := false }

def allowFileshareRule (publicKey : String) (address : Addr) : Rule :=
  { name := allowFileshareName publicKey address, direction := .inbound, protocols := ["tcp"],
    ports := [49111], portsDirection := .destination, remoteNetworks := [.single address],
    allow := true }

def meshBlockName : String := "default-mesh-block"

def meshEstablishedName : String := "default-mesh-allow-established"

def meshBlockRule : Rule :=
  { name := meshBlockName, direction := .inbound, remoteNetworks := [defaultMeshSubnet],
    allow := false }

def meshEstablishedRule (ip : Addr) : Rule :=
  { name := meshEstablishedName, direction := .inbound, remoteNetworks := [defaultMeshSubnet],
    connectionStates := { srcAddr := ip, states := [.related, .established] }, allow := true }

/-- `defaultMeshBlock`. -/
def defaultMeshBlock (ip : Addr) : Netw Unit := do
  fwAdd [meshBlockRule, meshEstablishedRule ip]
  setNetw fun c => { c with rules := c.rules ++ [meshBlockName] ++ [meshEstablishedName] }

/-- `defaultMeshUnBlock`: every tracked rule is deleted; the list is cleared only if
all of them were. -/
def defaultMeshUnBlock : Netw Unit := do
  let c ← netw
  fwDelete c.rules
  setNetw fun c => { c with rules := [] }

/-- `allowIncoming`. The name of the rule that blocks the LAN is recorded before the
rules are added, the name of the allowing rule after. -/
def allowIncoming (publicKey : String) (address : Addr) (lanAllowed : Bool) : Netw Unit := do
  let c ← netw
  if allowIncomingName publicKey address ∈ c.rules then
    fail (.plain ("allow rule already exist for " ++ allowIncomingName publicKey address))
  else if lanAllowed then do
    context "adding allow-incoming rule to firewall" (fwAdd [allowIncomingRule publicKey address])
    setNetw fun c => { c with rules := c.rules ++ [allowIncomingName publicKey address] }
  else do
    setNetw fun c => { c with rules := c.rules ++ [blockLanName publicKey address] }
    context "adding allow-incoming rule to firewall"
      (fwAdd [allowIncomingRule publicKey address, blockLanRule publicKey address])
    setNetw fun c => { c with rules := c.rules ++ [allowIncomingName publicKey address] }

/-- `allowFileshare`. -/
def allowFileshare (publicKey : String) (address : Addr) : Netw Unit := do
  let c ← netw
  if allowFileshareName publicKey address ∈ c.rules then
    fail (.plain ("allow rule already exist for " ++ allowFileshareName publicKey address))
  else do
    context "adding allow-fileshare rule to firewall" (fwAdd [allowFileshareRule publicKey address])
    setNetw fun c => { c with rules := c.rules ++ [allowFileshareName publicKey address] }

/-- `removeRule`. -/
def removeRule (name : String) : Netw Unit := do
  let c ← netw
  if name ∈ c.rules then do
    fwDelete [name]
    setNetw fun c => { c with rules := c.rules.erase name }
  else fail (.plain ("allow rule does not exist for " ++ name))

/-- `blockIncoming`. -/
def blockIncoming (a : UniqueAddress) : Netw Unit := do
  let c ← netw
  when (c.rules.contains (blockLanName a.uid a.address))
    (removeRule (blockLanName a.uid a.address))
  removeRule (allowIncomingName a.uid a.address)

/-- `strings.TrimSuffix(name, ".nord")`. -/
def trimNord (name : String) : String :=
  if ".nord".toList.isSuffixOf name.toList then
    String.ofList (name.toList.take (name.toList.length - 5))
  else name

/-- The hosts entry of a machine: its nickname comes first when it has one. -/
def hostEntry (address : Addr) (hostname nickname : String) : Host :=
  if nickname = "" then { ip := address, fqdn := hostname, domainNames := [trimNord hostname] }
  else { ip := address, fqdn := nickname,
         domainNames := [nickname ++ ".nord", hostname, trimNord hostname] }

/-- `getHostsFromConfig`. -/
def getHostsFromConfig (peers : List MachinePeer) : List Host :=
  (peers.filter fun p => p.address.isValid).map fun p => hostEntry p.address p.hostname p.nickname

/-- One turn of the peer loop of `refresh`. -/
def refreshPeer (peer : MachinePeer) : Netw Unit :=
  when peer.address.isValid do
    when peer.doIAllowInbound
      (context "allowing inbound traffic for peer" (allowIncoming peer.publicKey peer.address
        (peer.doIAllowRouting && peer.doIAllowLocalNetwork)))
    when peer.doIAllowFileshare
      (context "allowing fileshare for peer" (allowFileshare peer.publicKey peer.address))

/-- `lanDiscovery || !isNetworkSet`. -/
def Combined.lanAvailable (c : Combined) : Bool := c.lanDiscovery || !c.isNetworkSet

/-- `refresh`. -/
def refresh (cfg : MachineMap) : Netw Unit := do
  ignore defaultMeshUnBlock
  ignore (call .unsetHosts)
  ignore (call .exitNodeDisable)
  context "enabling exit node" (call .exitNodeEnable)
  context "refreshing mesh" (call (.meshRefresh cfg))
  setNetw fun c => { c with cfg }
  context "adding default block rule" (defaultMeshBlock cfg.address)
  context "allowing to reach self via meshnet" (allowIncoming cfg.publicKey cfg.address true)
  forEach refreshPeer cfg.peers
  let c ← netw
  call (.exitNodeResetPeers cfg.peers c.lanAvailable c.isKillSwitchSet)
  call (.setHosts (hostEntry cfg.address cfg.hostname cfg.nickname :: getHostsFromConfig cfg.peers))

/-- The deferred recovery of `setMesh`. -/
def meshRecover (routingRulesSet : Bool) : Netw Unit := do
  when routingRulesSet (ignore (call .cleanupRouting))
  ignore defaultMeshUnBlock
  ignore (call .unsetHosts)
  ignore (call .exitNodeDisable)
  ignore (call (.routerFlush .peers))
  ignore (call .meshDisable)

/-- `mesh.Enable` inside `setMesh`: a failure that closed a running tunnel is
reported as such. -/
def enableMesh (self : Addr) (privateKey : String) : Netw Unit := do
  let x ← attempt (call (.meshEnable self privateKey))
  match x with
  | .ok _ => pure ()
  | .error e => do
    let c ← netw
    if c.isVpnSet then do
      let active ← ask .meshIsActive Env.meshActive
      if active then fail (.wrap "enabling meshnet" e)
      else do
        setNetw fun c => { c with isVpnSet := false }
        fail (.sentinel .tunnelClosed)
    else fail (.wrap "enabling meshnet" e)

/-- `setMesh` up to the setting of the routing rules. -/
def prepareMesh (self : Addr) (privateKey : String) : Netw Unit := do
  let c ← netw
  when c.isVpnSet (ignore (call (.routerFlush .vpn)))
  enableMesh self privateKey
  let c ← netw
  when c.isVpnSet addDefaultRoute
  context "setting routing rules" (setupRoutingRules false c.allowlist.subnets)

/-- `setMesh` after the setting of the routing rules. -/
def finishMesh (cfg : MachineMap) (privateKey : String) : Netw Unit := do
  let device ← ask .meshTun Env.meshTun
  let tableID ← ask .policyTableID Env.tableID
  context "creating default mesh route"
    (call (.routerAdd .peers { subnet := defaultMeshSubnet, device, tableID }))
  refresh cfg
  setNetw fun c => { c with isMeshnetSet := true, lastPrivateKey := privateKey }

/-- `setMesh`. Its recovery cleans the routing rules up once they were set. -/
def setMesh (cfg : MachineMap) (self : Addr) (privateKey : String) : Netw Unit := do
  let c ← netw
  if c.isMeshnetSet then fail (.sentinel .meshAlreadySet)
  else do
    onError (meshRecover false) (prepareMesh self privateKey)
    onError (meshRecover true) (finishMesh cfg privateKey)

/-- `unSetMesh`. -/
def unSetMesh : Netw Unit := do
  let c ← netw
  if c.isMeshnetSet then do
    context "unsetting hosts" (call .unsetHosts)
    context "unblocking the peer subnet" defaultMeshUnBlock
    context "disabling exit node" (call .exitNodeDisable)
    when (!c.isVpnSet) (context "cleaning up routing" (call .cleanupRouting))
    ignore (call (.routerFlush .peers))
    when c.isVpnSet (ignore (call (.routerFlush .vpn)))
    context "disabling the meshnet" (call .meshDisable)
    when c.isVpnSet addDefaultRoute
    setNetw fun c => { c with isMeshnetSet := false }
  else fail (.sentinel .meshNotActive)

/-! ### Starting and stopping the VPN -/

/-- `failureRecover`. -/
def failureRecover : Netw Unit := do
  let c ← netw
  when (!c.isMeshnetSet) (ignore (call .cleanupRouting))
  ignore (call (.routerFlush .vpn))
  ignore (call .vpnStop)
  when (c.isNetworkSet && !c.isKillSwitchSet) (ignore unsetNetwork)
  when c.isV6TrafficAllowed (ignore stopAllowedIPv6Traffic)
  setNetw fun c => { c with isVpnSet := false }

/-- `configureNetwork`. -/
def configureNetwork (allowlist : Allowlist) (serverData : ServerData)
    (nameservers : List String) : Netw Unit := do
  configureFirewall allowlist
  addDefaultRoute
  configureDNS serverData nameservers
  let c ← netw
  when c.isMeshnetSet (context "refreshing meshnet" (refresh c.cfg))
  disableIPv6IfNeeded

/-- A server without an address stands for the last one. -/
def Combined.serverOr (c : Combined) (serverData : ServerData) : ServerData :=
  if serverData.ip = .invalid then c.lastServer else serverData

/-- `vpnet.Start`, with a stop after a failed start. -/
def startVpn (creds : Credentials) (serverData : ServerData) : Netw Unit :=
  onError (ignore (call .vpnStop)) (call (.vpnStart creds serverData))

/-- The body of `start` under its deferred recovery. -/
def startBody (creds : Credentials) (serverData : ServerData) (allowlist : Allowlist)
    (nameservers : List String) : Netw Unit := do
  let c ← netw
  startVpn creds (c.serverOr serverData)
  setupRoutingRules (c.serverOr serverData).ip.is6 allowlist.subnets
  configureNetwork allowlist (c.serverOr serverData) nameservers
  let ifaces ← ask (.interfacesWithDefaultRoute c.tunName) Env.defaultRoutes
  setNetw fun d => { d with
    isVpnSet := true, lastServer := c.serverOr serverData, lastCreds := creds,
    lastNameservers := nameservers, interfaces := ifaces }

/-- `start`. -/
def start (creds : Credentials) (serverData : ServerData) (allowlist : Allowlist)
    (nameservers : List String) : Netw Unit := do
  let c ← netw
  if c.isVpnSet then fail (.sentinel .alreadyStarted)
  else if c.vpnet.isNone then fail (.sentinel .nilVPN)
  else onError failureRecover (startBody creds serverData allowlist nameservers)

/-- The body of `restart` under its deferred recovery. -/
def restartBody (creds : Credentials) (serverData : ServerData) (nameservers : List String) :
    Netw Unit := do
  ignore (call (.routerFlush .vpn))
  call .vpnStop
  setNetw Combined.switchToNextVpn
  let c ← netw
  startVpn creds (c.serverOr serverData)
  addDefaultRoute
  configureDNS (c.serverOr serverData) nameservers
  ignore disableIPv6IfNeeded
  setNetw fun d => { d with lastServer := c.serverOr serverData, lastCreds := creds }

/-- `restart`. -/
def restart (creds : Credentials) (serverData : ServerData) (nameservers : List String) :
    Netw Unit := do
  let c ← netw
  if c.vpnet.isNone then fail (.sentinel .nilVPN)
  else onError failureRecover (restartBody creds serverData nameservers)

/-- `stop`. -/
def stop : Netw Unit := do
  let c ← netw
  if c.vpnet.isNone then fail (.sentinel .nilVPN)
  else do
    ignore (call .ipv6Unblock)
    unsetDNS
    when (!c.isMeshnetSet) (ignore (call .cleanupRouting))
    when c.isMeshnetSet (context "netw stop, adjusting routing rules"
      (call (.setupRoutingRules false true c.lanDiscovery c.allowlist.subnets)))
    ignore (call (.routerFlush .vpn))
    call .vpnStop
    when (!c.isKillSwitchSet) (context "unsetting network" unsetNetwork)
    setNetw fun c => { c.switchToNextVpn with isVpnSet := false }

/-- `isConnectedToVPN`. -/
def isConnectedToVPN : Netw Bool := do
  let c ← netw
  if c.vpnet.isNone then pure false
  else do
    let w ← state
    ask .vpnIsActive fun r n => w.tunnelUp && !r.tunnelDropped n

/-! ### Network changes -/

/-- `fixForLinuxMint20`: the nameservers are set twice. -/
def fixForLinuxMint20 : Netw Unit := do
  let c ← netw
  setDNS c.lastNameservers
  setDNS c.lastNameservers

/-- `handleNetworkChanged`. -/
def handleNetworkChanged : Netw Unit := do
  let c ← netw
  when c.isMeshnetSet (call .meshNetworkChanged)
  when c.isVpnSet do
    -- with one value for both, the mesh has handled the change for the VPN
    when (!(c.isMeshnetSet && c.vpnet.any Vpn.isMesh)) (call .vpnNetworkChanged)
    fixForLinuxMint20
    resetAllowlist

def errorOf {α : Type} : Except Error α → Option Error
  | .ok _ => none
  | .error e => some e

/-- The error of a procedure as a value. -/
def failure {α : Type} (m : Netw α) : Netw (Option Error) := do
  let x ← attempt m
  pure (errorOf x)

/-- `unSetMesh` and `setMesh` inside `refreshVPN`. -/
def remesh (ip : Addr) : Netw Unit := do
  context "unsetting mesh" unSetMesh
  let c ← netw
  context "setting mesh" (setMesh c.cfg ip c.lastPrivateKey)

/-- The body of `refreshVPN` between its deferred functions: `vpnErr` and `meshErr`
as they are when the body returns. -/
def rebuildTunnels (isVPNStarted isMeshStarted : Bool) : Netw (Option Error × Option Error) := do
  let tunIPs ← (if isVPNStarted then ask .tunIPs Env.tunIPs else pure [])
  let vpnErr ← (if isVPNStarted then failure (context "stopping networker" stop) else pure none)
  if vpnErr.isSome then pure (vpnErr, none)
  else do
    let meshIPs ← (if isMeshStarted then ask .meshTunIPs Env.tunIPs else pure [])
    -- mesh errors do not stop the VPN from being started again
    let meshErr ← (if isMeshStarted then
      failure (remesh ((meshIPs ++ tunIPs).headD .invalid)) else pure none)
    let c ← netw
    let vpnErr ← (if isVPNStarted then
      failure (context "starting networker"
        (start c.lastCreds c.lastServer c.allowlist c.lastNameservers)) else pure none)
    pure (vpnErr, meshErr)

/-- The outer deferred function of `refreshVPN`: `errors.Join(vpnErr, meshErr)`. -/
def joinErrors (vpnErr meshErr : Option Error) : Netw Unit :=
  match GoError.joinOpt vpnErr meshErr with
  | none => pure ()
  | some e => fail e

/-- The inner deferred function of `refreshVPN`: the borrowed kill switch is given
back, without removing the rules if the VPN failed. -/
def returnKillSwitch (vpnErr : Option Error) : Netw (Option Error) :=
  if vpnErr.isSome then do
    setNetw fun c => { c with isKillSwitchSet := false }
    pure vpnErr
  else failure unsetKillSwitch

/-- The part of `refreshVPN` that creates the tunnels again. The error of a failed
`setKillSwitch` is lost to the outer deferred function. -/
def recreateTunnels (isVPNStarted isMeshStarted : Bool) : Netw Unit := do
  let c ← netw
  if isVPNStarted && !c.isKillSwitchSet then do
    let borrowed ← failure (setKillSwitch c.allowlist)
    if borrowed.isSome then joinErrors none none
    else do
      let errs ← rebuildTunnels isVPNStarted isMeshStarted
      let vpnErr ← returnKillSwitch errs.1
      joinErrors vpnErr errs.2
  else do
    let errs ← rebuildTunnels isVPNStarted isMeshStarted
    joinErrors errs.1 errs.2

/-- `refreshVPN`. -/
def refreshVPN : Netw Unit := do
  let c ← netw
  if !c.isVpnSet && !c.isMeshnetSet then pure ()
  else do
    let newInterfaces ← ask (.interfacesWithDefaultRoute c.tunName) Env.defaultRoutes
    -- without a new interface the VPN may handle the change itself
    let unhandled ← (if newInterfaces.all (c.interfaces.contains ·) then
      failure handleNetworkChanged else pure (some (.plain "new interface detected")))
    if unhandled.isNone then pure ()
    else do
      setNetw fun c => { c with interfaces := newInterfaces }
      recreateTunnels c.isVpnSet c.isMeshnetSet

end NordVPN.Networker
