import NordVPN.Firewall.Service

/-!
The state of `networker.Combined` and of what it calls.

`World` holds the fields of `Combined`, the firewall service behind it, and a log
of every call to its other dependencies (VPN, mesh, DNS setters, routers, exit node,
IPv6 blocker, allowlist routing, device list). `Env` answers those calls: by their
number it decides which fail and what they return. Nothing is assumed of the
answers, so a statement for every `Env` covers every pattern of failures.

Mutexes, log lines, published messages and the start time are left out. A `nil`
tunnel counts as an inactive VPN.
-/

namespace NordVPN.Networker

open NordVPN.Netip

/-! ### Data passed around -/

/-- `config.Ports`: the keys of the two port sets. -/
structure Ports where
  tcp : List Int := []
  udp : List Int := []
deriving DecidableEq, Repr

/-- `config.Allowlist`. `Subnets` is a Go map used as a set; here its keys. -/
structure Allowlist where
  ports : Ports := {}
  subnets : List String := []
deriving DecidableEq, Repr

/-- Port 53 is allowlisted for TCP or UDP. -/
def Allowlist.allowsDNS (a : Allowlist) : Bool := a.ports.tcp.contains 53 || a.ports.udp.contains 53

/-- `addLANPermissions`. -/
def addLANPermissions (a : Allowlist) : Allowlist :=
  let localNetworks := ["10.0.0.0/8", "172.16.0.0/12", "192.168.0.0/16", "169.254.0.0/16"]
  { a with subnets := a.subnets ++ localNetworks.filter fun n => !a.subnets.contains n }

/-- `vpn.Credentials`. -/
structure Credentials where
  openVPNUsername : String := ""
  openVPNPassword : String := ""
  nordLynxPrivateKey : String := ""
deriving DecidableEq, Repr

/-- `vpn.ServerData`, the fields the networker reads. -/
structure ServerData where
  ip : Addr := .invalid
  hostname : String := ""
deriving DecidableEq, Repr

/-- `mesh.MachinePeer`, the fields the networker reads. -/
structure MachinePeer where
  hostname : String := ""
  publicKey : String := ""
  address : Addr := .invalid
  doIAllowInbound : Bool := false
  doIAllowRouting : Bool := false
  doIAllowLocalNetwork : Bool := false
  doIAllowFileshare : Bool := false
  nickname : String := ""
deriving DecidableEq, Repr

/-- `mesh.MachineMap`: this machine and its peers. -/
structure MachineMap where
  hostname : String := ""
  publicKey : String := ""
  address : Addr := .invalid
  nickname : String := ""
  peers : List MachinePeer := []
deriving DecidableEq, Repr

/-- `meshnet.UniqueAddress`. -/
structure UniqueAddress where
  uid : String
  address : Addr
deriving DecidableEq, Repr

/-- `dns.Host`. -/
structure Host where
  ip : Addr
  fqdn : String
  domainNames : List String
deriving DecidableEq, Repr

/-- A `vpn.VPN` value: the name of its tunnel interface, and whether the same value
also implements the mesh (libtelio does). -/
structure Vpn where
  tunName : String
  isMesh : Bool
deriving DecidableEq, Repr

/-- The three route services of `Combined`. -/
inductive RouterId where
  | vpn | peers | allowlist
deriving DecidableEq, Repr

/-- `routes.Route` as the networker fills it. -/
structure Route where
  subnet : Prefix
  device : String
  tableID : Nat
deriving DecidableEq, Repr

/-! ### Calls to dependencies -/

inductive Call where
  | devices
  | interfacesWithDefaultRoute (ignored : String)
  | vpnStart (creds : Credentials) (server : ServerData)
  | vpnStop
  | vpnIsActive
  | vpnNetworkChanged
  | tunIPs
  | dnsSet (device : String) (nameservers : List String)
  | dnsUnset (device : String)
  | setupRoutingRules (ipv6 enableLocal lanDiscovery : Bool) (subnets : List String)
  | cleanupRouting
  | policyTableID
  | routerAdd (router : RouterId) (route : Route)
  | routerFlush (router : RouterId)
  | policyEnable | policyDisable
  | routerEnable (router : RouterId) (tableID : Nat)
  | routerDisable (router : RouterId)
  | meshEnable (self : Addr) (privateKey : String)
  | meshDisable
  | meshIsActive
  | meshRefresh (cfg : MachineMap)
  | meshNetworkChanged
  | meshTun
  | meshTunIPs
  | setHosts (hosts : List Host)
  | unsetHosts
  | exitNodeEnable
  | exitNodeDisable
  | exitNodeResetPeers (peers : List MachinePeer) (lanAvailable killswitch : Bool)
  | exitNodeResetFirewall (lanAvailable killswitch : Bool)
  | exitNodeSetAllowlist (allowlist : Allowlist) (lanAvailable : Bool)
  | enablePorts (ports : List Int) (protocol mark : String)
  | disablePorts
  | ipv6Block
  | ipv6Unblock
deriving DecidableEq

/-- The answers of the dependencies, by call number. -/
structure Env where
  /-- calls of the firewall agent that fail -/
  agent : AgentEnv
  /-- other calls that fail -/
  fails : Nat → Call → Bool
  /-- `device.ListPhysical` -/
  devices : Nat → List Interface
  /-- `device.InterfacesWithDefaultRoute` -/
  defaultRoutes : Nat → List String
  /-- a started tunnel is found inactive -/
  tunnelDropped : Nat → Bool
  /-- whether the tunnel is up after a failed start or stop -/
  tunnelAfterFailure : Nat → Bool
  /-- `mesh.IsActive` -/
  meshActive : Nat → Bool
  /-- `policyRouter.TableID` -/
  tableID : Nat → Nat
  /-- the name of the mesh tunnel interface -/
  meshTun : Nat → String
  /-- addresses of the VPN and mesh tunnels -/
  tunIPs : Nat → List Addr
  /-- the order in which a Go map is ranged over -/
  rangeOrder : Nat → List String → List String
  rangeOrder_perm : ∀ n keys, (rangeOrder n keys).Perm keys

/-- No call fails. -/
structure Env.Succeeds (r : Env) : Prop where
  agent : ∀ n op rule, r.agent.fails n op rule = false
  calls : ∀ n c, r.fails n c = false

/-- Dependencies that always succeed, on a host with the given interfaces. -/
def Env.working (devices : List Interface) : Env where
  agent := ⟨fun _ _ _ => false⟩
  fails _ _ := false
  devices _ := devices
  defaultRoutes _ := []
  tunnelDropped _ := false
  tunnelAfterFailure _ := false
  meshActive _ := true
  tableID _ := 205
  meshTun _ := "nordlynx"
  tunIPs _ := []
  rangeOrder _ keys := keys
  rangeOrder_perm _ _ := .refl _

theorem Env.working_succeeds (devices : List Interface) : (Env.working devices).Succeeds :=
  ⟨fun _ _ _ => rfl, fun _ _ => rfl⟩

/-- The same dependencies, except that the agent fails one kind of call on the rules
of one name. -/
def Env.failing (devices : List Interface) (op : AgentOp) (name : String) : Env :=
  { Env.working devices with agent := ⟨fun _ op' rule => op' == op && rule.name == name⟩ }

/-! ### The state -/

/-- The fields of `Combined` that the modelled functions read. -/
structure Combined where
  vpnet : Option Vpn
  nextVPN : Option Vpn := none
  isNetworkSet : Bool := false
  isKillSwitchSet : Bool := false
  isV6TrafficAllowed : Bool := false
  isVpnSet : Bool := false
  isMeshnetSet : Bool := false
  rules : List String := []
  cfg : MachineMap := {}
  allowlist : Allowlist := {}
  lastServer : ServerData := {}
  lastCreds : Credentials := {}
  lastNameservers : List String := []
  lastPrivateKey : String := ""
  ipv6Enabled : Bool := false
  fwmark : Nat
  lanDiscovery : Bool
  enableLocalTraffic : Bool := true
  interfaces : List String := []

/-- `Combined` together with its firewall, the tunnel and the log of calls, latest
first. -/
structure World where
  netw : Combined
  fw : Firewall
  tunnelUp : Bool := false
  log : List (Call × Bool) := []

/-- `NewCombined` over a fresh firewall service. -/
def newCombined (vpnet : Option Vpn) (fwmark : Nat) (lanDiscovery firewallEnabled : Bool) : World :=
  { netw := { vpnet, fwmark, lanDiscovery }, fw := newFirewall firewallEnabled }

abbrev Netw := Prog Env World Error

namespace World

/-- The names in the firewall's memory. -/
def names (w : World) : List String := w.fw.rules.names

def withNetw (f : Combined → Combined) (w : World) : World := { w with netw := f w.netw }

def withFw (fw : Firewall) (w : World) : World := { w with fw }

variable (f : Combined → Combined) (fw : Firewall) (w : World)

@[simp] theorem withNetw_netw : (w.withNetw f).netw = f w.netw := rfl

@[simp] theorem withNetw_fw : (w.withNetw f).fw = w.fw := rfl

@[simp] theorem withNetw_names : (w.withNetw f).names = w.names := rfl

@[simp] theorem withFw_netw : (w.withFw fw).netw = w.netw := rfl

@[simp] theorem withFw_fw : (w.withFw fw).fw = fw := rfl

@[simp] theorem withFw_names : (w.withFw fw).names = fw.rules.names := rfl

@[simp] theorem withFw_tunnelUp : (w.withFw fw).tunnelUp = w.tunnelUp := rfl

/-- The state after call `c`: it is logged, and a VPN start or stop moves the
tunnel. -/
def after (w : World) (r : Env) (c : Call) (fails : Bool) : World :=
  { w with
    log := (c, !fails) :: w.log
    tunnelUp := match c with
      | .vpnStart _ _ => if fails then r.tunnelAfterFailure w.log.length else true
      | .vpnStop => if fails then r.tunnelAfterFailure w.log.length else false
      | _ => w.tunnelUp }

@[simp] theorem after_netw (r : Env) (c : Call) (fails : Bool) :
    (w.after r c fails).netw = w.netw := rfl

end World

/-! ### Making calls -/

/-- Call a dependency. -/
def call (c : Call) : Netw Unit := do
  let r ← Prog.env
  let w ← Prog.state
  let fails := r.fails w.log.length c
  Prog.update fun w => w.after r c fails
  if fails then Prog.fail (.external "dependency") else pure ()

/-- Ask a dependency for something it always answers; the answer depends on the
number of the call. -/
def ask {α : Type} (c : Call) (answer : Env → Nat → α) : Netw α := do
  let r ← Prog.env
  let w ← Prog.state
  Prog.update fun w => w.after r c false
  pure (answer r w.log.length)

/-- `netw.devices()`. -/
def devices : Netw (List Interface) := do
  let r ← Prog.env
  let w ← Prog.state
  call .devices
  pure (r.devices w.log.length)

def netw : Netw Combined := do
  let w ← Prog.state
  pure w.netw

def setNetw (f : Combined → Combined) : Netw Unit := Prog.update (World.withNetw f)

/-- A call on the firewall service. -/
def firewall (m : Fw Unit) : Netw Unit := Prog.zoom Env.agent World.fw World.withFw m

/-- `netw.fw.Add`. -/
def fwAdd (rules : List Rule) : Netw Unit := firewall (Firewall.add rules)

/-- `netw.fw.Delete`. -/
def fwDelete (names : List String) : Netw Unit := firewall (Firewall.delete names)

end NordVPN.Networker
