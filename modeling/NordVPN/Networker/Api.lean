import NordVPN.Lib.Runs
import NordVPN.Networker.Combined

/-!
The public methods of `Combined` and its runs.

Every public method takes the mutex for its whole body, so a history of concurrent
calls is a sequence of them. (`SetVPN` and the first half of `ResetRouting` do not
take it; here they are atomic too.) A `Step` is a call together with what its
dependencies answer.
-/

namespace NordVPN.Networker

open NordVPN.Netip Prog

namespace Api

/-- `Start`. -/
def start (creds : Credentials) (serverData : ServerData) (allowlist : Allowlist)
    (nameservers : List String) (enableLocalTraffic : Bool) : Netw Unit := do
  setNetw fun c => { c with enableLocalTraffic }
  let connected ← isConnectedToVPN
  if connected then restart creds serverData nameservers
  else Networker.start creds serverData allowlist nameservers

/-- `Stop`: the VPN being `nil` is no error here. -/
def stop : Netw Unit := do
  let c ← netw
  when c.isVpnSet do
    tolerate (isErr .nilVPN) Networker.stop
    setNetw fun c => { c with interfaces := [] }

/-- `UnsetFirewall`. -/
def unsetFirewall : Netw Unit := do
  let c ← netw
  when (!c.isKillSwitchSet) unsetNetwork

/-- `SetAllowlist`. -/
def setAllowlist (allowlist : Allowlist) : Netw Unit := do
  let c ← netw
  when c.isNetworkSet do
    unsetAllowlist
    Networker.setAllowlist allowlist
  call (.exitNodeSetAllowlist allowlist c.lanAvailable)

/-- `SetLanDiscovery`. -/
def setLanDiscovery (enabled : Bool) : Netw Unit := do
  setNetw fun c => { c with lanDiscovery := enabled }
  let c ← netw
  when (c.isMeshnetSet || c.isVpnSet)
    (ignore (setupRoutingRules c.lastServer.ip.is6 c.allowlist.subnets))
  ignore (call (.exitNodeResetFirewall c.lanAvailable c.isKillSwitchSet))

/-- `UnSetMesh`. -/
def unSetMesh : Netw Unit := do
  setNetw fun c => { c with enableLocalTraffic := true }
  Networker.unSetMesh

/-- `BlockFileshare`. -/
def blockFileshare (a : UniqueAddress) : Netw Unit :=
  removeRule (allowFileshareName a.uid a.address)

/-- `refreshIncoming`. -/
def refreshIncoming (peer : MachinePeer) : Netw Unit := do
  let c ← netw
  when peer.doIAllowInbound do
    when (c.rules.contains (allowIncomingName peer.publicKey peer.address))
      (context "blocking incoming traffic" (blockIncoming ⟨peer.publicKey, peer.address⟩))
    context "allowing incoming traffic" (allowIncoming peer.publicKey peer.address
      (peer.doIAllowRouting && peer.doIAllowLocalNetwork))

/-- `ResetRouting`. -/
def resetRouting (peer : MachinePeer) (peers : List MachinePeer) : Netw Unit := do
  let c ← netw
  call (.exitNodeResetPeers peers c.lanAvailable c.isKillSwitchSet)
  refreshIncoming peer

/-- `Reconnect`: its errors are only logged. -/
def reconnect (stateIsUp : Bool) : Netw Unit := do
  let c ← netw
  when c.isVpnSet (ignore disableIPv6IfNeeded)
  when stateIsUp (ignore refreshVPN)

/-- `SetDNS`. -/
def setDNS (nameservers : List String) : Netw Unit := do
  let connected ← isConnectedToVPN
  when connected do
    setNetw fun c => { c with lastNameservers := nameservers }
    Networker.setDNS nameservers

/-- `UnsetDNS`. -/
def unsetDNS : Netw Unit := do
  let connected ← isConnectedToVPN
  when connected Networker.unsetDNS

/-- `PermitIPv6`. -/
def permitIPv6 : Netw Unit := do
  setNetw fun c => { c with ipv6Enabled := true }
  call .ipv6Unblock

/-- `SetVPN`. A VPN put in the place of an inactive one has no tunnel yet; with no
VPN at all the source dereferences `nil`. -/
def setVPN (v : Vpn) : Netw Unit := do
  let c ← netw
  if c.vpnet.isNone then fail (.external "nil pointer dereference")
  else do
    let w ← state
    let active ← ask .vpnIsActive fun r n => w.tunnelUp && !r.tunnelDropped n
    if active then setNetw fun c => { c with nextVPN := some v }
    else update fun w => { w.withNetw fun c => { c with vpnet := some v } with tunnelUp := false }

/-- `EnableFirewall`. -/
def enableFirewall : Netw Unit := context "enabling firewall" (firewall Firewall.enable)

/-- `DisableFirewall`. -/
def disableFirewall : Netw Unit := context "disabling firewall" (firewall Firewall.disable)

/-- `EnableRouting`. -/
def enableRouting : Netw Unit := do
  ignore (call .policyEnable)
  let tableID ← ask .policyTableID Env.tableID
  forEach (fun router => ignore (call (.routerEnable router tableID))) [.allowlist, .vpn, .peers]

/-- `DisableRouting`. -/
def disableRouting : Netw Unit := do
  forEach (fun router => ignore (call (.routerDisable router))) [.allowlist, .vpn, .peers]
  ignore (call .policyDisable)

end Api

/-- A call of a public method. -/
inductive Op where
  | start (creds : Credentials) (serverData : ServerData) (allowlist : Allowlist)
      (nameservers : List String) (enableLocalTraffic : Bool)
  | stop
  | setKillSwitch (allowlist : Allowlist)
  | unsetKillSwitch
  | unsetFirewall
  | setAllowlist (allowlist : Allowlist)
  | setLanDiscovery (enabled : Bool)
  | setMesh (cfg : MachineMap) (self : Addr) (privateKey : String)
  | refresh (cfg : MachineMap)
  | unSetMesh
  | allowIncoming (a : UniqueAddress) (lanAllowed : Bool)
  | blockIncoming (a : UniqueAddress)
  | allowFileshare (a : UniqueAddress)
  | blockFileshare (a : UniqueAddress)
  | resetRouting (peer : MachinePeer) (peers : List MachinePeer)
  | reconnect (stateIsUp : Bool)
  | setDNS (nameservers : List String)
  | unsetDNS
  | permitIPv6
  | denyIPv6
  | setVPN (v : Vpn)
  | enableFirewall
  | disableFirewall
  | enableRouting
  | disableRouting

def Op.exec : Op → Netw Unit
  | .start creds serverData allowlist nameservers enableLocalTraffic =>
    Api.start creds serverData allowlist nameservers enableLocalTraffic
  | .stop => Api.stop
  | .setKillSwitch allowlist => Networker.setKillSwitch allowlist
  | .unsetKillSwitch => Networker.unsetKillSwitch
  | .unsetFirewall => Api.unsetFirewall
  | .setAllowlist allowlist => Api.setAllowlist allowlist
  | .setLanDiscovery enabled => Api.setLanDiscovery enabled
  | .setMesh cfg self privateKey => Networker.setMesh cfg self privateKey
  | .refresh cfg => Networker.refresh cfg
  | .unSetMesh => Api.unSetMesh
  | .allowIncoming a lanAllowed => Networker.allowIncoming a.uid a.address lanAllowed
  | .blockIncoming a => Networker.blockIncoming a
  | .allowFileshare a => Networker.allowFileshare a.uid a.address
  | .blockFileshare a => Api.blockFileshare a
  | .resetRouting peer peers => Api.resetRouting peer peers
  | .reconnect stateIsUp => Api.reconnect stateIsUp
  | .setDNS nameservers => Api.setDNS nameservers
  | .unsetDNS => Api.unsetDNS
  | .permitIPv6 => Api.permitIPv6
  | .denyIPv6 => Networker.denyIPv6
  | .setVPN v => Api.setVPN v
  | .enableFirewall => Api.enableFirewall
  | .disableFirewall => Api.disableFirewall
  | .enableRouting => Api.enableRouting
  | .disableRouting => Api.disableRouting

/-- A call and the answers its dependencies give. -/
structure Step where
  op : Op
  env : Env

/-- The state after a call. -/
def World.step (w : World) (i : Step) : World := (i.op.exec i.env w).final

/-- What `isConnectedToVPN` answers. -/
def World.isConnected (w : World) (r : Env) : Bool :=
  w.netw.vpnet.isSome && (w.tunnelUp && !r.tunnelDropped w.log.length)

/-- What the call returns. -/
def World.returns (w : World) (i : Step) : Except Error Unit := (i.op.exec i.env w).result

/-- The states that runs from `w₀` reach when every step meets `cond`. -/
abbrev World.Reached (cond : World → Step → Prop) (w₀ w : World) : Prop :=
  Reaches World.step cond w₀ w

end NordVPN.Networker
