import NordVPN.Daemon.Allowlist
import NordVPN.Dns.Setter
import NordVPN.Networker.Api
import NordVPN.Servers.Server

/-!
The requests of the daemon that change its settings or its connection (`daemon/rpc_*.go`,
`EnableMeshnet` and `DisableMeshnet` of `meshnet/server.go`).

Most of them have one shape: load the settings, decide, call the networker, save a change
with `SaveWith`, call the networker again and answer. A handler is therefore a function from
the loaded settings to a `Decision`, and `carryOut` carries the decision out; the same
decisions are the atomic steps of concurrent requests. `Connect`, `Disconnect` and the
network listener are procedures of their own.

Published events, log lines and the fileshare service are left out.
-/

namespace NordVPN.Daemon

open NordVPN.Netip NordVPN.Networker NordVPN.Servers Prog

/-! ### The endpoint -/

/-- `network.Endpoint`. -/
structure Endpoint where
  ips : List Addr := []
  supportsIPv6 : Bool := false
deriving DecidableEq, Repr

namespace Endpoint

/-- `Endpoint.ip`: the first address of the family to use. -/
def ip (e : Endpoint) : Option Addr :=
  if e.supportsIPv6 then e.ips.find? Addr.is6 else e.ips.find? Addr.is4

/-- `Endpoint.Network`. -/
def network (e : Endpoint) : Option Prefix := e.ip.map Prefix.single

/-- `subnet.Addr().Is6()` after an ignored error of `Network`. -/
def is6 (e : Endpoint) : Bool := (e.network.getD Prefix.zero).addr.is6

end Endpoint

/-- `network.DefaultEndpoint`. -/
def defaultEndpoint (resolves : Addr → Bool) (serverIps : List Addr) : Endpoint :=
  { ips := serverIps, supportsIPv6 := serverIps.any fun ip => ip.is6 && resolves ip }

/-- `network.NewIPv4Endpoint`. -/
def newIPv4Endpoint (ip : Addr) : Endpoint := { ips := [ip] }

section Endpoint

variable {e : Endpoint} {a : Addr}

theorem mem_of_ip (h : e.ip = some a) : a ∈ e.ips := by
  unfold Endpoint.ip at h
  split at h <;> exact List.mem_of_find?_eq_some h

theorem ne_invalid_of_ip (h : e.ip = some a) : a ≠ .invalid := by
  rintro rfl
  unfold Endpoint.ip at h
  split at h <;> exact absurd (List.find?_some h) (by decide)

theorem addr_network : e.network.map Prefix.addr = e.ip := by
  unfold Endpoint.network
  cases e.ip <;> rfl

variable (resolves : Addr → Bool) (serverIps : List Addr)

theorem supportsIPv6_defaultEndpoint : (defaultEndpoint resolves serverIps).supportsIPv6 = true ↔
    ∃ b ∈ serverIps, b.is6 = true ∧ resolves b = true := by
  simp [defaultEndpoint]

/-- The search for an address that answers decides the family only. The endpoint is then the
first address of that family: an IPv6 address if one of them answered, not always that one. -/
theorem defaultEndpoint_picks :
    (∀ a, (defaultEndpoint resolves serverIps).network.map Prefix.addr = some a →
      (a.is6 = true ∧ serverIps.find? Addr.is6 = some a ∧
          ∃ b ∈ serverIps, b.is6 = true ∧ resolves b = true) ∨
        (a.is4 = true ∧ serverIps.find? Addr.is4 = some a ∧
          ∀ b ∈ serverIps, b.is6 = true → resolves b = false)) ∧
      ((defaultEndpoint resolves serverIps).network = none ↔
        (∀ b ∈ serverIps, b.is4 = false) ∧
          ∀ b ∈ serverIps, b.is6 = true → resolves b = false) := by
  rw [addr_network, Endpoint.network, Option.map_eq_none_iff, Endpoint.ip]
  by_cases h : (defaultEndpoint resolves serverIps).supportsIPv6 = true
  · obtain ⟨b, hb, hb6, hup⟩ := (supportsIPv6_defaultEndpoint resolves serverIps).mp h
    rw [if_pos h]
    refine ⟨fun a ha => .inl ⟨List.find?_some ha, ha, b, hb, hb6, hup⟩, fun hnone => ?_,
      fun hno => ?_⟩
    · exact absurd hb6 (List.find?_eq_none.mp hnone b hb)
    · exact absurd (hno.2 b hb hb6) (by simp [hup])
  · have hno : ∀ b ∈ serverIps, b.is6 = true → resolves b = false := fun b hb hb6 =>
      Bool.eq_false_of_not_eq_true fun hup =>
        h ((supportsIPv6_defaultEndpoint resolves serverIps).mpr ⟨b, hb, hb6, hup⟩)
    rw [if_neg h]
    refine ⟨fun a ha => .inr ⟨List.find?_some ha, ha, hno⟩, fun hnone => ⟨fun b hb => ?_, hno⟩,
      fun hnone => List.find?_eq_none.mpr fun b hb => by simp [hnone.1 b hb]⟩
    simpa using List.find?_eq_none.mp hnone b hb

/-- No IPv6 address of the server answers. -/
def Silent : Prop := ∀ b ∈ serverIps, b.is6 = true → resolves b = false

/-- The endpoint is an IPv6 address only if that very address answers, an IPv4 address of the list
if no IPv6 address answers, and an error only if there is neither. -/
def PicksAnswering : Prop :=
  (∀ a, (defaultEndpoint resolves serverIps).network.map Prefix.addr = some a →
    (a.is6 = true → resolves a = true) ∧
      (Silent resolves serverIps → a.is4 = true ∧ a ∈ serverIps)) ∧
    ((defaultEndpoint resolves serverIps).network = none →
      (∀ b ∈ serverIps, b.is4 = false) ∧ Silent resolves serverIps)

/-- **The endpoint is one that answered** exactly if the first IPv6 address of the list does, or
none of them. Another one that answers brings the silent first address in. -/
theorem picksAnswering_iff : PicksAnswering resolves serverIps ↔
    ∀ first, serverIps.find? Addr.is6 = some first →
      resolves first = true ∨ Silent resolves serverIps := by
  have hpicks := defaultEndpoint_picks resolves serverIps
  constructor
  · intro h first hfirst
    by_contra hneither
    obtain ⟨hfails, hsome⟩ := not_or.mp hneither
    unfold Silent at hsome
    push Not at hsome
    obtain ⟨b, hb, hb6, hup⟩ := hsome
    have hsupports := (supportsIPv6_defaultEndpoint resolves serverIps).mpr
      ⟨b, hb, hb6, Bool.eq_true_of_not_eq_false hup⟩
    refine hfails ((h.1 first ?_).1 (List.find?_some hfirst))
    rw [addr_network, Endpoint.ip, if_pos hsupports]
    exact hfirst
  · intro h
    refine ⟨fun a ha => ?_, hpicks.2.mp⟩
    rcases hpicks.1 a ha with ⟨ha6, hfirst, b, hb, hb6, hup⟩ | ⟨ha4, hfirst, -⟩
    · have hsome : ¬ Silent resolves serverIps := fun hsilent =>
        Bool.false_ne_true ((hsilent b hb hb6).symm.trans hup)
      exact ⟨fun _ => (h a hfirst).resolve_right hsome, fun hsilent => absurd hsilent hsome⟩
    · refine ⟨fun ha6 => ?_, fun _ => ⟨ha4, List.mem_of_find?_eq_some hfirst⟩⟩
      cases a with
      | invalid => cases ha4
      | v4 ip => cases ha6
      | v6 ip => cases ha4

/-- The second address answers, and the endpoint is the first one. -/
theorem silent_address_picked :
    (defaultEndpoint (· == .v6 2) [.v6 1, .v6 2]).network = some (Prefix.single (.v6 1)) ∧
      ¬ PicksAnswering (· == .v6 2) [.v6 1, .v6 2] :=
  ⟨by decide, fun h => absurd ((h.1 (.v6 1) (by decide)).1 rfl) (by decide)⟩

end Endpoint

/-! ### State and environment -/

/-- What the registry answers when it is asked for the meshnet map. -/
inductive MapAnswer where
  | map (resp : MachineMap)
  | unauthorized
  | failure

/-- The error of `selectServer`: one with a code for the user, or another one. -/
inductive SelectError where
  | code (code : Nat)
  | error (e : Error)

/-- `internal.ErrUnhandled`. -/
def errUnhandled : Error := .plain ("Something went wrong. Please try again. If the problem " ++
  "persists, contact our customer support.")

/-- `internal.ErrNotLoggedIn`. -/
def errNotLoggedIn : Error := .plain "you are not logged in"

/-- What the services around the daemon answer during one request. -/
structure DaemonEnv where
  netw : Networker.Env
  /-- `cm.Load` succeeds -/
  loads : Bool := true
  /-- `cm.SaveWith` and `cm.Reset` succeed -/
  saves : Bool := true
  isLoggedIn : Bool := true
  /-- `ac.IsVPNExpired`; `none` if the check fails -/
  isVPNExpired : Option Bool := some false
  selectServer : Config → Except SelectError Server
  /-- `endpointResolver.Resolve` succeeds -/
  resolves : Addr → Bool := fun _ => true
  /-- the context of `Connect` was cancelled -/
  canceled : Bool := false
  /-- the VPN of a technology -/
  factory : Technology → Option Vpn
  /-- `GetServerParameters` -/
  serverParameters : String → String × String × ServerGroup := fun _ => ("", "", .undefined)
  /-- `mc.Register` succeeds -/
  registers : Bool := true
  meshMap : MapAnswer := .failure
  /-- the last server is the meshnet peer connected to last -/
  peerConnected : Bool := false
  /-- how many turns the loops over ports get -/
  turns : Nat := 65536

/-- Services that always succeed; every choice of a server ends with the given one. -/
def DaemonEnv.working (server : Server) : DaemonEnv :=
  { netw := Env.working [], selectServer := fun _ => .ok server
    factory := fun _ => some ⟨"nordlynx", true⟩ }

/-- `daemon.RPC`: the stored settings, the fields its requests read, and the networker. -/
structure Rpc where
  cfg : Config
  endpoint : Endpoint := {}
  lastServer : Server := {}
  /-- the nameservers of threat protection -/
  nameservers : List String := []
  /-- the servers of the data manager -/
  servers : List Server := []
  netw : World

/-- The daemon at start-up, without a connection. -/
def Rpc.startUp (cfg : Config) (fwmark : Nat) : Rpc :=
  { cfg, netw := newCombined (some ⟨"nordlynx", true⟩) fwmark cfg.lanDiscovery cfg.firewall }

abbrev RpcM := Prog DaemonEnv Rpc Error

/-- A call on the networker. -/
def onNetw {α : Type} (m : Netw α) : RpcM α :=
  zoom DaemonEnv.netw Rpc.netw (fun w s => { s with netw := w }) m

theorem wp_onNetw {α : Type} {m : Netw α} {r : DaemonEnv} {A : Rpc → Prop}
    {Q : Except Error α → Rpc → Prop} {s : Rpc} :
    wp (onNetw m) r A Q s ↔ wp m r.netw (fun w => A { s with netw := w })
      (fun x w => Q x { s with netw := w }) s.netw :=
  wp_zoom

/-- `cm.Load` when its error is only logged: the settings are then the default ones. -/
def load : RpcM Config := do
  let r ← env
  let s ← state
  pure (if r.loads then s.cfg else newConfig)

/-! ### Decisions -/

/-- A call on the networker, with the answer its error leads to; without one the error is
only logged. -/
structure NetwCall where
  op : Networker.Op
  onError : Option (Error → Reply) := none

/-- How a request that went through is answered. -/
inductive Done where
  | reply (reply : Reply)
  /-- the answer depends on `IsVPNActive` -/
  | byActive (reply : Bool → Reply)

/-- What a request does after it was accepted. -/
structure Plan where
  before : List NetwCall := []
  save : Config → Config
  saveError : Reply := .configError
  after : List Networker.Op := []
  done : Done

inductive Decision where
  | answer (reply : Reply)
  | proceed (plan : Plan)
  /-- a loop is still running -/
  | hang

/-! ### The settings requests -/

section Handlers

variable (r : DaemonEnv) (s : Rpc)

/-- `SetTechnology`. -/
def setTechnology (technology : Technology) (cfg : Config) : Decision :=
  if cfg.technology = technology then .answer .nothingToDo
  else match r.factory technology with
    | none => .answer .configError
    | some v =>
      let protocol := if technology = .nordlynx then .udp else cfg.autoConnectData.protocol
      let obfuscate := if technology = .nordlynx then false else cfg.autoConnectData.obfuscate
      if technology ≠ .nordlynx ∧ cfg.autoConnectData.postquantumVpn = true then
        .answer .pqWithoutNordlynx
      else .proceed
        { save := fun c => { c with technology, autoConnectData :=
            { c.autoConnectData with protocol, obfuscate } }
          after := [.setVPN v]
          done := .byActive .successActive }

/-- `SetProtocol`. -/
def setProtocol (protocol : Protocol) (cfg : Config) : Decision :=
  if cfg.autoConnectData.protocol = protocol then .answer .alreadySet
  else if cfg.technology = .nordlynx then .answer .invalidTechnology
  else .proceed
    { save := fun c => c.withData fun d => { d with protocol }
      saveError := .setConfigError
      done := .byActive fun active =>
        if active then .protocolConfiguredVPNOn else .protocolConfigured }

/-- `SetObfuscate`: obfuscation is checked against the server of auto-connect only. -/
def setObfuscate (enabled : Bool) (cfg : Config) : Decision :=
  if cfg.autoConnectData.obfuscate = enabled then .answer .nothingToDo
  else
    let status := isServerObfuscated s.servers cfg.autoConnectData.serverTag
    if cfg.autoConnect && status == .serverNotObfuscated && enabled then
      .answer .autoConnectServerNotObfuscated
    else if cfg.autoConnect && status == .serverObfuscated && !enabled then
      .answer .autoConnectServerObfuscated
    else .proceed
      { save := fun c => c.withData fun d => { d with obfuscate := enabled }
        done := .byActive .successActive }

/-- `SetPostQuantum`. -/
def setPostQuantum (enabled : Bool) (cfg : Config) : Decision :=
  if cfg.autoConnectData.postquantumVpn = enabled then .answer .nothingToDo
  else if cfg.mesh && enabled then .answer .pqAndMeshnetSimultaneously
  else if cfg.technology ≠ .nordlynx then .answer .pqWithoutNordlynx
  else .proceed
    { save := fun c => c.withData fun d => { d with postquantumVpn := enabled }
      done := .reply .success }

/-- `SetIpv6`. -/
def setIpv6 (enabled : Bool) (cfg : Config) : Decision :=
  if cfg.ipv6 = enabled then .answer .nothingToDo
  else .proceed { save := fun c => { c with ipv6 := enabled }, done := .reply .success }

/-- `slices.Sort`. -/
def sortStrings (xs : List String) : List String := xs.insertionSort (· ≤ ·)

/-- `SetDNS`. The request's slice is sorted in place, so the sorted one is saved. -/
def setDNS (dns : List String) (cfg : Config) : Decision :=
  let nameservers := sortStrings dns
  if 3 < dns.length then .answer .tooManyValues
  else if nameservers = sortStrings cfg.autoConnectData.dns then .answer .alreadySet
  else if nameservers.any fun address => (parseAddr address.toList).isNone then
    .answer .invalidDNSAddress
  else
    let threatProtectionLite := cfg.autoConnectData.threatProtectionLite && nameservers.isEmpty
    let applied := if nameservers.isEmpty then
        Dns.getNameservers s.nameservers threatProtectionLite s.endpoint.is6
      else nameservers
    .proceed
      { before := [⟨.setDNS applied, some fun _ => .setFailure⟩]
        save := fun c => c.withData fun d => { d with threatProtectionLite, dns := nameservers }
        saveError := .setConfigError
        done := .reply (if threatProtectionLite ≠ cfg.autoConnectData.threatProtectionLite then
          .dnsConfiguredTPLReset else .dnsConfigured) }

/-- `SetThreatProtectionLite`. -/
def setThreatProtectionLite (threatProtectionLite : Bool) (cfg : Config) : Decision :=
  if cfg.autoConnectData.threatProtectionLite = threatProtectionLite then .answer .alreadySet
  else .proceed
    { before := [⟨.setDNS (Dns.getNameservers s.nameservers threatProtectionLite cfg.ipv6),
        some fun _ => .setConfigError⟩]
      save := fun c => c.withData fun d => { d with threatProtectionLite, dns := [] }
      saveError := .setConfigError
      done := .reply (if !cfg.autoConnectData.dns.isEmpty && threatProtectionLite then
        .tplConfiguredDNSReset else .tplConfigured) }

/-- The subnets that stay allowlisted when LAN discovery is enabled: a text that
`netip.ParsePrefix` rejects is dropped too. -/
def keepsUnderDiscovery (subnet : String) : Bool :=
  match parsePrefix subnet with
  | none => false
  | some net => !net.addr.isPrivate && !net.addr.isLinkLocalUnicast

/-- `SetLANDiscovery`. -/
def setLANDiscovery (enabled : Bool) (cfg : Config) : Decision :=
  if cfg.lanDiscovery = enabled then .answer .alreadySet
  else
    let subnets := if enabled then cfg.allowlist.subnets.filter keepsUnderDiscovery
      else cfg.allowlist.subnets
    let isReset := enabled && cfg.allowlist.subnets.any containsPrivateNetwork
    .proceed
      { before := [⟨.setLanDiscovery enabled, none⟩,
          ⟨.setAllowlist { cfg.allowlist with subnets }, some fun _ => .setFailure⟩]
        save := fun c => { c with
          lanDiscovery := enabled
          autoConnectData := { c.autoConnectData with
            allowlist := { c.autoConnectData.allowlist with subnets } } }
        saveError := .setConfigError
        done := .reply (if isReset then .discoveryConfiguredAllowlistReset
          else .discoveryConfigured) }

/-- `handleNewAllowlist`. -/
def handleNewAllowlist (allowlist : Allowlist) : Decision :=
  .proceed
    { before := [⟨.setAllowlist allowlist, some fun _ => .failure⟩]
      save := fun c => c.withData fun d => { d with allowlist }
      done := .reply .success }

/-- `SetAllowlist` and `UnsetAllowlist`. -/
def updateAllowlist (request : AllowlistRequest) (remove : Bool) (cfg : Config) : Decision :=
  match getNewAllowlist r.turns cfg request remove with
  | none => .hang
  | some (.error code) => .answer code
  | some (.ok allowlist) => handleNewAllowlist allowlist

/-- `SetFirewall`. -/
def setFirewall (enabled : Bool) (cfg : Config) : Decision :=
  if cfg.firewall = enabled then .answer .nothingToDo
  else if cfg.killSwitch && !enabled then .answer .dependencyError
  else .proceed
    { before := [⟨if enabled then .enableFirewall else .disableFirewall, some fun _ => .failure⟩]
      save := fun c => { c with firewall := enabled }
      done := .reply .success }

/-- `SetKillSwitch`: the allowlist is the one of the request. -/
def setKillSwitch (killSwitch : Bool) (allowlist : Allowlist) (cfg : Config) : Decision :=
  if !cfg.firewall then .answer .dependencyError
  else if cfg.killSwitch = killSwitch then .answer .nothingToDo
  else .proceed
    { before := [⟨if killSwitch then .setKillSwitch allowlist else .unsetKillSwitch,
        some fun _ => .killSwitchError⟩]
      save := fun c => { c with killSwitch }
      done := .reply .success }

/-- `SetRouting`. -/
def setRouting (enabled : Bool) (cfg : Config) : Decision :=
  if cfg.routing = enabled then .answer .nothingToDo
  else if cfg.mesh && !enabled then .answer .dependencyError
  else .proceed
    { save := fun c => { c with routing := enabled }
      after := [if enabled then .enableRouting else .disableRouting]
      done := .reply .success }

/-- `SetAutoConnect`: the connection settings are written back as they were loaded. -/
def setAutoConnect (enabled : Bool) (serverTag : String) (cfg : Config) : Decision :=
  let status := isServerObfuscated s.servers serverTag
  if !r.isLoggedIn then .answer .notLoggedIn
  else if !cfg.autoConnect && !enabled then .answer .nothingToDo
  else if !enabled then
    .proceed { save := fun c => { c with autoConnect := enabled }, done := .reply .success }
  else if status = .serverNotObfuscated ∧ cfg.autoConnectData.obfuscate = true then
    .answer .autoConnectServerNotObfuscated
  else if status = .serverObfuscated ∧ cfg.autoConnectData.obfuscate = false then
    .answer .autoConnectServerObfuscated
  else
    let (country, city, group) :=
      if serverTag = "" then ("", "", .undefined) else r.serverParameters serverTag
    match if serverTag = "" then none else some (r.selectServer cfg) with
    | some (.error (.code code)) => .answer (.selection code)
    | some (.error (.error _)) => .answer .selectionError
    | _ => .proceed
      { save := fun c => { c with
          autoConnect := enabled
          autoConnectData := { cfg.autoConnectData with serverTag, country, city, group } }
        done := .reply .success }

/-- `auth.Logout`. -/
def logout (user : Int) (c : Config) : Config :=
  { c with tokensData := c.tokensData.filter (·.1 ≠ user) }

/-- `EnableMeshnet`: the setting of routing is not looked at. -/
def enableMeshnet (cfg : Config) : Decision :=
  if !r.isLoggedIn then .answer .notLoggedIn
  else if !r.registers then .answer .notRegistered
  else if cfg.mesh then .answer .alreadyEnabled
  else if cfg.autoConnectData.postquantumVpn then .answer .conflictWithPQ
  else match r.meshMap with
    | .failure => .answer .apiFailure
    | .unauthorized => .proceed
      { save := logout cfg.autoConnectData.id
        saveError := .configFailure
        done := .reply .notLoggedIn }
    | .map resp => .proceed
      { before := [⟨.setMesh resp cfg.meshDevice cfg.meshPrivateKey, some fun e =>
          if isErr .tunnelClosed e then .tunnelClosed else .libFailure⟩]
        save := fun c => { c with mesh := true, meshDevice := resp.address }
        saveError := .configFailure
        done := .reply .empty }

/-- `DisableMeshnet`. -/
def disableMeshnet (cfg : Config) : Decision :=
  if !cfg.mesh then .answer .alreadyDisabled
  else .proceed
    { before := (if r.peerConnected then [⟨.stop, none⟩] else []) ++ [⟨.unSetMesh, none⟩]
      save := fun c => { c with mesh := false }
      saveError := .configFailure
      done := .reply .empty }

/-- `SetDefaults`. Only the stored settings are reset; of the networker the VPN and the
meshnet are stopped. -/
def setDefaults : Decision :=
  let v := r.factory newConfig.technology
  .proceed
    { before := [⟨.stop, some fun _ => .failure⟩, ⟨.unSetMesh, none⟩]
      save := fun _ => newConfig
      after := v.toList.map .setVPN
      done := .reply (if v.isSome then .success else .configError) }

end Handlers

/-! ### Requests -/

inductive Request where
  | setTechnology (technology : Technology)
  | setProtocol (protocol : Protocol)
  | setObfuscate (enabled : Bool)
  | setPostQuantum (enabled : Bool)
  | setIpv6 (enabled : Bool)
  | setDNS (dns : List String)
  | setThreatProtectionLite (enabled : Bool)
  | setLANDiscovery (enabled : Bool)
  | setAllowlist (request : AllowlistRequest)
  | unsetAllowlist (request : AllowlistRequest)
  | setFirewall (enabled : Bool)
  | setKillSwitch (killSwitch : Bool) (allowlist : Allowlist)
  | setRouting (enabled : Bool)
  | setAutoConnect (enabled : Bool) (serverTag : String)
  | enableMeshnet
  | disableMeshnet
  | setDefaults

namespace Request

/-- The answer to settings that do not load; without one the error is only logged. -/
def loadError (r : DaemonEnv) : Request → Option Reply
  | .setLANDiscovery _ => some .setConfigError
  | .setAllowlist _ | .unsetAllowlist _ => some .configError
  | .enableMeshnet => some (if !r.isLoggedIn then .notLoggedIn
      else if !r.registers then .notRegistered else .configFailure)
  | .disableMeshnet => some .configFailure
  | .setDefaults => some .failure
  | _ => none

/-- What the request decides on the settings it loaded. -/
def decide (r : DaemonEnv) (s : Rpc) : Request → Config → Decision
  | .setTechnology technology => Daemon.setTechnology r technology
  | .setProtocol protocol => Daemon.setProtocol protocol
  | .setObfuscate enabled => Daemon.setObfuscate s enabled
  | .setPostQuantum enabled => Daemon.setPostQuantum enabled
  | .setIpv6 enabled => Daemon.setIpv6 enabled
  | .setDNS dns => Daemon.setDNS s dns
  | .setThreatProtectionLite enabled => Daemon.setThreatProtectionLite s enabled
  | .setLANDiscovery enabled => Daemon.setLANDiscovery enabled
  | .setAllowlist request => Daemon.updateAllowlist r request false
  | .unsetAllowlist request => Daemon.updateAllowlist r request true
  | .setFirewall enabled => Daemon.setFirewall enabled
  | .setKillSwitch killSwitch allowlist => Daemon.setKillSwitch killSwitch allowlist
  | .setRouting enabled => Daemon.setRouting enabled
  | .setAutoConnect enabled serverTag => Daemon.setAutoConnect r s enabled serverTag
  | .enableMeshnet => Daemon.enableMeshnet r
  | .disableMeshnet => Daemon.disableMeshnet r
  | .setDefaults => fun _ => Daemon.setDefaults r

end Request

/-! ### Carrying a decision out -/

/-- The calls before the save, up to the first one that ends the request. -/
def callAll : List NetwCall → RpcM (Option Reply)
  | [] => pure none
  | c :: rest => do
    let x ← attempt (onNetw c.op.exec)
    match x, c.onError with
    | .error e, some onError => pure (some (onError e))
    | _, _ => callAll rest

/-- `cm.SaveWith`; its answer tells whether it succeeded. -/
def saveWith (f : Config → Config) : RpcM Bool := do
  let r ← env
  if r.saves then do
    update fun s => { s with cfg := f s.cfg }
    pure true
  else pure false

/-- The answer of a request that went through. -/
def answerDone : Done → RpcM Reply
  | .reply reply => pure reply
  | .byActive reply => do
    let active ← onNetw isConnectedToVPN
    pure (reply active)

def carryOut (plan : Plan) : RpcM Reply := do
  let failed ← callAll plan.before
  match failed with
  | some reply => pure reply
  | none => do
    let saved ← saveWith plan.save
    if saved then do
      forEach (fun op => ignore (onNetw op.exec)) plan.after
      answerDone plan.done
    else pure plan.saveError

/-- A settings request. A request whose loop is still running has not answered. -/
def handle (request : Request) : RpcM (Option Reply) := do
  let r ← env
  let s ← state
  match if r.loads then none else request.loadError r with
  | some reply => pure (some reply)
  | none => do
    let cfg ← load
    match request.decide r s cfg with
    | .answer reply => pure (some reply)
    | .hang => pure none
    | .proceed plan => do
      let reply ← carryOut plan
      pure (some reply)

/-! ### Connecting -/

/-- The nameservers that `Connect` passes on for a server. -/
def connectNameservers (s : Rpc) (cfg : Config) (server : Server) : List String :=
  dnsOr cfg.autoConnectData.dns (Dns.getNameservers s.nameservers
    cfg.autoConnectData.threatProtectionLite server.supportsIPv6)

/-- `connect` once the endpoint is known. -/
def connectTo (cfg : Config) (server : Server) (ip : Addr) : RpcM (List Reply) := do
  update fun s => { s with lastServer := server }
  let r ← env
  let s ← state
  let x ← attempt (onNetw (Api.start cfg.credentials { ip, hostname := server.hostname }
    cfg.allowlist (connectNameservers s cfg server) true))
  match x with
  | .error _ => pure [.connecting, if r.canceled then .disconnected else .failure]
  | .ok _ => do
    -- a server with an IPv6 address leaves IPv6 as it is
    when (!server.supportsIPv6) (ignore (onNetw denyIPv6))
    pure [.connecting, .connected]

/-- `connect` once a server is chosen. -/
def connectServer (cfg : Config) (server : Server) : RpcM (List Reply) := do
  let r ← env
  let endpoint : Option Endpoint := if cfg.ipv6 then some (defaultEndpoint r.resolves server.ips)
    else server.ipv4.map newIPv4Endpoint
  when cfg.ipv6 (ignore (onNetw Api.permitIPv6))
  match endpoint with
  | none => fail errUnhandled
  | some endpoint => do
    update fun s => { s with endpoint }
    match endpoint.ip with
    | none => fail errUnhandled
    | some ip => connectTo cfg server ip

/-- `Connect`: the payloads it sends. -/
def connect : RpcM (List Reply) := do
  let r ← env
  if !r.isLoggedIn then fail errNotLoggedIn
  else match r.isVPNExpired with
    | none => pure [.tokenRenewError]
    | some true => pure [.accountExpired]
    | some false => do
      let cfg ← load
      match r.selectServer cfg with
      | .error (.code code) => pure [.selection code]
      | .error (.error e) => fail e
      | .ok server => connectServer cfg server

/-- `Disconnect`. -/
def disconnect : RpcM Reply := do
  let active ← onNetw isConnectedToVPN
  if active then do
    mapError (fun _ => errUnhandled) (onNetw Api.stop)
    pure .disconnected
  else do
    ignore (onNetw Api.unsetFirewall)
    pure .vpnNotRunning

/-! ### Runs -/

/-- A request to the daemon, or a change of the network it is told of. -/
inductive Event where
  | settings (request : Request)
  | connect
  | disconnect
  | networkChange (stateIsUp : Bool)

def Event.exec : Event → RpcM Unit
  | .settings request => do
    let _ ← handle request
    pure ()
  | .connect => do
    let _ ← Daemon.connect
    pure ()
  | .disconnect => do
    let _ ← Daemon.disconnect
    pure ()
  | .networkChange stateIsUp => onNetw (Api.reconnect stateIsUp)

structure DaemonStep where
  event : Event
  env : DaemonEnv

def Rpc.step (s : Rpc) (i : DaemonStep) : Rpc := (i.event.exec i.env s).final

/-- The states that runs of requests from `s₀` reach when every step meets `cond`. -/
abbrev Rpc.Reached (cond : Rpc → DaemonStep → Prop) (s₀ s : Rpc) : Prop :=
  Reaches Rpc.step cond s₀ s

end NordVPN.Daemon
