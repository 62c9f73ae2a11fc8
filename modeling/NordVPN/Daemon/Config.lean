import NordVPN.Networker.State

/-!
The settings of the daemon (`config/config.go`, `config/allowlistlist.go`).

Go maps used as sets are lists of their keys, and a `nil` slice is the empty one: the JSON
form of the settings does not tell them apart. The fields that no modelled function reads
(user data, analytics, machine ids, remote configuration) are left out.
-/

namespace NordVPN.Daemon

open NordVPN.Netip NordVPN.Networker

/-- `config.Technology`. -/
inductive Technology where
  | unknown | openvpn | nordlynx
deriving DecidableEq, Repr

/-- `config.Protocol`. -/
inductive Protocol where
  | unknown | udp | tcp
deriving DecidableEq, Repr

/-- `config.ServerGroup`, by its name; other numbers of the enumeration are kept as they are. -/
inductive ServerGroup where
  | undefined | doubleVPN | onionOverVPN | dedicatedIP | standardVPNServers | p2p | obfuscated
  | europe | theAmericas | asiaPacific | africaMiddleEastIndia
  | other (id : Int)
deriving DecidableEq, Repr

/-- `config.AutoConnectData`. -/
structure AutoConnectData where
  id : Int := 0
  serverTag : String := ""
  country : String := ""
  city : String := ""
  group : ServerGroup := .undefined
  protocol : Protocol := .unknown
  threatProtectionLite : Bool := false
  obfuscate : Bool := false
  dns : List String := []
  allowlist : Allowlist := {}
  postquantumVpn : Bool := false
deriving DecidableEq, Repr

/-- `config.Config`. `routing` and `virtualLocation` are `TrueField`s. -/
structure Config where
  technology : Technology := .unknown
  firewall : Bool := false
  routing : Bool := true
  mesh : Bool := false
  meshPrivateKey : String := ""
  meshDevice : Addr := .invalid
  killSwitch : Bool := false
  autoConnect : Bool := false
  ipv6 : Bool := false
  autoConnectData : AutoConnectData := {}
  tokensData : List (Int × Credentials) := []
  lanDiscovery : Bool := false
  virtualLocation : Bool := true
deriving DecidableEq, Repr

/-- `newConfig`. -/
def newConfig : Config :=
  { technology := .nordlynx, firewall := true, autoConnectData := { protocol := .udp } }

namespace Config

/-- The credentials of the current user; a missing entry of the map reads as the zero
value. -/
def credentials (cfg : Config) : Credentials :=
  (cfg.tokensData.lookup cfg.autoConnectData.id).getD {}

def allowlist (cfg : Config) : Allowlist := cfg.autoConnectData.allowlist

/-- The configuration with its connection settings changed. -/
def withData (cfg : Config) (f : AutoConnectData → AutoConnectData) : Config :=
  { cfg with autoConnectData := f cfg.autoConnectData }

end Config

/-- `DNS.Or`. -/
def dnsOr (dns defaultValue : List String) : List String :=
  if dns.isEmpty then defaultValue else dns

/-! ### Answers -/

/-- What a request is answered with: the codes of `internal/codes.go` and the statuses of the
`pb` package. -/
inductive Reply where
  | success | failure | nothingToDo | configError | dependencyError | killSwitchError
  | connecting | connected | disconnected | vpnNotRunning | accountExpired | tokenRenewError
  | autoConnectServerNotObfuscated | autoConnectServerObfuscated
  | pqAndMeshnetSimultaneously | pqWithoutNordlynx
  | privateSubnetLANDiscovery | allowlistInvalidSubnet | allowlistSubnetNoop
  | allowlistPortOutOfRange | allowlistPortNoop
  /-- `CodeSuccess` with the data whether the VPN is active -/
  | successActive (active : Bool)
  /-- the code that the choice of a server ended with -/
  | selection (code : Nat)
  /-- the error, without a code, that the choice of a server ended with -/
  | selectionError
  /-- `SetErrorCode` -/
  | setFailure | setConfigError | alreadySet
  | tooManyValues | invalidDNSAddress | dnsConfigured | dnsConfiguredTPLReset
  | tplConfigured | tplConfiguredDNSReset
  | discoveryConfigured | discoveryConfiguredAllowlistReset
  | invalidTechnology | protocolConfigured | protocolConfiguredVPNOn
  /-- the meshnet service -/
  | notLoggedIn | notRegistered | configFailure | apiFailure | alreadyEnabled | alreadyDisabled
  | conflictWithPQ | tunnelClosed | libFailure | empty
deriving DecidableEq, Repr

/-- The answers that report a change. -/
def Reply.isSuccess : Reply → Bool
  | .success | .successActive _ | .connected | .disconnected | .dnsConfigured
  | .dnsConfiguredTPLReset | .tplConfigured | .tplConfiguredDNSReset | .discoveryConfigured
  | .discoveryConfiguredAllowlistReset | .protocolConfigured | .protocolConfiguredVPNOn
  | .empty => true
  | _ => false

end NordVPN.Daemon
