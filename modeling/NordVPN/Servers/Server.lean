import NordVPN.Daemon.Config

/-!
Servers as the API describes them (`core/models.go`) and what can be connected to.

Of a location only the country and its city are read. Times, loads, distances and
penalties are left out.
-/

namespace NordVPN.Servers

open NordVPN.Netip NordVPN.Daemon

/-- `core.ServerTechnology`. -/
inductive ServerTechnology where
  | unknown | openVPNUDP | openVPNTCP | openVPNUDPObfuscated | openVPNTCPObfuscated | wireguard
  | other (id : Int)
deriving DecidableEq, Repr

/-- `core.Status`. -/
inductive Status where
  | online | offline | maintenance
  | other (text : String)
deriving DecidableEq, Repr

/-- `core.Technology`: a technology and its status on the server. -/
structure TechnologyStatus where
  id : ServerTechnology
  status : Status
deriving DecidableEq, Repr

structure Group where
  id : ServerGroup
  title : String
deriving DecidableEq, Repr

structure City where
  id : Int := 0
  name : String
deriving DecidableEq, Repr

/-- `core.Country` of a location, with the city of the location. -/
structure Location where
  id : Int := 0
  name : String
  code : String
  city : City
deriving DecidableEq, Repr

structure Specification where
  identifier : String
  values : List String
deriving DecidableEq, Repr

/-- `core.Server`. -/
structure Server where
  id : Int := 0
  name : String := ""
  station : String := ""
  hostname : String := ""
  status : Status := .online
  locations : List Location := []
  technologies : List TechnologyStatus := []
  groups : List Group := []
  specifications : List Specification := []
  keys : List String := []
  ipRecords : List String := []
deriving DecidableEq, Repr

namespace Server

/-! ### Addresses -/

/-- `IPv4`. -/
def ipv4 (s : Server) : Option Addr := parseAddr s.station.toList

/-- `IPs`: the records that parse, or the station if there are none. -/
def ips (s : Server) : List Addr :=
  let serverIPs := s.ipRecords.filterMap fun ip => parseAddr ip.toList
  if serverIPs.isEmpty then s.ipv4.toList else serverIPs

/-- `SupportsIPv6`. -/
def supportsIPv6 (s : Server) : Bool := s.ips.any Addr.is6

/-! ### Technologies -/

/-- `IsOnline`. -/
def isOnline (s : Server) : Bool := s.status == .online

/-- `IsConnectableVia`: the first technology of that kind that is online decides. -/
def isConnectableVia (tech : ServerTechnology) (s : Server) : Bool :=
  s.technologies.any (fun t => t.id == tech && t.status == .online) && s.isOnline

/-- `IsObfuscated`. -/
def isObfuscated (s : Server) : Bool :=
  isConnectableVia .openVPNUDPObfuscated s && isConnectableVia .openVPNTCPObfuscated s

/-- `IsConnectableWithProtocol`. -/
def isConnectableWithProtocol (tech : Technology) (proto : Protocol) (s : Server) : Bool :=
  match tech, proto with
  | .nordlynx, _ => isConnectableVia .wireguard s
  | .openvpn, .udp => isConnectableVia .openVPNUDP s || isConnectableVia .openVPNUDPObfuscated s
  | .openvpn, .tcp => isConnectableVia .openVPNTCP s || isConnectableVia .openVPNTCPObfuscated s
  | _, _ => false

/-! ### Names -/

/-- `strings.Split(server.Hostname, ".")[0]`. -/
def hostnameID (s : Server) : String := String.ofList (s.hostname.toList.takeWhile (· != '.'))

end Server

/-- `core.ServerObfuscationStatus`. -/
inductive ServerObfuscationStatus where
  | serverObfuscated | serverNotObfuscated | notAServerName
deriving DecidableEq, Repr

/-- `IsServerObfuscated`. -/
def isServerObfuscated (servers : List Server) (serverTag : String) : ServerObfuscationStatus :=
  match servers.find? fun s => s.hostnameID == serverTag with
  | none => .notAServerName
  | some s => if s.isObfuscated then .serverObfuscated else .serverNotObfuscated

end NordVPN.Servers
