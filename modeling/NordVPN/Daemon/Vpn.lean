import NordVPN.Net.Netip

/-!
What the implementations of a VPN share (`daemon/vpn`, `tunnel`).
-/

namespace NordVPN.Vpn

open NordVPN.Netip

/-- `vpn.State`. -/
inductive State where
  | unknown | connecting | wait | authenticating | getConfig | assignIP | addRoutes | connected
  | reconnecting | exiting | exited
deriving DecidableEq, Repr

/-- `vpn.StringToState`, with the state that is used when it fails. -/
def stringToState (arg : String) : State :=
  if arg = "CONNECTING" then .connecting
  else if arg = "WAIT" then .wait
  else if arg = "AUTH" then .authenticating
  else if arg = "GET_CONFIG" then .getConfig
  else if arg = "ASSIGN_IP" then .assignIP
  else if arg = "ADD_ROUTES" then .addRoutes
  else if arg = "CONNECTED" then .connected
  else if arg = "RECONNECTING" then .reconnecting
  else if arg = "EXITING" then .exiting
  else if arg = "EXITED" then .exited
  else .unknown

/-- `vpn.Substate`. -/
inductive Substate where
  | unknown | authFluke | authBad | timeoutFluke | timeout
deriving DecidableEq, Repr

/-- `tunnel.Tunnel`: the name of the interface and its addresses. -/
structure Tunnel where
  iface : String := ""
  ips : List Addr := []
deriving DecidableEq, Repr

end NordVPN.Vpn
