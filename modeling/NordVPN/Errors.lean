import NordVPN.Lib.GoError

/-!
The sentinel errors of the modelled packages (`daemon/firewall/errors.go`, the
`var` blocks of `networker/networker.go` and `daemon/routes/router.go`,
`meshnet.ErrTunnelClosed`) and the errors `networker` makes with `errors.New` at one place.
-/

namespace NordVPN

inductive Sentinel where
  | ruleNotFound | ruleAlreadyExists | ruleWithoutName
  | firewallAlreadyEnabled | firewallAlreadyDisabled
  | nilVPN | alreadyStarted | meshNotActive | meshAlreadySet | tunnelClosed
  | routeToOtherDestinationExists
deriving DecidableEq, Repr

def Sentinel.text : Sentinel → String
  | .ruleNotFound => "rule with specified name does not exist"
  | .ruleAlreadyExists => "rule with specified name already exists"
  | .ruleWithoutName => "rule must have a name"
  | .firewallAlreadyEnabled => "firewall is already enabled"
  | .firewallAlreadyDisabled => "firewall is already disabled"
  | .nilVPN => "vpn is nil"
  | .alreadyStarted => "already started"
  | .meshNotActive => "mesh is not active"
  | .meshAlreadySet => "meshnet already set"
  | .tunnelClosed => "tunnel was closed"
  | .routeToOtherDestinationExists => "route to differ"

abbrev Error := GoError Sentinel

end NordVPN
