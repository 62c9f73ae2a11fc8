import NordVPN.ExitNode.Allowlist

/-!
The permanent lines: `enableFiltering` and `clearFiltering`.

`enableFiltering` looks at the displayed chain and adds its lines only if no line of the
exit node, permanent or transient, shows the meshnet subnet. `clearFiltering` deletes
lines by their printed texts, in whatever chain of the table they are.
-/

namespace NordVPN.ExitNode

open NordVPN.Netip Networker Prog

variable {r : Env}

/-! ### Enabling -/

end NordVPN.ExitNode
