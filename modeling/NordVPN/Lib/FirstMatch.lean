import Mathlib.Data.List.Basic

/-!
Lists of rules where the first one that applies decides.

`f` says what a rule decides on the case at hand, or that it does not apply.
-/

namespace FirstMatch

variable {ρ δ : Type}

/-- What the list decides: the first rule that applies does, else the default. -/
def decision (f : ρ → Option δ) (default : δ) (rules : List ρ) : δ :=
  (rules.findSome? f).getD default

end FirstMatch
