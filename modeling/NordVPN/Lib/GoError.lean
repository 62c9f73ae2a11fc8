import Mathlib.Tactic.Common

/-!
Go error values: sentinels compared by identity, texts, wrapping with `%w` and
`errors.Join`. `GoError.is` is `errors.Is` against a sentinel.
-/

/-- An error over the sentinels `κ`. `external` is an error made by code outside
the model, which never is one of its sentinels. -/
inductive GoError (κ : Type) where
  | sentinel (kind : κ)
  | plain (text : String)
  | external (text : String)
  | wrap (context : String) (inner : GoError κ)
  | join (first second : GoError κ)
deriving DecidableEq, Repr

namespace GoError

variable {κ : Type} [DecidableEq κ]

/-- `errors.Is(err, kind)`: some error of the chain is the sentinel. -/
def is : GoError κ → κ → Bool
  | .sentinel k, kind => k == kind
  | .plain _, _ => false
  | .external _, _ => false
  | .wrap _ inner, kind => inner.is kind
  | .join first second, kind => first.is kind || second.is kind

/-- Some error of the chain is the given one. -/
def has : GoError κ → GoError κ → Bool
  | .wrap context inner, e => wrap context inner == e || inner.has e
  | .join first second, e => join first second == e || first.has e || second.has e
  | e', e => e' == e

/-- `err.Error()`, given the texts of the sentinels. -/
def text (sentinelText : κ → String) : GoError κ → String
  | .sentinel k => sentinelText k
  | .plain text => text
  | .external text => text
  | .wrap context inner => context ++ ": " ++ inner.text sentinelText
  | .join first second => first.text sentinelText ++ "\n" ++ second.text sentinelText

/-- `errors.Join` of two errors that may be absent. -/
def joinOpt : Option (GoError κ) → Option (GoError κ) → Option (GoError κ)
  | none, e => e
  | some e, none => some e
  | some e, some e' => some (join e e')

end GoError
