import Mathlib.Data.List.DropRight
import NordVPN.Lib.Decimal
import NordVPN.Lib.Runs
import NordVPN.Lib.Words

/-!
Insertion by priority (`daemon/firewall/iptables_manager/iptables_manager.go`).

The line of a new rule is looked for in what `iptables -L` prints. A rule of the same priority is
told by its comment being a part of the text, so that the comment of priority 1 is found in the
line of priority 10 as well, and the new rule is inserted above it.

Commands succeed, except that a line which is not there cannot be deleted. The printed text is given
by its lines; the last one is empty.
-/

namespace NordVPN.IptablesManager

/-! ### The text of a line -/

/-- `RulePriority`, an `int` that is not negative. -/
abbrev RulePriority := Fin (2 ^ 63)

/-- What the comments of all rules begin with. -/
def tag : List Char := ['n', 'o', 'r', 'd', 'v', 'p', 'n', '-']

/-- `toComment`. -/
def toComment (priority : RulePriority) : List Char := tag ++ Nat.toDigits 10 priority

/-- The digits that `nordvpn-(\d+)` captures at the beginning of a text. -/
def submatchAt (s : List Char) : Option (List Char) :=
  if tag.isPrefixOf s then
    let digits := (s.drop tag.length).takeWhile Char.isDigit
    if digits.isEmpty then none else some digits
  else none

/-- `nordvpnCommentPattern.FindStringSubmatch`: the digits of the leftmost match. -/
def findStringSubmatch : List Char → Option (List Char)
  | [] => none
  | c :: s => (submatchAt (c :: s)).or (findStringSubmatch s)

theorem submatchAt_append {a : Char} (htag : a ∉ tag) (hdigit : a.isDigit = false)
    (xs ys : List Char) : submatchAt (xs ++ a :: ys) = submatchAt xs := by
  have hstarts : tag.isPrefixOf (xs ++ a :: ys) = tag.isPrefixOf xs := by
    rw [Bool.eq_iff_iff, List.isPrefixOf_iff_prefix, List.isPrefixOf_iff_prefix]
    exact Words.prefix_append_cons_iff htag
  unfold submatchAt
  rw [hstarts]
  split
  · rename_i htrue
    obtain ⟨rest, rfl⟩ := List.isPrefixOf_iff_prefix.mp htrue
    have hstop : (rest ++ a :: ys).takeWhile Char.isDigit = rest.takeWhile Char.isDigit := by
      rw [List.takeWhile_append]
      split
      · rename_i hall
        rw [List.takeWhile_cons_of_neg (by simp [hdigit]), List.append_nil,
          (List.takeWhile_prefix _).eq_of_length hall]
      · rfl
    rw [List.append_assoc, List.drop_left, List.drop_left, hstop]
  · rfl

/-- No match reaches across a blank. -/
theorem find_append_blank (xs ys : List Char) :
    findStringSubmatch (xs ++ ' ' :: ys) =
      (findStringSubmatch xs).or (findStringSubmatch ys) := by
  have hat (xs : List Char) : submatchAt (xs ++ ' ' :: ys) = submatchAt xs :=
    submatchAt_append (by decide) (by decide) xs ys
  induction xs with
  | nil =>
    have hnone := hat []
    rw [List.nil_append] at hnone ⊢
    conv_lhs => rw [findStringSubmatch, hnone]
    rfl
  | cons c xs ih =>
    have hc := hat (c :: xs)
    rw [List.cons_append] at hc ⊢
    rw [findStringSubmatch, hc, ih, findStringSubmatch, Option.or_assoc]

/-- The digits of a comment, which another text follows. -/
theorem submatchAt_comment (priority : RulePriority) (rest : List Char) :
    submatchAt (toComment priority ++ rest) =
      some (Nat.toDigits 10 priority ++ rest.takeWhile Char.isDigit) := by
  have hdigits : ∀ d ∈ Nat.toDigits 10 priority, d.isDigit = true := fun _ hd =>
    Nat.isDigit_of_mem_toDigits (by decide) (Nat.le_refl 10) hd
  unfold submatchAt toComment
  rw [List.append_assoc, if_pos (List.isPrefixOf_iff_prefix.mpr (List.prefix_append _ _)),
    List.drop_left, List.takeWhile_append_of_pos hdigits]
  simp [Nat.toDigits_ne_nil]

theorem find_comment (priority : RulePriority) :
    findStringSubmatch (toComment priority) = some (Nat.toDigits 10 priority) := by
  have hat := submatchAt_comment priority []
  rw [List.append_nil, List.takeWhile_nil, List.append_nil] at hat
  have hcons : toComment priority = 'n' :: (tag.tail ++ Nat.toDigits 10 priority) := rfl
  rw [hcons, findStringSubmatch, ← hcons, hat]
  rfl

/-- A text without a match contains no comment. -/
theorem find_of_infix {priority : RulePriority} {s : List Char} (h : toComment priority <:+: s) :
    findStringSubmatch s ≠ none := by
  induction s with
  | nil =>
    rw [List.infix_nil] at h
    cases h
  | cons c s ih =>
    rw [findStringSubmatch, Ne, Option.or_eq_none_iff]
    rintro ⟨hat, hrest⟩
    rcases List.infix_cons_iff.mp h with h | h
    · obtain ⟨rest, heq⟩ := h
      rw [← heq, submatchAt_comment] at hat
      cases hat
    · exact ih h hrest

variable {p : RulePriority}

/-- A comment is a part of another one if its digits are the first ones of the other. -/
theorem comment_infix_iff {q : RulePriority} :
    toComment p <:+: toComment q ↔ Nat.toDigits 10 p <+: Nat.toDigits 10 q := by
  have hn : ¬ toComment p <:+: Nat.toDigits 10 q := by
    intro h
    exact Decimal.notMem_toDigits (c := 'n') (by decide) q (h.subset List.mem_cons_self)
  unfold toComment tag at hn ⊢
  simp [List.infix_cons_iff, List.cons_prefix_cons] at hn ⊢
  exact fun h => absurd h hn

/-! ### Chains -/

/-- A line of a chain: one of ours, with the parameters of its rule, or another one, which has no
comment that looks like ours. -/
inductive Line where
  | nordvpn (params : String) (priority : RulePriority)
  | foreign (text : List Char) (clean : findStringSubmatch text = none)
deriving DecidableEq

/-- How `iptables -L` prints a rule: the comment stands between blanks, and neither text beside it
looks like a comment of ours. -/
structure Printer where
  chainName : List Char
  fieldNames : List Char
  before : String → List Char
  after : String → List Char
  before_clean : ∀ params, findStringSubmatch (before params) = none
  after_clean : ∀ params, findStringSubmatch (after params) = none

namespace Line

def isForeign : Line → Bool
  | nordvpn _ _ => false
  | foreign _ _ => true

def priority : Line → Option RulePriority
  | nordvpn _ priority => some priority
  | foreign _ _ => none

def text (pr : Printer) : Line → List Char
  | nordvpn params priority =>
    pr.before params ++ ' ' :: (toComment priority ++ ' ' :: pr.after params)
  | foreign text _ => text

theorem isForeign_eq (line : Line) : line.isForeign = line.priority.isNone := by
  cases line <;> rfl

theorem find_text (pr : Printer) (line : Line) :
    findStringSubmatch (line.text pr) =
      line.priority.map fun q : RulePriority => Nat.toDigits 10 q := by
  cases line with
  | foreign text clean => exact clean
  | nordvpn params q =>
    rw [text, find_append_blank, find_append_blank, pr.before_clean, pr.after_clean, find_comment]
    rfl

/-- The test for the same priority. -/
theorem occurs_text {pr : Printer} {line : Line} :
    Words.occurs (toComment p) (line.text pr) = true ↔
      ∃ q, line.priority = some q ∧ Nat.toDigits 10 p <+: Nat.toDigits 10 q := by
  have hclean {s : List Char} (h : findStringSubmatch s = none) : ¬ toComment p <:+: s :=
    fun hinfix => find_of_infix hinfix h
  rw [Words.occurs_iff]
  cases line with
  | foreign text clean => exact iff_of_false (hclean clean) fun ⟨_, h, _⟩ => by cases h
  | nordvpn params q =>
    have hblank : ' ' ∉ toComment p := by
      unfold toComment
      rw [List.mem_append, not_or]
      exact ⟨by decide, Decimal.notMem_toDigits (by decide) p⟩
    have hne : toComment p ≠ [] := List.cons_ne_nil _ _
    rw [text, Words.infix_append_cons_iff hblank hne, Words.infix_append_cons_iff hblank hne,
      comment_infix_iff]
    simp [hclean (pr.before_clean params), hclean (pr.after_clean params), priority]

end Line

/-! ### The line of a rule -/

inductive Error where
  /-- expected at least two lines -/
  | invalidOutput
  | convertingPriority
  /-- what `iptables` answers to a line that is not there -/
  | badRule
deriving DecidableEq, Repr

/-- The number of the last line with a comment of ours, and 0 if there is none. -/
def lastNordvpnRuleLine (outputLines : List (List Char)) : Nat :=
  outputLines.zipIdx.foldl (fun last line =>
    if (findStringSubmatch line.1).isSome then line.2 + 1 else last) 0

/-- The loop that looks for the next lowest priority, from a line on. -/
def nextLowest (priority : RulePriority) (lastNordvpnRuleLine : Nat) :
    Nat → List (List Char) → Except Error Nat
  | _, [] => .ok (lastNordvpnRuleLine + 1)
  | lineIndex, line :: rest =>
    if Words.occurs (toComment priority) line then .ok (lineIndex + 1)
    else match findStringSubmatch line with
      | none => nextLowest priority lastNordvpnRuleLine (lineIndex + 1) rest
      | some digits => match Decimal.atoi digits with
        | none => .error .convertingPriority
        | some rulePriority =>
          if rulePriority < priority.val then .ok (lineIndex + 1)
          else nextLowest priority lastNordvpnRuleLine (lineIndex + 1) rest

/-- `getRuleLine`, of the lines printed. -/
def getRuleLine (output : List (List Char)) (priority : RulePriority) : Except Error Nat :=
  if output.length < 2 then .error .invalidOutput
  else
    let outputLines := output.drop 2
    if outputLines.isEmpty then .ok 1
    else
      let last := lastNordvpnRuleLine outputLines
      if last = 0 then .ok 1 else nextLowest priority last 0 (outputLines.take last)

/-- The output for a chain. -/
def Printer.list (pr : Printer) (lines : List Line) : List (List Char) :=
  pr.chainName :: pr.fieldNames :: (lines.map (Line.text pr) ++ [[]])

/-- The search for a priority ends above the line. -/
def Line.Stops (p : RulePriority) (line : Line) : Prop :=
  ∃ q, line.priority = some q ∧ (Nat.toDigits 10 p <+: Nat.toDigits 10 q ∨ q < p)

instance (p : RulePriority) (line : Line) : Decidable (line.Stops p) :=
  match h : line.priority with
  | none => isFalse fun ⟨_, hq, _⟩ => by simp [h] at hq
  | some q =>
    decidable_of_iff (Nat.toDigits 10 p <+: Nat.toDigits 10 q ∨ q < p) (by simp [Line.Stops, h])

/-- The part of a chain above a new line. -/
def above (p : RulePriority) (lines : List Line) : List Line :=
  lines.takeWhile fun line => !decide (line.Stops p)

/-- The part from the line on where the search ends. -/
def below (p : RulePriority) (lines : List Line) : List Line :=
  lines.dropWhile fun line => !decide (line.Stops p)

theorem above_append_below (p : RulePriority) (lines : List Line) :
    above p lines ++ below p lines = lines := List.takeWhile_append_dropWhile

variable {lines old new : List Line} {pr : Printer}

theorem above_cons_of_stops {line : Line} (h : line.Stops p) : above p (line :: lines) = [] :=
  List.takeWhile_cons_of_neg (by simpa using h)

theorem above_cons {line : Line} (h : ¬ line.Stops p) :
    above p (line :: lines) = line :: above p lines :=
  List.takeWhile_cons_of_pos (by simpa using h)

theorem nextLowest_eq (pr : Printer) (p : RulePriority) {last i : Nat}
    (hlast : last = i + lines.length) :
    nextLowest p last i (lines.map (Line.text pr)) = .ok (i + (above p lines).length + 1) := by
  induction lines generalizing i with
  | nil =>
    rw [hlast]
    rfl
  | cons line lines ih =>
    rw [List.length_cons] at hlast
    have hrest : nextLowest p last (i + 1) (lines.map (Line.text pr)) =
        .ok (i + (above p lines).length + 1 + 1) := by
      rw [ih (by omega), Nat.add_right_comm i]
    rw [List.map_cons, nextLowest]
    by_cases hocc : Words.occurs (toComment p) (line.text pr) = true
    · obtain ⟨q, hq, hdigits⟩ := Line.occurs_text.mp hocc
      rw [if_pos hocc, above_cons_of_stops ⟨q, hq, .inl hdigits⟩]
      rfl
    rw [if_neg hocc, Line.find_text]
    cases hq : line.priority with
    | none =>
      have hgoes : ¬ line.Stops p := by
        rintro ⟨q, hq', -⟩
        rw [hq] at hq'
        cases hq'
      rw [above_cons hgoes]
      exact hrest
    | some q =>
      have hatoi : Decimal.atoi (Nat.toDigits 10 q) = some (q.val : Int) := by
        have hfits : q.val < 9223372036854775808 := q.isLt
        rw [Decimal.atoi_toDigits, if_pos hfits]
      simp only [Option.map_some, hatoi]
      by_cases hlt : q < p
      · rw [if_pos (Int.ofNat_lt.mpr hlt), above_cons_of_stops ⟨q, hq, .inr hlt⟩]
        rfl
      · have hgoes : ¬ line.Stops p := by
          rintro ⟨q', hq', hstops⟩
          obtain rfl : q = q' := Option.some.inj (hq.symm.trans hq')
          rcases hstops with hdigits | hlt'
          · exact hocc (Line.occurs_text.mpr ⟨q, hq, hdigits⟩)
          · exact hlt hlt'
        rw [if_neg fun h => hlt (Int.ofNat_lt.mp h), above_cons hgoes]
        exact hrest

/-- The lines down to the last one of ours. -/
def upper (lines : List Line) : List Line := lines.rdropWhile Line.isForeign

/-- The foreign lines beneath them. -/
def lower (lines : List Line) : List Line := lines.rtakeWhile Line.isForeign

theorem upper_append_lower (lines : List Line) : upper lines ++ lower lines = lines :=
  List.rdropWhile_append_rtakeWhile

theorem lastNordvpnRuleLine_eq (pr : Printer) (lines : List Line) :
    lastNordvpnRuleLine (lines.map (Line.text pr)) = (upper lines).length := by
  induction lines using List.reverseRecOn with
  | nil => rfl
  | append_singleton lines line ih =>
    have hfind : (findStringSubmatch (line.text pr)).isSome = !line.isForeign := by
      rw [Line.find_text, Option.isSome_map, Line.isForeign_eq, Option.not_isNone]
    rw [lastNordvpnRuleLine, List.map_append, List.zipIdx_append, List.foldl_append,
      ← lastNordvpnRuleLine, ih, upper, upper, List.rdropWhile_concat]
    cases h : line.isForeign <;> simp [hfind, h]

theorem getRuleLine_eq (pr : Printer) (p : RulePriority) (lines : List Line) :
    getRuleLine (pr.list lines) p = .ok ((above p (upper lines)).length + 1) := by
  have hend : lastNordvpnRuleLine (lines.map (Line.text pr) ++ [[]]) = (upper lines).length := by
    rw [← lastNordvpnRuleLine_eq pr, lastNordvpnRuleLine, List.zipIdx_append, List.foldl_append]
    simp [findStringSubmatch, lastNordvpnRuleLine]
  have htake : (lines.map (Line.text pr) ++ [[]]).take (upper lines).length =
      (upper lines).map (Line.text pr) := by
    have hprefix : (upper lines).map (Line.text pr) <+: lines.map (Line.text pr) ++ [[]] :=
      ((List.rdropWhile_prefix _ _).map _).trans (List.prefix_append _ _)
    rw [List.prefix_iff_eq_take.mp hprefix, List.length_map]
  unfold getRuleLine Printer.list
  rw [if_neg (by simp), List.drop_succ_cons, List.drop_succ_cons, List.drop_zero,
    if_neg (by simp), hend]
  dsimp only
  rw [htake]
  split
  · rename_i hnone
    rw [List.length_eq_zero_iff.mp hnone]
    rfl
  · rw [nextLowest_eq pr p (Nat.zero_add _).symm, Nat.zero_add]

/-! ### Calls -/

/-- `IpVersion`. -/
inductive IpVersion where
  | ipv4 | ipv6 | both
deriving DecidableEq, Repr

/-- `iptablesChain`. -/
inductive IptablesChain where
  | input | output
deriving DecidableEq, Repr

/-- `iptablesCommand` and `ip6tablesCommand`. -/
inductive Command where
  | iptables | ip6tables
deriving DecidableEq, Repr

/-- `FwRule`. -/
structure FwRule where
  chain : IptablesChain
  version : IpVersion
  params : String
  priority : RulePriority

def FwRule.line (rule : FwRule) : Line := .nordvpn rule.params rule.priority

/-- The commands for a rule on its chain: `-I` at the line of its priority, or `-D` of the first
equal line. -/
def runCommand (pr : Printer) (insert : Bool) (rule : FwRule) (lines : List Line) :
    Except Error (List Line) :=
  if insert then
    match getRuleLine (pr.list lines) rule.priority with
    | .error e => .error e
    | .ok index =>
      if index ≤ lines.length + 1 then .ok (lines.insertIdx (index - 1) rule.line)
      else .error .badRule
  else if rule.line ∈ lines then .ok (lines.erase rule.line)
  else .error .badRule

/-- The chains, by command. -/
abbrev Tables := Command → IptablesChain → List Line

def Tables.run (t : Tables) (pr : Printer) (insert : Bool) (rule : FwRule) (command : Command) :
    Except Error Tables :=
  (runCommand pr insert rule (t command rule.chain)).map fun lines c chain =>
    if c = command ∧ chain = rule.chain then lines else t c chain

/-- `IPTablesManager`. -/
structure IPTablesManager where
  ip6tablesSupported : Bool
  enabled : Bool

/-- `executeCommand`. -/
def executeCommand (i : IPTablesManager) (pr : Printer) (insert : Bool) (rule : FwRule)
    (t : Tables) : Tables × Option Error :=
  if !i.enabled then (t, none)
  else
    match if rule.version = .ipv6 then .ok t else t.run pr insert rule .iptables with
    | .error e => (t, some e)
    | .ok t =>
      if rule.version = .ipv4 || !i.ip6tablesSupported then (t, none)
      else match t.run pr insert rule .ip6tables with
        | .error e => (t, some e)
        | .ok t => (t, none)

inductive Call where
  | insertRule (rule : FwRule)
  | deleteRule (rule : FwRule)

/-- `InsertRule` and `DeleteRule`. -/
def Tables.step (i : IPTablesManager) (pr : Printer) (t : Tables) : Call → Tables
  | .insertRule rule => (executeCommand i pr true rule t).1
  | .deleteRule rule => (executeCommand i pr false rule t).1

variable {rule : FwRule}

theorem run_cases {t t' : Tables} {insert : Bool} {command : Command}
    (h : t.run pr insert rule command = .ok t') :
    ∃ lines, runCommand pr insert rule (t command rule.chain) = .ok lines ∧
      t' = fun c chain => if c = command ∧ chain = rule.chain then lines else t c chain := by
  unfold Tables.run at h
  cases hrun : runCommand pr insert rule (t command rule.chain) with
  | error e =>
    rw [hrun] at h
    cases h
  | ok lines =>
    rw [hrun] at h
    exact ⟨lines, rfl, (Except.ok.inj h).symm⟩

/-- A call changes a chain by the command for the rule, or not at all. -/
theorem executeCommand_cases (i : IPTablesManager) (pr : Printer) (insert : Bool) (rule : FwRule)
    (t : Tables) (c : Command) (chain : IptablesChain) :
    (executeCommand i pr insert rule t).1 c chain = t c chain ∨
      chain = rule.chain ∧ runCommand pr insert rule (t c chain) =
        .ok ((executeCommand i pr insert rule t).1 c chain) := by
  unfold executeCommand
  split
  · exact .inl rfl
  cases hfirst : (if rule.version = .ipv6 then .ok t else t.run pr insert rule .iptables) with
  | error e => exact .inl rfl
  | ok t₁ =>
    have hother : t₁ .ip6tables = t .ip6tables := by
      split at hfirst
      · rw [Except.ok.inj hfirst]
      · obtain ⟨lines, -, rfl⟩ := run_cases hfirst
        simp
    have hone : t₁ c chain = t c chain ∨
        chain = rule.chain ∧ runCommand pr insert rule (t c chain) = .ok (t₁ c chain) := by
      split at hfirst
      · exact .inl (by rw [Except.ok.inj hfirst])
      · obtain ⟨lines, hrun, rfl⟩ := run_cases hfirst
        by_cases hc : c = .iptables ∧ chain = rule.chain
        · obtain ⟨rfl, rfl⟩ := hc
          simp [hrun]
        · simp [hc]
    dsimp only
    split
    · exact hone
    cases hsecond : t₁.run pr insert rule .ip6tables with
    | error e => exact hone
    | ok t₂ =>
      obtain ⟨lines, hrun, rfl⟩ := run_cases hsecond
      by_cases hc : c = .ip6tables ∧ chain = rule.chain
      · obtain ⟨rfl, rfl⟩ := hc
        simp [← hother, hrun]
      · simpa [hc] using hone

/-! ### Runs -/

/-- The lines of ours, in the order of their priorities. -/
def Sorted (lines : List Line) : Prop := (lines.filterMap Line.priority).Pairwise (· ≥ ·)

/-- The new line is below a foreign one only if one of ours was beneath that. -/
def Placed (line : Line) (old new : List Line) : Prop :=
  ∃ top bottom, old = top ++ bottom ∧ new = top ++ line :: bottom ∧
    ∀ first foreign rest, top = first ++ foreign :: rest → foreign.isForeign = true →
      ∃ own ∈ rest ++ bottom, own.isForeign = false

/-- The digits of a new priority are not the first ones of another priority in the chain. -/
def Clear (p : RulePriority) (lines : List Line) : Prop :=
  ∀ line ∈ lines, ∀ q, line.priority = some q → Nat.toDigits 10 p <+: Nat.toDigits 10 q → q = p

/-- The condition on a call. -/
def Tables.Distinct (t : Tables) : Call → Prop
  | .insertRule rule => ∀ c, Clear rule.priority (t c rule.chain)
  | .deleteRule _ => True

theorem insertIdx_length_append {α : Type} (xs ys : List α) (a : α) :
    (xs ++ ys).insertIdx xs.length a = xs ++ a :: ys := by
  induction xs with
  | nil => rfl
  | cons x xs ih => exact congrArg (x :: ·) ih

/-- An insertion splits the chain where the search ends. -/
theorem runInsert_cases (h : runCommand pr true rule old = .ok new) :
    new = above rule.priority (upper old) ++
      rule.line :: (below rule.priority (upper old) ++ lower old) := by
  rw [runCommand, if_pos rfl, getRuleLine_eq] at h
  dsimp only at h
  split at h
  · rw [← Except.ok.inj h, Nat.add_sub_cancel, ← insertIdx_length_append, ← List.append_assoc,
      above_append_below, upper_append_lower]
  · cases h

theorem sorted_insert (h : runCommand pr true rule old = .ok new) (hclear : Clear rule.priority old)
    (hsorted : Sorted old) : Sorted new := by
  obtain rfl := runInsert_cases h
  have hsplit := above_append_below rule.priority (upper old)
  have hall := upper_append_lower old
  have hnone : (lower old).filterMap Line.priority = [] := by
    refine List.filterMap_eq_nil_iff.mpr fun line hline => Option.isNone_iff_eq_none.mp ?_
    rw [← Line.isForeign_eq]
    exact List.mem_rtakeWhile_imp hline
  unfold Sorted at hsorted ⊢
  rw [← hall, List.filterMap_append, hnone, List.append_nil, ← hsplit, List.filterMap_append,
    List.pairwise_append] at hsorted
  obtain ⟨htop, hbottom, hcross⟩ := hsorted
  have habove : ∀ q ∈ (above rule.priority (upper old)).filterMap Line.priority,
      q ≥ rule.priority := by
    intro q hq
    obtain ⟨line, hline, hpriority⟩ := List.mem_filterMap.mp hq
    have hgoes : ¬ line.Stops rule.priority := by simpa using List.mem_takeWhile_imp hline
    exact Fin.not_lt.mp fun hlt => hgoes ⟨q, hpriority, .inr hlt⟩
  -- the search ends at a line of the same or a lower priority, and the rest is no higher
  have hbelow : ∀ q ∈ (below rule.priority (upper old)).filterMap Line.priority,
      rule.priority ≥ q := by
    cases hrest : below rule.priority (upper old) with
    | nil => simp
    | cons head rest =>
      have hstops : head.Stops rule.priority := by
        have hhead := List.head?_dropWhile_not
          (fun line : Line => !decide (line.Stops rule.priority)) (upper old)
        rw [← below, hrest] at hhead
        simpa using hhead
      obtain ⟨q₀, hq₀, hor⟩ := hstops
      have hmem : head ∈ old := by
        rw [← hall, ← hsplit, hrest]
        simp
      have hle : q₀ ≤ rule.priority := by
        rcases hor with hdigits | hlt
        · exact Fin.le_of_eq (hclear head hmem q₀ hq₀ hdigits)
        · exact Fin.le_of_lt hlt
      rw [hrest, List.filterMap_cons_some hq₀, List.pairwise_cons] at hbottom
      rw [List.filterMap_cons_some hq₀]
      intro q hq
      rcases List.mem_cons.mp hq with rfl | hq
      · exact hle
      · exact Fin.le_trans (hbottom.1 q hq) hle
  have hown : rule.line.priority = some rule.priority := rfl
  rw [List.filterMap_append, List.filterMap_cons_some hown, List.filterMap_append, hnone,
    List.append_nil, List.pairwise_append, List.pairwise_cons]
  refine ⟨htop, ⟨hbelow, hbottom⟩, ?_⟩
  intro q hq q' hq'
  rcases List.mem_cons.mp hq' with rfl | hq'
  · exact habove q hq
  · exact hcross q hq q' hq'

theorem placed_insert (h : runCommand pr true rule old = .ok new) : Placed rule.line old new := by
  obtain rfl := runInsert_cases h
  refine ⟨_, _, ?_, rfl, ?_⟩
  · rw [← List.append_assoc, above_append_below, upper_append_lower]
  · intro first foreign rest htop hforeign
    -- the last line of the upper part is ours, so it is beneath the foreign one
    have hall : upper old = first ++ foreign :: (rest ++ below rule.priority (upper old)) := by
      rw [← List.cons_append, ← List.append_assoc, ← htop, above_append_below]
    have hlast {others : List Line} {line : Line} (h : upper old = others ++ [line]) :
        line.isForeign = false := by
      have hne : upper old ≠ [] := by simp [h]
      have heq : (upper old).getLast hne = line := by simp [h]
      exact Bool.eq_false_iff.mpr (heq ▸ List.rdropWhile_last_not Line.isForeign old hne)
    generalize below rule.priority (upper old) = bottom at hall ⊢
    rcases List.eq_nil_or_concat' (rest ++ bottom) with hnil | ⟨others, last, hend⟩
    · rw [hnil] at hall
      exact absurd hforeign (Bool.eq_false_iff.mp (hlast hall))
    · rw [hend, ← List.cons_append, ← List.append_assoc] at hall
      refine ⟨last, ?_, hlast hall⟩
      rw [← List.append_assoc, hend]
      simp

/-- What every run keeps of a chain. -/
structure Kept (initial lines : List Line) : Prop where
  sorted : Sorted lines
  foreign : lines.filter Line.isForeign = initial.filter Line.isForeign

theorem kept_insert {initial : List Line} (h : runCommand pr true rule old = .ok new)
    (hclear : Clear rule.priority old)
    (hkept : Kept initial old) : Kept initial new := by
  obtain ⟨top, bottom, hold, hnew, -⟩ := placed_insert h
  refine ⟨sorted_insert h hclear hkept.sorted, ?_⟩
  rw [← hkept.foreign, hold, hnew, List.filter_append, List.filter_append]
  rfl

theorem kept_delete {initial : List Line} (h : runCommand pr false rule old = .ok new)
    (hkept : Kept initial old) : Kept initial new := by
  rw [runCommand, if_neg Bool.false_ne_true] at h
  split at h
  · rw [← Except.ok.inj h]
    refine ⟨hkept.sorted.sublist (List.erase_sublist.filterMap _), ?_⟩
    rw [← hkept.foreign, ← List.erase_filter, List.erase_of_not_mem]
    intro hmem
    cases (List.mem_filter.mp hmem).2
  · cases h

theorem kept_executeCommand {i : IPTablesManager} {t₀ t : Tables} {insert : Bool}
    (hkept : ∀ c chain, Kept (t₀ c chain) (t c chain))
    (hclear : insert = true → ∀ c, Clear rule.priority (t c rule.chain)) (c : Command)
    (chain : IptablesChain) :
    Kept (t₀ c chain) ((executeCommand i pr insert rule t).1 c chain) := by
  rcases executeCommand_cases i pr insert rule t c chain with hsame | ⟨rfl, hrun⟩
  · exact hsame.symm ▸ hkept c chain
  · cases insert with
    | true => exact kept_insert hrun (hclear rfl c) (hkept c _)
    | false => exact kept_delete hrun (hkept c _)

theorem kept_step {i : IPTablesManager} {t₀ t : Tables} {call : Call}
    (hkept : ∀ c chain, Kept (t₀ c chain) (t c chain)) (hdistinct : t.Distinct call) :
    ∀ c chain, Kept (t₀ c chain) (t.step i pr call c chain) := by
  cases call with
  | insertRule rule => exact kept_executeCommand hkept fun _ => hdistinct
  | deleteRule rule => exact kept_executeCommand hkept fun h => by cases h

/-- Where no priority that is inserted has the first digits of another one in the chain, our lines
stay in the order of their priorities and the foreign ones as they were. No insertion is below a
foreign line that had none of ours beneath. -/
theorem chains_stay_sorted {i : IPTablesManager} {pr : Printer} {t₀ t : Tables}
    (hsorted : ∀ c chain, Sorted (t₀ c chain))
    (h : Reaches (Tables.step i pr) Tables.Distinct t₀ t) :
    (∀ c chain, Kept (t₀ c chain) (t c chain)) ∧
    ∀ rule c chain, t.step i pr (.insertRule rule) c chain = t c chain ∨
      Placed rule.line (t c chain) (t.step i pr (.insertRule rule) c chain) := by
  have hkept : ∀ c chain, Kept (t₀ c chain) (t c chain) :=
    h.invariant (I := fun t => ∀ c chain, Kept (t₀ c chain) (t c chain))
      (fun c chain => ⟨hsorted c chain, rfl⟩) fun _ _ => kept_step
  refine ⟨hkept, ?_⟩
  intro rule c chain
  exact (executeCommand_cases i pr true rule t c chain).imp_right fun hrun => placed_insert hrun.2

/-- Only the comments are printed. -/
def comments : Printer where
  chainName := []
  fieldNames := []
  before _ := []
  after _ := []
  before_clean _ := rfl
  after_clean _ := rfl

/-- The insertion of a rule for incoming packets. -/
def inserted (priority : RulePriority) : Call :=
  .insertRule { chain := .input, version := .ipv4, params := "-j DROP", priority }

/-- The chain of incoming packets after insertions into an empty one, the latest first. -/
def inputAfter (priorities : List RulePriority) : List Line :=
  runAll (Tables.step { ip6tablesSupported := true, enabled := true } comments) (fun _ _ => [])
    (priorities.map inserted) .iptables .input

theorem five_above_two : Kept [] (inputAfter [5, 2]) := by
  have hone (c : Command) : Clear 5 (runAll (Tables.step ⟨true, true⟩ comments) (fun _ _ => [])
      [inserted 2] c .input) := by
    intro line hline q hq hdigits
    cases c with
    | ip6tables => cases hline
    | iptables =>
      have hlines : runAll (Tables.step ⟨true, true⟩ comments) (fun _ _ => []) [inserted 2]
        .iptables .input = [.nordvpn "-j DROP" 2] := by decide
      rw [hlines, List.mem_singleton] at hline
      obtain rfl : (2 : RulePriority) = q := by simpa [hline, Line.priority] using hq
      exact absurd hdigits (by decide)
  have hmeet : AllMeet (Tables.step ⟨true, true⟩ comments) Tables.Distinct (fun _ _ => [])
      [inserted 5, inserted 2] := by
    refine ⟨⟨trivial, ?_⟩, hone⟩
    intro c line hline
    cases hline
  have hnil (c : Command) (chain : IptablesChain) : Sorted ((fun _ _ => [] : Tables) c chain) :=
    List.Pairwise.nil
  exact (chains_stay_sorted hnil (reaches_runAll hmeet)).1 .iptables .input

/-- A rule of priority 1 is inserted above one of priority 10. -/
theorem one_above_ten :
    (inputAfter [1, 10]).filterMap Line.priority = [1, 10] ∧ ¬ Sorted (inputAfter [1, 10]) := by
  have hlines : (inputAfter [1, 10]).filterMap Line.priority = [1, 10] := by decide
  refine ⟨hlines, ?_⟩
  unfold Sorted
  rw [hlines]
  decide

end NordVPN.IptablesManager
