import NordVPN.Lib.FirstMatch
import NordVPN.Firewall.Agents
import NordVPN.Firewall.Iptables

/-!
The chains of the kernel under the iptables agent (`applyRule` of
`daemon/firewall/iptables/iptables.go`).

A line goes on top of its chain, and a line is deleted by its text: the first equal line
goes. The names of the rules are not part of the lines. Where two rules have a line in
common the wrong copy can be deleted, and then the chain is no longer in the order of the
memory.

`PortsToPortRanges` sorts the ports of the rule it is given in place; the lines do not
depend on their order.
-/

namespace NordVPN

open Prog

/-! ### The agent -/

/-- `iptables.IPTables`. -/
structure IPTables where
  stateModule : String
  stateFlag : String
  chainPrefix : String
  supportedIPTables : List IPTable

/-- The name of the command. -/
def IPTable.command : IPTable → String
  | .ipv4 => "iptables"
  | .ipv6 => "ip6tables"

/-- The lines of each chain of each table, from the top. -/
abbrev Chains := IPTable → String → List String

/-- The chain a line belongs to: its first word. -/
def chainOf (line : String) : String := (Words.split line).headD ""

namespace Chains

/-- `-I`. -/
def insert (table : IPTable) (line : String) (k : Chains) : Chains := fun t c =>
  if table = t ∧ chainOf line = c then line :: k t c else k t c

/-- `-D`: the first equal line. -/
def remove (table : IPTable) (line : String) (k : Chains) : Chains := fun t c =>
  if table = t ∧ chainOf line = c then (k t c).erase line else k t c

end Chains

/-- What became of a command; `noMatch` is the complaint of `-D` about a line that is not
there. -/
inductive CommandOutcome where
  | done | noMatch | failed
deriving DecidableEq, Repr

/-- `fails op table line`: the command cannot be run. -/
structure CommandEnv where
  fails : AgentOp → IPTable → String → Bool

abbrev Ipt := Prog CommandEnv Chains Error

/-- `exec.Command(iptableVersion, …)` with `-I` or `-D`. -/
def execute (op : AgentOp) (table : IPTable) (line : String) : Ipt CommandOutcome := do
  let r ← Prog.env
  let k ← Prog.state
  if r.fails op table line then pure .failed
  else match op with
    | .add => do
      Prog.update (Chains.insert table line)
      pure .done
    | .delete =>
      if line ∈ k table (chainOf line) then do
        Prog.update (Chains.remove table line)
        pure .done
      else pure .noMatch

def AgentOp.doing : AgentOp → String
  | .add => "adding"
  | .delete => "deleting"

/-- The loops of `applyRule` over tables and lines. A line that is not there ends them
without an error. -/
def applyLines (op : AgentOp) : List (IPTable × String) → Ipt Unit
  | [] => pure ()
  | (table, line) :: rest => do
    match ← execute op table line with
    | .done => applyLines op rest
    | .noMatch => pure ()
    | .failed => Prog.fail (.wrap (op.doing ++ " " ++ table.command ++ " rule '" ++ line ++ "'")
        (.external table.command))

namespace IPTables

/-- `getStateModule`. -/
def getStateModule (ipt : IPTables) (rule : Rule) : String × String :=
  if rule.connectionStates.states.isEmpty then ("", "") else (ipt.stateModule, ipt.stateFlag)

/-- The lines of a rule, table by table. -/
def lines (ipt : IPTables) (rule : Rule) : List (IPTable × String) :=
  ipt.supportedIPTables.flatMap fun table =>
    (ruleToIPTables rule (ipt.getStateModule rule).1 (ipt.getStateModule rule).2 ipt.chainPrefix
      table).map fun line => (table, line)

/-- `applyRule`. -/
def applyRule (ipt : IPTables) (rule : Rule) (op : AgentOp) : Ipt Unit :=
  applyLines op (ipt.lines rule)

end IPTables

/-! ### What the commands do to one chain -/

/-- The lines among them that go to the chain. -/
def linesAt (lines : List (IPTable × String)) (table : IPTable) (chain : String) : List String :=
  (lines.filter fun x => x.1 = table ∧ chainOf x.2 = chain).map Prod.snd

theorem linesAt_cons (t : IPTable) (line : String) (rest : List (IPTable × String))
    (table : IPTable) (chain : String) :
    linesAt ((t, line) :: rest) table chain =
      if t = table ∧ chainOf line = chain then line :: linesAt rest table chain
      else linesAt rest table chain := by
  by_cases h : t = table ∧ chainOf line = chain <;> simp [linesAt, h]

section Commands

/-- Every command can be run. -/
def CommandEnv.Works (r : CommandEnv) : Prop := ∀ op table line, r.fails op table line = false

variable {r : CommandEnv} (hr : r.Works)

include hr

theorem wp_applyLines_add (lines : List (IPTable × String)) (k : Chains) :
    wp (applyLines .add lines) r any (fun x k' => x = .ok () ∧
      ∀ table chain, k' table chain = (linesAt lines table chain).reverse ++ k table chain) k := by
  induction lines generalizing k with
  | nil => exact wp_pure.mpr ⟨rfl, fun _ _ => rfl⟩
  | cons entry rest ih =>
    obtain ⟨t, line⟩ := entry
    simp only [applyLines, execute, wp_bind, wp_env, wp_state, onOk_ok, hr _ _ _,
      Bool.false_eq_true, if_false, wp_update, wp_pure, true_and]
    apply wp_post (ih _)
    intro x k' hk
    refine ⟨hk.1, fun table chain => ?_⟩
    rw [hk.2, linesAt_cons, Chains.insert]
    split <;> simp

/-- Lines that are all there are deleted. -/
theorem wp_applyLines_delete (lines : List (IPTable × String)) (k : Chains)
    (hthere : ∀ table chain, (linesAt lines table chain).Subperm (k table chain)) :
    wp (applyLines .delete lines) r any (fun x k' => x = .ok () ∧
      ∀ table chain, k' table chain = (k table chain).diff (linesAt lines table chain)) k := by
  induction lines generalizing k with
  | nil => exact wp_pure.mpr ⟨rfl, fun _ _ => rfl⟩
  | cons entry rest ih =>
    obtain ⟨t, line⟩ := entry
    have hmem : line ∈ k t (chainOf line) := by
      apply (hthere t (chainOf line)).subset
      rw [linesAt_cons, if_pos ⟨rfl, rfl⟩]
      exact List.mem_cons_self
    simp only [applyLines, execute, wp_bind, wp_env, wp_state, onOk_ok, hr _ _ _,
      Bool.false_eq_true, if_false, if_pos hmem, wp_update, wp_pure, true_and]
    have hrest : ∀ table chain,
        (linesAt rest table chain).Subperm (k.remove t line table chain) := by
      intro table chain
      have h := hthere table chain
      rw [linesAt_cons] at h
      rw [Chains.remove]
      split at h
      · rename_i hsame
        rw [if_pos hsame]
        have herase := h.erase line
        rwa [List.erase_cons_head] at herase
      · rename_i hother
        rwa [if_neg hother]
    apply wp_post (ih _ hrest)
    intro x k' hk
    refine ⟨hk.1, fun table chain => ?_⟩
    rw [hk.2, linesAt_cons, Chains.remove]
    split <;> simp

end Commands

/-! ### Deleting the first equal line -/

section Diff

variable {α : Type} [DecidableEq α] {top lines rest : List α}

/-- The lines on top are a rearrangement of those that are deleted. -/
theorem diff_append_of_perm (h : top.Perm lines) : (top ++ rest).diff lines = rest := by
  induction lines generalizing top with
  | nil => simp [h.eq_nil]
  | cons line lines ih =>
    have hmem : line ∈ top := h.mem_iff.mpr List.mem_cons_self
    rw [List.diff_cons, List.erase_append_left _ hmem]
    apply ih
    have herase := h.erase line
    rwa [List.erase_cons_head] at herase

/-- None of the lines on top is deleted. -/
theorem append_diff_of_disjoint (h : ∀ line ∈ lines, line ∉ top) :
    (top ++ rest).diff lines = top ++ rest.diff lines := by
  induction lines generalizing rest with
  | nil => rfl
  | cons line lines ih =>
    rw [List.forall_mem_cons] at h
    rw [List.diff_cons, List.erase_append_right _ h.1, ih h.2, List.diff_cons]

end Diff

/-! ### The chains after a run -/

namespace IPTables

open Firewall

variable (ipt : IPTables)

/-- The commands all work. -/
def working : CommandEnv := ⟨fun _ _ _ => false⟩

theorem working_works : working.Works := fun _ _ _ => rfl

/-- What a call of the agent does. -/
def apply (op : AgentOp) (rule : Rule) (k : Chains) : Chains :=
  (ipt.applyRule rule op working k).final

/-- The lines a rule has in a chain. -/
def ruleLines (rule : Rule) : IPTable → String → List String := linesAt (ipt.lines rule)

/-- The lines of the rules in a chain, the first rule at the bottom. -/
def canonical (rules : List Rule) (table : IPTable) (chain : String) : List String :=
  (rules.flatMap fun rule => ipt.ruleLines rule table chain).reverse

variable {ipt}

theorem apply_add (rule : Rule) (k : Chains) (table : IPTable) (chain : String) :
    ipt.apply .add rule k table chain =
      (ipt.ruleLines rule table chain).reverse ++ k table chain :=
  (wp_applyLines_add working_works (ipt.lines rule) k).2.2 table chain

theorem apply_delete {rule : Rule} {k : Chains}
    (h : ∀ table chain, (ipt.ruleLines rule table chain).Subperm (k table chain)) (table : IPTable)
    (chain : String) :
    ipt.apply .delete rule k table chain =
      (k table chain).diff (ipt.ruleLines rule table chain) :=
  (wp_applyLines_delete working_works (ipt.lines rule) k h).2.2 table chain

variable {base : Chains}

theorem build_eq (rules : List Rule) (table : IPTable) (chain : String) :
    build ipt.apply base rules table chain =
      ipt.canonical rules table chain ++ base table chain := by
  induction rules using List.reverseRecOn with
  | nil => rfl
  | append_singleton rules rule ih =>
    rw [build_append, apply_add, ih]
    simp [canonical, List.flatMap_append]

theorem canonical_append (rules others : List Rule) (table : IPTable) (chain : String) :
    ipt.canonical (rules ++ others) table chain =
      ipt.canonical others table chain ++ ipt.canonical rules table chain := by
  simp [canonical, List.flatMap_append]

theorem canonical_singleton (rule : Rule) (table : IPTable) (chain : String) :
    ipt.canonical [rule] table chain = (ipt.ruleLines rule table chain).reverse := by
  simp [canonical]

/-- Deleting rules one after the other. -/
theorem foldl_delete {rules : List Rule} {k : Chains}
    (h : ∀ table chain,
      (rules.flatMap fun rule => ipt.ruleLines rule table chain).Subperm (k table chain))
    (table : IPTable) (chain : String) :
    rules.foldl (fun k rule => ipt.apply .delete rule k) k table chain =
      (k table chain).diff (rules.flatMap fun rule => ipt.ruleLines rule table chain) := by
  induction rules generalizing k with
  | nil => rfl
  | cons rule rest ih =>
    simp only [List.flatMap_cons] at h ⊢
    have hrule : ∀ t c, (ipt.ruleLines rule t c).Subperm (k t c) := fun t c =>
      (List.sublist_append_left _ _).subperm.trans (h t c)
    have hdelete := apply_delete hrule
    rw [List.foldl_cons, ih, hdelete, List.diff_append]
    intro t c
    have hrest := (h t c).diff_right (ipt.ruleLines rule t c)
    rwa [diff_append_of_perm (.refl _), ← hdelete] at hrest

/-- Disabling the firewall takes all its lines out, whatever copies go first. -/
theorem clears : Clears ipt.apply base := by
  intro rules
  have hperm : ∀ table chain, (ipt.canonical rules table chain).Perm
      (rules.flatMap fun rule => ipt.ruleLines rule table chain) := fun _ _ => List.reverse_perm _
  funext table chain
  rw [foldl_delete, build_eq, diff_append_of_perm (hperm table chain)]
  intro t c
  rw [build_eq]
  exact (hperm t c).symm.subperm.trans (List.sublist_append_left _ _).subperm

/-- The rules after the first copy of this one. -/
def laterRules (rule : Rule) : List Rule → List Rule
  | [] => []
  | x :: rest => if x = rule then rest else laterRules rule rest

variable (ipt) in
/-- The rule has no line in common with a rule that came after it. -/
def Apart (rules : List Rule) (rule : Rule) : Prop :=
  ∀ later ∈ laterRules rule rules, ∀ line ∈ ipt.lines rule, line ∉ ipt.lines later

theorem exists_earlier {rule : Rule} {rules : List Rule} (h : rule ∈ rules) :
    ∃ earlier, rules = earlier ++ rule :: laterRules rule rules ∧
      rules.erase rule = earlier ++ laterRules rule rules := by
  induction rules with
  | nil => cases h
  | cons x rest ih =>
    by_cases hx : x = rule
    · subst hx
      exact ⟨[], by simp [laterRules], by simp [laterRules]⟩
    · have hmem : rule ∈ rest := (List.mem_cons.mp h).resolve_left (Ne.symm hx)
      obtain ⟨earlier, hrules, herase⟩ := ih hmem
      refine ⟨x :: earlier, ?_, ?_⟩
      · rw [laterRules, if_neg hx, List.cons_append, ← hrules]
      · rw [laterRules, if_neg hx, List.erase_cons_tail (by simpa using hx), herase,
          List.cons_append]

theorem mem_ruleLines {rule : Rule} {table : IPTable} {chain line : String}
    (h : line ∈ ipt.ruleLines rule table chain) : (table, line) ∈ ipt.lines rule := by
  simp only [ruleLines, linesAt, List.mem_map, List.mem_filter, decide_eq_true_eq] at h
  obtain ⟨⟨t, l⟩, ⟨hmem, rfl, -⟩, rfl⟩ := h
  exact hmem

/-- A rule that shares no line with a later one is taken out where it is. -/
theorem removable_of_apart (rules : List Rule) (rule : Rule) (h : rule ∈ rules)
    (hapart : ipt.Apart rules rule) : Removable ipt.apply base rules rule := by
  obtain ⟨earlier, hrules, herase⟩ := exists_earlier h
  rw [Apart] at hapart
  generalize laterRules rule rules = later at hapart hrules herase
  have hbuild : ∀ table chain, build ipt.apply base rules table chain =
      ipt.canonical later table chain ++ ((ipt.ruleLines rule table chain).reverse ++
        (ipt.canonical earlier table chain ++ base table chain)) := by
    intro table chain
    rw [build_eq, hrules, ← List.singleton_append, canonical_append, canonical_append,
      canonical_singleton]
    simp only [List.append_assoc]
  have hdisjoint : ∀ table chain, ∀ line ∈ ipt.ruleLines rule table chain,
      line ∉ ipt.canonical later table chain := by
    intro table chain line hline hin
    rw [canonical, List.mem_reverse, List.mem_flatMap] at hin
    obtain ⟨other, hother, hshared⟩ := hin
    exact hapart other hother _ (mem_ruleLines hline) (mem_ruleLines hshared)
  funext table chain
  rw [apply_delete, hbuild, append_diff_of_disjoint (hdisjoint table chain),
    diff_append_of_perm (List.reverse_perm _), build_eq, herase, canonical_append,
    List.append_assoc]
  intro t c
  rw [hbuild]
  exact (List.reverse_perm _).symm.subperm.trans
    ((List.sublist_append_left _ _).trans (List.sublist_append_right _ _)).subperm

variable (ipt base) in
/-- The chains, `base` being those the agent found. -/
def chains (fw : Firewall) : Chains := replay ipt.apply base .working fw.calls

theorem enabled_disabled_enabled {fw : Firewall} (h : fw.enabled = true) (r : AgentEnv) :
    ((fw.step ⟨.disable, r⟩).step ⟨.enable, r⟩).enabled = true ∧
      ((fw.step ⟨.disable, r⟩).step ⟨.enable, r⟩).rules = fw.rules := by
  have hoff : (fw.step ⟨.disable, r⟩).enabled = false := by
    have hne := (disable_switches (r := r) h).2.1
    rw [h] at hne
    exact Bool.eq_false_iff.mpr hne
  constructor
  · have hne := (enable_switches (r := r) hoff).2.1
    rw [hoff] at hne
    exact Bool.not_eq_false _ ▸ hne
  · exact ((keeps_enable _ _ rfl).2.trans (keeps_disable _ _ rfl).2)

/-- **The chains are those of the memory.** In every run of calls whose agent commands all
work, and which never takes out a rule that shares a line with a later one, every chain is
what adding the rules in memory to an empty chain gives, on top of what was there before the
agent. No packet then sees whether the firewall was disabled and enabled in between. -/
theorem chains_follow_memory (ipt : IPTables) (base : Chains) (enabled : Bool) {fw : Firewall}
    (h : Reaches step (fun fw i => Succeeds i.env ∧ Safe ipt.Apart fw i.op) (newFirewall enabled)
      fw) :
    (fw.enabled = true → ∀ table chain, ipt.chains base fw table chain =
      build ipt.apply (fun _ _ => []) fw.rules.rules table chain ++ base table chain) ∧
    (fw.enabled = false → ipt.chains base fw = base) ∧
    (fw.enabled = true → ∀ r, Succeeds r → ∀ {δ : Type} (f : String → Option δ) (policy : δ) table
      chain, FirstMatch.decision f policy
        (ipt.chains base ((fw.step ⟨.disable, r⟩).step ⟨.enable, r⟩) table chain) =
      FirstMatch.decision f policy (ipt.chains base fw table chain)) := by
  have hstep : InStep ipt.apply base fw := h.invariant (inStep_newFirewall enabled)
    fun fw i hfw hi => inStep_step hi.1 removable_of_apart hfw clears i.op hi.2
  refine ⟨fun hon table chain => ?_, fun hoff => ?_, fun hon r hr δ f policy table chain => ?_⟩
  · rw [chains, hstep.state, if_pos hon, build_eq, build_eq, List.append_nil]
  · rw [chains, hstep.state, hoff, if_neg Bool.false_ne_true]
  · have hagain : InStep ipt.apply base ((fw.step ⟨.disable, r⟩).step ⟨.enable, r⟩) :=
      inStep_step hr removable_of_apart (inStep_step hr removable_of_apart hstep clears .disable
        trivial) clears .enable trivial
    obtain ⟨hon', hrules⟩ := enabled_disabled_enabled hon r
    rw [chains, chains, hagain.state, hstep.state, if_pos hon, if_pos hon', hrules]

/-- An agent with IPv4 only. -/
def onlyIPv4 : IPTables := ⟨"conntrack", "--ctstate", "", [.ipv4]⟩

def allowOne : Rule :=
  { name := "allow", interfaces := [{ name := "eth0" }], direction := .inbound, allow := true }

def blockAll : Rule := { name := "block", direction := .inbound }

/-- Two rules without a common line. -/
def bothAdded : Firewall := (newFirewall true).step ⟨.add [blockAll, allowOne], Firewall.working⟩

/-- The lower one is deleted. -/
def blockDeleted : Firewall := bothAdded.step ⟨.delete ["block"], Firewall.working⟩

/-- The input chain, from the top. -/
def input (fw : Firewall) : List String := onlyIPv4.chains (fun _ _ => []) fw .ipv4 "INPUT"

def allowLine : String := "INPUT -i eth0 -m comment --comment nordvpn -j ACCEPT"

theorem ruleLines_allowOne : onlyIPv4.ruleLines allowOne .ipv4 "INPUT" = [allowLine] := by
  decide

theorem apart_blockAll : onlyIPv4.Apart [blockAll, allowOne] blockAll := by
  have hlines : ∀ line ∈ onlyIPv4.lines blockAll, line ∉ onlyIPv4.lines allowOne := by
    decide
  intro later hlater
  obtain rfl : later = allowOne := List.mem_singleton.mp hlater
  exact hlines

theorem safe_bothAdded : Safe onlyIPv4.Apart bothAdded (.delete ["block"]) := by
  have hmem : bothAdded.rules.rules = [blockAll, allowOne] := rfl
  intro _
  rw [hmem]
  constructor
  · intro rule hrule hname
    rcases List.mem_cons.mp hrule with rfl | hrule
    · exact apart_blockAll
    · obtain rfl := List.mem_singleton.mp hrule
      exact absurd hname (by decide)
  · trivial

theorem safe_newFirewall : Safe onlyIPv4.Apart (newFirewall true) (.add [blockAll, allowOne]) := by
  intro _
  have hmem : (newFirewall true).rules.rules = [] := rfl
  rw [hmem]
  constructor
  · intro old hold
    cases hold
  constructor
  · intro old hold hname
    obtain rfl : old = blockAll := List.mem_singleton.mp hold
    exact absurd hname (by decide)
  · trivial

theorem chains_follow_memory_sample :
    Succeeds Firewall.working ∧ input blockDeleted = [allowLine] := by
  have hrun : Reaches step (fun fw i => Succeeds i.env ∧ Safe onlyIPv4.Apart fw i.op)
      (newFirewall true) blockDeleted :=
    .tail (⟨.delete ["block"], Firewall.working⟩ : Step)
      (.tail (⟨.add [blockAll, allowOne], Firewall.working⟩ : Step) .refl
        ⟨working_succeeds, safe_newFirewall⟩) ⟨working_succeeds, safe_bothAdded⟩
  have hrules : blockDeleted.rules.rules = [allowOne] := rfl
  have hchain := (chains_follow_memory onlyIPv4 (fun _ _ => []) true hrun).1 rfl .ipv4 "INPUT"
  rw [hrules, build_eq, canonical_singleton, ruleLines_allowOne] at hchain
  exact ⟨working_succeeds, hchain⟩

/-! ### A replaced rule that shares a line with its replacement -/

def allowTwo : Rule :=
  { name := "allow", interfaces := [{ name := "eth0" }, { name := "eth1" }],
    direction := .inbound, allow := true }

/-- A rule is added, then one that blocks the rest, and then the first one is widened by an
interface. -/
def widened : Firewall :=
  (((newFirewall true).step ⟨.add [allowOne], Firewall.working⟩).step
    ⟨.add [blockAll], Firewall.working⟩).step ⟨.add [allowTwo], Firewall.working⟩

def otherLine : String := "INPUT -i eth1 -m comment --comment nordvpn -j ACCEPT"

def blockLine : String := "INPUT -m comment --comment nordvpn -j DROP"

theorem ruleLines_blockAll : onlyIPv4.ruleLines blockAll .ipv4 "INPUT" = [blockLine] := by
  decide

theorem ruleLines_allowTwo :
    onlyIPv4.ruleLines allowTwo .ipv4 "INPUT" = [allowLine, otherLine] := by
  decide

/-- What the lines say about a packet that comes in at `eth0`. -/
def fromEth0 (line : String) : Option RuleTarget :=
  if line = allowLine then some .accept else if line = blockLine then some .drop else none

/-- The new copy of the shared line is deleted in place of the old one. -/
theorem input_widened : input widened = [otherLine, blockLine, allowLine] := by
  have hcalls : widened.calls = [⟨.working, .delete, allowOne, true⟩,
    ⟨.working, .add, allowTwo, true⟩, ⟨.working, .add, blockAll, true⟩,
    ⟨.working, .add, allowOne, true⟩] := rfl
  have hchains : onlyIPv4.chains (fun _ _ => []) widened = onlyIPv4.apply .delete allowOne
      (build onlyIPv4.apply (fun _ _ => []) [allowOne, blockAll, allowTwo]) := by
    rw [chains, hcalls]
    simp only [replay, and_self, if_true, build, List.foldl_cons, List.foldl_nil]
  rw [input, hchains, apply_delete, build_eq, canonical]
  · simp only [List.flatMap_cons, List.flatMap_nil, ruleLines_allowOne, ruleLines_blockAll,
      ruleLines_allowTwo]
    decide
  · intro table chain
    rw [build_eq, ← List.singleton_append, canonical_append, canonical_singleton, List.append_nil]
    exact (List.reverse_perm _).symm.subperm.trans (List.sublist_append_right _ _).subperm

/-- The chain is not that of the memory, and disabling and enabling the firewall lets packets
in that were dropped. -/
theorem shared_line_out_of_order :
    widened.rules.rules = [blockAll, allowTwo] ∧
      input widened ≠ build onlyIPv4.apply (fun _ _ => []) [blockAll, allowTwo] .ipv4 "INPUT" ∧
      FirstMatch.decision fromEth0 .accept (input widened) = .drop ∧
      FirstMatch.decision fromEth0 .accept (input ((widened.step ⟨.disable, Firewall.working⟩).step
        ⟨.enable, Firewall.working⟩)) = .accept := by
  have hagain : FirstMatch.decision fromEth0 .accept
      (input ((widened.step ⟨.disable, Firewall.working⟩).step ⟨.enable, Firewall.working⟩)) =
      .accept := by decide
  rw [input_widened]
  refine ⟨rfl, ?_, ?_, hagain⟩ <;> decide

end IPTables

end NordVPN
