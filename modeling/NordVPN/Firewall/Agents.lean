import NordVPN.Lib.Runs
import NordVPN.Firewall.Service

/-!
The state of the working agent beside the memory of the firewall service.

What an agent is in after its calls is read off the log: `apply` says what one call does
to it. While the firewall is enabled the agent should be as if the rules in memory had
been added to an empty agent, one after the other. A rule can be taken out of it only if
the agent can tell its part from the rest; whether it can, depends on the agent.
-/

namespace NordVPN.Firewall

open Prog

/-! ### Runs -/

/-- A call of a method. -/
inductive Op where
  | add (rules : List Rule)
  | delete (names : List String)
  | enable
  | disable

def Op.exec : Op → Fw Unit
  | .add rules => Firewall.add rules
  | .delete names => Firewall.delete names
  | .enable => Firewall.enable
  | .disable => Firewall.disable

/-- A call and what the agents do with it. -/
structure Step where
  op : Op
  env : AgentEnv

def step (fw : Firewall) (i : Step) : Firewall := (i.op.exec i.env fw).final

def returns (fw : Firewall) (i : Step) : Except Error Unit := (i.op.exec i.env fw).result

/-- The agents do all they are asked to. -/
def Succeeds (r : AgentEnv) : Prop := ∀ n op rule, r.fails n op rule = false

def working : AgentEnv := ⟨fun _ _ _ => false⟩

theorem working_succeeds : Succeeds working := fun _ _ _ => rfl

/-! ### What a call takes out -/

section Safe

variable (P : List Rule → Rule → Prop)

/-- `P mem old` for every rule `old` that a rule of the list replaces, `mem` being what the
agent holds then. -/
def SafeAdds : List Rule → List Rule → Prop
  | _, [] => True
  | mem, rule :: rest =>
    (∀ old ∈ mem, old.name = rule.name → P (mem ++ [rule]) old) ∧
      SafeAdds (mem.eraseP (OrderedRules.byName rule.name) ++ [rule]) rest

/-- The same for the rules that are deleted. -/
def SafeDeletes : List Rule → List String → Prop
  | _, [] => True
  | mem, name :: rest => (∀ rule ∈ mem, rule.name = name → P mem rule) ∧
    SafeDeletes (mem.eraseP (OrderedRules.byName name)) rest

/-- While the firewall is disabled its calls go to the other agent. -/
def Safe (fw : Firewall) : Op → Prop
  | .add rules => fw.enabled = true → SafeAdds P fw.rules.rules rules
  | .delete names => fw.enabled = true → SafeDeletes P fw.rules.rules names
  | _ => True

variable {P}

theorem safe_of_forall (h : ∀ mem rule, P mem rule) (fw : Firewall) (op : Op) : Safe P fw op := by
  cases op with
  | add rules =>
    intro _
    generalize fw.rules.rules = mem
    induction rules generalizing mem with
    | nil => trivial
    | cons rule rest ih => exact ⟨fun old _ _ => h _ old, ih _⟩
  | delete names =>
    intro _
    generalize fw.rules.rules = mem
    induction names generalizing mem with
    | nil => trivial
    | cons name rest ih => exact ⟨fun rule _ _ => h _ rule, ih _⟩
  | enable | disable => trivial

end Safe

/-! ### The agent's state -/

section Replay

variable {σ : Type} (apply : AgentOp → Rule → σ → σ) (start : σ)

/-- The state of an agent after the calls, latest first. -/
def replay (agent : AgentId) : List AgentCall → σ
  | [] => start
  | call :: calls =>
    if call.agent = agent ∧ call.ok = true then apply call.op call.rule (replay agent calls)
    else replay agent calls

/-- An empty agent to which the rules have been added in this order. -/
def build (rules : List Rule) : σ := rules.foldl (fun s rule => apply .add rule s) start

/-- Deleting the rule undoes its addition, whatever was added since. -/
def Removable (rules : List Rule) (rule : Rule) : Prop :=
  apply .delete rule (build apply start rules) = build apply start (rules.erase rule)

/-- Deleting all rules in the order in which they were added leaves the agent empty. -/
def Clears : Prop := ∀ rules : List Rule,
  rules.foldl (fun s rule => apply .delete rule s) (build apply start rules) = start

/-- The working agent is as the memory says. -/
structure InStep (fw : Firewall) : Prop where
  current : fw.current = if fw.enabled then .working else .noop
  state : replay apply start .working fw.calls =
    if fw.enabled then build apply start fw.rules.rules else start

variable {apply start} {r : AgentEnv} (hr : Succeeds r) {fw : Firewall}
  {P : List Rule → Rule → Prop}
  (hP : ∀ mem, ∀ rule ∈ mem, P mem rule → Removable apply start mem rule)

theorem replay_logged (agent agent' : AgentId) (op : AgentOp) (rule : Rule) (fw : Firewall) :
    replay apply start agent (fw.logged ⟨agent', op, rule, true⟩).calls =
      if agent' = agent then apply op rule (replay apply start agent fw.calls)
      else replay apply start agent fw.calls := by
  simp [logged, replay]

theorem build_append (rules : List Rule) (rule : Rule) :
    build apply start (rules ++ [rule]) = apply .add rule (build apply start rules) := by
  simp [build, List.foldl_append]

/-- Names are distinct, so the rule of a name is the one that is cut. -/
theorem eraseP_byName {rules : List Rule} (hdistinct : (rules.map Rule.name).Nodup) {rule : Rule}
    (h : rule ∈ rules) : rules.eraseP (OrderedRules.byName rule.name) = rules.erase rule := by
  induction rules with
  | nil => rfl
  | cons x rules ih =>
    rw [List.map_cons, List.nodup_cons] at hdistinct
    rcases List.mem_cons.mp h with rfl | hmem
    · simp [OrderedRules.byName]
    · have hname : x.name ≠ rule.name := by
        intro heq
        exact hdistinct.1 (heq ▸ List.mem_map_of_mem hmem)
      have hne : x ≠ rule := by
        rintro rfl
        exact hname rfl
      rw [List.eraseP_cons_of_neg (by simpa [OrderedRules.byName] using hname),
        List.erase_cons_tail (by simpa using hne), ih hdistinct.2 hmem]

theorem cut_of_not_mem {mem : OrderedRules} {name : String} (h : name ∉ mem.names) :
    mem.cut name = mem.rules := by
  apply List.eraseP_of_forall_not
  intro x hx hsame
  exact h (OrderedRules.mem_names.mpr ⟨x, hx, beq_iff_eq.mp hsame⟩)

theorem cut_of_mem {mem : OrderedRules} {rule : Rule} (h : rule ∈ mem.rules) :
    mem.cut rule.name = mem.rules.erase rule :=
  eraseP_byName mem.distinct h

include hr

theorem wp_agentCall_of_succeeds {agent : AgentId} {op : AgentOp} {rule : Rule}
    {Q : Except Error Unit → Firewall → Prop} :
    wp (agentCall agent op rule) r any Q fw ↔
      Q (.ok ()) (fw.logged ⟨agent, op, rule, true⟩) := by
  have hok : fw.callFails r agent op rule = false := by
    rw [callFails, hr, Bool.and_false]
  simp [wp_agentCall, hok]

/-- One turn of `Add`. -/
theorem inStep_addRule (h : InStep apply start fw) (rule : Rule)
    (hsafe : fw.enabled = true → ∀ old ∈ fw.rules.rules, old.name = rule.name →
      Removable apply start (fw.rules.rules ++ [rule]) old) :
    wp (addRule rule) r any (fun x t => InStep apply start t ∧
      t.enabled = fw.enabled ∧
        (x = .ok () → t.rules.rules = fw.rules.cut rule.name ++ [rule])) fw := by
  refine addRule_added (fun _ _ => trivial) fun x t ht => ?_
  cases ht with
  | unnamed | present => exact ⟨h, rfl, fun h => by cases h⟩
  | refused hfails => exact absurd hfails (by simp [callFails, hr _ _ _])
  | stuck _ _ _ hfails => exact absurd hfails (by simp [hr _ _ _])
  | new hname habsent =>
    refine ⟨⟨h.current, ?_⟩, rfl, fun _ => rfl⟩
    change replay apply start .working (fw.logged ⟨fw.current, .add, rule, true⟩).calls =
      if fw.enabled then build apply start (fw.rules.cut rule.name ++ [rule]) else start
    rw [replay_logged, h.state, h.current, cut_of_not_mem habsent, build_append]
    cases fw.enabled <;> rfl
  | @replaced hname old hmem hold =>
    refine ⟨⟨h.current, ?_⟩, rfl, fun _ => rfl⟩
    change replay apply start .working ((fw.logged ⟨fw.current, .add, rule, true⟩).logged
        ⟨fw.current, .delete, old, true⟩).calls =
      if fw.enabled then build apply start (fw.rules.cut rule.name ++ [rule]) else start
    rw [replay_logged, replay_logged, h.state, h.current, ← hold, cut_of_mem hmem]
    cases henabled : fw.enabled with
    | false => rfl
    | true =>
      have hremove := hsafe henabled old hmem hold
      rw [Removable, List.erase_append_left _ hmem, build_append] at hremove
      exact hremove

include hP in
theorem inStep_add (h : InStep apply start fw) {rules : List Rule}
    (hsafe : fw.enabled = true → SafeAdds P fw.rules.rules rules) :
    wp (add rules) r any (fun _ t => InStep apply start t) fw := by
  induction rules generalizing fw with
  | nil => exact wp_forEach_nil.mpr h
  | cons rule rest ih =>
    have hrule := inStep_addRule hr h rule fun henabled old hmem hold =>
      hP _ old (List.mem_append_left _ hmem) ((hsafe henabled).1 old hmem hold)
    apply wp_seq hrule
    · intro _ t ht
      obtain ⟨hstep, henabled, hok⟩ := ht
      apply ih hstep
      intro hon
      rw [hok rfl]
      exact (hsafe (henabled ▸ hon)).2
    · intro _ t ht
      exact ht.1

/-- One turn of `Delete`. -/
theorem inStep_deleteRule (h : InStep apply start fw) (name : String)
    (hsafe : fw.enabled = true → ∀ rule ∈ fw.rules.rules, rule.name = name →
      Removable apply start fw.rules.rules rule) :
    wp (deleteRule name) r any (fun x t => InStep apply start t ∧
      t.enabled = fw.enabled ∧ (x = .ok () → t.rules.rules = fw.rules.cut name)) fw := by
  refine deleteRule_deleted (fun _ _ => trivial) fun x t ht => ?_
  cases ht with
  | absent => exact ⟨h, rfl, fun h => by cases h⟩
  | refused _ _ hfails => exact absurd hfails (by simp [callFails, hr _ _ _])
  | @deleted rule mem hmem hname _ hdelete =>
    have hrules : mem.rules = fw.rules.cut name := (OrderedRules.delete_ok hdelete).2
    refine ⟨⟨h.current, ?_⟩, rfl, fun _ => hrules⟩
    change replay apply start .working (fw.logged ⟨fw.current, .delete, rule, true⟩).calls =
      if fw.enabled then build apply start mem.rules else start
    rw [replay_logged, h.state, h.current, hrules]
    cases henabled : fw.enabled with
    | false => rfl
    | true =>
      have hremove := hsafe henabled rule hmem hname
      rw [Removable, ← eraseP_byName fw.rules.distinct hmem, hname] at hremove
      exact hremove

include hP in
theorem inStep_delete (h : InStep apply start fw) {names : List String}
    (hsafe : fw.enabled = true → SafeDeletes P fw.rules.rules names) :
    wp (delete names) r any (fun _ t => InStep apply start t) fw := by
  induction names generalizing fw with
  | nil => exact wp_forEach_nil.mpr h
  | cons name rest ih =>
    have hrule := inStep_deleteRule hr h name fun henabled rule hmem hname =>
      hP _ rule hmem ((hsafe henabled).1 rule hmem hname)
    apply wp_seq hrule
    · intro _ t ht
      obtain ⟨hstep, henabled, hok⟩ := ht
      apply ih hstep
      intro hon
      rw [hok rfl]
      exact (hsafe (henabled ▸ hon)).2
    · intro _ t ht
      exact ht.1

/-- What moving a rule from one agent to another means for the working one. -/
def moved (apply : AgentOp → Rule → σ → σ) (current next : AgentId) (s : σ) (rule : Rule) : σ :=
  let left := if current = .working then apply .delete rule s else s
  if next = .working then apply .add rule left else left

variable (apply start) in
theorem replay_swap (current next : AgentId) :
    wp (swap current next) r any (fun x t => x = .ok () ∧ t.rules = fw.rules ∧
      t.current = fw.current ∧ t.enabled = fw.enabled ∧
      replay apply start .working t.calls = fw.rules.rules.foldl (moved apply current next)
        (replay apply start .working fw.calls)) fw := by
  simp only [swap, wp_bind, wp_state, onOk_ok]
  generalize fw.rules.rules = rules
  induction rules generalizing fw with
  | nil => exact wp_forEach_nil.mpr ⟨rfl, rfl, rfl, rfl, rfl⟩
  | cons rule rest ih =>
    rw [wp_forEach_cons]
    simp only [wp_bind, wp_context, wp_agentCall_of_succeeds hr, mapError_ok, onOk_ok]
    apply wp_post ih
    intro x t ht
    obtain ⟨hx, hrules, hcurrent, henabled, hstate⟩ := ht
    refine ⟨hx, hrules, hcurrent, henabled, ?_⟩
    rw [hstate, replay_logged, replay_logged]
    rfl

theorem inStep_enable (h : InStep apply start fw) :
    wp enable r any (fun _ t => InStep apply start t) fw := by
  simp only [enable, wp_bind, wp_state, onOk_ok]
  cases henabled : fw.enabled with
  | true => exact wp_fail.mpr h
  | false =>
    simp only [Bool.false_eq_true, if_false, wp_bind, wp_update, onOk_ok, true_and]
    apply wp_post (replay_swap apply start hr .noop .working)
    intro x t ht
    obtain ⟨-, hrules, hcurrent, hflag, hstate⟩ := ht
    replace hflag : t.enabled = true := hflag
    replace hcurrent : t.current = .working := hcurrent
    have hempty : replay apply start .working fw.calls = start := by
      rw [h.state, henabled, if_neg Bool.false_ne_true]
    constructor
    · rw [hcurrent, hflag, if_pos rfl]
    · rw [hstate, hflag, if_pos rfl, hrules]
      exact congrArg (fun s => fw.rules.rules.foldl _ s) hempty

theorem inStep_disable (h : InStep apply start fw) (hclears : Clears apply start) :
    wp disable r any (fun _ t => InStep apply start t) fw := by
  simp only [disable, wp_bind, wp_state, onOk_ok]
  cases henabled : fw.enabled with
  | false => exact wp_fail.mpr h
  | true =>
    simp only [if_true, wp_bind, wp_update, onOk_ok, true_and]
    apply wp_post (replay_swap apply start hr .working .noop)
    intro x t ht
    obtain ⟨-, -, hcurrent, hflag, hstate⟩ := ht
    replace hflag : t.enabled = false := hflag
    replace hcurrent : t.current = .noop := hcurrent
    have hfull : replay apply start .working fw.calls = build apply start fw.rules.rules := by
      rw [h.state, henabled, if_pos rfl]
    have hempty := hclears fw.rules.rules
    rw [← hfull] at hempty
    constructor
    · rw [hcurrent, hflag, if_neg Bool.false_ne_true]
    · rw [hstate, hflag, if_neg Bool.false_ne_true]
      exact hempty

include hP in
/-- **One call.** If the agent lets every rule be taken out that the call takes out, it
stays as the memory says, also when the call stops half-way with an error. -/
theorem inStep_step (h : InStep apply start fw) (hclears : Clears apply start) (op : Op)
    (hsafe : Safe P fw op) : InStep apply start (fw.step ⟨op, r⟩) := by
  cases op with
  | add rules => exact (inStep_add hr hP h hsafe).2
  | delete names => exact (inStep_delete hr hP h hsafe).2
  | enable => exact (inStep_enable hr h).2
  | disable => exact (inStep_disable hr h hclears).2

omit hr in
theorem inStep_newFirewall (enabled : Bool) : InStep apply start (newFirewall enabled) := by
  constructor
  · rfl
  · cases enabled <;> rfl

end Replay

/-! ### Agents that hold copies of rules -/

/-- `Add` adds one copy of the rule, `Delete` removes one. -/
def keepCopies : AgentOp → Rule → Multiset Rule → Multiset Rule
  | .add, rule, held => rule ::ₘ held
  | .delete, rule, held => held.erase rule

/-- The copies the working agent holds. -/
def held (fw : Firewall) : Multiset Rule := replay keepCopies 0 .working fw.calls

theorem coe_append_singleton (rules : List Rule) (rule : Rule) :
    ((rules ++ [rule] : List Rule) : Multiset Rule) = rule ::ₘ rules := by
  rw [Multiset.cons_coe, Multiset.coe_eq_coe]
  exact List.perm_append_singleton rule rules

theorem build_keepCopies (rules : List Rule) :
    build keepCopies 0 rules = (rules : Multiset Rule) := by
  induction rules using List.reverseRecOn with
  | nil => rfl
  | append_singleton rules rule ih =>
    rw [build_append, ih, keepCopies, coe_append_singleton]

theorem removable_keepCopies (rules : List Rule) (rule : Rule) :
    Removable keepCopies 0 rules rule := by
  rw [Removable, build_keepCopies, build_keepCopies, keepCopies, Multiset.coe_erase]

theorem clears_keepCopies : Clears keepCopies 0 := by
  intro rules
  rw [build_keepCopies]
  induction rules with
  | nil => rfl
  | cons rule rules ih =>
    rw [List.foldl_cons, keepCopies, Multiset.coe_erase, List.erase_cons_head]
    exact ih

/-- **Memory and agent stay in step.** After any calls, also calls that stop with an error
in the middle of their list, the names in memory are distinct and not empty. The working
agent holds one copy of each rule in memory and no other rule while the firewall is
enabled, and nothing while it is disabled. -/
theorem agent_in_step_with_memory (enabled : Bool) {fw : Firewall}
    (h : Reaches step (fun _ i => Succeeds i.env) (newFirewall enabled) fw) :
    (∀ rule ∈ fw.rules.rules, rule.name ≠ "") ∧ (fw.rules.rules.map Rule.name).Nodup ∧
      ∀ rule, fw.held.count rule = if fw.enabled = true ∧ rule ∈ fw.rules.rules then 1 else 0 := by
  refine ⟨fw.rules.named, fw.rules.distinct, fun rule => ?_⟩
  have hstep : InStep keepCopies 0 fw := h.invariant (inStep_newFirewall enabled) fun fw i hfw hr =>
    inStep_step hr (fun mem rule _ _ => removable_keepCopies mem rule) hfw clears_keepCopies i.op
      (safe_of_forall (fun _ _ => trivial) fw i.op)
  have hnodup : fw.rules.rules.Nodup := List.Nodup.of_map _ fw.rules.distinct
  rw [held, hstep.state, build_keepCopies]
  cases fw.enabled with
  | false => simp
  | true => simp [hnodup.count]

/-- A rule, and one that replaces it. -/
def sampleRule : Rule := { name := "sample" }

def sampleReplacement : Rule := { name := "sample", allow := true }

/-- The rule has been added and replaced. -/
def replaced : Firewall :=
  ((newFirewall true).step ⟨.add [sampleRule], working⟩).step ⟨.add [sampleReplacement], working⟩

theorem agent_in_step_after_replacement :
    replaced.held.count sampleReplacement = 1 ∧ replaced.held.count sampleRule = 0 := by
  have hrun : Reaches step (fun _ i => Succeeds i.env) (newFirewall true) replaced :=
    .tail (⟨.add [sampleReplacement], working⟩ : Step)
      (.tail (⟨.add [sampleRule], working⟩ : Step) .refl working_succeeds) working_succeeds
  obtain ⟨-, -, hcount⟩ := agent_in_step_with_memory true hrun
  constructor
  · rw [hcount]
    rfl
  · rw [hcount]
    rfl

/-! ### Enabling and disabling that fails -/

/-- No call with which the rules are moved from one agent to the other fails; `n` is the
number of the first one. -/
def movesAll (r : AgentEnv) (current next : AgentId) : Nat → List Rule → Bool
  | _, [] => true
  | n, rule :: rest =>
    !(current == .working && r.fails n .delete rule) &&
      !(next == .working && r.fails (n + 1) .add rule) && movesAll r current next (n + 2) rest

/-- The flag, the agent in use and what the working agent holds are what they were. -/
def Unchanged (fw t : Firewall) : Prop :=
  t.enabled = fw.enabled ∧ t.current = fw.current ∧ t.held = fw.held

theorem swap_ok_iff (r : AgentEnv) (current next : AgentId) (fw : Firewall) :
    wp (swap current next) r any (fun x t => t.enabled = fw.enabled ∧
      (x = .ok () ↔ movesAll r current next fw.calls.length fw.rules.rules = true)) fw := by
  simp only [swap, wp_bind, wp_state, onOk_ok]
  generalize fw.rules.rules = rules
  induction rules generalizing fw with
  | nil => exact wp_forEach_nil.mpr ⟨rfl, iff_of_true rfl rfl⟩
  | cons rule rest ih =>
    rw [wp_forEach_cons]
    simp only [wp_bind, wp_context, wp_agentCall, true_and]
    by_cases hdelete : fw.callFails r current .delete rule = true
    · rw [if_pos hdelete]
      rw [callFails] at hdelete
      exact ⟨rfl, iff_of_false (fun h => by cases h) (by simp [movesAll, hdelete])⟩
    rw [if_neg hdelete, mapError_ok, onOk_ok]
    rw [callFails, Bool.not_eq_true] at hdelete
    generalize hlog : fw.logged _ = t
    have hlength : t.calls.length = fw.calls.length + 1 := by
      rw [← hlog]
      rfl
    by_cases hadd : t.callFails r next .add rule = true
    · rw [if_pos hadd]
      rw [callFails, hlength] at hadd
      exact ⟨hlog ▸ rfl, iff_of_false (fun h => by cases h) (by simp [movesAll, hadd])⟩
    rw [if_neg hadd, mapError_ok, onOk_ok]
    rw [callFails, hlength, Bool.not_eq_true] at hadd
    apply wp_post (ih _)
    intro x u hu
    obtain ⟨henabled, hok⟩ := hu
    refine ⟨henabled.trans (hlog ▸ rfl), hok.trans ?_⟩
    simp [movesAll, hdelete, hadd, logged, hlength]

section Switch

variable {fw : Firewall} {op : Op} {r : AgentEnv}

/-- A call that changes the flag leaves the firewall as it was after an error only if there
is no error. -/
theorem unchanged_iff_of_switched {moves : Bool}
    (h : wp op.exec r any (fun x t => t.enabled ≠ fw.enabled ∧
      (x = .ok () ↔ moves = true)) fw) :
    (fw.returns ⟨op, r⟩ ≠ .ok () → Unchanged fw (fw.step ⟨op, r⟩)) ↔ moves = true := by
  obtain ⟨-, hchanged, hok⟩ := h
  rw [← hok]
  constructor
  · intro hsame
    by_contra herror
    exact hchanged (hsame herror).1
  · intro hnil herror
    exact absurd hnil herror

theorem unchanged_of_refused (h : wp op.exec r any (fun _ t => t = fw) fw) :
    Unchanged fw (fw.step ⟨op, r⟩) := by
  rw [step, h.2]
  exact ⟨rfl, rfl, rfl⟩

theorem enable_refused (h : fw.enabled = true) :
    wp (Op.exec .enable) r any (fun _ t => t = fw) fw := by
  simp only [Op.exec, enable, wp_bind, wp_state, onOk_ok, h, if_true]
  exact wp_fail.mpr rfl

theorem disable_refused (h : fw.enabled = false) :
    wp (Op.exec .disable) r any (fun _ t => t = fw) fw := by
  simp only [Op.exec, disable, wp_bind, wp_state, onOk_ok, h, Bool.false_eq_true, if_false]
  exact wp_fail.mpr rfl

theorem enable_switches (h : fw.enabled = false) :
    wp (Op.exec .enable) r any (fun x t => t.enabled ≠ fw.enabled ∧
      (x = .ok () ↔ movesAll r .noop .working fw.calls.length fw.rules.rules = true)) fw := by
  simp only [Op.exec, enable, wp_bind, wp_state, onOk_ok, h, Bool.false_eq_true, if_false,
    wp_update, true_and]
  apply wp_post (swap_ok_iff r .noop .working { fw with enabled := true, current := .working })
  intro x t ht
  exact ⟨ht.1 ▸ Bool.false_ne_true.symm, ht.2⟩

theorem disable_switches (h : fw.enabled = true) :
    wp (Op.exec .disable) r any (fun x t => t.enabled ≠ fw.enabled ∧
      (x = .ok () ↔ movesAll r .working .noop fw.calls.length fw.rules.rules = true)) fw := by
  simp only [Op.exec, disable, wp_bind, wp_state, onOk_ok, h, if_true, wp_update, true_and]
  apply wp_post (swap_ok_iff r .working .noop { fw with enabled := false, current := .noop })
  intro x t ht
  exact ⟨ht.1 ▸ Bool.false_ne_true, ht.2⟩

end Switch

/-- **Enabling and disabling that fails.** `Enable` changes the flag and the agent before
it moves the rules, and nothing is put back: a failed call leaves the firewall as it was if
and only if it was enabled already or the move meets no failing call (it then returns no
error at all). The same for `Disable`. -/
theorem failed_switch_unchanged_iff (fw : Firewall) (r : AgentEnv) :
    ((fw.returns ⟨.enable, r⟩ ≠ .ok () → Unchanged fw (fw.step ⟨.enable, r⟩)) ↔
      fw.enabled = true ∨ movesAll r .noop .working fw.calls.length fw.rules.rules = true) ∧
    ((fw.returns ⟨.disable, r⟩ ≠ .ok () → Unchanged fw (fw.step ⟨.disable, r⟩)) ↔
      fw.enabled = false ∨ movesAll r .working .noop fw.calls.length fw.rules.rules = true) := by
  cases henabled : fw.enabled with
  | true =>
    constructor
    · exact iff_of_true (fun _ => unchanged_of_refused (enable_refused henabled)) (.inl rfl)
    · rw [unchanged_iff_of_switched (disable_switches henabled)]
      simp
  | false =>
    constructor
    · rw [unchanged_iff_of_switched (enable_switches henabled)]
      simp
    · exact iff_of_true (fun _ => unchanged_of_refused (disable_refused henabled)) (.inl rfl)

/-- A disabled firewall with a rule in memory. -/
def oneRule : Firewall := (newFirewall false).step ⟨.add [sampleRule], working⟩

/-- The working agent refuses. -/
def refusing : AgentEnv := ⟨fun _ _ _ => true⟩

/-- `Enable` reports the refusal but leaves the firewall enabled without the rule, and
trying again does not help. -/
theorem failed_enable_is_kept :
    oneRule.returns ⟨.enable, refusing⟩ ≠ .ok () ∧ oneRule.enabled = false ∧
      (oneRule.step ⟨.enable, refusing⟩).enabled = true ∧
      sampleRule ∈ (oneRule.step ⟨.enable, refusing⟩).rules.rules ∧
      sampleRule ∉ (oneRule.step ⟨.enable, refusing⟩).held ∧
      (oneRule.step ⟨.enable, refusing⟩).returns ⟨.enable, working⟩ =
        .error (.sentinel .firewallAlreadyEnabled) := by
  refine ⟨nofun, rfl, rfl, .head _, ?_, rfl⟩
  exact Multiset.notMem_zero sampleRule

end NordVPN.Firewall
