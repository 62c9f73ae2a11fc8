import NordVPN.Lib.Prog
import NordVPN.Firewall.Rule

/-!
The firewall service (`daemon/firewall/firewall.go`): a memory of rules in front of
two agents, one that works and one that does nothing.

Agent calls are the only fallible part. `AgentEnv` decides for every call, by its
number and its argument, whether the working agent fails; the no-op agent
(`notables.Facade`) never does. All calls are logged with their outcome, so that
what an agent holds can be read off the log.

The slices of a rule are values here. That `PortsToPortRanges` sorts the ports in place, in a slice
that the agent's rule shares with the memory, is left out.
-/

namespace NordVPN

inductive AgentId where
  | noop | working
deriving DecidableEq, Repr

inductive AgentOp where
  | add | delete
deriving DecidableEq, Repr

structure AgentCall where
  agent : AgentId
  op : AgentOp
  rule : Rule
  ok : Bool
deriving DecidableEq

/-- `fails n op rule`: the working agent fails when call number `n` is `op rule`. -/
structure AgentEnv where
  fails : Nat → AgentOp → Rule → Bool

/-- `firewall.Firewall`. `calls` is the log of agent calls, latest first. -/
structure Firewall where
  rules : OrderedRules
  current : AgentId
  enabled : Bool
  calls : List AgentCall

/-- `NewFirewall`. -/
def newFirewall (enabled : Bool) : Firewall :=
  { rules := .empty, current := if enabled then .working else .noop, enabled, calls := [] }

abbrev Fw := Prog AgentEnv Firewall Error

namespace Firewall

/-- Whether the next agent call fails. -/
def callFails (fw : Firewall) (r : AgentEnv) (agent : AgentId) (op : AgentOp)
    (rule : Rule) : Bool :=
  agent == .working && r.fails fw.calls.length op rule

def logged (fw : Firewall) (call : AgentCall) : Firewall :=
  { fw with calls := call :: fw.calls }

@[simp] theorem logged_rules (fw : Firewall) (call : AgentCall) :
    (fw.logged call).rules = fw.rules := rfl

/-- `agent.Add(rule)` or `agent.Delete(rule)`. -/
def agentCall (agent : AgentId) (op : AgentOp) (rule : Rule) : Fw Unit := do
  let r ← Prog.env
  let fw ← Prog.state
  let fails := fw.callFails r agent op rule
  Prog.update fun fw => fw.logged ⟨agent, op, rule, !fails⟩
  if fails then Prog.fail (.external "firewall agent") else pure ()

/-- `fmt.Errorf("context: %w", err)`. -/
def context {ρ σ α : Type} (text : String) (m : Prog ρ σ Error α) : Prog ρ σ Error α :=
  Prog.mapError (.wrap text) m

/-- `fw.rules.Add(rule)`. -/
def remember (rule : Rule) : Fw Unit := do
  let fw ← Prog.state
  match fw.rules.add rule with
  | .ok mem => Prog.update fun fw => { fw with rules := mem }
  | .error e => Prog.fail (.wrap ("adding " ++ rule.name ++ " to memory") e)

/-- `fw.rules.Delete(name)`. -/
def forget (name : String) : Fw Unit := do
  let fw ← Prog.state
  match fw.rules.delete name with
  | .ok mem => Prog.update fun fw => { fw with rules := mem }
  | .error _ => Prog.fail (.plain ("deleting " ++ name ++ " from memory"))

/-- One turn of the loop of `Firewall.Add`: a rule of that name that differs is
replaced, the new one being added to the agent before the old one is deleted. -/
def addRule (rule : Rule) : Fw Unit := do
  let fw ← Prog.state
  if rule.name = "" then Prog.fail (.sentinel .ruleWithoutName)
  else match fw.rules.get? rule.name with
    | some existing =>
      if existing.equal rule then Prog.fail (.sentinel .ruleAlreadyExists)
      else do
        context ("adding " ++ rule.name) (agentCall fw.current .add rule)
        remember rule
        context ("removing replaced rule " ++ rule.name ++ " to memory")
          (agentCall fw.current .delete existing)
    | none => do
      context ("adding " ++ rule.name) (agentCall fw.current .add rule)
      remember rule

/-- `Firewall.Add`. -/
def add (rules : List Rule) : Fw Unit := Prog.forEach addRule rules

/-- One turn of the loop of `Firewall.Delete`. -/
def deleteRule (name : String) : Fw Unit := do
  let fw ← Prog.state
  match fw.rules.get? name with
  | none => Prog.fail (.wrap ("getting " ++ name) (.sentinel .ruleNotFound))
  | some rule => do
    context ("deleting " ++ name) (agentCall fw.current .delete rule)
    forget rule.name

/-- `Firewall.Delete`. -/
def delete (names : List String) : Fw Unit := Prog.forEach deleteRule names

/-- `swap`: move the remembered rules from one agent to the other, one at a time. -/
def swap (current next : AgentId) : Fw Unit := do
  let fw ← Prog.state
  Prog.forEach (fun rule => do
    context ("deleting rule " ++ rule.name) (agentCall current .delete rule)
    context ("adding rule " ++ rule.name) (agentCall next .add rule)) fw.rules.rules

/-- `Firewall.Enable`. The flag and the agent change before the rules move. -/
def enable : Fw Unit := do
  let fw ← Prog.state
  if fw.enabled then Prog.fail (.sentinel .firewallAlreadyEnabled)
  else do
    Prog.update fun fw => { fw with enabled := true, current := .working }
    swap .noop .working

/-- `Firewall.Disable`. -/
def disable : Fw Unit := do
  let fw ← Prog.state
  if fw.enabled then do
    Prog.update fun fw => { fw with enabled := false, current := .noop }
    swap .working .noop
  else Prog.fail (.sentinel .firewallAlreadyDisabled)

/-! ### What one agent call does -/

section Calls

open Prog

variable {r : AgentEnv} {A : Firewall → Prop} {Q : Except Error Unit → Firewall → Prop}
  {fw : Firewall} {rule : Rule} {name : String}

theorem wp_agentCall {agent : AgentId} {op : AgentOp} :
    wp (agentCall agent op rule) r A Q fw ↔
      A (fw.logged ⟨agent, op, rule, !fw.callFails r agent op rule⟩) ∧
        Q (if fw.callFails r agent op rule then .error (.external "firewall agent") else .ok ())
          (fw.logged ⟨agent, op, rule, !fw.callFails r agent op rule⟩) := by
  simp only [agentCall, wp_bind, wp_env, onOk_ok, wp_state, wp_update]
  by_cases h : fw.callFails r agent op rule = true <;> simp [h]

theorem wp_context {text : String} {m : Fw Unit} :
    wp (context text m) r A Q fw ↔
      wp m r A (fun x t => Q (x.mapError (.wrap text)) t) fw := Iff.rfl

theorem callFails_fails {agent : AgentId} {op : AgentOp}
    (h : fw.callFails r agent op rule = true) : ∃ n, r.fails n op rule = true :=
  ⟨_, (Bool.and_eq_true_iff.mp h).2⟩

/-! ### What `Add` does -/

/-- The firewall after the agent has added the rule. -/
def withRule (fw : Firewall) (rule : Rule) (h : rule.name ≠ "") : Firewall :=
  { fw with rules := fw.rules.put rule h }.logged ⟨fw.current, .add, rule, true⟩

/-- How one turn of `Add` can end. -/
inductive Added (r : AgentEnv) (fw : Firewall) (rule : Rule) : Except Error Unit → Firewall → Prop
  | unnamed : rule.name = "" → Added r fw rule (.error (.sentinel .ruleWithoutName)) fw
  | present : rule ∈ fw.rules.rules → Added r fw rule (.error (.sentinel .ruleAlreadyExists)) fw
  | refused : fw.callFails r fw.current .add rule = true →
      Added r fw rule (.error (.wrap ("adding " ++ rule.name) (.external "firewall agent")))
        (fw.logged ⟨fw.current, .add, rule, false⟩)
  | new (h : rule.name ≠ "") : rule.name ∉ fw.rules.names →
      Added r fw rule (.ok ()) (fw.withRule rule h)
  | replaced (h : rule.name ≠ "") {old : Rule} : old ∈ fw.rules.rules → old.name = rule.name →
      rule ∉ fw.rules.rules →
      Added r fw rule (.ok ()) ((fw.withRule rule h).logged ⟨fw.current, .delete, old, true⟩)
  | stuck (h : rule.name ≠ "") {old : Rule} {n : Nat} : old ∈ fw.rules.rules →
      old.name = rule.name → r.fails n .delete old = true →
      Added r fw rule (.error (.wrap ("removing replaced rule " ++ rule.name ++ " to memory")
        (.external "firewall agent"))) ((fw.withRule rule h).logged ⟨fw.current,
          .delete, old, false⟩)

/-- Until a turn of `Add` ends, the memory is as it was or has the rule in it. -/
theorem addRule_added
    (hA : ∀ t : Firewall, t.rules = fw.rules ∨ (∃ h, t.rules = fw.rules.put rule h) → A t)
    (hQ : ∀ x t, Added r fw rule x t → Q x t) : wp (addRule rule) r A Q fw := by
  simp only [addRule, wp_bind, wp_state, onOk_ok]
  by_cases hname : rule.name = ""
  · rw [if_pos hname, wp_fail]
    exact hQ _ _ (.unnamed hname)
  rw [if_neg hname]
  have hput (t : Firewall) (ht : t.rules = fw.rules.put rule hname) : A t := hA t (.inr ⟨_, ht⟩)
  cases hget : fw.rules.get? rule.name with
  | none =>
    have hadd : fw.rules.add rule = .ok (fw.rules.put rule hname) := by
      simp [OrderedRules.add, hname, hget]
    simp only [wp_bind, wp_context, wp_agentCall]
    refine ⟨hA _ (.inl rfl), ?_⟩
    cases hfails : fw.callFails r fw.current .add rule with
    | true => exact hQ _ _ (.refused hfails)
    | false =>
      simp only [Bool.false_eq_true, if_false, mapError_ok, onOk_ok, remember, wp_bind, wp_state,
        logged_rules, hadd, wp_update]
      exact ⟨hput _ rfl, hQ _ _ (.new hname (OrderedRules.get?_eq_none.mp hget))⟩
  | some old =>
    obtain ⟨hmem, hold⟩ := OrderedRules.get?_some hget
    by_cases heq : old.equal rule = true
    · simp only [heq, if_true, wp_fail]
      exact hQ _ _ (.present (Rule.equal_iff.mp heq ▸ hmem))
    have habsent : rule ∉ fw.rules.rules := by
      -- names are distinct, so a member with the name of `old` is `old`
      intro h
      exact heq (Rule.equal_iff.mpr (List.inj_on_of_nodup_map fw.rules.distinct hmem h hold))
    have hadd : fw.rules.add rule = .ok (fw.rules.put rule hname) := by
      simp [OrderedRules.add, hname, hget, heq]
    simp only [heq, Bool.false_eq_true, if_false, wp_bind, wp_context, wp_agentCall]
    refine ⟨hA _ (.inl rfl), ?_⟩
    cases hfails : fw.callFails r fw.current .add rule with
    | true => exact hQ _ _ (.refused hfails)
    | false =>
      simp only [Bool.false_eq_true, if_false, mapError_ok, onOk_ok, remember, wp_bind, wp_state,
        logged_rules, hadd, wp_update]
      refine ⟨hput _ rfl, hput _ rfl, ?_⟩
      split
      · rename_i hfails'
        obtain ⟨n, hn⟩ := callFails_fails hfails'
        rw [hfails']
        exact hQ _ _ (.stuck hname hmem hold hn)
      · rename_i hfails'
        rw [Bool.not_eq_true] at hfails'
        rw [hfails']
        exact hQ _ _ (.replaced hname hmem hold habsent)

/-- How one turn of `Delete` can end. -/
inductive Deleted (r : AgentEnv) (fw : Firewall) (name : String) :
    Except Error Unit → Firewall → Prop
  | absent : name ∉ fw.rules.names →
      Deleted r fw name (.error (.wrap ("getting " ++ name) (.sentinel .ruleNotFound))) fw
  | refused {rule : Rule} : rule ∈ fw.rules.rules → rule.name = name →
      fw.callFails r fw.current .delete rule = true →
      Deleted r fw name (.error (.wrap ("deleting " ++ name) (.external "firewall agent")))
        (fw.logged ⟨fw.current, .delete, rule, false⟩)
  | deleted {rule : Rule} {mem : OrderedRules} : rule ∈ fw.rules.rules → rule.name = name →
      fw.callFails r fw.current .delete rule = false → fw.rules.delete name = .ok mem →
      Deleted r fw name (.ok ())
        ({ fw with rules := mem }.logged ⟨fw.current, .delete, rule, true⟩)

theorem deleteRule_deleted
    (hA : ∀ t : Firewall, t.rules = fw.rules ∨ fw.rules.delete name = .ok t.rules → A t)
    (hQ : ∀ x t, Deleted r fw name x t → Q x t) : wp (deleteRule name) r A Q fw := by
  simp only [deleteRule, wp_bind, wp_state, onOk_ok]
  cases hget : fw.rules.get? name with
  | none => exact wp_fail.mpr (hQ _ _ (.absent (OrderedRules.get?_eq_none.mp hget)))
  | some rule =>
    obtain ⟨hmem, hname⟩ := OrderedRules.get?_some hget
    obtain ⟨mem, hdel⟩ : ∃ mem, fw.rules.delete name = .ok mem := by
      unfold OrderedRules.delete
      rw [hget]
      dsimp only
      split <;> exact ⟨_, rfl⟩
    simp only [wp_bind, wp_context, wp_agentCall]
    refine ⟨hA _ (.inl rfl), ?_⟩
    cases hfails : fw.callFails r fw.current .delete rule with
    | true => exact hQ _ _ (.refused hmem hname hfails)
    | false =>
      simp only [Bool.false_eq_true, if_false, mapError_ok, onOk_ok, forget, wp_bind, wp_state,
        logged_rules, hname, hdel, wp_update]
      exact ⟨hA _ (.inr hdel), hQ _ _ (.deleted hmem hname hfails hdel)⟩

end Calls

/-! ### Whole lists of rules and names -/

section Lists

open Prog

variable {r : AgentEnv} {fw : Firewall} {rs : List Rule} {ns : List String}

/-- An invariant of the memory that putting each of the rules keeps is kept by
`Add`, at every step and whatever fails. -/
theorem keeps_add {I : OrderedRules → Prop}
    (h : ∀ mem rule hn, rule ∈ rs → I mem → I (mem.put rule hn)) :
    Keeps r (fun fw => I fw.rules) (fun fw => I fw.rules) (add rs) := by
  refine Keeps.forEach fun rule hrule fw hI => addRule_added (fun t ht => ?_) fun x t ht => ?_
  · rcases ht with ht | ⟨hn, ht⟩ <;> rw [ht]
    · exact hI
    · exact h _ _ hn hrule hI
  · cases ht with
    | unnamed | present | refused => exact hI
    | new hn | replaced hn | stuck hn => exact h _ _ hn hrule hI

/-- An invariant of the memory that forgetting each of the names keeps is kept by
`Delete`. -/
theorem keeps_delete {I : OrderedRules → Prop}
    (h : ∀ mem mem' name, name ∈ ns → mem.delete name = .ok mem' → I mem → I mem') :
    Keeps r (fun fw => I fw.rules) (fun fw => I fw.rules) (delete ns) := by
  refine Keeps.forEach fun name hname fw hI => deleteRule_deleted (fun t ht => ?_) fun x t ht => ?_
  · rcases ht with ht | ht
    · exact ht ▸ hI
    · exact h _ _ _ hname ht hI
  · cases ht with
    | absent | refused => exact hI
    | deleted _ _ _ hdel => exact h _ _ _ hname hdel hI

/-- `Add` only adds names, only names of its rules, and all of them if it returns
`nil`. -/
theorem add_names (r : AgentEnv) (fw : Firewall) (rs : List Rule) :
    wp (add rs) r any (fun x t =>
      (∀ n ∈ t.rules.names, n ∈ fw.rules.names ∨ n ∈ rs.map Rule.name) ∧
      (∀ n ∈ fw.rules.names, n ∈ t.rules.names) ∧
      (x = .ok () → ∀ n ∈ rs.map Rule.name, n ∈ t.rules.names)) fw := by
  induction rs generalizing fw with
  | nil => exact wp_forEach_nil.mpr ⟨fun n hn => .inl hn, fun n hn => hn, by simp⟩
  | cons rule rs ih =>
    have hput (hn : rule.name ≠ "") (n : String) :
        n ∈ (fw.rules.put rule hn).names ↔ n ∈ fw.rules.names ∨ n = rule.name :=
      OrderedRules.mem_names_put
    refine wp_forEach_cons.mpr (addRule_added (fun _ _ => trivial) fun x t ht => ?_)
    cases ht with
    | unnamed | present | refused =>
      exact ⟨fun n hn => .inl hn, fun n hn => hn, fun h => by cases h⟩
    | new hn | replaced hn =>
      rw [onOk_ok]
      refine wp_post (ih _) fun x u hu => ?_
      obtain ⟨hsub, hkeep, hall⟩ := hu
      refine ⟨fun n hm => ?_, fun n hm => hkeep n ((hput hn n).mpr (.inl hm)), fun hx => ?_⟩
      · rcases hsub n hm with hm | hm
        · exact ((hput hn n).mp hm).imp_right (by simp +contextual)
        · exact .inr (List.mem_cons_of_mem _ hm)
      · rw [List.map_cons, List.forall_mem_cons]
        exact ⟨hkeep _ ((hput hn _).mpr (.inr rfl)), hall hx⟩
    | stuck hn =>
      exact ⟨fun n hm => ((hput hn n).mp hm).imp_right (by simp +contextual),
        fun n hm => (hput hn n).mpr (.inl hm), fun h => by cases h⟩

/-- Rules none of which is in the memory, with distinct names, are all added by an
agent that adds them. -/
theorem add_ok (fw : Firewall) (hnamed : ∀ rule ∈ rs, rule.name ≠ "")
    (hnodup : (rs.map Rule.name).Nodup) (hnew : ∀ rule ∈ rs, rule.name ∉ fw.rules.names)
    (hadd : ∀ n, ∀ rule ∈ rs, r.fails n .add rule = false) :
    wp (add rs) r any (fun x _ => x = .ok ()) fw := by
  induction rs generalizing fw with
  | nil => exact wp_forEach_nil.mpr rfl
  | cons rule rs ih =>
    have hhead := hnew rule List.mem_cons_self
    have hold (old : Rule) (hmem : old ∈ fw.rules.rules) (hname : old.name = rule.name) : False :=
      hhead (OrderedRules.mem_names.mpr ⟨old, hmem, hname⟩)
    refine wp_forEach_cons.mpr (addRule_added (fun _ _ => trivial) fun x t ht => ?_)
    cases ht with
    | unnamed h => exact absurd h (hnamed rule List.mem_cons_self)
    | present h => exact (hold rule h rfl).elim
    | refused h =>
      obtain ⟨n, hn⟩ := callFails_fails h
      exact absurd hn (by simp [hadd n rule List.mem_cons_self])
    | replaced _ hmem hname | stuck _ hmem hname => exact (hold _ hmem hname).elim
    | new hn =>
      rw [List.map_cons, List.nodup_cons] at hnodup
      refine ih _ (fun x hx => hnamed x (List.mem_cons_of_mem _ hx)) hnodup.2 (fun x hx hin => ?_)
        fun n x hx => hadd n x (List.mem_cons_of_mem _ hx)
      rcases OrderedRules.mem_names_put (h := hn) |>.mp hin with hin | hsame
      · exact hnew x (List.mem_cons_of_mem _ hx) hin
      · exact hnodup.1 (hsame ▸ List.mem_map_of_mem hx)

/-- `Delete` only removes names, only the listed ones, and all of them if it
returns `nil`. -/
theorem delete_names (r : AgentEnv) (fw : Firewall) (ns : List String) :
    wp (delete ns) r any (fun x t =>
      (∀ n ∈ t.rules.names, n ∈ fw.rules.names) ∧
      (∀ n ∈ fw.rules.names, n ∉ ns → n ∈ t.rules.names) ∧
      (x = .ok () → ∀ n ∈ ns, n ∉ t.rules.names)) fw := by
  induction ns generalizing fw with
  | nil => exact wp_forEach_nil.mpr ⟨fun n hn => hn, fun n hn _ => hn, by simp⟩
  | cons name ns ih =>
    refine wp_forEach_cons.mpr (deleteRule_deleted (fun _ _ => trivial) fun x t ht => ?_)
    cases ht with
    | absent | refused => exact ⟨fun n hn => hn, fun n hn _ => hn, fun h => by cases h⟩
    | deleted _ _ _ hdel =>
      have hmem {n : String} := OrderedRules.mem_names_delete (n := n) hdel
      rw [onOk_ok]
      refine wp_post (ih _) fun x u hu => ?_
      obtain ⟨hsub, hkeep, hall⟩ := hu
      refine ⟨fun n hm => (hmem.mp (hsub n hm)).1, fun n hm hnot => ?_, fun hx => ?_⟩
      · rw [List.mem_cons, not_or] at hnot
        exact hkeep n (hmem.mpr ⟨hm, hnot.1⟩) hnot.2
      · exact List.forall_mem_cons.mpr ⟨fun hm => (hmem.mp (hsub name hm)).2 rfl, hall hx⟩

/-- A rule that the working agent refuses to delete stays in memory. -/
theorem keeps_refused {name : String}
    (h : ∀ n rule, rule.name = name → r.fails n .delete rule = true) :
    Keeps r any (fun fw => name ∈ fw.rules.names ∧ fw.current = .working)
      (delete ns) := by
  refine Keeps.forEach fun name' _ fw hI => ?_
  refine deleteRule_deleted (fun _ _ => trivial) fun x t ht => ?_
  cases ht with
  | absent => exact hI
  | refused => exact hI
  | deleted _ hrule hfails hdel =>
    have hne : name ≠ name' := by
      rintro rfl
      simp [callFails, hI.2, h _ _ hrule] at hfails
    exact ⟨(OrderedRules.mem_names_delete hdel).mpr ⟨hI.1, hne⟩, hI.2⟩

/-- Distinct names that are all in the memory are all deleted by an agent that
deletes their rules. -/
theorem delete_ok (fw : Firewall) (hnodup : ns.Nodup) (hmem : ∀ n ∈ ns, n ∈ fw.rules.names)
    (hdel : ∀ n rule, rule.name ∈ ns → r.fails n .delete rule = false) :
    wp (delete ns) r any (fun x _ => x = .ok ()) fw := by
  induction ns generalizing fw with
  | nil => exact wp_forEach_nil.mpr rfl
  | cons name ns ih =>
    rw [List.nodup_cons] at hnodup
    refine wp_forEach_cons.mpr (deleteRule_deleted (fun _ _ => trivial) fun x t ht => ?_)
    cases ht with
    | absent h => exact absurd (hmem name List.mem_cons_self) h
    | refused _ hname h =>
      obtain ⟨n, hn⟩ := callFails_fails h
      exact absurd hn (by simp [hdel n _ (List.mem_cons.mpr (.inl hname))])
    | deleted _ _ _ ht =>
      refine ih _ hnodup.2 (fun n hn => ?_) fun n rule h => hdel n rule (List.mem_cons_of_mem _ h)
      exact (OrderedRules.mem_names_delete ht).mpr
        ⟨hmem n (List.mem_cons_of_mem _ hn), fun h => hnodup.1 (h ▸ hn)⟩

/-- Moving the rules to another agent leaves the memory alone. -/
theorem keeps_swap (mem : OrderedRules) (current next : AgentId) :
    Keeps r (fun fw => fw.rules = mem) (fun fw => fw.rules = mem) (swap current next) := by
  have hcall (agent : AgentId) (op : AgentOp) (rule : Rule) :
      Keeps r (fun fw => fw.rules = mem) (fun fw => fw.rules = mem) (agentCall agent op rule) :=
    fun fw hfw => wp_agentCall.mpr ⟨hfw, hfw⟩
  exact Keeps.state.seq <| Keeps.forEach fun _ _ =>
    (hcall _ _ _).mapError.seq <| (hcall _ _ _).mapError

theorem keeps_enable (mem : OrderedRules) :
    Keeps r (fun fw => fw.rules = mem) (fun fw => fw.rules = mem) enable :=
  Keeps.state.seq <| (Keeps.fail _).ite
    (Keeps.bind (Keeps.update (fun _ => id) fun _ h => h) fun _ => keeps_swap mem _ _)

theorem keeps_disable (mem : OrderedRules) :
    Keeps r (fun fw => fw.rules = mem) (fun fw => fw.rules = mem) disable :=
  Keeps.state.seq <| Keeps.ite
    (Keeps.bind (Keeps.update (fun _ => id) fun _ h => h) fun _ => keeps_swap mem _ _)
    (Keeps.fail _)

end Lists

/-! ### Rules that come by -/

/-- Every rule in the memory and every rule an agent was called with satisfies `P`. -/
structure AllRules (P : Rule → Prop) (fw : Firewall) : Prop where
  memory : ∀ rule ∈ fw.rules.rules, P rule
  calls : ∀ call ∈ fw.calls, P call.rule

section AllRules

open Prog

variable {r : AgentEnv} {P : Rule → Prop} {rule : Rule} {fw : Firewall}

theorem AllRules.withMemory (h : fw.AllRules P) {mem : OrderedRules}
    (hmem : ∀ rule ∈ mem.rules, rule ∈ fw.rules.rules ∨ P rule) :
    ({ fw with rules := mem } : Firewall).AllRules P :=
  ⟨fun rule hrule => (hmem rule hrule).elim (h.memory rule) id, h.calls⟩

theorem AllRules.logged (h : fw.AllRules P) {call : AgentCall} (hP : P call.rule) :
    (fw.logged call).AllRules P :=
  ⟨h.memory, List.forall_mem_cons.mpr ⟨hP, h.calls⟩⟩

theorem AllRules.withRule (h : fw.AllRules P) (hP : P rule) (hname : rule.name ≠ "") :
    (fw.withRule rule hname).AllRules P := by
  refine (h.withMemory fun x hx => ?_).logged hP
  rcases List.mem_append.mp hx with hx | hx
  · exact .inl (List.mem_of_mem_eraseP hx)
  · exact .inr (List.mem_singleton.mp hx ▸ hP)

theorem allRules_add {rs : List Rule} (hrs : ∀ rule ∈ rs, P rule) :
    Keeps r any (AllRules P) (add rs) := by
  refine Keeps.forEach fun rule hrule fw h => addRule_added (fun _ _ => trivial) fun x t ht => ?_
  have hP := hrs rule hrule
  cases ht with
  | unnamed | present => exact h
  | refused => exact h.logged hP
  | new hname => exact h.withRule hP hname
  | replaced hname hmem | stuck hname hmem => exact (h.withRule hP hname).logged (h.memory _ hmem)

theorem allRules_delete (names : List String) : Keeps r any (AllRules P) (delete names) := by
  refine Keeps.forEach fun name _ fw h => deleteRule_deleted (fun _ _ => trivial) fun x t ht => ?_
  cases ht with
  | absent => exact h
  | refused hmem => exact h.logged (h.memory _ hmem)
  | deleted hmem _ _ hdel =>
    refine (h.withMemory fun x hx => .inl ?_).logged (h.memory _ hmem)
    rw [(OrderedRules.delete_ok hdel).2] at hx
    exact List.mem_of_mem_eraseP hx

theorem allRules_agentCall (agent : AgentId) (op : AgentOp) (hP : P rule) :
    Keeps r any (AllRules P) (agentCall agent op rule) := fun _ h =>
  wp_agentCall.mpr ⟨trivial, h.logged hP⟩

theorem allRules_swap (current next : AgentId) :
    Keeps r any (AllRules P) (swap current next) := fun fw h =>
  wp_bind.mpr (wp_state.mpr ((Keeps.forEach fun rule hrule =>
    (allRules_agentCall current .delete (h.memory rule hrule)).mapError.seq <|
      (allRules_agentCall next .add (h.memory rule hrule)).mapError) fw h))

theorem allRules_enable : Keeps r any (AllRules P) enable :=
  Keeps.state.seq <| (Keeps.fail _).ite
    ((Keeps.assign fun _ h => ⟨h.memory, h.calls⟩).seq <| allRules_swap _ _)

theorem allRules_disable : Keeps r any (AllRules P) disable :=
  Keeps.state.seq <| Keeps.ite
    ((Keeps.assign fun _ h => ⟨h.memory, h.calls⟩).seq <| allRules_swap _ _) (Keeps.fail _)

end AllRules

end Firewall

end NordVPN
