import NordVPN.Firewall.Agents
import NordVPN.Firewall.Iptables

/-!
The rules that let a lookup through (`network/resolver.go`).

A lookup adds a rule, asks and deletes the rule again. Asking does not touch the firewall, and the
error of the deletion is dropped. The texts around the errors are left out.
-/

namespace NordVPN.Firewall

open NordVPN.Netip Prog

/-- `ResolveWithNameservers`, or the `Resolve` of `PingConnectionChecker`. -/
inductive Lookup where
  | dns (nameservers : List Addr)
  | ping (endpointIP : Addr)

namespace Lookup

def name : Lookup → String
  | dns _ => "allow_dns"
  | ping _ => "allow_ping"

def ips : Lookup → List Addr
  | dns nameservers => nameservers
  | ping endpointIP => [endpointIP]

/-- The rule of `allowlistIP`. -/
def rule (l : Lookup) (ifaces : List Interface) : Rule :=
  { name := l.name, remoteNetworks := l.ips.map .single, interfaces := ifaces,
    direction := .twoWay, allow := true }

end Lookup

/-- A lookup with the interfaces that are listed, its answer and what the agent does. -/
structure LookupCall where
  lookup : Lookup
  listPhysical : Except Error (List Interface) := .ok []
  answer : Except Error (List Addr) := .ok []
  env : AgentEnv := working

namespace LookupCall

/-- What a call returns once its rule is added, with the dropped result of the deferred `Delete`. -/
def exec (c : LookupCall) : Fw (Except Error (List Addr) × Except Error Unit) := do
  match c.listPhysical with
  | .error e => fail e
  | .ok ifaces => addRule (c.lookup.rule ifaces)
  let removed ← attempt (deleteRule c.lookup.name)
  return (c.answer, removed)

def run (fw : Firewall) (c : LookupCall) := c.exec c.env fw

end LookupCall

/-- The rule lets traffic of the address through. -/
def accepts (rule : Rule) (a : Addr) : Prop :=
  ∃ p ∈ (generateNonEmptyRule rule).remoteNetworks, p = .zero ∨ p.contains a = true

/-- There are addresses, and they are valid. A rule of that name that is left over is another one,
and the agent deletes it. -/
structure Fresh (fw : Firewall) (c : LookupCall) : Prop where
  some : c.lookup.ips ≠ []
  valid : ∀ ip ∈ c.lookup.ips, ip.isValid = true
  other : ∀ ifaces, c.listPhysical = .ok ifaces → c.lookup.rule ifaces ∉ fw.rules.rules
  replaced : ∀ old ∈ fw.rules.rules, old.name = c.lookup.name →
    ∀ n, c.env.fails n .delete old = false

/-- The working agent holds no rule that is not in memory. -/
def Kept (fw : Firewall) : Prop :=
  match fw.current with
  | .working => fw.held ≤ fw.rules.rules
  | .noop => fw.held = 0

theorem eq_of_contains_single {ip a : Addr} (h : (Prefix.single ip).contains a = true) :
    a = ip := by
  cases ip <;> cases a <;>
    simp_all [Prefix.single, Prefix.ofAddr, Prefix.contains, Prefix.bits, Prefix.isValid,
      Addr.isValid, Addr.bitLen]
  · exact (BitVec.eq_of_toNat_eq h).symm
  · exact (BitVec.eq_of_toNat_eq h).symm

section

variable {r : AgentEnv} {fw : Firewall}

theorem kept_addRule {rule : Rule} (h : Kept fw) (hname : rule.name ≠ "")
    (hother : rule ∉ fw.rules.rules)
    (hdelete : ∀ old ∈ fw.rules.rules, old.name = rule.name → ∀ n, r.fails n .delete old = false) :
    wp (addRule rule) r any (fun x t => Kept t ∧ (Succeeds r → x = .ok ())) fw := by
  refine addRule_added (fun _ _ => trivial) fun x t ht => ?_
  obtain ⟨mem, current, enabled, calls⟩ := fw
  cases ht with
  | unnamed hunnamed => exact absurd hunnamed hname
  | present hmem => exact absurd hmem hother
  | stuck _ hmem hold hn => exact absurd hn (by simp [hdelete _ hmem hold])
  | refused hfails =>
    refine ⟨by cases current <;> exact h, fun hr => ?_⟩
    simp [callFails, hr _ _ _] at hfails
  | new _ habsent =>
    refine ⟨?_, fun _ => rfl⟩
    cases current with
    | noop => exact h
    | working =>
      change rule ::ₘ held ⟨mem, .working, enabled, calls⟩ ≤ ↑(mem.cut rule.name ++ [rule])
      rw [cut_of_not_mem habsent, coe_append_singleton]
      exact Multiset.cons_le_cons rule h
  | @replaced _ old hmem hold =>
    refine ⟨?_, fun _ => rfl⟩
    cases current with
    | noop => exact h
    | working =>
      have hne : rule ≠ old := fun h => hother (h ▸ hmem)
      change (rule ::ₘ held ⟨mem, .working, enabled, calls⟩).erase old ≤
        ↑(mem.cut rule.name ++ [rule])
      rw [← hold, cut_of_mem hmem, coe_append_singleton, ← Multiset.coe_erase,
        ← Multiset.erase_cons_tail _ hne]
      exact Multiset.erase_le_erase old (Multiset.cons_le_cons rule h)

theorem kept_deleteRule {name : String} (h : Kept fw) :
    wp (deleteRule name) r any (fun x t => Kept t ∧ (x = .ok () → name ∉ t.rules.names)) fw := by
  refine deleteRule_deleted (fun _ _ => trivial) fun x t ht => ?_
  obtain ⟨mem, current, enabled, calls⟩ := fw
  cases ht with
  | absent => exact ⟨h, by simp⟩
  | refused => cases current <;> exact ⟨h, by simp⟩
  | @deleted rule mem' hmem hname _ hdel =>
    refine ⟨?_, fun _ hin => ((OrderedRules.mem_names_delete hdel).mp hin).2 rfl⟩
    cases current with
    | noop => exact h
    | working =>
      change (held ⟨mem, .working, enabled, calls⟩).erase rule ≤ mem'.rules
      rw [(OrderedRules.delete_ok hdel).2, ← hname, cut_of_mem hmem, ← Multiset.coe_erase]
      exact Multiset.erase_le_erase rule h

theorem Kept.mem_names (h : Kept fw) {rule : Rule} (hrule : rule ∈ fw.held) :
    rule.name ∈ fw.rules.names := by
  unfold Kept at h
  split at h
  · exact OrderedRules.mem_names.mpr ⟨rule, Multiset.mem_of_le h hrule, rfl⟩
  · simp [h] at hrule

end

section Run

variable {fw : Firewall} {c : LookupCall}

theorem Fresh.run (hc : Fresh fw c) (h : Kept fw) :
    wp c.exec c.env any (fun x t => Kept t ∧
      (x = .ok (c.answer, .ok ()) → c.lookup.name ∉ t.rules.names) ∧
      ((∃ ifaces, c.listPhysical = .ok ifaces) → Succeeds c.env → ∃ y, x = .ok y)) fw := by
  have hname : c.lookup.name ≠ "" := by cases c.lookup <;> simp [Lookup.name]
  unfold LookupCall.exec
  cases hlist : c.listPhysical with
  | error e => exact wp_bind.mpr (wp_fail.mpr ⟨h, by simp, by simp⟩)
  | ok ifaces =>
    refine wp_seq (kept_addRule h hname (hc.other ifaces hlist) hc.replaced) (fun _ t ht => ?_)
      fun e t ht => ?_
    · refine wp_bind.mpr (wp_attempt.mpr (wp_post (kept_deleteRule ht.1) fun x u hu => ?_))
      rw [onOk_ok, wp_pure]
      exact ⟨hu.1, fun hx => hu.2 (by simpa using hx), fun _ _ => ⟨_, rfl⟩⟩
    · exact ⟨ht.1, by simp, fun _ hr => by cases ht.2 hr⟩

theorem Fresh.mem_ips (hc : Fresh fw c) {ifaces : List Interface} {a : Addr}
    (h : accepts (c.lookup.rule ifaces) a) : a ∈ c.lookup.ips := by
  obtain ⟨p, hp, hpa⟩ := h
  have hips : (generateNonEmptyRule (c.lookup.rule ifaces)).remoteNetworks =
      c.lookup.ips.map .single := by
    have hsome := hc.some
    simp only [generateNonEmptyRule, Lookup.rule]
    cases hips : c.lookup.ips with
    | nil => exact absurd hips hsome
    | cons ip ips => rfl
  rw [hips] at hp
  obtain ⟨ip, hip, rfl⟩ := List.mem_map.mp hp
  have hne := Prefix.single_ne_zero (hc.valid ip hip)
  exact eq_of_contains_single (hpa.resolve_left hne) ▸ hip

/-- In a run of such calls a rule accepts only traffic of the listed addresses, none is left where
the deletion succeeds, and a call whose interfaces are listed fails only if the agent does. -/
theorem fresh_run_scoped {enabled : Bool}
    (h : Reaches (fun fw c => (LookupCall.run fw c).final) Fresh (newFirewall enabled) fw)
    (hc : Fresh fw c) :
    (∀ ifaces a, accepts (c.lookup.rule ifaces) a → a ∈ c.lookup.ips) ∧
      ((c.run fw).result = .ok (c.answer, .ok ()) →
        c.lookup.name ∉ (c.run fw).final.rules.names ∧
        ∀ rule ∈ (c.run fw).final.held, rule.name ≠ c.lookup.name) ∧
      ((∃ ifaces, c.listPhysical = .ok ifaces) → Succeeds c.env →
        ∃ removed, (c.run fw).result = .ok removed) := by
  have hstart : Kept (newFirewall enabled) := by
    cases enabled with
    | false => exact rfl
    | true => exact Multiset.zero_le _
  have hkept : Kept fw := h.invariant hstart fun fw c hfw hc => (hc.run hfw).2.1
  obtain ⟨hkept', hgone, hok⟩ := (hc.run hkept).2
  refine ⟨fun _ a => hc.mem_ips, fun hx => ⟨hgone hx, fun rule hrule hname => ?_⟩, hok⟩
  exact hgone hx (hname ▸ hkept'.mem_names hrule)

end Run

/-- Agents that do not delete. -/
def undeleting : AgentEnv := ⟨fun _ op _ => op == .delete⟩

/-- The firewall after a lookup whose rule is not deleted. -/
def leftover : Firewall :=
  (LookupCall.run (newFirewall true) { lookup := .dns [.v4 1], env := undeleting }).final

theorem replacing_run_scoped :
    ∃ removed, (LookupCall.run leftover { lookup := .dns [.v4 2] }).result = .ok removed := by
  have hfirst : Fresh (newFirewall true) { lookup := .dns [.v4 1], env := undeleting } :=
    ⟨by decide, by decide, fun _ _ => List.not_mem_nil, fun _ h => absurd h List.not_mem_nil⟩
  have hnext : Fresh leftover { lookup := .dns [.v4 2] } :=
    ⟨by decide, by decide, by rintro _ ⟨⟩; decide, fun _ _ _ _ => rfl⟩
  exact (fresh_run_scoped (.tail _ .refl hfirst) hnext).2.2 ⟨_, rfl⟩ working_succeeds

/-- Without nameservers all traffic is accepted. A rule that could not be deleted makes the same
call fail, and it stays. -/
theorem leftover_rule_fails :
    accepts (Lookup.rule (.dns []) []) (.v4 7) ∧
      (LookupCall.run leftover { lookup := .dns [.v4 1] }).result =
        .error (.sentinel .ruleAlreadyExists) ∧
      (LookupCall.run leftover { lookup := .dns [.v4 1] }).final.rules.names = ["allow_dns"] :=
  ⟨⟨.zero, by decide, .inl rfl⟩, by decide, by decide⟩

end NordVPN.Firewall
