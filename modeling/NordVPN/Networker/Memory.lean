import NordVPN.Networker.Frame

/-!
What `netw.fw.Add` and `netw.fw.Delete` do to the names in the firewall's memory,
from the point of view of `Combined`.
-/

namespace NordVPN.Networker

open Prog

variable {r : Env} {w : World} {Q : Except Error Unit → World → Prop}

/-- Nothing is known of the states in between. -/
theorem wp_firewall {m : Fw Unit} :
    wp (firewall m) r any Q w ↔
      wp m r.agent any (fun x t => Q x (w.withFw t)) w.fw :=
  wp_zoom

/-- `Add` of one rule, outcome by outcome: an equal rule is there, the agent refuses
the rule, it is added, or an older version of it cannot be taken back. -/
theorem wp_fwAdd_one {rule : Rule} (hnamed : rule.name ≠ "")
    (present : rule.name ∈ w.names → Q (.error (.sentinel .ruleAlreadyExists)) w)
    (refused : ∀ (t : Firewall) text n, r.agent.fails n .add rule = true →
      t.rules = w.fw.rules → Q (.error (.wrap text (.external "firewall agent"))) (w.withFw t))
    (added : ∀ t : Firewall, (∀ n, n ∈ t.rules.names ↔ n ∈ w.names ∨ n = rule.name) →
      Q (.ok ()) (w.withFw t))
    (stuck : ∀ (t : Firewall) text old n, rule.name ∈ w.names →
      r.agent.fails n .delete old = true → (∀ n, n ∈ t.rules.names ↔ n ∈ w.names) →
      Q (.error (.wrap text (.external "firewall agent"))) (w.withFw t)) :
    wp (fwAdd [rule]) r any Q w := by
  refine wp_firewall.mpr (wp_forEach_cons.mpr
    (Firewall.addRule_added (fun _ _ => trivial) fun x t ht => ?_))
  cases ht with
  | unnamed h => exact absurd h hnamed
  | present h => exact present (OrderedRules.mem_names.mpr ⟨rule, h, rfl⟩)
  | refused h =>
    obtain ⟨n, hn⟩ := Firewall.callFails_fails h
    exact refused _ _ n hn rfl
  | new hn | replaced hn =>
    rw [onOk_ok, wp_forEach_nil]
    exact added _ fun n => OrderedRules.mem_names_put (h := hn)
  | @stuck hn old n hold hname hfails =>
    have hmem : rule.name ∈ w.names := OrderedRules.mem_names.mpr ⟨old, hold, hname⟩
    refine stuck _ _ old n hmem hfails fun n => (OrderedRules.mem_names_put (h := hn)).trans ?_
    exact or_iff_left_of_imp fun h => h ▸ hmem

/-- `Add` of a rule whose name is free: the agent refuses it or it is added. -/
theorem wp_fwAdd_fresh {rule : Rule} (hnamed : rule.name ≠ "") (hfresh : rule.name ∉ w.names)
    (refused : ∀ (e : Error) (t : Firewall) n, r.agent.fails n .add rule = true →
      t.rules = w.fw.rules → Q (.error e) (w.withFw t))
    (added : ∀ t : Firewall, (∀ n, n ∈ t.rules.names ↔ n ∈ w.names ∨ n = rule.name) →
      Q (.ok ()) (w.withFw t)) :
    wp (fwAdd [rule]) r any Q w :=
  wp_fwAdd_one hnamed (fun h => absurd h hfresh) (fun t _ n hn ht => refused _ t n hn ht) added
    fun _ _ _ _ h _ _ => absurd h hfresh

/-- Rules are added one by one. -/
theorem wp_fwAdd_cons {rule : Rule} {rs : List Rule}
    (h : wp (fwAdd [rule]) r any
      (onOk Q fun _ t => wp (fwAdd rs) r any Q t) w) :
    wp (fwAdd (rule :: rs)) r any Q w := by
  have h := wp_forEach_cons.mp (wp_firewall.mp h)
  refine wp_firewall.mpr (wp_forEach_cons.mpr (wp_post h fun x t ht => ?_))
  cases x with
  | error e => exact ht
  | ok u =>
    rw [onOk_ok, wp_forEach_nil, onOk_ok] at ht
    exact wp_firewall.mp ht

/-- `Add` of rules with free and distinct names, by an agent that adds them. -/
theorem wp_fwAdd_all {rs : List Rule} (hnamed : ∀ rule ∈ rs, rule.name ≠ "")
    (hnodup : (rs.map Rule.name).Nodup) (hfresh : ∀ rule ∈ rs, rule.name ∉ w.names)
    (hagent : ∀ n, ∀ rule ∈ rs, r.agent.fails n .add rule = false)
    (added : ∀ t : Firewall, (∀ n, n ∈ t.rules.names ↔ n ∈ w.names ∨ n ∈ rs.map Rule.name) →
      Q (.ok ()) (w.withFw t)) :
    wp (fwAdd rs) r any Q w := by
  refine wp_firewall.mpr (wp_post (wp_both (Firewall.add_names r.agent w.fw rs)
    (Firewall.add_ok w.fw hnamed hnodup hfresh hagent)) ?_)
  rintro x t ⟨⟨hsub, hkeep, hall⟩, rfl⟩
  refine added t fun n => ⟨hsub n, ?_⟩
  rintro (hn | hn)
  · exact hkeep n hn
  · exact hall rfl n hn

/-- `Add` by an agent that works: it fails on a name in the memory only. -/
theorem wp_fwAdd_working {rs : List Rule} (hagent : ∀ n op rule, r.agent.fails n op rule = false)
    (hnamed : ∀ rule ∈ rs, rule.name ≠ "") (hnodup : (rs.map Rule.name).Nodup) :
    wp (fwAdd rs) r any (fun x t => t.netw = w.netw ∧
      (x = .ok () ∨ x = .error (.sentinel .ruleAlreadyExists) ∧
        ∃ n ∈ rs.map Rule.name, n ∈ w.names))
      w := by
  induction rs generalizing w with
  | nil => exact wp_firewall.mpr (wp_forEach_nil.mpr ⟨rfl, .inl rfl⟩)
  | cons rule rs ih =>
    rw [List.forall_mem_cons] at hnamed
    rw [List.map_cons, List.nodup_cons] at hnodup
    refine wp_fwAdd_cons (wp_fwAdd_one hnamed.1
      (fun h => ⟨rfl, .inr ⟨rfl, rule.name, List.mem_cons_self, h⟩⟩)
      (fun _ _ n hn _ => absurd hn (by simp [hagent])) (fun t ht => ?_)
      fun _ _ _ n _ hn _ => absurd hn (by simp [hagent]))
    rw [onOk_ok]
    refine wp_post (ih hnamed.2 hnodup.2) ?_
    rintro x u ⟨hu, rfl | ⟨rfl, n, hn, hmem⟩⟩
    · exact ⟨hu, .inl rfl⟩
    · refine ⟨hu, .inr ⟨rfl, n, List.mem_cons_of_mem _ hn, ?_⟩⟩
      rcases (ht n).mp hmem with hmem | rfl
      · exact hmem
      · exact absurd hn hnodup.1

/-- `Delete` of a name in the memory: the agent refuses or the name is gone. -/
theorem wp_fwDelete_one {name : String} (hmem : name ∈ w.names)
    (refused : ∀ (t : Firewall) text (rule : Rule) n, rule.name = name →
      r.agent.fails n .delete rule = true → t.rules = w.fw.rules →
      Q (.error (.wrap text (.external "firewall agent"))) (w.withFw t))
    (deleted : ∀ t : Firewall, (∀ n, n ∈ t.rules.names ↔ n ∈ w.names ∧ n ≠ name) →
      Q (.ok ()) (w.withFw t)) :
    wp (fwDelete [name]) r any Q w := by
  refine wp_firewall.mpr (wp_forEach_cons.mpr
    (Firewall.deleteRule_deleted (fun _ _ => trivial) fun x t ht => ?_))
  cases ht with
  | absent h => exact absurd hmem h
  | refused _ hname h =>
    obtain ⟨n, hn⟩ := Firewall.callFails_fails h
    exact refused _ _ _ n hname hn rfl
  | deleted _ _ _ ht =>
    rw [onOk_ok, wp_forEach_nil]
    exact deleted _ fun n => OrderedRules.mem_names_delete ht

/-- `Delete` of a name that is not in the memory. -/
theorem wp_fwDelete_absent {name : String} (hmem : name ∉ w.names)
    (absent : Q (.error (.wrap ("getting " ++ name) (.sentinel .ruleNotFound))) w) :
    wp (fwDelete [name]) r any Q w := by
  refine wp_firewall.mpr (wp_forEach_cons.mpr
    (Firewall.deleteRule_deleted (fun _ _ => trivial) fun x t ht => ?_))
  cases ht with
  | absent => exact absent
  | refused hrule hname | deleted hrule hname =>
    exact absurd (OrderedRules.mem_names.mpr ⟨_, hrule, hname⟩) hmem

/-- `Delete` of distinct names that are all in the memory, by an agent that deletes
their rules. -/
theorem wp_fwDelete_all {names : List String} (hnodup : names.Nodup)
    (hmem : ∀ n ∈ names, n ∈ w.names)
    (hagent : ∀ n rule, rule.name ∈ names → r.agent.fails n .delete rule = false)
    (deleted : ∀ t : Firewall, (∀ n, n ∈ t.rules.names ↔ n ∈ w.names ∧ n ∉ names) →
      Q (.ok ()) (w.withFw t)) :
    wp (fwDelete names) r any Q w := by
  refine wp_firewall.mpr (wp_post (wp_both (Firewall.delete_names r.agent w.fw names)
    (Firewall.delete_ok w.fw hnodup hmem hagent)) ?_)
  rintro x t ⟨⟨hsub, hkeep, hall⟩, rfl⟩
  exact deleted t fun n => ⟨fun hn => ⟨hsub n hn, fun h => hall rfl n h hn⟩,
    fun hn => hkeep n hn.1 hn.2⟩

/-! ### Names that other rules do not touch -/

/-- `Add` changes no name but those of its rules. -/
theorem fwAdd_frame (rs : List Rule) (w : World) :
    wp (fwAdd rs) r any (fun _ t => (∃ fw, t = w.withFw fw) ∧
      ∀ n, n ∉ rs.map Rule.name → (n ∈ t.names ↔ n ∈ w.names)) w := by
  refine wp_firewall.mpr (wp_post (Firewall.add_names r.agent w.fw rs) ?_)
  rintro x t ⟨hsub, hkeep, _⟩
  exact ⟨⟨t, rfl⟩, fun n hn => ⟨fun h => (hsub n h).resolve_right hn, hkeep n⟩⟩

/-- `Delete` changes no name but the given ones. -/
theorem fwDelete_frame (names : List String) (w : World) :
    wp (fwDelete names) r any (fun _ t => (∃ fw, t = w.withFw fw) ∧
      ∀ n, n ∉ names → (n ∈ t.names ↔ n ∈ w.names)) w := by
  refine wp_firewall.mpr (wp_post (Firewall.delete_names r.agent w.fw names) ?_)
  rintro x t ⟨hsub, hkeep, _⟩
  exact ⟨⟨t, rfl⟩, fun n hn => ⟨hsub n, fun h => hkeep n h hn⟩⟩

/-- An invariant that reads the memory but not the log of agent calls is kept by
procedures that leave the memory alone. -/
theorem keeps_firewall_memory {A I : World → Prop} {m : Fw Unit} (seen : ∀ w, I w → A w)
    (hI : ∀ w fw, I w → fw.rules = w.fw.rules → I (w.withFw fw))
    (hm : ∀ mem, Keeps r.agent (fun fw => fw.rules = mem) (fun fw => fw.rules = mem) m) :
    Keeps r A I (firewall m) := fun w hw =>
  wp_zoom.mpr (wp_mono (hm w.fw.rules w.fw rfl) (fun t ht => seen _ (hI w t hw ht))
    fun _ t ht => hI w t hw ht)

end NordVPN.Networker
