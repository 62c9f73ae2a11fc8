import NordVPN.Firewall.Kernel

/-!
Deleting the lines of a rule when some of them are gone.

`applyRule` takes the complaint about a line that does not exist for the end of its work and returns
without an error. The lines of the rule that come after the missing one stay in the kernel.
-/

namespace NordVPN

open Prog

/-- The chains without one copy of each of the lines. -/
def Chains.without (k : Chains) (lines : List (IPTable × String)) : Chains := fun table chain =>
  (k table chain).diff (linesAt lines table chain)

/-- The line is in its chain. -/
def Chains.Has (k : Chains) (x : IPTable × String) : Prop := x.2 ∈ k x.1 (chainOf x.2)

/-- If the lines before `x` can all be deleted and `x` is then missing, so is every line after it.
-/
def NoneAfterGap (r : CommandEnv) (k : Chains) (lines : List (IPTable × String)) : Prop :=
  ∀ before x after, lines = before ++ x :: after →
    (∀ y ∈ before ++ [x], r.fails .delete y.1 y.2 = false) →
    (∀ table chain, (linesAt before table chain).Subperm (k table chain)) →
    ¬ (k.without before).Has x → ∀ y ∈ after, ¬ (k.without before).Has y

section

variable {r : CommandEnv} {k : Chains} {x : IPTable × String} {lines rest : List (IPTable × String)}

theorem Chains.without_cons : k.without (x :: rest) = (k.remove x.1 x.2).without rest := by
  funext table chain
  rw [Chains.without, Chains.without, Chains.remove, linesAt_cons]
  split
  · rw [List.diff_cons]
  · rfl

/-- Deleting lines that are not there changes nothing. -/
theorem Chains.without_eq_self : k.without lines = k ↔ ∀ y ∈ lines, ¬ k.Has y := by
  constructor
  · intro h y hy hhas
    have hat : y.2 ∈ linesAt lines y.1 (chainOf y.2) :=
      List.mem_map.mpr ⟨y, List.mem_filter.mpr ⟨hy, by simp⟩, rfl⟩
    have hcount := congrArg (List.count y.2) (congrFun₂ h y.1 (chainOf y.2))
    rw [Chains.without, List.count_diff] at hcount
    have hthere := List.count_pos_iff.mpr hhas
    have hdeleted := List.count_pos_iff.mpr hat
    omega
  · intro h
    funext table chain
    have hdisjoint : ∀ line ∈ linesAt lines table chain, line ∉ k table chain := by
      intro line hline
      obtain ⟨y, hfilter, rfl⟩ := List.mem_map.mp hline
      obtain ⟨hy, hat⟩ := List.mem_filter.mp hfilter
      obtain ⟨rfl, rfl⟩ := of_decide_eq_true hat
      exact h y hy
    have hdiff : (k table chain ++ []).diff (linesAt lines table chain) =
        k table chain ++ List.diff [] (linesAt lines table chain) :=
      append_diff_of_disjoint hdisjoint
    rw [List.append_nil, List.nil_diff, List.append_nil] at hdiff
    exact hdiff

/-! ### The first line decides -/

theorem noneAfterGap_cons_of_fails (h : r.fails .delete x.1 x.2 = true) :
    NoneAfterGap r k (x :: rest) := by
  intro before z after hsplit hruns
  have hmem : x ∈ before ++ [z] := by
    cases before with
    | nil =>
      obtain ⟨rfl, -⟩ := List.cons.inj hsplit
      exact List.mem_singleton_self _
    | cons y before =>
      obtain ⟨rfl, -⟩ := List.cons.inj hsplit
      exact List.mem_cons_self
  rw [hruns x hmem] at h
  cases h

theorem noneAfterGap_cons_of_missing (hruns : r.fails .delete x.1 x.2 = false) (h : ¬ k.Has x) :
    NoneAfterGap r k (x :: rest) ↔ ∀ y ∈ rest, ¬ k.Has y := by
  constructor
  · intro hgap
    apply hgap [] x rest rfl
    · rwa [List.nil_append, List.forall_mem_singleton]
    · intro table chain
      exact List.nil_subperm
    · exact h
  · intro hrest before z after hsplit _ hthere _
    cases before with
    | nil =>
      obtain ⟨-, rfl⟩ := List.cons.inj hsplit
      exact hrest
    | cons y before =>
      obtain ⟨rfl, -⟩ := List.cons.inj hsplit
      refine absurd ((hthere x.1 (chainOf x.2)).subset ?_) h
      rw [linesAt_cons, if_pos ⟨rfl, rfl⟩]
      exact List.mem_cons_self

/-- The lines before a gap, with and without a first one that is there. -/
theorem subperm_cons_iff (h : k.Has x) :
    (∀ table chain, (linesAt (x :: rest) table chain).Subperm (k table chain)) ↔
      ∀ table chain, (linesAt rest table chain).Subperm (k.remove x.1 x.2 table chain) := by
  apply forall₂_congr
  intro table chain
  rw [linesAt_cons, Chains.remove]
  split
  · rename_i hsame
    obtain ⟨rfl, rfl⟩ := hsame
    rw [(List.perm_cons_erase h).subperm_left, List.subperm_cons]
  · rfl

theorem noneAfterGap_cons_of_has (hruns : r.fails .delete x.1 x.2 = false) (h : k.Has x) :
    NoneAfterGap r k (x :: rest) ↔ NoneAfterGap r (k.remove x.1 x.2) rest := by
  constructor
  · intro hgap before z after hsplit hbefore hthere hmissing
    rw [← Chains.without_cons] at hmissing ⊢
    apply hgap (x :: before) z after
    · rw [hsplit, List.cons_append]
    · rw [List.cons_append, List.forall_mem_cons]
      exact ⟨hruns, hbefore⟩
    · exact (subperm_cons_iff h).mpr hthere
    · exact hmissing
  · intro hgap before z after hsplit hbefore hthere hmissing
    cases before with
    | nil =>
      obtain ⟨rfl, -⟩ := List.cons.inj hsplit
      exact absurd h hmissing
    | cons y before =>
      obtain ⟨rfl, hrest⟩ := List.cons.inj hsplit
      rw [Chains.without_cons] at hmissing ⊢
      rw [List.cons_append, List.forall_mem_cons] at hbefore
      exact hgap before z after hrest hbefore.2 ((subperm_cons_iff h).mp hthere) hmissing

/-- The loops delete all that is there, unless they meet a gap before a line that is there. -/
theorem wp_applyLines_delete_iff (lines : List (IPTable × String)) (k : Chains) :
    wp (applyLines .delete lines) r any (fun x k' => x = .ok () → k' = k.without lines) k ↔
      NoneAfterGap r k lines := by
  induction lines generalizing k with
  | nil =>
    rw [applyLines, wp_pure]
    refine iff_of_true (fun _ => rfl) ?_
    intro before x after hsplit
    exact absurd hsplit.symm (List.append_ne_nil_of_right_ne_nil _ (List.cons_ne_nil _ _))
  | cons x rest ih =>
    obtain ⟨table, line⟩ := x
    simp only [applyLines, execute, wp_bind, wp_env, wp_state, onOk_ok]
    by_cases hfails : r.fails .delete table line = true
    · simp only [hfails, if_true, wp_pure, onOk_ok, wp_fail]
      exact iff_of_true (fun h => by cases h) (noneAfterGap_cons_of_fails hfails)
    · have hruns : r.fails .delete (table, line).1 (table, line).2 = false :=
        Bool.eq_false_iff.mpr hfails
      rw [if_neg hfails]
      by_cases hhas : k.Has (table, line)
      · have hmem : line ∈ k table (chainOf line) := hhas
        rw [noneAfterGap_cons_of_has hruns hhas, ← ih, Chains.without_cons]
        simp only [if_pos hmem, wp_bind, wp_update, wp_pure, onOk_ok, true_and]
      · have hmem : line ∉ k table (chainOf line) := hhas
        rw [noneAfterGap_cons_of_missing hruns hhas]
        simp only [if_neg hmem, wp_pure, onOk_ok, forall_const]
        rw [eq_comm, Chains.without_eq_self, List.forall_mem_cons, and_iff_right hhas]

end

/-! ### Deleting a rule -/

namespace IPTables

/-- If `Delete` returns without an error, then one copy of each line of the rule that was there is
gone from its chain, and nothing else has changed: exactly when no line of the rule that is there
comes after one that is missing. -/
theorem delete_removes_all_iff (ipt : IPTables) (rule : Rule) (r : CommandEnv) (k : Chains) :
    ((ipt.applyRule rule .delete r k).result = .ok () →
      ∀ table chain, (ipt.applyRule rule .delete r k).final table chain =
        (k table chain).diff (ipt.ruleLines rule table chain)) ↔
      NoneAfterGap r k (ipt.lines rule) := by
  rw [← wp_applyLines_delete_iff]
  constructor
  · intro h
    exact ⟨fun _ _ => trivial, fun hok => funext₂ (h hok)⟩
  · intro h hok table chain
    exact congrFun₂ (h.2 hok) table chain

/-- The line for the first interface was removed by someone else; the one for the second stays. -/
theorem delete_stops_at_missing_line :
    (onlyIPv4.applyRule allowTwo .delete working fun _ _ => [otherLine]).result = .ok () ∧
      (onlyIPv4.applyRule allowTwo .delete working fun _ _ => [otherLine]).final .ipv4 "INPUT" =
        [otherLine] ∧
      onlyIPv4.ruleLines allowTwo .ipv4 "INPUT" = [allowLine, otherLine] := by
  decide

end IPTables

end NordVPN
