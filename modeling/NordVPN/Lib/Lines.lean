import Mathlib.Data.List.DropRight

/-!
Lines of a text, and trimming.

A text is a list of characters, or of anything else; its lines are the parts between the separators.
`List.splitOn` and `List.intercalate` take it apart and put it together.
-/

namespace Lines

variable {α : Type}

/-! ### Splitting -/

section Splitting

variable [DecidableEq α] {sep : α}

theorem splitOn_append_cons (xs ys : List α) :
    (xs ++ sep :: ys).splitOn sep = xs.splitOn sep ++ ys.splitOn sep :=
  List.splitOnP_append_cons xs ys (beq_self_eq_true sep)

/-- The last line of a text, and what stands before it. -/
theorem exists_last_line (sep : α) (text : List α) :
    ∃ before line, text = before ++ line ∧ sep ∉ line ∧
      (before = [] ∨ ∃ xs, before = xs ++ [sep]) := by
  induction text using List.reverseRecOn with
  | nil => exact ⟨[], [], rfl, List.not_mem_nil, .inl rfl⟩
  | append_singleton text c ih =>
    obtain ⟨before, line, rfl, hline, hbefore⟩ := ih
    by_cases hc : c = sep
    · exact ⟨before ++ line ++ [c], [], by simp, List.not_mem_nil,
        .inr ⟨before ++ line, by rw [hc]⟩⟩
    · refine ⟨before, line ++ [c], by simp, ?_, hbefore⟩
      rw [List.mem_append, List.mem_singleton, not_or]
      exact ⟨hline, fun h => hc h.symm⟩

/-- A line is a part without separators, between the ends of the text or separators. -/
theorem mem_splitOn_iff {text line : List α} :
    line ∈ text.splitOn sep ↔ sep ∉ line ∧ ∃ before after, text = before ++ line ++ after ∧
      (before = [] ∨ ∃ xs, before = xs ++ [sep]) ∧ (after = [] ∨ ∃ ys, after = sep :: ys) := by
  constructor
  · intro hline
    induction hlength : text.length using Nat.strong_induction_on generalizing text with
    | h length ih =>
      by_cases hmem : sep ∈ text
      · -- the part before the first separator is a line, the others are lines of the rest
        obtain ⟨first, rest, rfl, hfirst⟩ := List.eq_append_cons_of_mem hmem
        rw [splitOn_append_cons, List.splitOn_eq_singleton hfirst] at hline
        rcases List.mem_cons.mp hline with rfl | hline
        · exact ⟨hfirst, [], sep :: rest, by simp, .inl rfl, .inr ⟨rest, rfl⟩⟩
        · rw [List.length_append, List.length_cons] at hlength
          obtain ⟨hsep, before, after, rfl, hbefore, hafter⟩ := ih rest.length (by omega) hline rfl
          refine ⟨hsep, first ++ sep :: before, after, by simp, .inr ?_, hafter⟩
          rcases hbefore with rfl | ⟨xs, rfl⟩
          · exact ⟨first, rfl⟩
          · exact ⟨first ++ sep :: xs, by simp⟩
      · rw [List.splitOn_eq_singleton hmem, List.mem_singleton] at hline
        subst hline
        exact ⟨hmem, [], [], by simp, .inl rfl, .inl rfl⟩
  · rintro ⟨hsep, before, after, rfl, hbefore, hafter⟩
    have hrest : line ∈ (line ++ after).splitOn sep := by
      rcases hafter with rfl | ⟨ys, rfl⟩
      · rw [List.append_nil, List.splitOn_eq_singleton hsep]
        exact List.mem_cons_self
      · rw [splitOn_append_cons, List.splitOn_eq_singleton hsep]
        exact List.mem_append_left _ List.mem_cons_self
    rcases hbefore with rfl | ⟨xs, rfl⟩
    · exact hrest
    · rw [List.append_assoc, List.append_assoc, List.singleton_append, splitOn_append_cons]
      exact List.mem_append_right _ hrest

end Splitting

/-! ### Trimming -/

/-- The text without the characters at both ends that meet the predicate. -/
def trim (space : α → Bool) (text : List α) : List α :=
  (text.dropWhile space).rdropWhile space

variable {space : α → Bool}

theorem rdropWhile_append {xs ys : List α} (h : ∀ c ∈ ys, space c = true) :
    (xs ++ ys).rdropWhile space = xs.rdropWhile space := by
  induction ys using List.reverseRecOn with
  | nil => rw [List.append_nil]
  | append_singleton ys c ih =>
    rw [← List.append_assoc, List.rdropWhile_concat_pos _ _ _ (h c (by simp)), ih]
    intro d hd
    exact h d (List.mem_append_left _ hd)

theorem trim_append {text ys : List α} (h : ∀ c ∈ ys, space c = true) :
    trim space (text ++ ys) = trim space text := by
  unfold trim
  rw [List.dropWhile_append]
  split
  · rename_i hempty
    rw [List.isEmpty_iff.mp hempty, List.dropWhile_eq_nil_iff.mpr h]
  · exact rdropWhile_append h

/-- What trimming takes away at both ends. -/
theorem exists_trim (space : α → Bool) (text : List α) :
    ∃ left right, text = left ++ trim space text ++ right ∧ (∀ c ∈ left, space c = true) ∧
      ∀ c ∈ right, space c = true := by
  have hsplit : text.dropWhile space = trim space text ++
      ((text.dropWhile space).reverse.takeWhile space).reverse := by
    rw [trim, List.rdropWhile, ← List.reverse_append, List.takeWhile_append_dropWhile,
      List.reverse_reverse]
  refine ⟨text.takeWhile space, ((text.dropWhile space).reverse.takeWhile space).reverse, ?_,
    fun c hc => List.mem_takeWhile_imp hc, ?_⟩
  · rw [List.append_assoc, ← hsplit, List.takeWhile_append_dropWhile]
  · intro c hc
    exact List.mem_takeWhile_imp (List.mem_reverse.mp hc)

theorem trim_trim (text : List α) : trim space (trim space text) = trim space text := by
  have hfirst : (trim space text).dropWhile space = trim space text := by
    cases htrim : trim space text with
    | nil => rfl
    | cons c cs =>
      -- the first character left is the first one that is no space
      obtain ⟨rest, hrest⟩ := List.rdropWhile_prefix space (text.dropWhile space)
      rw [← trim, htrim] at hrest
      have hne : text.dropWhile space ≠ [] := by
        rw [← hrest]
        exact List.cons_ne_nil _ _
      have hhead : (text.dropWhile space).head hne = c := by
        simp only [← hrest, List.cons_append, List.head_cons]
      have hspace := List.head_dropWhile_not space hne
      rw [hhead] at hspace
      exact List.dropWhile_cons_of_neg (Bool.not_eq_true _ ▸ hspace)
  rw [trim, hfirst, trim, List.rdropWhile_idempotent]

end Lines
