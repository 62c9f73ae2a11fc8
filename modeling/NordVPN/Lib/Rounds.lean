import Mathlib.Data.List.Perm.Subperm

/-!
Taking elements from a list in rounds.

Each round takes the elements that its chooser selects, in the order of the list, and leaves the
others to the next round. `taken` is the order in which the elements come out. `marking` is the
same as a loop over a list of which no element is removed, with a mark for each one taken.
-/

namespace Rounds

variable {ρ α : Type} {sel : ρ → α → Bool}

/-- What the rounds take, one after the other. -/
def taken (sel : ρ → α → Bool) : List ρ → List α → List α
  | [], _ => []
  | r :: rs, xs => xs.filter (sel r) ++ taken sel rs (xs.filter fun x => !sel r x)

/-- The round in which an element is taken. -/
def rank (sel : ρ → α → Bool) (rs : List ρ) (x : α) : Nat := rs.findIdx fun r => sel r x

variable {rs : List ρ} {x : α} {xs : List α}

theorem rank_cons_of_sel {r : ρ} (h : sel r x = true) : rank sel (r :: rs) x = 0 := by
  simp [rank, List.findIdx_cons, h]

theorem rank_cons_of_not_sel {r : ρ} (h : sel r x = false) :
    rank sel (r :: rs) x = rank sel rs x + 1 := by
  simp [rank, List.findIdx_cons, h]

theorem mem_taken : x ∈ taken sel rs xs ↔ x ∈ xs ∧ ∃ r ∈ rs, sel r x = true := by
  induction rs generalizing xs with
  | nil => simp [taken]
  | cons r rs ih =>
    simp only [taken, List.mem_append, List.mem_filter, ih, List.exists_mem_cons_iff]
    cases sel r x <;> simp

theorem taken_subperm (rs : List ρ) (xs : List α) : (taken sel rs xs).Subperm xs := by
  induction rs generalizing xs with
  | nil => exact List.nil_subperm
  | cons r rs ih =>
    have hrest := (List.subperm_append_left (xs.filter (sel r))).mpr
      (ih (xs.filter fun x => !sel r x))
    exact hrest.trans (List.filter_append_perm (sel r) xs).subperm

/-- The elements come out by their rounds, and within a round in the order of the list. -/
theorem taken_pairwise {R : α → α → Prop} (h : xs.Pairwise R) :
    (taken sel rs xs).Pairwise fun x y =>
      rank sel rs x < rank sel rs y ∨ rank sel rs x = rank sel rs y ∧ R x y := by
  induction rs generalizing xs with
  | nil => exact List.Pairwise.nil
  | cons r rs ih =>
    rw [taken, List.pairwise_append]
    refine ⟨?_, ?_, ?_⟩
    · refine (h.filter _).imp_of_mem ?_
      intro x y hx hy hxy
      rw [rank_cons_of_sel (List.mem_filter.mp hx).2, rank_cons_of_sel (List.mem_filter.mp hy).2]
      exact .inr ⟨rfl, hxy⟩
    · refine (ih (h.filter fun x => !sel r x)).imp_of_mem ?_
      intro x y hx hy hxy
      have hx' := (List.mem_filter.mp (mem_taken.mp hx).1).2
      have hy' := (List.mem_filter.mp (mem_taken.mp hy).1).2
      rw [Bool.not_eq_true'] at hx' hy'
      rw [rank_cons_of_not_sel hx', rank_cons_of_not_sel hy']
      rcases hxy with hlt | ⟨heq, hR⟩
      · exact .inl (Nat.succ_lt_succ hlt)
      · exact .inr ⟨congrArg (· + 1) heq, hR⟩
    · intro x hx y hy
      have hy' := (List.mem_filter.mp (mem_taken.mp hy).1).2
      rw [Bool.not_eq_true'] at hy'
      rw [rank_cons_of_sel (List.mem_filter.mp hx).2, rank_cons_of_not_sel hy']
      exact .inl (Nat.succ_pos _)

/-- The first element comes no later than any that some round takes. -/
theorem taken_head {R : α → α → Prop} (h : xs.Pairwise R) (hrefl : ∀ x, R x x) (hx : x ∈ xs)
    (hsel : ∃ r ∈ rs, sel r x = true) :
    ∃ first, (taken sel rs xs).head? = some first ∧
      (rank sel rs first < rank sel rs x ∨ rank sel rs first = rank sel rs x ∧ R first x) := by
  have hpairwise : (taken sel rs xs).Pairwise _ := taken_pairwise h
  have hmem := mem_taken.mpr ⟨hx, hsel⟩
  cases htaken : taken sel rs xs with
  | nil =>
    rw [htaken] at hmem
    cases hmem
  | cons first rest =>
    rw [htaken] at hmem hpairwise
    refine ⟨first, rfl, ?_⟩
    rcases List.mem_cons.mp hmem with rfl | hrest
    · exact .inr ⟨rfl, hrefl x⟩
    · exact List.rel_of_pairwise_cons hpairwise hrest

/-! ### With marks -/

/-- One round over the whole list: the marks after it and what it takes. -/
def round (p : α → Bool) : List α → List Bool → List Bool × List α
  | x :: xs, used :: rest =>
    if !used && p x then (true :: (round p xs rest).1, x :: (round p xs rest).2)
    else (used :: (round p xs rest).1, (round p xs rest).2)
  | _, _ => ([], [])

/-- The rounds over the whole list. -/
def marking (sel : ρ → α → Bool) : List ρ → List α → List Bool → List α
  | [], _, _ => []
  | r :: rs, xs, used => (round (sel r) xs used).2 ++ marking sel rs xs (round (sel r) xs used).1

/-- The elements without a mark. -/
def left : List α → List Bool → List α
  | x :: xs, used :: rest => if used then left xs rest else x :: left xs rest
  | _, _ => []

theorem left_unmarked (xs : List α) : left xs (List.replicate xs.length false) = xs := by
  induction xs with
  | nil => rfl
  | cons x xs ih => simp [left, List.replicate_succ, ih]

theorem round_eq (p : α → Bool) (xs : List α) (used : List Bool) :
    (round p xs used).2 = (left xs used).filter p ∧
      left xs (round p xs used).1 = (left xs used).filter fun x => !p x := by
  induction xs generalizing used with
  | nil => exact ⟨rfl, rfl⟩
  | cons x xs ih =>
    cases used with
    | nil => exact ⟨rfl, rfl⟩
    | cons u used =>
      obtain ⟨htaken, hleft⟩ := ih used
      cases u <;> cases hp : p x <;> simp [round, left, hp, htaken, hleft]

/-- Marking the elements amounts to removing them. -/
theorem marking_eq_taken (rs : List ρ) (xs : List α) (used : List Bool) :
    marking sel rs xs used = taken sel rs (left xs used) := by
  induction rs generalizing used with
  | nil => rfl
  | cons r rs ih =>
    obtain ⟨htaken, hleft⟩ := round_eq (sel r) xs used
    rw [marking, taken, htaken, ih, hleft]

end Rounds
