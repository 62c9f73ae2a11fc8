import Mathlib.Data.List.Nodup

/-!
The first element of each kind in a list.

`firsts` keeps an element if none of its kind came before. What it keeps depends on the order of the
list. Where all elements of a kind give the same entry, the entries do not, up to their order.
-/

namespace Firsts

variable {α κ β : Type} [DecidableEq κ] {key : α → κ} {seen : List κ} {l l' : List α}

/-- The elements of a list that are the first of their kind, after those of the kinds `seen`. -/
def firsts (key : α → κ) : List κ → List α → List α
  | _, [] => []
  | seen, x :: xs =>
    if key x ∈ seen then firsts key seen xs else x :: firsts key (key x :: seen) xs

theorem mem_of_mem_firsts {x : α} (h : x ∈ firsts key seen l) : x ∈ l := by
  induction l generalizing seen with
  | nil => cases h
  | cons y l ih =>
    unfold firsts at h
    split at h
    · exact List.mem_cons_of_mem y (ih h)
    · rcases List.mem_cons.mp h with rfl | h
      · exact List.mem_cons_self
      · exact List.mem_cons_of_mem y (ih h)

theorem mem_keys {k : κ} : k ∈ (firsts key seen l).map key ↔ k ∉ seen ∧ ∃ x ∈ l, key x = k := by
  induction l generalizing seen with
  | nil => simp [firsts]
  | cons y l ih =>
    unfold firsts
    rw [List.exists_mem_cons_iff]
    split
    · rename_i hy
      rw [ih]
      constructor
      · rintro ⟨hk, x, hx⟩
        exact ⟨hk, .inr ⟨x, hx⟩⟩
      · rintro ⟨hk, rfl | hx⟩
        · exact absurd hy hk
        · exact ⟨hk, hx⟩
    · rename_i hy
      rw [List.map_cons, List.mem_cons, ih, List.mem_cons]
      constructor
      · rintro (rfl | ⟨hk, hx⟩)
        · exact ⟨hy, .inl rfl⟩
        · exact ⟨fun h => hk (.inr h), .inr hx⟩
      · rintro ⟨hk, hx⟩
        by_cases heq : k = key y
        · exact .inl heq
        · refine .inr ⟨not_or.mpr ⟨heq, hk⟩, hx.resolve_left fun h => heq h.symm⟩

theorem keys_nodup : ((firsts key seen l).map key).Nodup := by
  induction l generalizing seen with
  | nil => exact List.nodup_nil
  | cons y l ih =>
    unfold firsts
    split
    · exact ih
    · rw [List.map_cons, List.nodup_cons]
      exact ⟨fun h => (mem_keys.mp h).1 List.mem_cons_self, ih⟩

theorem keys_perm (h : l.Perm l') :
    ((firsts key seen l).map key).Perm ((firsts key seen l').map key) := by
  refine (List.perm_ext_iff_of_nodup keys_nodup keys_nodup).mpr fun k => ?_
  simp only [mem_keys, h.mem_iff]

/-! ### Entries -/

/-- The entry of a kind. -/
def entryOf (key : α → κ) (entry : α → β) (default : β) (l : List α) (k : κ) : β :=
  ((l.find? fun x => key x = k).map entry).getD default

variable {entry : α → β}

/-- Elements of one kind have the same entry. -/
def Uniform (key : α → κ) (entry : α → β) (l : List α) : Prop :=
  ∀ x ∈ l, ∀ y ∈ l, key x = key y → entry x = entry y

theorem Uniform.entryOf (h : Uniform key entry l) (default : β) {x : α} (hx : x ∈ l) :
    entryOf key entry default l (key x) = entry x := by
  unfold Firsts.entryOf
  cases hfind : l.find? fun y => key y = key x with
  | none =>
    have hnone := List.find?_eq_none.mp hfind x hx
    simp at hnone
  | some y =>
    have hkey : key y = key x := by simpa using List.find?_some hfind
    exact h y (List.mem_of_find?_eq_some hfind) x hx hkey

theorem Uniform.map_firsts (h : Uniform key entry l) (default : β) (hsub : ∀ x ∈ l', x ∈ l) :
    (firsts key seen l').map entry =
      ((firsts key seen l').map key).map (Firsts.entryOf key entry default l) := by
  rw [List.map_map]
  exact List.map_congr_left fun x hx => (h.entryOf default (hsub x (mem_of_mem_firsts hx))).symm

theorem Uniform.map_perm (h : Uniform key entry l) (hperm : l'.Perm l) :
    ((firsts key seen l').map entry).Perm ((firsts key seen l).map entry) := by
  cases l with
  | nil => rw [List.perm_nil.mp hperm]
  | cons x l =>
    rw [h.map_firsts (entry x) fun y hy => hperm.subset hy, h.map_firsts (entry x) fun y hy => hy]
    exact (keys_perm hperm).map _

/-- Conversely, if the order of the elements does not matter, those of a kind have the same entry.
-/
theorem uniform_of_map_perm [DecidableEq β]
    (h : ∀ l', l'.Perm l → ((firsts key [] l').map entry).Perm ((firsts key [] l).map entry)) :
    Uniform key entry l := by
  intro x hx y hy hkey
  by_cases hsame : x = y
  · rw [hsame]
  obtain ⟨rest, hrest⟩ : ∃ rest, l.Perm (x :: y :: rest) := by
    classical
    have hy' : y ∈ l.erase x := (List.mem_erase_of_ne (Ne.symm hsame)).mpr hy
    exact ⟨(l.erase x).erase y, (List.perm_cons_erase hx).trans ((List.perm_cons_erase hy').cons x)⟩
  have hfirst := (h _ hrest.symm).trans (h _ ((List.Perm.swap x y rest).trans hrest.symm)).symm
  have htail : firsts key [] (x :: y :: rest) = x :: firsts key [key x] rest := by
    simp [firsts, hkey]
  have htail' : firsts key [] (y :: x :: rest) = y :: firsts key [key x] rest := by
    simp [firsts, hkey]
  rw [htail, htail', List.map_cons, List.map_cons] at hfirst
  have hcount := hfirst.count_eq (entry x)
  rw [List.count_cons_self, List.count_cons] at hcount
  split at hcount
  · rename_i heq
    exact (beq_iff_eq.mp heq).symm
  · omega

end Firsts
