import Mathlib.Algebra.Order.Ring.Nat
import Mathlib.Data.List.Infix

/-!
Command lines: texts of words separated by single blanks.

A command is composed as one text and split at its blanks when it is run, so what
the program gets is what was composed only if no word has a blank in it. A printed
command can also be searched for a text and rewritten as a text.
-/

namespace Words

/-- A text without a blank. -/
def IsWord (s : String) : Prop := ' ' ∉ s.toList

instance (s : String) : Decidable (IsWord s) := inferInstanceAs (Decidable (' ' ∉ s.toList))

/-- `strings.Join(ws, " ")`. -/
def join (ws : List String) : String := String.ofList ([' '].intercalate (ws.map String.toList))

/-- `strings.Split(s, " ")`. -/
def split (s : String) : List String := (s.toList.splitOn ' ').map String.ofList

/-- The word after the first occurrence of a flag. -/
def argument (flag : String) : List String → Option String
  | w :: v :: ws => if w = flag then some v else argument flag (v :: ws)
  | _ => none

/-- `fmt.Sprintf("%#x", n)`. -/
def hex (n : Nat) : String := "0x" ++ String.ofList (Nat.toDigits 16 n)

/-- Words that are there under a condition only. -/
def given (cond : Bool) (ws : List String) : List String := if cond then ws else []

variable {w v flag : String} {ws : List String}

theorem IsWord.append (hw : IsWord w) (hv : IsWord v) : IsWord (w ++ v) := by
  rw [IsWord, String.toList_append, List.mem_append, not_or]
  exact ⟨hw, hv⟩

theorem toList_join_cons (hws : ws ≠ []) :
    (join (w :: ws)).toList = w.toList ++ ' ' :: (join ws).toList := by
  obtain ⟨v, vs, rfl⟩ := List.exists_cons_of_ne_nil hws
  simp [join, List.intercalate]

/-- The first word of a command is what it was composed from. -/
theorem split_join_cons (hw : IsWord w) (hws : ws ≠ []) :
    split (join (w :: ws)) = w :: split (join ws) := by
  rw [split, toList_join_cons hws, List.splitOn_append_cons_self_of_not_mem hw, List.map_cons,
    String.ofList_toList, split]

theorem notMem_intercalate {α : Type} {a : α} {sep : List α} {ls : List (List α)} (hsep : a ∉ sep)
    (h : ∀ l ∈ ls, a ∉ l) : a ∉ sep.intercalate ls := by
  induction ls with
  | nil => exact List.not_mem_nil
  | cons l ls ih =>
    rw [List.forall_mem_cons] at h
    cases ls with
    | nil => simpa [List.intercalate] using h.1
    | cons l' ls' =>
      rw [List.intercalate_cons_cons]
      simp [h.1, hsep, ih h.2]

/-- The letters of a command are those of its words. -/
theorem count_join {c : Char} (hc : c ≠ ' ') (ws : List String) :
    (join ws).toList.count c = (ws.map fun w => w.toList.count c).sum := by
  induction ws with
  | nil => simp [join]
  | cons w ws ih =>
    cases ws with
    | nil => simp [join, List.intercalate]
    | cons v vs =>
      rw [toList_join_cons (List.cons_ne_nil _ _), List.count_append,
        List.count_cons_of_ne hc.symm, ih]
      simp only [List.map_cons, List.sum_cons]

theorem argument_cons_of_ne (h : w ≠ flag) : argument flag (w :: ws) = argument flag ws := by
  cases ws with
  | nil => rfl
  | cons v vs => rw [argument, if_neg h]

@[simp] theorem argument_self : argument flag (flag :: v :: ws) = some v := by
  rw [argument, if_pos rfl]

/-- Splitting a text and composing it again gives the text. -/
theorem join_split (s : String) : join (split s) = s := by
  have hid : String.toList ∘ String.ofList = id := funext fun _ => String.toList_ofList
  rw [join, split, List.map_map, hid, List.map_id, List.intercalate_splitOn, String.ofList_toList]

theorem split_join (hne : ws ≠ []) (h : ∀ w ∈ ws, IsWord w) : split (join ws) = ws := by
  have hid : String.ofList ∘ String.toList = id := funext fun _ => String.ofList_toList
  rw [split, join, String.toList_ofList, List.splitOn_intercalate _ (List.forall_mem_map.mpr h)
    (by simpa using hne), List.map_map, hid, List.map_id]

/-! ### Searching a text -/

/-- `sub` stands somewhere in the text. -/
def occurs (sub : List Char) : List Char → Bool
  | [] => sub.isEmpty
  | c :: cs => sub.isPrefixOf (c :: cs) || occurs sub cs

/-- `strings.Contains`. -/
def contains (s sub : String) : Bool := occurs sub.toList s.toList

theorem occurs_iff {sub s : List Char} : occurs sub s = true ↔ sub <:+: s := by
  induction s with
  | nil => simp [occurs]
  | cons c cs ih => simp [occurs, List.infix_cons_iff, ih]

theorem contains_iff {s sub : String} : contains s sub = true ↔ sub.toList <:+: s.toList :=
  occurs_iff

/-- A text without the character `a` does not reach across it. -/
theorem infix_append_cons_iff {a : Char} {sub xs ys : List Char} (ha : a ∉ sub) (hne : sub ≠ []) :
    sub <:+: xs ++ a :: ys ↔ sub <:+: xs ∨ sub <:+: ys := by
  constructor
  · intro h
    rcases List.infix_append_iff.mp h with h | h | ⟨l₁, l₂, rfl, h₁, h₂⟩
    · exact .inl h
    · rcases List.infix_cons_iff.mp h with h | h
      · cases sub with
        | nil => exact absurd rfl hne
        | cons b sub =>
          rw [List.cons_prefix_cons] at h
          exact absurd (h.1 ▸ List.mem_cons_self) ha
      · exact .inr h
    · cases l₂ with
      | nil => exact .inl (by simpa using h₁.isInfix)
      | cons b l₂ =>
        rw [List.cons_prefix_cons] at h₂
        exact absurd (List.mem_append_right l₁ (h₂.1 ▸ List.mem_cons_self)) ha
  · rintro (h | h)
    · exact h.trans (List.prefix_append _ _).isInfix
    · exact h.trans ((List.suffix_cons _ _).trans (List.suffix_append _ _)).isInfix

/-- A word stands in a command if it stands in one of its words. -/
theorem contains_join {sub : String} (hsub : IsWord sub) (hne : sub ≠ "") (ws : List String) :
    contains (join ws) sub = true ↔ ∃ w ∈ ws, contains w sub = true := by
  have hlist : sub.toList ≠ [] := by simpa using hne
  simp only [contains_iff]
  induction ws with
  | nil => simpa [join] using hlist
  | cons w ws ih =>
    cases ws with
    | nil => simp [join, List.intercalate]
    | cons v vs =>
      rw [toList_join_cons (List.cons_ne_nil _ _), infix_append_cons_iff hsub hlist,
        List.exists_mem_cons_iff]
      exact or_congr_right ih

/-! ### Rewriting a text -/

/-- The rest of a replacement from left to right: `skip` characters still belong to the
occurrence replaced last. -/
def replaceFrom (old new : List Char) : Nat → List Char → List Char
  | _, [] => []
  | skip + 1, _ :: cs => replaceFrom old new skip cs
  | 0, c :: cs =>
    if old.isPrefixOf (c :: cs) then new ++ replaceFrom old new (old.length - 1) cs
    else c :: replaceFrom old new 0 cs

/-- `strings.ReplaceAll`, for an `old` that is not empty. -/
def replaceAll (s old new : String) : String :=
  String.ofList (replaceFrom old.toList new.toList 0 s.toList)

example : replaceAll "-A FORWARD -o wg-A0" "-A" "-D" = "-D FORWARD -o wg-D0" := by decide

section Replace

variable {x : Char} {tail new sub : List Char}

/-- A text that no occurrence can begin in is not changed where it stands first. -/
theorem prefix_replaceFrom (htail : ∀ y ∈ tail, y ∉ sub) (hne : tail ≠ [])
    (hlast : sub.getLast? ≠ some x) (v : List Char) :
    sub <+: replaceFrom (x :: tail) new 0 (sub ++ v) := by
  obtain ⟨y, ys, rfl⟩ := List.exists_cons_of_ne_nil hne
  induction sub with
  | nil => exact List.nil_prefix
  | cons b sub ih =>
    have hy : y ∉ b :: sub := htail y List.mem_cons_self
    have hno : (x :: y :: ys).isPrefixOf (b :: (sub ++ v)) = false := by
      by_contra hyes
      rw [Bool.not_eq_false, List.isPrefixOf_iff_prefix, List.cons_prefix_cons] at hyes
      cases sub with
      | nil => exact hlast (by rw [hyes.1]; rfl)
      | cons c sub =>
        rw [List.cons_append, List.cons_prefix_cons] at hyes
        exact hy (by rw [hyes.2.1]; simp)
    rw [List.cons_append, replaceFrom, hno, if_neg Bool.false_ne_true, List.cons_prefix_cons]
    refine ⟨rfl, ih ?_ fun z hz hmem => htail z hz (List.mem_cons_of_mem b hmem)⟩
    cases sub with
    | nil => simp
    | cons c sub => rwa [List.getLast?_cons_cons] at hlast

/-- A replacement leaves a text alone that no occurrence can overlap: none can begin in
it, and none that begins before it can reach into it. -/
theorem infix_replaceFrom (htail : ∀ y ∈ tail, y ∉ sub) (hne : tail ≠ []) (hsub : sub ≠ [])
    (hlast : sub.getLast? ≠ some x) (u v : List Char) (skip : Nat) (hskip : skip ≤ u.length) :
    sub <:+: replaceFrom (x :: tail) new skip (u ++ (sub ++ v)) := by
  induction u generalizing skip with
  | nil =>
    obtain rfl : skip = 0 := Nat.le_zero.mp hskip
    exact (prefix_replaceFrom htail hne hlast v).isInfix
  | cons b u ih =>
    cases skip with
    | succ skip => exact ih skip (Nat.le_of_succ_le_succ hskip)
    | zero =>
      rw [List.cons_append, replaceFrom]
      split
      · rename_i hstarts
        replace hstarts := List.isPrefixOf_iff_prefix.mp hstarts
        rw [List.cons_prefix_cons] at hstarts
        -- an occurrence that reaches into `sub` has a character of it
        have hlen : tail.length ≤ u.length := by
          by_contra hlong
          obtain ⟨d, sub', rfl⟩ := List.exists_cons_of_ne_nil hsub
          have hd : tail[u.length]? = some d := by
            obtain ⟨rest, hrest⟩ := hstarts.2
            have := congrArg (·[u.length]?) hrest
            simpa [List.getElem?_append_left (Nat.lt_of_not_le hlong)] using this
          exact htail d (List.mem_of_getElem? hd) List.mem_cons_self
        exact (ih _ hlen).trans (List.suffix_append _ _).isInfix
      · exact (ih 0 (Nat.zero_le _)).trans (List.suffix_cons _ _).isInfix

end Replace

/-- A word that shares no character with the tail of `old` and does not end like it
begins survives a replacement. -/
theorem contains_replaceAll {s sub old new : String} {x : Char} {tail : List Char}
    (hold : old.toList = x :: tail) (htail : ∀ y ∈ tail, y ∉ sub.toList) (hne : tail ≠ [])
    (hsub : sub ≠ "") (hlast : sub.toList.getLast? ≠ some x) (h : contains s sub = true) :
    contains (replaceAll s old new) sub = true := by
  obtain ⟨u, v, huv⟩ := contains_iff.mp h
  rw [contains_iff, replaceAll, String.toList_ofList, hold, ← huv, List.append_assoc]
  exact infix_replaceFrom htail hne (by simpa using hsub) hlast u v 0 (Nat.zero_le _)

theorem replaceAll_of_not_contains {s old new : String} (h : contains s old = false) :
    replaceAll s old new = s := by
  rw [contains] at h
  have hsame (cs : List Char) (hcs : occurs old.toList cs = false) :
      replaceFrom old.toList new.toList 0 cs = cs := by
    induction cs with
    | nil => rfl
    | cons c cs ih =>
      rw [occurs, Bool.or_eq_false_iff] at hcs
      rw [replaceFrom, hcs.1, if_neg Bool.false_ne_true, ih hcs.2]
  rw [replaceAll, hsame _ h, String.ofList_toList]

theorem prefix_append_cons_iff {a : Char} {sub xs ys : List Char} (ha : a ∉ sub) :
    sub <+: xs ++ a :: ys ↔ sub <+: xs := by
  induction sub generalizing xs with
  | nil => simp
  | cons b sub ih =>
    rw [List.mem_cons, not_or] at ha
    cases xs with
    | nil => simp [List.cons_prefix_cons, Ne.symm ha.1]
    | cons c xs => rw [List.cons_append, List.cons_prefix_cons, List.cons_prefix_cons, ih ha.2]

/-- No occurrence of a text without the character `a` reaches across it. -/
theorem replaceFrom_append_cons {a : Char} {old new : List Char} (ha : a ∉ old) (hne : old ≠ [])
    (xs ys : List Char) (skip : Nat) (hskip : skip ≤ xs.length) :
    replaceFrom old new skip (xs ++ a :: ys) =
      replaceFrom old new skip xs ++ a :: replaceFrom old new 0 ys := by
  have hstarts (zs : List Char) : old.isPrefixOf (zs ++ a :: ys) = old.isPrefixOf zs := by
    rw [Bool.eq_iff_iff, List.isPrefixOf_iff_prefix, List.isPrefixOf_iff_prefix]
    exact prefix_append_cons_iff ha
  induction xs generalizing skip with
  | nil =>
    obtain rfl : skip = 0 := Nat.le_zero.mp hskip
    have hno := hstarts []
    rw [List.nil_append] at hno
    have hnil : old.isPrefixOf [] = false := by
      cases old with
      | nil => exact absurd rfl hne
      | cons => rfl
    simp [replaceFrom, hno, hnil]
  | cons b xs ih =>
    cases skip with
    | succ skip => exact ih skip (Nat.le_of_succ_le_succ hskip)
    | zero =>
      have hb := hstarts (b :: xs)
      rw [List.cons_append] at hb
      rw [List.cons_append, replaceFrom, replaceFrom, hb]
      split
      · rename_i hyes
        have hprefix := List.isPrefixOf_iff_prefix.mp hyes
        have hlen := hprefix.length_le
        rw [List.length_cons] at hlen
        rw [ih _ (by omega), List.append_assoc]
      · rw [ih 0 (Nat.zero_le _), List.cons_append]

/-- A text without blanks is replaced word by word. -/
theorem replaceAll_join {old new : String} (hold : IsWord old) (hne : old ≠ "")
    (ws : List String) :
    replaceAll (join ws) old new = join (ws.map (replaceAll · old new)) := by
  have hlist : old.toList ≠ [] := by simpa using hne
  apply String.toList_injective
  rw [replaceAll, String.toList_ofList]
  induction ws with
  | nil => simp [join, replaceFrom]
  | cons w ws ih =>
    cases ws with
    | nil => simp [join, List.intercalate, replaceAll]
    | cons v vs =>
      have hcons : (join ((w :: v :: vs).map (replaceAll · old new))).toList =
          (replaceAll w old new).toList ++
            ' ' :: (join ((v :: vs).map (replaceAll · old new))).toList :=
        toList_join_cons (by simp)
      have hword : (replaceAll w old new).toList =
        replaceFrom old.toList new.toList 0 w.toList := String.toList_ofList
      rw [toList_join_cons (List.cons_ne_nil _ _),
        replaceFrom_append_cons hold hlist _ _ 0 (Nat.zero_le _), ih, hcons, hword]

/-! ### Splitting at a text -/

/-- The pieces between separators, from left to right: `skip` characters still belong to
the separator found last. -/
def piecesFrom (sep : List Char) : Nat → List Char → List (List Char)
  | _, [] => [[]]
  | skip + 1, _ :: cs => piecesFrom sep skip cs
  | 0, c :: cs =>
    if sep.isPrefixOf (c :: cs) then [] :: piecesFrom sep (sep.length - 1) cs
    else (piecesFrom sep 0 cs).modifyHead (c :: ·)

/-- `strings.Split(s, sep)`, for a separator that is not empty. -/
def pieces (sep s : List Char) : List (List Char) := piecesFrom sep 0 s

section Pieces

variable {x : Char} {tail u : List Char}

theorem not_starts_of_ne {c : Char} (h : x ≠ c) (s : List Char) :
    (x :: tail).isPrefixOf (c :: s) = false := by
  simp [List.isPrefixOf, h]

theorem pieces_of_not_mem (hx : x ∉ u) : pieces (x :: tail) u = [u] := by
  induction u with
  | nil => rfl
  | cons c u ih =>
    rw [List.mem_cons, not_or] at hx
    have hrest : piecesFrom (x :: tail) 0 u = [u] := ih hx.2
    rw [pieces, piecesFrom, not_starts_of_ne hx.1, if_neg Bool.false_ne_true, hrest]
    rfl

theorem piecesFrom_append {sep : List Char} (w v : List Char) :
    piecesFrom sep w.length (w ++ v) = piecesFrom sep 0 v := by
  induction w with
  | nil => rfl
  | cons c w ih => exact ih

/-- The first piece ends where its separator begins. -/
theorem pieces_append_of_not_mem (hx : x ∉ u) (v : List Char) :
    pieces (x :: tail) (u ++ (x :: tail) ++ v) = u :: pieces (x :: tail) v := by
  induction u with
  | nil =>
    have hyes : ((x :: tail).isPrefixOf (x :: (tail ++ v))) = true :=
      List.isPrefixOf_iff_prefix.mpr ⟨v, rfl⟩
    rw [List.nil_append, List.cons_append, pieces, piecesFrom, hyes, if_pos rfl]
    exact congrArg _ (piecesFrom_append tail v)
  | cons c u ih =>
    rw [List.mem_cons, not_or] at hx
    have hrest : piecesFrom (x :: tail) 0 (u ++ (x :: tail) ++ v) = u :: pieces (x :: tail) v :=
      ih hx.2
    rw [List.cons_append, List.cons_append, pieces, piecesFrom, not_starts_of_ne hx.1,
      if_neg Bool.false_ne_true, hrest]
    rfl

end Pieces

end Words
