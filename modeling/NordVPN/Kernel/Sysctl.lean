import Mathlib.Data.List.DropRight
import NordVPN.Errors
import NordVPN.Lib.Decimal
import NordVPN.Lib.Prog
import NordVPN.Lib.Runs
import NordVPN.Lib.Words

/-!
Kernel parameters that are changed while the program works (`kernel/kernel.go`,
`kernel/sysctl_setter.go`) and the three parameters it changes.

A setter does not keep the value it found. It keeps one bit, whether the value was not
the desired one, and writes a fixed value back. So it restores exactly the parameters
that had one of its two values.
-/

namespace NordVPN.Kernel

open Prog

/-- The errors the two `sysctl` commands of one call fail with, if they do. -/
structure Answers where
  read : Option Error
  write : Option Error

/-- The parameters of the kernel, and the field of the setter that changes. -/
structure State where
  params : String → Int32
  changed : Bool

abbrev Sys := Prog Answers State Error

/-! ### `kernel.go` -/

/-- What `sysctl key` prints. -/
def printed (key : String) (value : Int32) : List Char :=
  key.toList ++ [' ', '=', ' '] ++ (value.toInt.repr.toList ++ ['\n'])

/-- `strings.Trim(s, " ")`. -/
def trim (s : List Char) : List Char := (s.dropWhile (· == ' ')).rdropWhile (· == ' ')

/-- The loop of `parametersFrom`. -/
def parseLines (rules : String → Int) : List (List Char) → Except Error (String → Int)
  | [] => .ok rules
  | line :: lines =>
    if line = [] then parseLines rules lines
    else match Words.pieces [' ', '=', ' '] line with
      | [key, strVal] =>
        match Decimal.atoi (trim strVal) with
        | some val => parseLines (Function.update rules (String.ofList key) val) lines
        | none => .error (.wrap ("parsing value of " ++ String.ofList key)
            (.external ("expected integer, got: " ++ String.ofList strVal)))
      | _ => .error (.plain ("invalid output line: " ++ String.ofList line))

/-- `parametersFrom`. A parameter without a line reads as zero, as in a Go map. -/
def parametersFrom (output : List Char) : Except Error (String → Int) :=
  parseLines (fun _ => 0) (output.splitOn '\n')

/-- `Parameter`. -/
def parameter (prm : String) : Sys (String → Int) := do
  let r ← env
  let s ← state
  match r.read with
  | some e => fail (.wrap "listing sysctl rules error" e)
  | none =>
    match parametersFrom (printed prm (s.params prm)) with
    | .ok values => pure values
    | .error e => fail e

/-- `SetParameter`. -/
def setParameter (key : String) (val : Int) : Sys Unit := do
  let r ← env
  match r.write with
  | some e => fail (.wrap s!"setting {key} to {val}" e)
  | none => update fun s => { s with params := Function.update s.params key (Int32.ofInt val) }

/-- A name as the kernel has them, without blanks and line breaks. -/
def Plain (key : String) : Prop := ' ' ∉ key.toList ∧ '\n' ∉ key.toList

instance (key : String) : Decidable (Plain key) := instDecidableAnd

theorem trim_of_not_mem {s : List Char} (h : ' ' ∉ s) : trim s = s := by
  have hne (c : Char) (hc : c ∈ s) : ¬ (c == ' ') = true := by
    intro hblank
    rw [beq_iff_eq] at hblank
    exact h (hblank ▸ hc)
  rw [trim, List.dropWhile_eq_self_iff.mpr fun hl => hne _ (List.getElem_mem hl)]
  exact List.rdropWhile_eq_self_iff.mpr fun hl => hne _ (List.getLast_mem hl)

/-- What the kernel prints of a parameter is read back as its value. -/
theorem parametersFrom_printed {key : String} (h : Plain key) (value : Int32) :
    parametersFrom (printed key value) =
      .ok (Function.update (fun _ => 0) key value.toInt) := by
  have hvalue (c : Char) (hdigit : c.isDigit = false) (hsign : c ≠ '-') :
      c ∉ value.toInt.repr.toList := Decimal.notMem_repr hdigit hsign _
  have hlow := value.le_toInt
  have hhigh := value.toInt_lt
  have hbreak : '\n' ∉ key.toList ++ [' ', '=', ' '] ++ value.toInt.repr.toList := by
    simp only [List.mem_append, not_or]
    exact ⟨⟨h.2, by decide⟩, hvalue _ (by decide) (by decide)⟩
  have hsplit : (printed key value).splitOn '\n' =
      [key.toList ++ [' ', '=', ' '] ++ value.toInt.repr.toList, []] := by
    rw [printed, ← List.append_assoc, List.splitOn_append_cons_self_of_not_mem hbreak]
    rfl
  have hpieces : Words.pieces [' ', '=', ' ']
      (key.toList ++ [' ', '=', ' '] ++ value.toInt.repr.toList) =
        [key.toList, value.toInt.repr.toList] := by
    rw [Words.pieces_append_of_not_mem h.1,
      Words.pieces_of_not_mem (hvalue ' ' (by decide) (by decide))]
  have hread : Decimal.atoi (trim value.toInt.repr.toList) = some value.toInt := by
    rw [trim_of_not_mem (hvalue _ (by decide) (by decide)), Decimal.atoi_repr (by omega) (by omega)]
  rw [parametersFrom, hsplit, parseLines, if_neg (by simp), hpieces]
  simp only [hread, parseLines, if_true, String.ofList_toList]

section Rules

variable {r : Answers} {A : State → Prop} {s : State} {key : String}

theorem wp_parameter {Q : Except Error (String → Int) → State → Prop} (h : Plain key)
    (hfail : r.read ≠ none → ∀ e, Q (.error e) s)
    (hread : r.read = none → Q (.ok (Function.update (fun _ => 0) key (s.params key).toInt)) s) :
    wp (parameter key) r A Q s := by
  unfold parameter
  rw [wp_env_bind, wp_state_bind]
  cases hr : r.read with
  | some e => exact wp_fail.mpr (hfail (by simp [hr]) _)
  | none =>
    simp only [parametersFrom_printed h]
    exact wp_pure.mpr (hread hr)

/-- The parameter has a new value. -/
def State.write (s : State) (key : String) (val : Int) : State :=
  { s with params := Function.update s.params key (Int32.ofInt val) }

theorem wp_setParameter {val : Int} {Q : Except Error Unit → State → Prop}
    (hfail : r.write ≠ none → ∀ e, Q (.error e) s)
    (hwrite : r.write = none → A (s.write key val) ∧ Q (.ok ()) (s.write key val)) :
    wp (setParameter key val) r A Q s := by
  unfold setParameter
  rw [wp_env_bind]
  cases hr : r.write with
  | some e => exact wp_fail.mpr (hfail (by simp [hr]) _)
  | none => exact wp_update.mpr (hwrite hr)

end Rules

/-! ### `sysctl_setter.go` -/

/-- The fields of `SysctlSetterImpl` that stay as they were made. -/
structure SysctlSetterImpl where
  paramName : String
  desiredValue : Int
  unwantedValue : Int

/-- `SysctlSetterImpl.Set`. The value is written also where it is there already. -/
def SysctlSetterImpl.set (x : SysctlSetterImpl) : Sys Unit := do
  let s ← state
  when (!s.changed) do
    let values ← mapError (.wrap s!"retrieving the value of '{x.paramName}'")
      (parameter x.paramName)
    when (values x.paramName != x.desiredValue) (update fun s => { s with changed := true })
  mapError (.wrap s!"setting the value of '{x.paramName}' to {x.desiredValue}")
    (setParameter x.paramName x.desiredValue)

/-- `SysctlSetterImpl.Unset`. -/
def SysctlSetterImpl.unset (x : SysctlSetterImpl) : Sys Unit := do
  let s ← state
  when s.changed do
    mapError (.wrap s!"setting the value of '{x.paramName}' to '{x.unwantedValue}'")
      (setParameter x.paramName x.unwantedValue)
    update fun s => { s with changed := false }

section Setter

variable {x : SysctlSetterImpl} {r : Answers} {s : State} {Q : Except Error Unit → State → Prop}

/-- `Set` has looked at the value. -/
def State.noted (s : State) (x : SysctlSetterImpl) : State :=
  { s with changed := s.changed || (s.params x.paramName).toInt != x.desiredValue }

/-- What `Set` does: it ends at the read, at the write, or with the desired value. -/
theorem wp_set (hname : Plain x.paramName) (hread : r.read ≠ none → ∀ e, Q (.error e) s)
    (hwrite : r.write ≠ none → ∀ e, Q (.error e) (s.noted x))
    (hok : r.write = none → Q (.ok ()) ((s.noted x).write x.paramName x.desiredValue)) :
    wp x.set r any Q s := by
  unfold SysctlSetterImpl.set
  rw [wp_state_bind]
  refine wp_seq (P := fun res t => (res ≠ .ok () → r.read ≠ none ∧ t = s) ∧
    (res = .ok () → t = s.noted x)) ?_ (fun _ t ht => ?_) fun e t ht => ?_
  · refine wp_when.mpr ⟨fun hunchanged => ?_, fun hchanged => ?_⟩
    · have hnot : s.changed = false := by simpa using hunchanged
      refine wp_seq (P := fun res t => t = s ∧ (∀ e, res = .error e → r.read ≠ none) ∧
        ∀ values, res = .ok values → values x.paramName = (s.params x.paramName).toInt)
        (wp_mapError.mpr (wp_parameter hname ?_ ?_)) (fun values t ht => ?_) fun e t ht => ?_
      · intro hr e
        exact ⟨rfl, fun _ _ => hr, fun _ h => by cases h⟩
      · intro hr
        refine ⟨rfl, ?_, ?_⟩
        · intro e h
          cases h
        · intro values h
          cases h
          exact Function.update_self ..
      · obtain ⟨rfl, -, hvalue⟩ := ht
        rw [hvalue values rfl]
        refine wp_when.mpr ⟨fun hdiffers => wp_update.mpr ⟨trivial, ?_, ?_⟩, fun hsame => ⟨?_, ?_⟩⟩
        · exact fun h => absurd rfl h
        · intro _
          simp [State.noted, hdiffers]
        · exact fun h => absurd rfl h
        · intro _
          rw [State.noted, hsame, hnot]
          exact congrArg (State.mk _) hnot
      · exact ⟨fun _ => ⟨ht.2.1 e rfl, ht.1⟩, fun h => by cases h⟩
    · have hyes : s.changed = true := by simpa using hchanged
      refine ⟨fun h => absurd rfl h, fun _ => ?_⟩
      rw [State.noted, hyes]
      exact congrArg (State.mk _) hyes
  · obtain rfl := ht.2 rfl
    exact wp_mapError.mpr (wp_setParameter (fun h e => hwrite h _) fun h => ⟨trivial, hok h⟩)
  · obtain ⟨hr, rfl⟩ := ht.1 fun h => by cases h
    exact hread hr e

/-- What `Unset` does. -/
theorem wp_unset (hkeep : s.changed = false → Q (.ok ()) s)
    (hfail : r.write ≠ none → ∀ e, Q (.error e) s)
    (hok : s.changed = true → r.write = none →
      Q (.ok ()) { s.write x.paramName x.unwantedValue with changed := false }) :
    wp x.unset r any Q s := by
  unfold SysctlSetterImpl.unset
  rw [wp_state_bind]
  refine wp_when.mpr ⟨fun hchanged => ?_, hkeep⟩
  rw [wp_bind, wp_mapError]
  refine wp_setParameter (fun h e => hfail h _) fun h => ⟨trivial, ?_⟩
  exact wp_update.mpr ⟨trivial, hok hchanged h⟩

end Setter

/-- The users of a setter: `ipv6.NewIpv6`, `NewSysctlRPFilterManager` and the exit node. -/
inductive User where
  | ipv6 | rpFilter | ipForwarding
deriving DecidableEq, Repr

def User.setter : User → SysctlSetterImpl
  | .ipv6 => ⟨"net.ipv6.conf.all.disable_ipv6", 1, 0⟩
  | .rpFilter => ⟨"net.ipv4.conf.all.rp_filter", 2, 1⟩
  | .ipForwarding => ⟨"net.ipv4.ip_forward", 1, 0⟩

/-! ### Runs -/

inductive Method where
  | set | unset
deriving DecidableEq, Repr

/-- A call of the setter, with what its commands answer. -/
structure Invocation where
  method : Method
  answers : Answers

def exec (x : SysctlSetterImpl) : Method → Sys Unit
  | .set => x.set
  | .unset => x.unset

def step (x : SysctlSetterImpl) (s : State) (c : Invocation) : State :=
  (exec x c.method c.answers s).final

/-- A setter just made, on a kernel with the given parameters. -/
def fresh (params : String → Int32) : State := ⟨params, false⟩

/-- The state after the given calls, the latest first. -/
def after (x : SysctlSetterImpl) (params : String → Int32) (calls : List Invocation) : State :=
  runAll (step x) (fresh params) calls

/-- No call of `Set` among these succeeded. -/
def NoneSet (x : SysctlSetterImpl) (params : String → Int32) (calls : List Invocation) : Prop :=
  ∀ answers earlier, ⟨.set, answers⟩ :: earlier <:+ calls →
    (x.set answers (after x params earlier)).result ≠ .ok ()

/-- What the setter promises after a sequence of calls. -/
structure Restored (x : SysctlSetterImpl) (params : String → Int32) (calls : List Invocation) :
    Prop where
  /-- An `Unset` that succeeds after a `Set` leaves the value that was there at first. -/
  unset : ∀ answers, (∃ c ∈ calls, c.method = .set) →
    (x.unset answers (after x params calls)).result = .ok () →
    (x.unset answers (after x params calls)).final.params x.paramName = params x.paramName
  /-- Without a `Set` that succeeded the value is what it was at first. -/
  untouched : NoneSet x params calls →
    (after x params calls).params x.paramName = params x.paramName

section Kept

variable {x : SysctlSetterImpl} {original : Int32} {r : Answers} {s : State}

/-- The bit says truly whether there is a value to write back. -/
structure Kept (x : SysctlSetterImpl) (original : Int32) (s : State) : Prop where
  same : s.changed = false → s.params x.paramName = original
  unwanted : s.changed = true → original.toInt = x.unwantedValue

@[simp] theorem write_params (s : State) (key : String) (val : Int) :
    (s.write key val).params key = Int32.ofInt val := Function.update_self ..

/-- A value that is one of the two stays in reach of `Unset`. -/
theorem kept_set (hname : Plain x.paramName)
    (hvalue : original.toInt = x.desiredValue ∨ original.toInt = x.unwantedValue)
    (hs : Kept x original s) :
    wp x.set r any (fun res t => Kept x original t ∧
      (res ≠ .ok () → t.params x.paramName = s.params x.paramName)) s := by
  have hnoted : Kept x original (s.noted x) := by
    constructor
    · intro h
      have hnot : s.changed = false := by
        rw [State.noted, Bool.or_eq_false_iff] at h
        exact h.1
      exact hs.same hnot
    · intro h
      cases hc : s.changed with
      | true => exact hs.unwanted hc
      | false =>
        rw [State.noted, hc, Bool.false_or, bne_iff_ne, hs.same hc] at h
        exact hvalue.resolve_left h
  refine wp_set hname (fun _ e => ⟨hs, fun _ => rfl⟩)
    (fun _ e => ⟨hnoted, fun _ => rfl⟩) fun _ => ?_
  refine ⟨⟨fun h => ?_, fun h => hnoted.unwanted h⟩, fun h => absurd rfl h⟩
  rw [State.write, State.noted, Bool.or_eq_false_iff, bne_eq_false_iff_eq] at h
  rw [write_params, ← h.2, hs.same h.1, Int32.ofInt_toInt]

theorem kept_unset (hs : Kept x original s) :
    wp x.unset r any (fun res t => Kept x original t ∧
      (res = .ok () → t.params x.paramName = original) ∧
      (res ≠ .ok () → t.params x.paramName = s.params x.paramName)) s := by
  refine wp_unset (fun hc => ?_) (fun _ e => ?_) fun hc _ => ?_
  · exact ⟨hs, fun _ => hs.same hc, fun _ => rfl⟩
  · refine ⟨hs, fun h => ?_, fun _ => rfl⟩
    cases h
  · have hback : (s.write x.paramName x.unwantedValue).params x.paramName = original := by
      rw [write_params, ← hs.unwanted hc, Int32.ofInt_toInt]
    refine ⟨⟨fun _ => hback, fun h => ?_⟩, fun _ => hback, fun h => absurd rfl h⟩
    cases h

end Kept

section Runs

variable {x : SysctlSetterImpl} {params : String → Int32} {calls : List Invocation}
  (hname : Plain x.paramName) (hvalue : (params x.paramName).toInt = x.desiredValue ∨
    (params x.paramName).toInt = x.unwantedValue)
include hname hvalue

theorem kept_after : Kept x (params x.paramName) (after x params calls) := by
  induction calls with
  | nil =>
    refine ⟨fun _ => rfl, fun h => ?_⟩
    cases h
  | cons c earlier ih =>
    obtain ⟨method, answers⟩ := c
    cases method with
    | set => exact (kept_set hname hvalue ih).2.1
    | unset => exact (kept_unset ih).2.1

theorem untouched_after (hnone : NoneSet x params calls) :
    (after x params calls).params x.paramName = params x.paramName := by
  induction calls with
  | nil => rfl
  | cons c earlier ih =>
    have hkept : Kept x (params x.paramName) (after x params earlier) := kept_after hname hvalue
    have hearlier := ih fun answers calls h => hnone answers calls (h.trans (List.suffix_cons _ _))
    obtain ⟨method, answers⟩ := c
    cases method with
    | set =>
      have hfailed := hnone answers earlier (List.suffix_refl _)
      exact ((kept_set hname hvalue hkept).2.2 hfailed).trans hearlier
    | unset =>
      have hend := (kept_unset (r := answers) hkept).2.2
      by_cases hok : (x.unset answers (after x params earlier)).result = .ok ()
      · exact hend.1 hok
      · exact (hend.2 hok).trans hearlier

theorem restored_of_value : Restored x params calls where
  unset _ _ hok := (kept_unset (kept_after hname hvalue)).2.2.1 hok
  untouched := untouched_after hname hvalue

/-- The commands all work. -/
def working : Answers := ⟨none, none⟩

omit hvalue in
/-- A value that is neither of the two is lost in one `Set` and one `Unset`. -/
theorem value_of_restored
    (hunwanted : (Int32.ofInt x.unwantedValue).toInt = x.unwantedValue)
    (hrestored : Restored x params [⟨.set, working⟩])
    (hdesired : (params x.paramName).toInt ≠ x.desiredValue) :
    (params x.paramName).toInt = x.unwantedValue := by
  have hset : wp x.set working any (fun _ t => t.changed = true) (fresh params) := by
    refine wp_set hname (fun h => absurd rfl h) (fun h => absurd rfl h) fun _ => ?_
    exact bne_iff_ne.mpr hdesired
  have hunset : wp x.unset working any (fun res t => res = .ok () ∧
      t.params x.paramName = Int32.ofInt x.unwantedValue) (after x params [⟨.set, working⟩]) := by
    refine wp_unset (fun h => ?_) (fun h => absurd rfl h) fun _ _ => ⟨rfl, write_params ..⟩
    exact absurd (h.symm.trans hset.2) Bool.false_ne_true
  have hback := hrestored.unset working ⟨_, List.mem_singleton_self _, rfl⟩ hunset.2.1
  rw [← hback, hunset.2.2, hunwanted]

end Runs

/-- The parameters of the three users are restored exactly if they had one of the two values
the user gives. -/
theorem restored_iff (u : User) (params : String → Int32) :
    (∀ calls, Restored u.setter params calls) ↔
      (params u.setter.paramName).toInt = u.setter.desiredValue ∨
      (params u.setter.paramName).toInt = u.setter.unwantedValue := by
  have hname : Plain u.setter.paramName := by cases u <;> decide
  have hunwanted : (Int32.ofInt u.setter.unwantedValue).toInt = u.setter.unwantedValue := by
    cases u <;> decide
  constructor
  · intro h
    by_cases hdesired : (params u.setter.paramName).toInt = u.setter.desiredValue
    · exact .inl hdesired
    · exact .inr (value_of_restored hname hunwanted (h _) hdesired)
  · intro hvalue calls
    exact restored_of_value hname hvalue

/-- Reverse path filtering that was off is strict after one `Set` and one `Unset`. -/
theorem rp_filter_off_becomes_strict :
    let s := after User.rpFilter.setter (fun _ => 0) [⟨.set, working⟩]
    (User.rpFilter.setter.unset working s).result = .ok () ∧
      (User.rpFilter.setter.unset working s).final.params "net.ipv4.conf.all.rp_filter" = 1 := by
  decide

end NordVPN.Kernel
