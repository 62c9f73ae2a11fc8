import NordVPN.Errors
import NordVPN.Lib.Prog
import NordVPN.Lib.Runs

/-!
Nameservers: which ones are used (`daemon/dns/nameservers.go`) and how they are set
(`daemon/dns/dns.go`).

The setter has several methods and takes the first one that works, both for setting and for
unsetting. Nothing ties the two choices together: the method that undoes may not be the one
that did.
-/

namespace NordVPN.Dns

open Prog

/-! ### Which nameservers -/

/-- `NameServers.Get`; `servers` are the configured ones of threat protection. -/
def getNameservers (servers : List String) (isThreatProtectionLite ipv6 : Bool) : List String :=
  if isThreatProtectionLite then
    (if ipv6 then ["2400:bb40:4444::103", "2400:bb40:8888::103"] else []) ++
      (if servers.isEmpty then ["103.86.96.96", "103.86.99.99"] else servers)
  else
    (if ipv6 then ["2400:bb40:4444::100", "2400:bb40:8888::100"] else []) ++
      ["103.86.96.100", "103.86.99.100"]

/-! ### The setter -/

/-- `dns.Method` on one interface, with the nameservers applied through it. -/
structure Method where
  name : String
  nameservers : Option (List String) := none
deriving DecidableEq, Repr

/-- Which methods fail in a call, by position. -/
structure MethodEnv where
  setFails : Nat → Bool
  unsetFails : Nat → Bool

/-- `dns.DefaultSetter`. -/
structure DefaultSetter where
  methods : List Method
deriving DecidableEq, Repr

/-- `NewSetter`. -/
def newSetter : DefaultSetter :=
  ⟨[{ name := "resolved" }, { name := "resolvectl" }, { name := "resolvconf" },
    { name := "resolv.conf, default" }]⟩

/-- The loop of `Set` and `Unset`: the first method that does not fail is used. The flag tells
whether there is one; `i` is the position of the first method of the list. -/
def useFirst (fails : Nat → Bool) (use : Method → Method) : Nat → List Method → List Method × Bool
  | _, [] => ([], false)
  | i, m :: rest =>
    if fails i then (m :: (useFirst fails use (i + 1) rest).1, (useFirst fails use (i + 1) rest).2)
    else (use m :: rest, true)

namespace DefaultSetter

/-- `DefaultSetter.Set`. -/
def set (nameservers : List String) : Prog MethodEnv DefaultSetter Error Unit := do
  let r ← Prog.env
  let d ← Prog.state
  if nameservers.isEmpty then Prog.fail (.plain "nameservers not provided")
  else do
    let used :=
      useFirst r.setFails (fun m => { m with nameservers := some nameservers }) 0 d.methods
    Prog.update fun d => { d with methods := used.1 }
    if used.2 then pure ()
    else Prog.fail (.plain "dns not set, no dns setting method is available")

/-- `DefaultSetter.Unset`: no method working is no error. -/
def unset : Prog MethodEnv DefaultSetter Error Unit := do
  let r ← Prog.env
  let d ← Prog.state
  let used := useFirst r.unsetFails (fun m => { m with nameservers := none }) 0 d.methods
  Prog.update fun d => { d with methods := used.1 }

/-! ### One call -/

/-- The call always returns `nil`. -/
theorem wp_unset (r : MethodEnv) (d : DefaultSetter) :
    wp unset r any (fun x t => x = .ok () ∧ t.methods =
      (useFirst r.unsetFails (fun m => { m with nameservers := none }) 0 d.methods).1) d := by
  simp only [any, unset, wp_bind, wp_env, wp_state, onOk_ok, wp_update, and_self]

/-- Without nameservers no method is tried. -/
theorem wp_set (nameservers : List String) (r : MethodEnv) (d : DefaultSetter) :
    wp (set nameservers) r any (fun _ t => t.methods =
      if nameservers = [] then d.methods
      else (useFirst r.setFails (fun m => { m with nameservers := some nameservers }) 0
        d.methods).1) d := by
  refine wp_env_bind.mpr (wp_state_bind.mpr ?_)
  simp only [List.isEmpty_iff]
  split
  · exact wp_fail.mpr rfl
  · refine wp_update_bind.mpr ⟨trivial, ?_⟩
    split
    · exact wp_pure.mpr rfl
    · exact wp_fail.mpr rfl

/-- The method is the first one that does not fail. -/
def IsFirst (fails : Nat → Bool) (i k : Nat) : Prop :=
  fails (i + k) = false ∧ ∀ j < k, fails (i + j) = true

theorem isFirst_succ_iff {fails : Nat → Bool} {i k : Nat} (h : fails i = true) :
    IsFirst fails i (k + 1) ↔ IsFirst fails (i + 1) k := by
  unfold IsFirst
  constructor
  · rintro ⟨hk, hbefore⟩
    refine ⟨by rwa [Nat.add_right_comm], fun j hj => ?_⟩
    have hnext := hbefore (j + 1) (Nat.succ_lt_succ hj)
    rwa [← Nat.add_assoc, Nat.add_right_comm] at hnext
  · rintro ⟨hk, hbefore⟩
    refine ⟨by rwa [Nat.add_right_comm] at hk, fun j hj => ?_⟩
    cases j with
    | zero => exact h
    | succ j =>
      have hnext := hbefore j (Nat.lt_of_succ_lt_succ hj)
      rwa [Nat.add_right_comm] at hnext

/-- The loop changes the first method that does not fail, and no other. -/
theorem getElem?_useFirst (fails : Nat → Bool) (use : Method → Method) (i : Nat)
    (methods : List Method) (k : Nat) :
    (IsFirst fails i k → (useFirst fails use i methods).1[k]? = methods[k]?.map use) ∧
      (¬ IsFirst fails i k → (useFirst fails use i methods).1[k]? = methods[k]?) := by
  induction methods generalizing i k with
  | nil => exact ⟨fun _ => rfl, fun _ => rfl⟩
  | cons m rest ih =>
    rw [useFirst]
    by_cases hfails : fails i = true
    · rw [if_pos hfails]
      cases k with
      | zero => exact ⟨fun h => absurd (h.1.symm.trans hfails) (by decide), fun _ => rfl⟩
      | succ k =>
        rw [isFirst_succ_iff hfails]
        exact ih (i + 1) k
    · rw [if_neg hfails]
      cases k with
      | zero => exact ⟨fun _ => rfl, fun h => absurd ⟨by simpa using hfails, by simp⟩ h⟩
      | succ k => exact ⟨fun h => absurd (h.2 0 (Nat.succ_pos k)) hfails, fun _ => rfl⟩

/-- Nameservers are applied through the method at this position. -/
def Applied (d : DefaultSetter) (k : Nat) : Prop :=
  ∃ m, d.methods[k]? = some m ∧ m.nameservers ≠ none

theorem forall_mem_methods_iff {d : DefaultSetter} :
    (∀ m ∈ d.methods, m.nameservers = none) ↔ ∀ k, ¬ d.Applied k := by
  constructor
  · rintro h k ⟨m, hm, happlied⟩
    exact happlied (h m (List.mem_of_getElem? hm))
  · intro h m hm
    obtain ⟨k, hk⟩ := List.mem_iff_getElem?.mp hm
    exact not_not.mp fun happlied => h k ⟨m, hk, happlied⟩

/-! ### Runs -/

/-- A call on the interface, with the failures of the methods in it. -/
inductive Call where
  | set (nameservers : List String) (r : MethodEnv)
  | unset (r : MethodEnv)

/-- What a call leaves, whatever it returns. -/
def step (d : DefaultSetter) : Call → DefaultSetter
  | .set nameservers r => (set nameservers r d).final
  | .unset r => (unset r d).final

/-- The setter over the named methods, before the first call. -/
def start (names : List String) : DefaultSetter := ⟨names.map fun name => { name }⟩

/-- The call goes through the method at this position, if there is one. -/
def Call.Uses : Call → Nat → Prop
  | .set nameservers r, k => nameservers ≠ [] ∧ IsFirst r.setFails 0 k
  | .unset r, k => IsFirst r.unsetFails 0 k

def Call.isSet : Call → Bool
  | .set _ _ => true
  | .unset _ => false

/-- If the call is an `Unset` that returns `nil`, no method has nameservers applied after it. -/
def Undoes (d : DefaultSetter) : Call → Prop
  | .set _ _ => True
  | .unset r => (unset r d).result = .ok () → ∀ m ∈ (unset r d).final.methods, m.nameservers = none

/-- Every `Unset` goes through the method of each `Set` since the `Unset` before; `count` is the
number of methods, and the latest call stands first. -/
def Matched (count : Nat) : List Call → Prop
  | [] => True
  | call :: earlier => Matched count earlier ∧ (call.isSet = false →
      ∀ before ∈ earlier.takeWhile Call.isSet, ∀ k < count, before.Uses k → call.Uses k)

variable {d : DefaultSetter} {k : Nat}

theorem applied_set (nameservers : List String) (r : MethodEnv) :
    (d.step (.set nameservers r)).Applied k ↔
      d.Applied k ∨ (k < d.methods.length ∧ (Call.set nameservers r).Uses k) := by
  have hset := (wp_set nameservers r d).2
  rw [Applied, step, hset]
  by_cases hnone : nameservers = []
  · simp [hnone, Call.Uses, Applied]
  · rw [if_neg hnone]
    obtain ⟨huse, hskip⟩ := getElem?_useFirst r.setFails
      (fun m => { m with nameservers := some nameservers }) 0 d.methods k
    by_cases hfirst : IsFirst r.setFails 0 k
    · have hk : k < d.methods.length ↔ ∃ m, d.methods[k]? = some m := by
        rw [← Option.isSome_iff_exists, isSome_getElem?]
      simp only [huse hfirst, Call.Uses, Applied, hk, hfirst, Option.map_eq_some_iff]
      constructor
      · rintro ⟨_, ⟨m, hm, rfl⟩, -⟩
        exact .inr ⟨⟨m, hm⟩, hnone, trivial⟩
      · rintro (⟨m, hm, -⟩ | ⟨⟨m, hm⟩, -⟩)
        · exact ⟨_, ⟨m, hm, rfl⟩, nofun⟩
        · exact ⟨_, ⟨m, hm, rfl⟩, nofun⟩
    · simp [hskip hfirst, Call.Uses, hfirst, Applied]

theorem applied_unset (r : MethodEnv) :
    (d.step (.unset r)).Applied k ↔ d.Applied k ∧ ¬ (Call.unset r).Uses k := by
  have hunset := (wp_unset r d).2.2
  rw [Applied, step, hunset]
  obtain ⟨huse, hskip⟩ := getElem?_useFirst r.unsetFails
    (fun m => { m with nameservers := none }) 0 d.methods k
  by_cases hfirst : IsFirst r.unsetFails 0 k
  · simp [huse hfirst, Call.Uses, hfirst]
  · simp [hskip hfirst, Call.Uses, hfirst, Applied]

theorem length_useFirst (fails : Nat → Bool) (use : Method → Method) (i : Nat)
    (methods : List Method) : (useFirst fails use i methods).1.length = methods.length := by
  induction methods generalizing i with
  | nil => rfl
  | cons m rest ih =>
    rw [useFirst]
    split
    · simp only [List.length_cons, ih]
    · rfl

theorem length_step (call : Call) : (d.step call).methods.length = d.methods.length := by
  cases call with
  | set nameservers r =>
    rw [step, (wp_set nameservers r d).2]
    split
    · rfl
    · rw [length_useFirst]
  | unset r => rw [step, (wp_unset r d).2.2, length_useFirst]

variable {names : List String} {calls : List Call}

theorem length_run : (runAll step (start names) calls).methods.length = names.length := by
  induction calls with
  | nil => exact List.length_map _
  | cons call earlier ih => exact (length_step call).trans ih

/-- As long as every `Unset` has been matched, what is applied is what the calls of `Set` since the
latest one went through. -/
theorem applied_run (h : Matched names.length calls) :
    (runAll step (start names) calls).Applied k ↔
      k < names.length ∧ ∃ before ∈ calls.takeWhile Call.isSet, before.Uses k := by
  induction calls with
  | nil => simp [runAll, start, Applied]
  | cons call earlier ih =>
    obtain ⟨hearlier, hmatched⟩ := h
    cases call with
    | set nameservers r =>
      rw [runAll, applied_set, length_run, ih hearlier, List.takeWhile_cons_of_pos rfl,
        List.exists_mem_cons_iff, or_comm, ← and_or_left]
    | unset r =>
      rw [runAll, applied_unset, ih hearlier]
      refine iff_of_false ?_ (by simp [Call.isSet])
      rintro ⟨⟨hk, before, hbefore, huses⟩, hnot⟩
      exact hnot (hmatched rfl before hbefore k hk huses)

/-- **`Unset` undoes `Set`** in every run, whichever methods fail in which call, if and only if
every `Unset` goes through the method of each `Set` since the `Unset` before. The two loops look
for the first method that works, each with the failures of its own call. -/
theorem unset_undoes_iff (names : List String) (calls : List Call) :
    AllMeet step Undoes (start names) calls ↔ Matched names.length calls := by
  induction calls with
  | nil => exact Iff.rfl
  | cons call earlier ih =>
    rw [AllMeet, Matched, ih]
    refine and_congr_right fun hearlier => ?_
    cases call with
    | set nameservers r => simp [Undoes, Call.isSet]
    | unset r =>
      rw [Undoes, (wp_unset r _).2.1, forall_mem_methods_iff]
      have hleft : ∀ k, ((unset r (runAll step (start names) earlier)).final).Applied k ↔
          (k < names.length ∧ ∃ before ∈ earlier.takeWhile Call.isSet, before.Uses k) ∧
            ¬ (Call.unset r).Uses k := fun k =>
        (applied_unset r).trans (and_congr_left' (applied_run hearlier))
      constructor
      · intro h _ before hbefore k hk huses
        by_contra hnot
        exact h rfl k ((hleft k).mpr ⟨⟨hk, before, hbefore, huses⟩, hnot⟩)
      · intro h _ k happlied
        obtain ⟨⟨hk, before, hbefore, huses⟩, hnot⟩ := (hleft k).mp happlied
        exact hnot (h rfl before hbefore k hk huses)

/-- Only the second method can set. -/
def secondSets : MethodEnv := ⟨fun i => i != 1, fun _ => false⟩

/-- All methods can be unset, and the first one is. -/
theorem unset_misses_the_method_used :
    (set ["103.86.96.100"] secondSets newSetter).result = .ok () ∧
      (unset secondSets (set ["103.86.96.100"] secondSets newSetter).final).result = .ok () ∧
      { name := "resolvectl", nameservers := some ["103.86.96.100"] } ∈
        (unset secondSets (set ["103.86.96.100"] secondSets newSetter).final).final.methods := by
  decide

end DefaultSetter

end NordVPN.Dns
