import NordVPN.Lib.GoError
import NordVPN.Lib.Prog
import NordVPN.Lib.Runs

/-!
The groups of network interfaces (`daemon/routes/ifgroup/ifgroup.go`).

`Set` saves the group of every interface and then puts all of them into the group of the
application; `Unset` writes the saved groups back. A `Set` that fails between two
interfaces has changed the first without counting as set, so the next `Set` saves the
application's own group over the original.
-/

namespace NordVPN.Ifgroup

open Prog

/-- `ErrAlreadySet` and `ErrNotSet`. -/
inductive Sentinel where
  | alreadySet | notSet
deriving DecidableEq, Repr

abbrev Error := GoError Sentinel

/-- `Group`. -/
def group : UInt32 := 0xe1f1

/-- The errors that the calls to the system fail with during one call of the manager: the
list of devices, and `LinkByIndex` and `LinkSetGroup` of each interface. -/
structure Answers where
  deviceList : Option Error
  linkByIndex : Int → Option Error
  linkSetGroup : Int → Option Error

/-- The groups of the interfaces in the kernel, by index, and the fields of `NetlinkManager`
that change. -/
structure State where
  groups : Int → UInt32
  set : Bool
  backup : Int → Option UInt32

abbrev Ifg := Prog Answers State Error

/-- A `netlink.Link`, whose `Attrs` may be missing. -/
structure Link where
  index : Int
  attrs : Option UInt32

/-- `s.deviceList()`. -/
def deviceList (text : String) (devices : List Int) : Ifg (List Int) := do
  let r ← env
  match r.deviceList with
  | some e => fail (.wrap text e)
  | none => pure devices

/-- `netlink.LinkByIndex`. -/
def linkByIndex (index : Int) : Ifg Link := do
  let r ← env
  let s ← state
  match r.linkByIndex index with
  | some e => fail (.wrap s!"retrieving netlink device '{index}'" e)
  | none => pure ⟨index, some (s.groups index)⟩

/-- `netlink.LinkSetGroup`. -/
def linkSetGroup (link : Link) (group : UInt32) : Ifg Unit := do
  let r ← env
  match r.linkSetGroup link.index with
  | some e => fail (.wrap "setting group for netlink device" e)
  | none => update fun s => { s with groups := Function.update s.groups link.index group }

/-- The first loop of `Set`: the links of the devices, with their groups saved. -/
def saveGroups : List Int → Ifg (List Link)
  | [] => pure []
  | device :: devices => do
    let link ← linkByIndex device
    update fun s => { s with backup := Function.update s.backup device (some (link.attrs.getD 0)) }
    let links ← saveGroups devices
    pure (link :: links)

/-- `NetlinkManager.Set`. -/
def set (interfaces : List Int) : Ifg Unit := do
  let s ← state
  if s.set then fail (.sentinel .alreadySet) else do
    let devices ← deviceList "listing devices" interfaces
    let netlinkDevices ← saveGroups devices
    forEach (fun device => linkSetGroup device group) netlinkDevices
    update fun s => { s with set := true }

/-- One round of the loop of `Unset`. -/
def restoreGroup (device : Int) : Ifg Unit := do
  let link ← linkByIndex device
  let s ← state
  linkSetGroup link ((s.backup device).getD 0)

/-- `NetlinkManager.Unset`. -/
def unset (interfaces : List Int) : Ifg Unit := do
  let s ← state
  if !s.set then fail (.sentinel .notSet) else do
    let devices ← deviceList "lilsting devices" interfaces
    forEach restoreGroup devices
    update fun s => { s with backup := fun _ => none, set := false }

/-! ### Calls to the system -/

section Rules

variable {r : Answers} {A : State → Prop} {s : State}

theorem wp_deviceList {text : String} {devices : List Int}
    {Q : Except Error (List Int) → State → Prop} (hfail : ∀ e, Q (.error e) s)
    (hok : r.deviceList = none → Q (.ok devices) s) : wp (deviceList text devices) r A Q s := by
  unfold deviceList
  rw [wp_env_bind]
  cases h : r.deviceList with
  | some e => exact wp_fail.mpr (hfail _)
  | none => exact wp_pure.mpr (hok h)

theorem wp_linkByIndex {index : Int} {Q : Except Error Link → State → Prop}
    (hfail : ∀ e, Q (.error e) s)
    (hok : r.linkByIndex index = none → Q (.ok ⟨index, some (s.groups index)⟩) s) :
    wp (linkByIndex index) r A Q s := by
  unfold linkByIndex
  rw [wp_env_bind, wp_state_bind]
  cases h : r.linkByIndex index with
  | some e => exact wp_fail.mpr (hfail _)
  | none => exact wp_pure.mpr (hok h)

/-- An interface is in a new group. -/
def State.move (s : State) (index : Int) (group : UInt32) : State :=
  { s with groups := Function.update s.groups index group }

theorem wp_linkSetGroup {link : Link} {group : UInt32} {Q : Except Error Unit → State → Prop}
    (hfail : r.linkSetGroup link.index ≠ none → ∀ e, Q (.error e) s)
    (hok : r.linkSetGroup link.index = none →
      A (s.move link.index group) ∧ Q (.ok ()) (s.move link.index group)) :
    wp (linkSetGroup link group) r A Q s := by
  unfold linkSetGroup
  rw [wp_env_bind]
  cases h : r.linkSetGroup link.index with
  | some e => exact wp_fail.mpr (hfail (by simp [h]) _)
  | none => exact wp_update.mpr (hok h)

/-! ### Loops -/

/-- Saving changes no group. When it ends, every group is saved. -/
theorem wp_saveGroups (devices : List Int) (s : State) :
    wp (saveGroups devices) r any (fun res t => t.groups = s.groups ∧ t.set = s.set ∧
      ∀ links, res = .ok links → (∀ i ∈ devices, r.linkByIndex i = none) ∧
        links.map Link.index = devices ∧
        ∀ i, t.backup i = if i ∈ devices then some (s.groups i) else s.backup i) s := by
  induction devices generalizing s with
  | nil =>
    refine wp_pure.mpr ⟨rfl, rfl, fun links h => ?_⟩
    cases h
    exact ⟨List.forall_mem_nil _, rfl, fun i => (if_neg List.not_mem_nil).symm⟩
  | cons device devices ih =>
    rw [saveGroups, wp_bind]
    refine wp_linkByIndex (fun e => ⟨rfl, rfl, fun _ h => by cases h⟩) fun hlink => ?_
    rw [onOk_ok, wp_update_bind]
    refine ⟨trivial, wp_seq (ih _) (fun links t ht => ?_) fun e t ht => ?_⟩
    · obtain ⟨hgroups, hset, hsaved⟩ := ht
      obtain ⟨hlinks, hindices, hbackup⟩ := hsaved links rfl
      refine wp_pure.mpr ⟨hgroups, hset, fun links' h => ?_⟩
      cases h
      refine ⟨List.forall_mem_cons.mpr ⟨hlink, hlinks⟩, congrArg _ hindices, fun i => ?_⟩
      rw [hbackup]
      by_cases hi : i = device
      · subst hi
        simp
      · simp [hi]
    · exact ⟨ht.1, ht.2.1, fun _ h => by cases h⟩

/-- Moving interfaces into one group touches no other. -/
theorem wp_setGroups {group : UInt32} (links : List Link) (s : State)
    (hall : ∀ i ∈ links.map Link.index, r.linkSetGroup i = none) :
    wp (forEach (fun link => linkSetGroup link group) links) r any
      (fun res t => res = .ok () ∧ t.backup = s.backup ∧
        ∀ i ∉ links.map Link.index, t.groups i = s.groups i) s := by
  induction links generalizing s with
  | nil => exact wp_forEach_nil.mpr ⟨rfl, rfl, fun _ _ => rfl⟩
  | cons link links ih =>
    rw [List.map_cons, List.forall_mem_cons] at hall
    refine wp_forEach_cons.mpr (wp_linkSetGroup (fun h => absurd hall.1 h) fun _ => ⟨trivial, ?_⟩)
    rw [onOk_ok]
    refine wp_post (ih _ hall.2) fun _ t ht => ⟨ht.1, ht.2.1, fun i hi => ?_⟩
    rw [List.map_cons, List.mem_cons, not_or] at hi
    rw [ht.2.2 i hi.2]
    exact Function.update_of_ne hi.1 ..

/-- Restoring touches the listed interfaces only, and all of them if it ends. -/
theorem wp_restoreGroups (devices : List Int) (s : State) :
    wp (forEach restoreGroup devices) r any
      (fun res t => t.set = s.set ∧ t.backup = s.backup ∧
        (∀ i ∉ devices, t.groups i = s.groups i) ∧
        (res = .ok () → ∀ i ∈ devices, t.groups i = (s.backup i).getD 0)) s := by
  induction devices generalizing s with
  | nil =>
    exact wp_forEach_nil.mpr ⟨rfl, rfl, fun _ _ => rfl, fun _ => List.forall_mem_nil _⟩
  | cons device devices ih =>
    have hstop (e : Error) : s.set = s.set ∧ s.backup = s.backup ∧
        (∀ i ∉ device :: devices, s.groups i = s.groups i) ∧
        (Except.error e = .ok () → ∀ i ∈ device :: devices, s.groups i = (s.backup i).getD 0) :=
      ⟨rfl, rfl, fun _ _ => rfl, fun h => by cases h⟩
    rw [wp_forEach_cons, restoreGroup, wp_bind]
    refine wp_linkByIndex hstop fun _ => ?_
    rw [onOk_ok, wp_state_bind]
    refine wp_linkSetGroup (fun _ => hstop) fun _ => ⟨trivial, ?_⟩
    rw [onOk_ok]
    refine wp_post (ih _) fun res t ht => ⟨ht.1, ht.2.1, fun i hi => ?_, fun hres i hi => ?_⟩
    · rw [List.mem_cons, not_or] at hi
      rw [ht.2.2.1 i hi.2]
      exact Function.update_of_ne hi.1 ..
    · by_cases hrest : i ∈ devices
      · exact ht.2.2.2 hres i hrest
      · obtain rfl := (List.mem_cons.mp hi).resolve_right hrest
        rw [ht.2.2.1 i hrest]
        exact Function.update_self ..

end Rules

/-! ### Runs -/

inductive Method where
  | set | unset
deriving DecidableEq, Repr

/-- A call of the manager, with what the system answers. -/
structure Invocation where
  method : Method
  answers : Answers

def exec (interfaces : List Int) : Method → Ifg Unit
  | .set => set interfaces
  | .unset => unset interfaces

def step (interfaces : List Int) (s : State) (c : Invocation) : State :=
  (exec interfaces c.method c.answers s).final

/-- `NewNetlinkManager`, on a kernel with the given groups. -/
def newNetlinkManager (groups : Int → UInt32) : State := ⟨groups, false, fun _ => none⟩

/-- A `Set` that gets as far as setting groups sets all of them or none: its first
`LinkSetGroup` fails or none of them does. -/
def Whole (interfaces : List Int) (s : State) (c : Invocation) : Prop :=
  c.method = .set → s.set = false → c.answers.deviceList = none →
    (∀ i ∈ interfaces, c.answers.linkByIndex i = none) →
    (∀ i ∈ interfaces, c.answers.linkSetGroup i = none) ∨
      ∃ i ∈ interfaces.head?, c.answers.linkSetGroup i ≠ none

section Kept

variable {interfaces : List Int} {original : Int → UInt32} {r : Answers} {s : State}

/-- What is not at its original group can be restored. -/
structure Kept (interfaces : List Int) (original : Int → UInt32) (s : State) : Prop where
  clean : s.set = false → s.groups = original
  saved : s.set = true → ∀ i ∈ interfaces, s.backup i = some (original i)
  outside : ∀ i ∉ interfaces, s.groups i = original i

theorem kept_of_groups (hset : s.set = false) (h : s.groups = original) :
    Kept interfaces original s := by
  refine ⟨fun _ => h, fun hs => ?_, fun i _ => congrFun h i⟩
  rw [hset] at hs
  cases hs

theorem kept_set (hs : Kept interfaces original s) (hwhole : Whole interfaces s ⟨.set, r⟩) :
    wp (set interfaces) r any (fun _ t => Kept interfaces original t) s := by
  unfold set
  rw [wp_state_bind, wp_ite]
  refine ⟨fun _ => wp_fail.mpr hs, fun hnot => ?_⟩
  have hset : s.set = false := by simpa using hnot
  have hclean := hs.clean hset
  rw [wp_bind]
  refine wp_deviceList (fun _ => hs) fun hlist => ?_
  rw [onOk_ok]
  refine wp_seq (wp_saveGroups interfaces s) (fun links t ht => ?_) fun _ t ht =>
    kept_of_groups (ht.2.1.trans hset) (ht.1.trans hclean)
  obtain ⟨hgroups, htset, hsaved⟩ := ht
  obtain ⟨hlinks, hindices, hbackup⟩ := hsaved links rfl
  rcases hwhole rfl hset hlist hlinks with hall | ⟨i, hi, hfails⟩
  · refine wp_seq (wp_setGroups links t (hindices ▸ hall)) (fun _ u hu => ?_) fun _ u hu => by
      cases hu.1
    refine wp_update.mpr ⟨trivial, fun h => ?_, fun _ i hi => ?_, fun i hi => ?_⟩
    · cases h
    · change u.backup i = _
      rw [hu.2.1, hbackup, if_pos hi, hclean]
    · change u.groups i = _
      rw [hu.2.2 i (hindices ▸ hi), hgroups, hclean]
  · cases links with
    | nil =>
      rw [← hindices] at hi
      cases hi
    | cons link links =>
      rw [← hindices] at hi
      obtain rfl : link.index = i := Option.some.inj hi
      rw [wp_bind, wp_forEach_cons]
      refine wp_linkSetGroup (fun _ e => ?_) fun h => absurd h hfails
      exact kept_of_groups (htset.trans hset) (hgroups.trans hclean)

theorem kept_unset (hs : Kept interfaces original s) :
    wp (unset interfaces) r any
      (fun res t => Kept interfaces original t ∧ (res = .ok () → t.groups = original)) s := by
  have hstop (e : Error) : Kept interfaces original s ∧
      (Except.error e = .ok () → s.groups = original) := ⟨hs, fun h => by cases h⟩
  unfold unset
  rw [wp_state_bind, wp_ite]
  refine ⟨fun _ => wp_fail.mpr (hstop _), fun hnot => ?_⟩
  have hset : s.set = true := by simpa using hnot
  rw [wp_bind]
  refine wp_deviceList hstop fun _ => ?_
  rw [onOk_ok]
  refine wp_seq (wp_restoreGroups interfaces s) (fun _ t ht => ?_) fun e t ht => ?_
  · have hback : t.groups = original := by
      funext i
      by_cases hi : i ∈ interfaces
      · rw [ht.2.2.2 rfl i hi, hs.saved hset i hi, Option.getD_some]
      · rw [ht.2.2.1 i hi, hs.outside i hi]
    exact wp_update.mpr ⟨trivial, kept_of_groups rfl hback, fun _ => hback⟩
  · refine ⟨⟨fun h => ?_, fun _ i hi => ?_, fun i hi => ?_⟩, fun h => by cases h⟩
    · rw [ht.1, hset] at h
      cases h
    · rw [ht.2.1, hs.saved hset i hi]
    · rw [ht.2.2.1 i hi, hs.outside i hi]

theorem kept_of_reaches
    (h : Reaches (step interfaces) (Whole interfaces) (newNetlinkManager original) s) :
    Kept interfaces original s := by
  refine h.invariant (kept_of_groups rfl rfl) fun s c hs hwhole => ?_
  obtain ⟨method, answers⟩ := c
  cases method with
  | set => exact (kept_set hs hwhole).2
  | unset => exact (kept_unset hs).2.1

/-- After an `Unset` that succeeds every interface has its original group, in every run in which no
`Set` stops between two interfaces. -/
theorem groups_restored (answers : Answers)
    (hreach : Reaches (step interfaces) (Whole interfaces) (newNetlinkManager original) s)
    (hok : (unset interfaces answers s).result = .ok ()) :
    (unset interfaces answers s).final.groups = original :=
  (kept_unset (kept_of_reaches hreach)).2.2 hok

end Kept

/-- The system does what it is asked. -/
def working : Answers := ⟨none, fun _ => none, fun _ => none⟩

/-- The group of the interface with the given index cannot be set. -/
def refusing (index : Int) : Answers :=
  { working with linkSetGroup := fun i =>
    if i = index then some (.external "no such device") else none }

theorem groups_restored_after_refusal :
    let s := runAll (step [2, 3]) (newNetlinkManager fun _ => 7)
      [⟨.set, working⟩, ⟨.unset, working⟩, ⟨.set, refusing 2⟩]
    (unset [2, 3] working s).final.groups = fun _ => 7 := by
  refine groups_restored working (reaches_runAll ⟨⟨⟨trivial, ?_⟩, ?_⟩, ?_⟩) (by decide)
  · intro _ _ _ _
    exact .inr ⟨2, rfl, by decide⟩
  · intro h
    cases h
  · intro _ _ _ _
    exact .inl fun _ _ => rfl

/-- An interface stays in the application's group after a `Set` that stopped behind it, a `Set`
and an `Unset`. -/
theorem group_lost_after_half_set :
    let s :=
      runAll (step [2, 3]) (newNetlinkManager fun _ => 7) [⟨.set, working⟩, ⟨.set, refusing 3⟩]
    (unset [2, 3] working s).result = .ok () ∧ (unset [2, 3] working s).final.groups 2 = group := by
  decide

end NordVPN.Ifgroup
