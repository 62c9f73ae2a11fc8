import NordVPN.Meshnet.Steps

/-!
The identity that meshnet runs with.

Registering stores the machine that the registry answers with and the key it was registered with,
and after a conflict both are new. `EnableMeshnet` loads the settings after that. `StartMeshnet` and
`NotifyPeerUpdate` load them before, and go on with the machine and the key that were stored then,
if there was a machine at all.
-/

namespace NordVPN.Meshnet.Steps

open NordVPN.Netip NordVPN.Networker

/-- An operation that names this machine takes it from the settings as they are stored, and the key
is the one whose public half is registered. -/
def UsesIdentity (s : Device) : Op → Prop
  | .map id => s.cfg.meshDevice.map Machine.id = some id
  | .setMesh _ self privateKey => s.cfg.meshDevice.map Machine.address = some self ∧
      s.cfg.meshPrivateKey = privateKey ∧ s.registered = some privateKey
  | _ => True

/-- A call that never dereferences a missing device and whose operations all use the identity. -/
def RunsAsRegistered (r : Moment) (s : Device) (m : ServiceM End) : Prop :=
  m.Along exec r UsesIdentity (fun outcome _ => outcome ≠ .panicked) s

/-! ### What registering does -/

/-- What the registry grants: the machine and the key that it was registered with. -/
def granted (r : Moment) (cfg : Settings) : Option (Machine × String) :=
  let privateKey := if cfg.meshPrivateKey = "" then r.newKey false else cfg.meshPrivateKey
  if r.releaseName then
    match r.registers false privateKey with
    | .machine device => some (device, privateKey)
    | .failure => none
    | .conflict =>
      match r.registers true (r.newKey true) with
      | .machine device => some (device, r.newKey true)
      | .conflict | .failure => none
  else none

/-- The settings with another identity. -/
def Settings.identified (cfg : Settings) (device : Machine) (privateKey : String) : Settings :=
  { cfg with meshDevice := some device, meshPrivateKey := privateKey }

/-- The registry takes the machine, and what it answers is stored and good. -/
structure Registers (r : Moment) (cfg : Settings) (device : Machine) (privateKey : String) :
    Prop where
  granted : granted r cfg = some (device, privateKey)
  rereads : r.rereads (.meshConfig device privateKey) = true
  writes : r.writes (.meshConfig device privateKey) = true
  correct : isRegistrationInfoCorrect (cfg.identified device privateKey) = true

/-- The device after that. -/
def Device.adopt (s : Device) (device : Machine) (privateKey : String) : Device :=
  { s with cfg := s.cfg.identified device privateKey, registered := some privateKey }

/-- The calls that name this machine to the registry or to the networker. -/
inductive Entry where
  | enableMeshnet
  | startMeshnet
  | notifyPeerUpdate (peerIds : List String)

def Entry.script : Entry → ServiceM End
  | enableMeshnet => Steps.enableMeshnet
  | startMeshnet => Steps.startMeshnet
  | notifyPeerUpdate peerIds => Steps.notifyPeerUpdate peerIds

/-- If the call gets to register, the machine stored before is the one that the registry answers
with. `StartMeshnet` needs its address and the key as well, if there is a map. -/
def Entry.Current (r : Moment) (s : Device) : Entry → Prop
  | enableMeshnet => True
  | startMeshnet =>
    r.isLoggedIn = true → r.loads .request = true → s.cfg.mesh = true → r.loads .checker = true →
      ∀ device privateKey, Registers r s.cfg device privateKey →
      ∃ old, s.cfg.meshDevice = some old ∧ old.id = device.id ∧
        ∀ resp, r.map device.id = .map resp →
          old.address = device.address ∧ s.cfg.meshPrivateKey = privateKey
  | notifyPeerUpdate _ =>
    r.loads .request = true → s.cfg.mesh = true → r.loads .checker = true →
      isRegistrationInfoCorrect s.cfg = false →
      ∀ device privateKey, Registers r s.cfg device privateKey →
      ∃ old, s.cfg.meshDevice = some old ∧ old.id = device.id

section Along

variable {α : Type} {r : Moment} {s : Device} {Q : α → Device → Prop}

theorem along_unless {c : Bool} {refusal : α} {m : ServiceM α} (h : Q refusal s) :
    (if !c then pure refusal else m).Along exec r UsesIdentity Q s ↔
      (c = true → m.Along exec r UsesIdentity Q s) := by
  cases c with
  | false => exact iff_of_true h nofun
  | true => simp

theorem along_loggedIn {refusal : α} {m : ServiceM α} (h : Q refusal s) :
    (do if !(← ask .isLoggedIn) then pure refusal else m : ServiceM α).Along exec r UsesIdentity
        Q s ↔
      (r.isLoggedIn = true → m.Along exec r UsesIdentity Q s) := by
  simp only [ask, Script.step_bind, Script.done_bind, Script.Along, exec, UsesIdentity, true_and]
  exact along_unless h

theorem along_withSettings {caller : Caller} {refusal : α} {f : Settings → ServiceM α}
    (h : Q refusal s) :
    (withSettings caller refusal f).Along exec r UsesIdentity Q s ↔
      (r.loads caller = true → (f s.cfg).Along exec r UsesIdentity Q s) := by
  simp only [withSettings, ask, Script.step_bind, Script.done_bind, Script.Along,
    exec, UsesIdentity,
    true_and]
  by_cases hloads : r.loads caller = true
  · simp only [hloads, if_true, true_implies]
  · simp only [hloads, Bool.false_eq_true, if_false, false_implies, iff_true]
    exact h

theorem along_chooseKey {cfg : Settings} {Q : String → Device → Prop} :
    (chooseKey cfg).Along exec r UsesIdentity Q s ↔
      Q (if cfg.meshPrivateKey = "" then r.newKey false else cfg.meshPrivateKey) s := by
  unfold chooseKey
  split
  · simp only [ask, Script.Along, exec, UsesIdentity, true_and]
  · exact Iff.rfl

theorem along_registerMachine {cfg : Settings} {Q : Option (Machine × String) → Device → Prop} :
    (registerMachine cfg).Along exec r UsesIdentity Q s ↔
      Q (granted r cfg) { s with
        registered := ((granted r cfg).map Prod.snd).or s.registered } := by
  unfold registerMachine granted
  rw [Script.along_bind, along_chooseKey]
  generalize (if cfg.meshPrivateKey = "" then r.newKey false else cfg.meshPrivateKey) = privateKey
  simp only [ask, Script.step_bind, Script.done_bind, Script.Along, exec, UsesIdentity, true_and]
  by_cases hname : r.releaseName = true
  · simp only [hname, Bool.not_true, Bool.false_eq_true, if_false, if_true, Script.Along, exec,
      UsesIdentity, true_and]
    cases r.registers false privateKey with
    | machine device => exact Iff.rfl
    | failure => exact Iff.rfl
    | conflict =>
      simp only [Script.Along, exec, UsesIdentity, true_and]
      cases r.registers true (r.newKey true) <;> exact Iff.rfl
  · simp only [hname, Bool.not_false, if_true, if_false, Bool.false_eq_true]
    exact Iff.rfl

/-- Only a registration that is stored and good lets the caller go on. -/
theorem along_registerAndSave {Q : Bool → Device → Prop} (hQ : ∀ s, Q false s) :
    (registerAndSave s.cfg).Along exec r UsesIdentity Q s ↔
      ∀ device privateKey, Registers r s.cfg device privateKey →
        Q true (s.adopt device privateKey) := by
  unfold registerAndSave
  rw [Script.along_bind, along_registerMachine]
  cases hgranted : granted r s.cfg with
  | none =>
    constructor
    · intro _ device privateKey h
      exact absurd (hgranted.symm.trans h.granted) nofun
    · intro _
      exact hQ _
  | some identity =>
    obtain ⟨device, privateKey⟩ := identity
    have honly : (∀ d k, Registers r s.cfg d k → Q true (s.adopt d k)) ↔
        (Registers r s.cfg device privateKey → Q true (s.adopt device privateKey)) := by
      constructor
      · intro h
        exact h device privateKey
      · intro h d k hregisters
        obtain ⟨rfl, rfl⟩ := Prod.mk.inj (Option.some.inj (hgranted.symm.trans hregisters.granted))
        exact h hregisters
    rw [honly]
    simp only [ask, Script.step_bind, Script.done_bind, Script.Along, exec, UsesIdentity, true_and,
      Save.apply]
    by_cases hrereads : r.rereads (.meshConfig device privateKey) = true
    · by_cases hwrites : r.writes (.meshConfig device privateKey) = true
      · by_cases hcorrect : isRegistrationInfoCorrect (s.cfg.identified device privateKey) = true
        · have hregisters : Registers r s.cfg device privateKey :=
            ⟨hgranted, hrereads, hwrites, hcorrect⟩
          simp only [hrereads, hwrites, if_true, hregisters, true_implies]
          change Q (isRegistrationInfoCorrect (s.cfg.identified device privateKey)) _ ↔ _
          rw [hcorrect]
          exact Iff.rfl
        · simp only [hrereads, hwrites, if_true]
          change Q (isRegistrationInfoCorrect (s.cfg.identified device privateKey)) _ ↔ _
          rw [Bool.eq_false_of_not_eq_true hcorrect]
          exact iff_of_true (hQ _) fun h => absurd h.correct hcorrect
      · simp only [hrereads, hwrites, if_true, Bool.false_eq_true, if_false]
        exact iff_of_true (hQ _) fun h => absurd h.writes hwrites
    · simp only [hrereads, Bool.false_eq_true, if_false]
      exact iff_of_true (hQ _) fun h => absurd h.rereads hrereads

theorem along_register {Q : Bool → Device → Prop} (hQ : ∀ s, Q false s) :
    register.Along exec r UsesIdentity Q s ↔
      (r.loads .checker = true → ∀ device privateKey, Registers r s.cfg device privateKey →
        Q true (s.adopt device privateKey)) := by
  unfold register
  rw [along_withSettings (hQ s), along_registerAndSave hQ]

theorem along_checkRegistration {Q : Bool → Device → Prop} (hQ : ∀ s, Q false s) :
    checkRegistration.Along exec r UsesIdentity Q s ↔
      (r.loads .checker = true → if isRegistrationInfoCorrect s.cfg then Q true s
        else ∀ device privateKey, Registers r s.cfg device privateKey →
          Q true (s.adopt device privateKey)) := by
  unfold checkRegistration
  rw [along_withSettings (hQ s)]
  apply forall_congr'
  intro _
  split
  · exact Iff.rfl
  · exact along_registerAndSave hQ

/-! ### From the map on -/

theorem along_unsetMesh {Q : End → Device → Prop} (hQ : ∀ outcome s, Q outcome s) :
    unsetMesh.Along exec r UsesIdentity Q s := by
  unfold unsetMesh
  rw [along_withSettings (hQ _ s)]
  intro _
  simp only [ask, Script.step_bind, Script.done_bind, Script.Along, UsesIdentity, true_and]
  split <;> exact hQ _ _

theorem along_fetchMap {id : String} {Q : MapAnswer → Device → Prop} (hQ : ∀ s, Q .notFound s) :
    (fetchMap id).Along exec r UsesIdentity Q s ↔
      s.cfg.meshDevice.map Machine.id = some id ∧ Q (r.map id) s := by
  unfold fetchMap
  simp only [ask, Script.step_bind, Script.done_bind, Script.Along, exec, UsesIdentity]
  apply and_congr_right
  intro _
  cases r.map id with
  | map resp => exact Iff.rfl
  | unauthorized => exact Iff.rfl
  | failure => exact Iff.rfl
  | notFound =>
    apply iff_of_true _ (hQ s)
    rw [Script.along_bind]
    exact along_unsetMesh fun _ s => hQ s

end Along

section Calls

variable {r : Moment} {s : Device} {cfg : Settings} {device : Machine} {peerIds : List String}

/-- `SaveWith` at the end of `EnableMeshnet` reads the device that is stored then. -/
theorem save_enabled_ne_panicked {self : Machine} (hdevice : s.cfg.meshDevice = some device) :
    (exec r (.saveWith (.enabled self)) s).1 ≠ .panicked := by
  simp only [exec, Save.apply, hdevice]
  split
  · split <;> exact nofun
  · exact nofun

/-- With the settings as they are stored nothing can go wrong. -/
theorem runs_enableWith (hdevice : s.cfg.meshDevice = some device)
    (hkey : s.registered = some s.cfg.meshPrivateKey) :
    RunsAsRegistered r s (enableWith s.cfg device) := by
  unfold RunsAsRegistered enableWith
  rw [Script.along_bind, along_fetchMap fun _ => nofun]
  refine ⟨congrArg _ hdevice, ?_⟩
  cases r.map device.id with
  | unauthorized =>
    simp only [mapRefused, ask, Script.step_bind, Script.done_bind, Script.Along,
      UsesIdentity, true_and]
    split <;> exact nofun
  | notFound => exact nofun
  | failure => exact nofun
  | map resp =>
    simp only [ask, Script.step_bind, Script.done_bind, Script.Along]
    refine ⟨⟨congrArg _ hdevice, rfl, hkey⟩, ?_⟩
    split
    · exact nofun
    · simp only [Script.Along, UsesIdentity, true_and]
      split
      · exact nofun
      · exact nofun
      · rename_i hpanicked
        exact absurd hpanicked (save_enabled_ne_panicked hdevice)

theorem runs_startWith :
    RunsAsRegistered r s (startWith cfg device) ↔
      s.cfg.meshDevice.map Machine.id = some device.id ∧
      ∀ resp, r.map device.id = .map resp →
        s.cfg.meshDevice.map Machine.address = some device.address ∧
        s.cfg.meshPrivateKey = cfg.meshPrivateKey ∧ s.registered = some cfg.meshPrivateKey := by
  unfold RunsAsRegistered startWith
  rw [Script.along_bind, along_fetchMap fun _ => nofun]
  apply and_congr_right
  intro _
  cases r.map device.id with
  | unauthorized =>
    refine ⟨fun _ _ hmap => (by cases hmap), fun _ => ?_⟩
    simp only [ask, Script.step_bind, Script.done_bind, Script.Along, UsesIdentity, true_and]
    exact End.noConfusion
  | notFound | failure => exact ⟨fun _ _ hmap => (by cases hmap), fun _ => End.noConfusion⟩
  | map resp =>
    simp only [ask, Script.step_bind, Script.done_bind, Script.Along, UsesIdentity]
    constructor
    · intro h _ _
      exact h.1
    · intro h
      refine ⟨h resp rfl, ?_⟩
      split <;> exact nofun

theorem runs_notifyWith :
    RunsAsRegistered r s (notifyWith device peerIds) ↔
      s.cfg.meshDevice.map Machine.id = some device.id := by
  unfold RunsAsRegistered notifyWith
  rw [Script.along_bind, along_fetchMap fun _ => nofun]
  apply and_iff_left
  cases r.map device.id with
  | unauthorized => exact nofun
  | notFound => exact nofun
  | failure => exact nofun
  | map resp =>
    simp only [performIf]
    split
    · simp only [ask, Script.step_bind, Script.done_bind, Script.Along, UsesIdentity, true_and]
      split <;> exact nofun
    · simp only [ask, Script.step_bind, Script.done_bind, Script.Along, UsesIdentity, true_and]
      split <;> exact nofun

theorem runs_enableMeshnet : RunsAsRegistered r s enableMeshnet := by
  unfold RunsAsRegistered enableMeshnet
  rw [along_loggedIn nofun]
  intro _
  rw [Script.along_bind, along_register fun _ => nofun]
  intro _ registered privateKey _
  rw [along_unless nofun, along_withSettings nofun]
  intro _ _
  split
  · exact nofun
  split
  · exact nofun
  · exact runs_enableWith rfl rfl

/-- `StartMeshnet` asks for the map of the machine that was stored before it registered. -/
theorem runs_startMeshnet_iff :
    RunsAsRegistered r s startMeshnet ↔ Entry.startMeshnet.Current r s := by
  unfold RunsAsRegistered startMeshnet Entry.Current
  rw [along_loggedIn nofun, along_withSettings nofun, along_unless nofun, Script.along_bind,
    along_register fun _ => nofun]
  apply forall₄_congr
  intro _ _ _ _
  apply forall₃_congr
  intro device privateKey _
  rw [along_unless nofun, imp_iff_right rfl]
  cases hold : s.cfg.meshDevice with
  | none =>
    apply iff_of_false
    · intro h
      exact h rfl
    · rintro ⟨_, hsome, _⟩
      cases hsome
  | some old =>
    refine runs_startWith.trans ?_
    change some device.id = some old.id ∧ _ ↔ _
    simp only [Device.adopt, Settings.identified, Option.map_some, Option.some.injEq,
      exists_eq_left']
    constructor
    · rintro ⟨hid, hmap⟩
      refine ⟨hid.symm, fun resp hresp => ?_⟩
      obtain ⟨haddress, hkey, -⟩ := hmap resp (hid ▸ hresp)
      exact ⟨haddress.symm, hkey.symm⟩
    · rintro ⟨hid, hmap⟩
      refine ⟨hid.symm, fun resp hresp => ?_⟩
      obtain ⟨haddress, hkey⟩ := hmap resp (hid ▸ hresp)
      exact ⟨haddress.symm, hkey.symm, hkey.symm⟩

/-- `NotifyPeerUpdate` asks for the map of the machine that was stored before the check. -/
theorem runs_notifyPeerUpdate_iff :
    RunsAsRegistered r s (notifyPeerUpdate peerIds) ↔
      (Entry.notifyPeerUpdate peerIds).Current r s := by
  unfold RunsAsRegistered notifyPeerUpdate Entry.Current
  rw [along_withSettings nofun, along_unless nofun, Script.along_bind,
    along_checkRegistration fun _ => nofun]
  apply forall₃_congr
  intro _ _ _
  by_cases hcorrect : isRegistrationInfoCorrect s.cfg = true
  · simp only [hcorrect, if_true, Bool.true_eq_false, false_implies, iff_true]
    rw [along_unless nofun]
    intro _
    cases hold : s.cfg.meshDevice with
    | none => simp [isRegistrationInfoCorrect, hold] at hcorrect
    | some old => exact runs_notifyWith.mpr (congrArg _ hold)
  · simp only [hcorrect, Bool.false_eq_true, if_false, true_implies]
    apply forall₃_congr
    intro device privateKey _
    rw [along_unless nofun, imp_iff_right rfl]
    cases hold : s.cfg.meshDevice with
    | none =>
      apply iff_of_false
      · intro h
        exact h rfl
      · rintro ⟨_, hsome, _⟩
        cases hsome
    | some old =>
      refine runs_notifyWith.trans ?_
      simp only [Device.adopt, Settings.identified, Option.map_some, Option.some.injEq,
        exists_eq_left']
      exact eq_comm

/-! ### All callers -/

/-- Meshnet runs with the registered identity exactly if the identity stored before the call is not
out of date. -/
theorem runs_as_registered_iff (r : Moment) (s : Device) (entry : Entry) :
    RunsAsRegistered r s entry.script ↔ entry.Current r s := by
  cases entry with
  | enableMeshnet => exact iff_of_true runs_enableMeshnet trivial
  | startMeshnet => exact runs_startMeshnet_iff
  | notifyPeerUpdate peerIds => exact runs_notifyPeerUpdate_iff

end Calls

/-- With meshnet on and no device stored, `StartMeshnet` and a notification register the machine and
then dereference the device that was missing. After a conflict `StartMeshnet` asks for the map of
the machine of the other account. -/
theorem old_identity_is_used :
    let device : Machine := ⟨"b", "", "", .ofBytes 100 64 0 2, true, ""⟩
    let other : Machine := ⟨"a", "", "", .ofBytes 100 64 0 3, true, ""⟩
    let w := newCombined none 0 false false
    let r : Moment :=
      { netw := Env.working [], registers := fun _ _ => .machine device, map := fun _ => .failure }
    let conflicted : Moment :=
      { r with registers := fun again _ => if again then .machine device else .conflict }
    ¬ RunsAsRegistered r ⟨{ mesh := true }, w, none⟩ startMeshnet ∧
      ¬ RunsAsRegistered r ⟨{ mesh := true }, w, none⟩ (notifyPeerUpdate []) ∧
      ¬ RunsAsRegistered conflicted
          ⟨{ mesh := true, meshDevice := some other, meshPrivateKey := "old" }, w, none⟩
          startMeshnet := by
  intro device other w r conflicted
  have hregisters : Registers r { mesh := true } device "key" := ⟨rfl, rfl, rfl, by decide⟩
  have hconflicted : Registers conflicted
      { mesh := true, meshDevice := some other, meshPrivateKey := "old" } device "key" :=
    ⟨rfl, rfl, rfl, by decide⟩
  refine ⟨fun h => ?_, fun h => ?_, fun h => ?_⟩
  · obtain ⟨_, hold, _⟩ := runs_startMeshnet_iff.mp h rfl rfl rfl rfl _ _ hregisters
    cases hold
  · obtain ⟨_, hold, _⟩ := runs_notifyPeerUpdate_iff.mp h rfl rfl rfl rfl _ _ hregisters
    cases hold
  · obtain ⟨_, hold, hid, _⟩ := runs_startMeshnet_iff.mp h rfl rfl rfl rfl _ _ hconflicted
    cases hold
    exact absurd hid (by decide)

end NordVPN.Meshnet.Steps
