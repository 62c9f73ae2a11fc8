import NordVPN.Lib.Runs
import NordVPN.OpenVPN.Start

/-!
Cleaning up after a failed start of OpenVPN.

After a failed `Start` the networker calls `Stop`, at most twice. Whether this ends in a state from
which OpenVPN can be started again depends on where `Start` failed: before it was active there is
nothing to do, after the management connection was made `stop` has what it needs, and in between
there is a process and no client.
-/

namespace NordVPN.OpenVPN

open NordVPN.Vpn

variable {w w' : World} {ovpn ovpn' : Ovpn} {cmd : Cmd} {a : StopAnswers} {i : StartInput}
  {later : List StopAnswers}

/-- Nothing runs: `Start` begins anew. -/
structure Ovpn.Idle (ovpn : Ovpn) : Prop where
  active : ovpn.active = false
  state : ovpn.state = .exited
  tun : ovpn.tun = none

theorem idle_reset : ovpn.reset.Idle := ⟨rfl, rfl, rfl⟩

/-! ### One call of `stop` -/

/-- The process is connected to the management socket. A process that was told to exit has been
waited for. -/
structure Ovpn.Managed (ovpn : Ovpn) (cmd : Cmd) : Prop where
  active : ovpn.active = true
  manager : ovpn.manager = true
  process : ovpn.process = some cmd
  started : cmd.started = true
  told : cmd.told = true → cmd.waited = true

/-- The management connection does not take the signal. -/
def StopAnswers.refused (a : StopAnswers) : Bool := a.pid != 0 && !a.sendSignal

/-- The process is told to exit, or has ended by itself. -/
def StopAnswers.ends (a : StopAnswers) : Bool := a.pid != 0 || a.ended

theorem stop_of_refused (h : ovpn.Managed cmd) (hrefused : a.refused = true) :
    ovpn.stop a = .ok (ovpn, some .sendSignal) := by
  obtain ⟨hpid, hsignal⟩ := Bool.and_eq_true_iff.mp hrefused
  have hsignal : a.sendSignal = false := by simpa using hsignal
  simp [Ovpn.stop, h.manager, hpid, hsignal]

/-- The command as `Wait` finds it. -/
def Cmd.signalled (cmd : Cmd) (a : StopAnswers) : Cmd := { cmd with told := cmd.told || a.pid != 0 }

theorem stop_of_not_refused (h : ovpn.Managed cmd) (hrefused : a.refused = false) :
    ovpn.stop a = Ovpn.waitAndClose a { ovpn with process := some (cmd.signalled a) } := by
  by_cases hpid : a.pid = 0
  · have hsignalled : cmd.signalled a = cmd := by simp [Cmd.signalled, hpid]
    rw [hsignalled, ← h.process]
    simp [Ovpn.stop, hpid]
  · have hsignalled : cmd.signalled a = { cmd with told := true } := by simp [Cmd.signalled, hpid]
    have hsignal : a.sendSignal = true := by simpa [StopAnswers.refused, hpid] using hrefused
    rw [hsignalled]
    simp [Ovpn.stop, h.manager, h.process, hpid, hsignal]

/-- The process is neither told to exit nor has it ended: `stop` waits for it. -/
theorem stop_waits (h : ovpn.Managed cmd) (hrefused : a.refused = false)
    (hwaited : cmd.waited = false) (hends : a.ends = false) :
    ovpn.stop a = .error .waitsForUntold := by
  obtain ⟨hpid, hended⟩ := Bool.or_eq_false_iff.mp hends
  have htold : cmd.told = false := by
    by_contra htold
    simp [h.told (by simpa using htold)] at hwaited
  rw [stop_of_not_refused h hrefused]
  simp [Ovpn.waitAndClose, Cmd.wait, Cmd.signalled, h.started, hwaited, hpid, hended, htold]
  rfl

theorem stop_waited (h : ovpn.Managed cmd) (hrefused : a.refused = false)
    (hends : cmd.waited = true ∨ a.ends = true) :
    ∃ cmd', cmd'.started = true ∧ cmd'.waited = true ∧
      ovpn.stop a = if a.close then .ok (Ovpn.reset { ovpn with process := some cmd' }, none)
        else .ok ({ ovpn with process := some cmd' }, some .close) := by
  have hwait : (cmd.signalled a).wait a.ended = .ok { cmd.signalled a with waited := true } := by
    apply if_pos
    rcases hends with hwaited | hends
    · simp [Cmd.signalled, hwaited]
    · rcases Bool.or_eq_true_iff.mp hends with hpid | hended
      · simp [Cmd.signalled, hpid]
      · simp [hended]
  refine ⟨{ cmd.signalled a with waited := true }, h.started, rfl, ?_⟩
  have hstarted : (cmd.signalled a).started = true := h.started
  rw [stop_of_not_refused h hrefused]
  simp only [Ovpn.waitAndClose, hstarted, hwait, h.manager, if_true]
  cases a.close <;> rfl

/-! ### Several calls -/

/-- Calls of `Stop` one after the other; their errors are logged. -/
def World.stops (w : World) : List StopAnswers → Except Fault World
  | [] => .ok w
  | a :: later => do
    let (w, _) ← w.stop a
    w.stops later

/-- What the calls do to the instance. -/
def Ovpn.stops (ovpn : Ovpn) : List StopAnswers → Except Fault Ovpn
  | [] => .ok ovpn
  | a :: later =>
    if ovpn.active then do
      let (ovpn, _) ← ovpn.stop a
      ovpn.stops later
    else ovpn.stops later

/-- A call of `Stop` without a process to stop only publishes. -/
theorem stop_of_inactive (hinactive : w.ovpn.active = false) :
    w.stop a = .ok (w.publish (.disconnected true), some .notActive) := by
  apply if_neg
  simp [World.publish, hinactive]

theorem stop_of_active (hactive : w.ovpn.active = true) :
    w.stop a = (w.ovpn.stop a).map fun (ovpn, err) =>
      ({ w.publish (.disconnected true) with ovpn }, err) := by
  have h : w.stop a = _ := if_pos hactive
  rw [h]
  cases hstop : w.ovpn.stop a <;> simp [World.publish, hstop] <;> rfl

theorem stops_ovpn : (w.stops later).map World.ovpn = w.ovpn.stops later := by
  induction later generalizing w with
  | nil => rfl
  | cons a later ih =>
    rw [World.stops, Ovpn.stops]
    by_cases hactive : w.ovpn.active = true
    · rw [stop_of_active hactive, if_pos hactive]
      cases w.ovpn.stop a with
      | error fault => rfl
      | ok result => exact ih
    · rw [stop_of_inactive (by simpa using hactive), if_neg hactive]
      exact ih

theorem stops_of_inactive (hinactive : ovpn.active = false) : ovpn.stops later = .ok ovpn := by
  induction later with
  | nil => rfl
  | cons a later ih => rw [Ovpn.stops, hinactive, if_neg Bool.false_ne_true, ih]

/-- One of the calls has everything it needs, and the first that takes the signal does not wait for
a process that goes on. -/
@[mk_iff]
structure Recovers (answers : List StopAnswers) : Prop where
  completes : ∃ a ∈ answers, a.refused = false ∧ a.close = true
  ends : ∀ a, answers.find? (!·.refused) = some a → a.ends = true

theorem recovers_cons_of_refused (hrefused : a.refused = true) :
    Recovers (a :: later) ↔ Recovers later := by
  simp [recovers_iff, hrefused]

theorem recovers_cons (hrefused : a.refused = false) :
    Recovers (a :: later) ↔ a.ends = true ∧
      (a.close = true ∨ ∃ a ∈ later, a.refused = false ∧ a.close = true) := by
  simp [recovers_iff, hrefused, and_comm]

/-- The calls end in an idle state. -/
def Ovpn.EndsIdle (ovpn : Ovpn) (answers : List StopAnswers) : Prop :=
  ∃ ovpn', ovpn.stops answers = .ok ovpn' ∧ ovpn'.Idle

theorem endsIdle_of_idle (h : ovpn.Idle) : ovpn.EndsIdle later :=
  ⟨ovpn, stops_of_inactive h.active, h⟩

theorem not_endsIdle_nil (h : ovpn.Managed cmd) : ¬ ovpn.EndsIdle [] := by
  rintro ⟨ovpn', ⟨⟩, hidle⟩
  exact Bool.false_ne_true (hidle.active.symm.trans h.active)

variable {err : Option StopError}

theorem endsIdle_cons (hactive : ovpn.active = true) (hstop : ovpn.stop a = .ok (ovpn', err)) :
    ovpn.EndsIdle (a :: later) ↔ ovpn'.EndsIdle later := by
  rw [Ovpn.EndsIdle, Ovpn.stops, if_pos hactive, hstop]
  rfl

theorem not_endsIdle_cons {fault : Fault} (hactive : ovpn.active = true)
    (hstop : ovpn.stop a = .error fault) : ¬ ovpn.EndsIdle (a :: later) := by
  rintro ⟨ovpn', hstops, -⟩
  rw [Ovpn.stops, if_pos hactive, hstop] at hstops
  cases hstops

/-- Once the process was waited for, it only matters that the connection can be closed. -/
theorem endsIdle_cons_of_ends (h : ovpn.Managed cmd) (hrefused : a.refused = false)
    (hends : cmd.waited = true ∨ a.ends = true) :
    ∃ (ovpn' : Ovpn) (cmd' : Cmd), ovpn'.Managed cmd' ∧ cmd'.waited = true ∧
      (ovpn.EndsIdle (a :: later) ↔ a.close = true ∨ ovpn'.EndsIdle later) := by
  obtain ⟨cmd', hstarted, hwaited, hstop⟩ := stop_waited h hrefused hends
  refine ⟨{ ovpn with process := some cmd' }, cmd',
    ⟨h.active, h.manager, rfl, hstarted, fun _ => hwaited⟩, hwaited, ?_⟩
  cases hclose : a.close with
  | true =>
    rw [hclose, if_pos rfl] at hstop
    rw [endsIdle_cons h.active hstop]
    exact iff_of_true (endsIdle_of_idle idle_reset) (.inl rfl)
  | false =>
    rw [hclose, if_neg Bool.false_ne_true] at hstop
    rw [endsIdle_cons h.active hstop]
    exact (or_iff_right Bool.false_ne_true).symm

theorem endsIdle_of_waited (h : ovpn.Managed cmd) (hwaited : cmd.waited = true) :
    ovpn.EndsIdle later ↔ ∃ a ∈ later, a.refused = false ∧ a.close = true := by
  induction later generalizing ovpn cmd with
  | nil =>
    apply iff_of_false (not_endsIdle_nil h)
    rintro ⟨a, ha, -⟩
    cases ha
  | cons a later ih =>
    cases hrefused : a.refused with
    | true => simp [endsIdle_cons h.active (stop_of_refused h hrefused), ih h hwaited, hrefused]
    | false =>
      obtain ⟨ovpn', cmd', h', hwaited', hiff⟩ :=
        @endsIdle_cons_of_ends _ _ _ later h hrefused (.inl hwaited)
      simp [hiff, ih h' hwaited', hrefused]

/-- The calls of `Stop` for a connected process end in an idle state exactly if they recover. -/
theorem endsIdle_iff_recovers (h : ovpn.Managed cmd) (hwaited : cmd.waited = false) :
    ovpn.EndsIdle later ↔ Recovers later := by
  induction later with
  | nil =>
    apply iff_of_false (not_endsIdle_nil h)
    rintro ⟨⟨a, ha, -⟩, -⟩
    cases ha
  | cons a later ih =>
    cases hrefused : a.refused with
    | true =>
      rw [endsIdle_cons h.active (stop_of_refused h hrefused), recovers_cons_of_refused hrefused]
      exact ih
    | false =>
      rw [recovers_cons hrefused]
      cases hends : a.ends with
      | false => simpa using not_endsIdle_cons h.active (stop_waits h hrefused hwaited hends)
      | true =>
        obtain ⟨ovpn', cmd', h', hwaited', hiff⟩ :=
          @endsIdle_cons_of_ends _ _ _ later h hrefused (.inr hends)
        rw [hiff, endsIdle_of_waited h' hwaited']
        exact (and_iff_right rfl).symm

/-! ### What the events change -/

theorem core_stage1Handler (r : Lookup) (events : List Event) :
    (stage1Handler r w events).1.ovpn.core = w.ovpn.core := by
  induction events generalizing w with
  | nil => rfl
  | cons event events ih =>
    have hevent := core_stage1Event (w := w) r event
    rw [stage1Handler]
    split <;> rename_i hround <;> rw [hround] at hevent
    · exact ih.trans hevent
    · exact hevent
    · exact hevent

theorem managed_of_core (h : ovpn.core = (true, true, some { started := true })) :
    ovpn.Managed { started := true } := by
  obtain ⟨hactive, hcore⟩ := Prod.mk.inj h
  obtain ⟨hmanager, hprocess⟩ := Prod.mk.inj hcore
  exact ⟨hactive, hmanager, hprocess, rfl, fun h => absurd h Bool.false_ne_true⟩

/-! ### Failures of `Start` -/

/-- The places where `Start` gives up. -/
inductive FailurePoint where
  | preparing | process | management | stateEvents | handler | exited
deriving DecidableEq, Repr

/-- The failures after the process has connected. -/
def StartInput.handshakePoint (i : StartInput) (w : World) : Option FailurePoint :=
  if !i.setStateEvents then some .stateEvents
  else match (stage1Handler i.lookup w.connect i.events).2 with
    | none => none
    | some .exited => some .exited
    | some _ => some .handler

/-- The first place where what `Start` meets is not what it needs. -/
def StartInput.failurePoint (i : StartInput) (w : World) : Option FailurePoint :=
  if i.prepare.isSome then some .preparing
  else if !i.startOpenVPN then some .process
  else if i.management ≠ .client then some .management
  else i.handshakePoint w

/-- What has to be the case for the calls of `Stop` to clean up. After a failure on the way to the
management connection nothing helps. -/
def FailurePoint.Cleanable (w : World) (cleanup : StopAnswers) (stops : List StopAnswers) :
    FailurePoint → Prop
  | .preparing => w.ovpn.state = .exited ∧ w.ovpn.tun = none
  | .process => True
  | .management => False
  | .stateEvents | .handler => Recovers (cleanup :: stops)
  | .exited => Recovers stops

theorem err_of_giveUp {err err' : StartError} (h : w.giveUp a err = .ok (w', some err')) :
    err' = err := by
  unfold World.giveUp at h
  cases hstop : w.ovpn.stop a with
  | error fault =>
    rw [hstop] at h
    cases h
  | ok result =>
    rw [hstop] at h
    cases h
    rfl

theorem prepare_ne_alreadyStarted : i.prepare ≠ some .alreadyStarted := by
  unfold StartInput.prepare
  split
  · exact fun h => nomatch h
  · split
    · exact fun h => nomatch h
    · split <;> exact fun h => nomatch h

theorem handshake_ne_alreadyStarted : w.handshake i ≠ .ok (w', some .alreadyStarted) := by
  unfold World.handshake
  intro h
  split at h
  · exact nomatch err_of_giveUp h
  · split at h
    · cases h
    · cases h
    · exact nomatch err_of_giveUp h

theorem start_ne_alreadyStarted (hinactive : w.ovpn.active = false) :
    w.start i ≠ .ok (w', some .alreadyStarted) := by
  unfold World.start
  rw [hinactive, if_neg Bool.false_ne_true]
  intro h
  split at h
  · rename_i err hprepare
    cases h
    exact prepare_ne_alreadyStarted hprepare
  · split at h
    · exact nomatch err_of_giveUp h
    · split at h
      · exact handshake_ne_alreadyStarted h
      · cases h
      · cases h

/-- `Start` returns an error, the calls of `Stop` return and leave an idle instance, and a later
`Start` is not told that it was started already. -/
def CleansUp (w : World) (i : StartInput) (stops : List StopAnswers) : Prop :=
  ∃ w₁ err w₂, w.start i = .ok (w₁, some err) ∧ w₁.stops stops = .ok w₂ ∧ w₂.ovpn.Idle ∧
    ∀ j w₃, w₂.start j ≠ .ok (w₃, some .alreadyStarted)

theorem cleansUp_of_start {err : StartError} (hstart : w.start i = .ok (w', some err)) :
    CleansUp w i later ↔ w'.ovpn.EndsIdle later := by
  rw [Ovpn.EndsIdle, ← stops_ovpn]
  constructor
  · rintro ⟨w₁, err₁, w₂, hstart₁, hstops, hidle, -⟩
    cases hstart.symm.trans hstart₁
    exact ⟨w₂.ovpn, by rw [hstops]; rfl, hidle⟩
  · rintro ⟨ovpn, hstops, hidle⟩
    cases hworld : w'.stops later with
    | error fault =>
      rw [hworld] at hstops
      cases hstops
    | ok w₂ =>
      rw [hworld] at hstops
      cases hstops
      exact ⟨w', err, w₂, hstart, hworld, hidle, fun _ _ => start_ne_alreadyStarted hidle.active⟩

/-- A `Start` that gives up makes the first call of `stop` itself. -/
theorem cleansUp_of_giveUp {err : StartError} (hactive : w'.ovpn.active = true)
    (hstart : w.start i = w'.giveUp a err) :
    CleansUp w i later ↔ w'.ovpn.EndsIdle (a :: later) := by
  cases hstop : w'.ovpn.stop a with
  | error fault =>
    apply iff_of_false
    · rintro ⟨w₁, err₁, w₂, hstart₁, -⟩
      rw [hstart, World.giveUp, hstop] at hstart₁
      cases hstart₁
    · exact not_endsIdle_cons hactive hstop
  | ok result =>
    rw [World.giveUp, hstop] at hstart
    rw [cleansUp_of_start hstart, endsIdle_cons hactive hstop]

/-! ### The failure points -/

theorem endsIdle_of_inactive (hinactive : ovpn.active = false) :
    ovpn.EndsIdle later ↔ ovpn.state = .exited ∧ ovpn.tun = none := by
  rw [Ovpn.EndsIdle, stops_of_inactive hinactive]
  constructor
  · rintro ⟨ovpn', ⟨⟩, hidle⟩
    exact ⟨hidle.state, hidle.tun⟩
  · rintro ⟨hstate, htun⟩
    exact ⟨ovpn, rfl, hinactive, hstate, htun⟩

/-- The command was not started, so there is nothing to wait for. -/
theorem endsIdle_launch_false (hmanager : w.ovpn.manager = false) :
    (w.launch false).ovpn.EndsIdle (a :: later) := by
  have hnone : ¬ ((w.launch false).ovpn.manager && a.pid != 0) = true := by
    simp [World.launch, hmanager]
  have hstop : (w.launch false).ovpn.stop a = .ok ((w.launch false).ovpn.reset, none) := by
    rw [Ovpn.stop, if_neg hnone]
    rfl
  rw [endsIdle_cons rfl hstop]
  exact endsIdle_of_idle idle_reset

/-- There is a process but no client: `stop` waits for a process that it cannot tell to exit, and if
that has ended it closes the client that is not there. -/
theorem stop_launch_true (hmanager : w.ovpn.manager = false) :
    (w.launch true).ovpn.stop a = .error (if a.ended then .nilClient else .waitsForUntold) := by
  have hnone : ¬ ((w.launch true).ovpn.manager && a.pid != 0) = true := by
    simp [World.launch, hmanager]
  rw [Ovpn.stop, if_neg hnone]
  cases hended : a.ended <;>
    simp [Ovpn.waitAndClose, World.launch, Cmd.wait, hended, hmanager] <;> rfl

theorem not_endsIdle_launch_true (hmanager : w.ovpn.manager = false) :
    ¬ (w.launch true).ovpn.EndsIdle later := by
  cases later with
  | nil =>
    rintro ⟨ovpn, ⟨⟩, hidle⟩
    exact nomatch hidle.active
  | cons a later => exact not_endsIdle_cons rfl (stop_launch_true hmanager)

theorem cleansUp_of_handshake (hstart : w.start i = w.connect.handshake i)
    (hfails : ∀ w', w.start i ≠ .ok (w', none)) :
    CleansUp w i later ↔
      ∃ point, i.handshakePoint w = some point ∧ point.Cleanable w i.cleanup later := by
  unfold World.handshake at hstart
  unfold StartInput.handshakePoint
  by_cases hevents : i.setStateEvents = true
  · have hcore := core_stage1Handler (w := w.connect) i.lookup i.events
    rw [if_neg (by simp [hevents])] at hstart ⊢
    generalize stage1Handler i.lookup w.connect i.events = stage at hstart hcore ⊢
    obtain ⟨w₁, err⟩ := stage
    have hmanaged : w₁.ovpn.Managed { started := true } := managed_of_core hcore
    split at hstart <;> rename_i hstage <;> cases hstage
    · exact absurd hstart (hfails _)
    · rw [cleansUp_of_start hstart, endsIdle_iff_recovers hmanaged rfl]
      simp [FailurePoint.Cleanable]
    · rename_i err hnot
      rw [cleansUp_of_giveUp hmanaged.active hstart, endsIdle_iff_recovers hmanaged rfl]
      cases err <;> first | exact (hnot rfl).elim | simp [FailurePoint.Cleanable]
  · have hmanaged : w.connect.ovpn.Managed { started := true } := managed_of_core rfl
    rw [if_pos (by simp [hevents])] at hstart ⊢
    rw [cleansUp_of_giveUp rfl hstart, endsIdle_iff_recovers hmanaged rfl]
    simp [FailurePoint.Cleanable]

theorem cleansUp_iff_cleanable (hinactive : w.ovpn.active = false)
    (hmanager : w.ovpn.manager = false) (hfails : ∀ w', w.start i ≠ .ok (w', none)) :
    CleansUp w i later ↔
      ∃ point, i.failurePoint w = some point ∧ point.Cleanable w i.cleanup later := by
  have hstart : w.start i = _ := if_neg (ne_true_of_eq_false hinactive)
  unfold StartInput.failurePoint
  cases hprepare : i.prepare with
  | some err =>
    rw [hprepare] at hstart
    rw [cleansUp_of_start hstart, endsIdle_of_inactive hinactive]
    simp [FailurePoint.Cleanable]
  | none =>
    rw [hprepare] at hstart
    dsimp only at hstart
    cases hprocess : i.startOpenVPN with
    | false =>
      rw [hprocess] at hstart
      rw [cleansUp_of_giveUp rfl hstart]
      simp [FailurePoint.Cleanable, endsIdle_launch_false hmanager]
    | true =>
      rw [hprocess] at hstart
      cases hmanagement : i.management with
      | client =>
        rw [hmanagement] at hstart
        simpa using cleansUp_of_handshake hstart hfails
      | error =>
        rw [hmanagement] at hstart
        rw [cleansUp_of_start hstart]
        simp [FailurePoint.Cleanable, not_endsIdle_launch_true hmanager]
      | timeout =>
        rw [hmanagement] at hstart
        rw [cleansUp_of_start hstart]
        simp [FailurePoint.Cleanable, not_endsIdle_launch_true hmanager]

/-! ### Runs -/

/-- Without a process there is no client. -/
def Ovpn.Orderly (ovpn : Ovpn) : Prop := ovpn.active = false → ovpn.manager = false

theorem orderly_of_active (hactive : ovpn.active = true) : ovpn.Orderly :=
  fun hinactive => absurd hactive (ne_true_of_eq_false hinactive)

theorem orderly_of_core (h : ovpn.Orderly) (hcore : ovpn'.core = ovpn.core) : ovpn'.Orderly := by
  obtain ⟨hactive, hcore⟩ := Prod.mk.inj hcore
  obtain ⟨hmanager, -⟩ := Prod.mk.inj hcore
  intro hinactive
  rw [hmanager]
  exact h (hactive.symm.trans hinactive)

/-- `stop` leaves `active` and the client as they are, or resets both, and does not read what was
published. -/
theorem waitAndClose_keeps (hstop : ovpn.waitAndClose a = .ok (ovpn', err)) :
    (ovpn.Orderly → ovpn'.Orderly) ∧ ovpn'.publishedState = ovpn.publishedState := by
  unfold Ovpn.waitAndClose at hstop
  split at hstop
  · cases hstop
  · rename_i cmd hprocess
    split at hstop
    · cases hwait : cmd.wait a.ended with
      | error fault =>
        rw [hwait] at hstop
        cases hstop
      | ok cmd' =>
        rw [hwait] at hstop
        dsimp only [bind, Except.bind] at hstop
        split_ifs at hstop <;> cases hstop
        · exact ⟨fun h => h, rfl⟩
        · exact ⟨fun _ _ => rfl, rfl⟩
    · cases hstop
      exact ⟨fun _ _ => rfl, rfl⟩

theorem stop_keeps (hstop : ovpn.stop a = .ok (ovpn', err)) :
    (ovpn.Orderly → ovpn'.Orderly) ∧ ovpn'.publishedState = ovpn.publishedState := by
  unfold Ovpn.stop at hstop
  split_ifs at hstop
  · exact (waitAndClose_keeps hstop :)
  · cases hstop
    exact ⟨fun h => h, rfl⟩
  · exact waitAndClose_keeps hstop

/-- What holds between the states before and after the parts of a step. -/
structure Tracing (R : World → World → Prop) : Prop where
  refl : ∀ w, R w w
  trans : ∀ {w w' w''}, R w w' → R w' w'' → R w w''
  stage1 : ∀ r w event, R w (stage1Event r w event).1
  stage2 : ∀ {r w event w'}, stage2Event r w event = .ok w' → R w w'
  launch : ∀ w started, R w (w.launch started)
  connect : ∀ w : World, R w w.connect
  publish : ∀ w : World, R w (w.publish (.disconnected true))
  stop : ∀ {a w ovpn err}, w.ovpn.stop a = .ok (ovpn, err) → R w { w with ovpn }

namespace Tracing

variable {R : World → World → Prop} (h : Tracing R)
include h

theorem stage1Handler (r : Lookup) (w : World) (events : List Event) :
    R w (stage1Handler r w events).1 := by
  induction events generalizing w with
  | nil => exact h.refl w
  | cons event events ih =>
    have hevent := h.stage1 r w event
    rw [OpenVPN.stage1Handler]
    split <;> rename_i hround <;> rw [hround] at hevent
    · exact h.trans hevent (ih _)
    · exact hevent
    · exact hevent

theorem giveUp {err : StartError} {err' : Option StartError}
    (hstart : w.giveUp a err = .ok (w', err')) : R w w' := by
  unfold World.giveUp at hstart
  cases hstop : w.ovpn.stop a with
  | error fault =>
    rw [hstop] at hstart
    cases hstart
  | ok result =>
    rw [hstop] at hstart
    cases hstart
    exact h.stop hstop

theorem handshake {err : Option StartError} (hstart : w.handshake i = .ok (w', err)) : R w w' := by
  have hstage := h.stage1Handler i.lookup w i.events
  unfold World.handshake at hstart
  split at hstart
  · exact h.giveUp hstart
  · split at hstart <;> rename_i hresult <;> rw [hresult] at hstage
    · cases hstart
      exact hstage
    · cases hstart
      exact hstage
    · exact h.trans hstage (h.giveUp hstart)

theorem start {err : Option StartError} (hstart : w.start i = .ok (w', err)) : R w w' := by
  unfold World.start at hstart
  split at hstart
  · cases hstart
    exact h.refl w
  · split at hstart
    · cases hstart
      exact h.refl w
    · split at hstart
      · exact h.trans (h.launch w false) (h.giveUp hstart)
      · split at hstart
        · exact h.trans (h.connect w) (h.handshake hstart)
        · cases hstart
          exact h.launch w true
        · cases hstart
          exact h.launch w true

theorem step (w : World) (step : Step) : R w (w.step step) := by
  cases step with
  | start i =>
    dsimp only [World.step]
    split
    · exact h.start ‹_›
    · exact h.refl w
  | stop a =>
    dsimp only [World.step]
    split
    · rename_i hstop
      cases hactive : w.ovpn.active with
      | false =>
        rw [stop_of_inactive hactive] at hstop
        cases hstop
        exact h.publish w
      | true =>
        rw [stop_of_active hactive] at hstop
        cases hovpn : w.ovpn.stop a with
        | error fault =>
          rw [hovpn] at hstop
          cases hstop
        | ok result =>
          rw [hovpn] at hstop
          cases hstop
          exact h.trans (h.publish w) (h.stop hovpn)
    · exact h.refl w
  | event r event =>
    dsimp only [World.step]
    split
    · exact h.stage2 ‹_›
    · exact h.refl w

end Tracing

theorem tracing_orderly : Tracing fun w w' => w.ovpn.Orderly → w'.ovpn.Orderly where
  refl _ h := h
  trans h h' hw := h' (h hw)
  stage1 r _ event h := orderly_of_core h (core_stage1Event r event)
  stage2 hstage h := orderly_of_core h (core_stage2Event hstage)
  launch _ _ _ := orderly_of_active rfl
  connect _ _ := orderly_of_active rfl
  publish _ h := h
  stop hstop h := (stop_keeps hstop).1 h

/-- In every state of a run without a running process: `Stop` changes nothing of the instance, and
after a `Start` that fails the calls of `Stop` clean up exactly if the place of the failure allows
it. -/
theorem failed_start_cleaned_up_iff
    (hreaches : Reaches World.step (fun _ _ => True) {} w) (hinactive : w.ovpn.active = false) :
    (∀ a, ∃ w', w.stop a = .ok (w', some .notActive) ∧ w'.ovpn = w.ovpn) ∧
    ∀ i stops, (∀ w', w.start i ≠ .ok (w', none)) → (CleansUp w i stops ↔
      ∃ point, i.failurePoint w = some point ∧ point.Cleanable w i.cleanup stops) := by
  have horderly : w.ovpn.Orderly :=
    hreaches.invariant (I := fun w => w.ovpn.Orderly) (fun _ => rfl)
      fun w step h _ => tracing_orderly.step w step h
  constructor
  · intro a
    exact ⟨_, stop_of_inactive hinactive, rfl⟩
  · intro i stops hfails
    exact cleansUp_iff_cleanable hinactive (horderly hinactive) hfails

/-- A start of a server with an IPv4 address with every file operation succeeding. -/
def someStart : StartInput where
  creds := { openVPNUsername := "user", openVPNPassword := "password" }
  serverData := { ip := .v4 0x0a050002, protocol := .udp, openVPNVersion := "2.4.0" }
  config := fixedTemplate "client"

/-- The server refuses the account three times. -/
def refusedStart : StartInput :=
  { someStart with events := List.replicate 3 (Event.state "RECONNECTING" "auth-failure" "") }

/-- `Start` stops the process itself, and the instance is idle. -/
theorem refused_start_cleaned_up : CleansUp {} refusedStart [{}, {}] := by
  apply ((failed_start_cleaned_up_iff .refl rfl).2 refusedStart _ _).mpr
  · have hrecovers : Recovers [{}, {}, {}] := by
      constructor
      · exact ⟨{}, List.mem_cons_self, rfl, rfl⟩
      · rintro a ⟨⟩
        rfl
    exact ⟨.handler, by decide, hrecovers⟩
  · have hanswer : (World.start refusedStart {}).map Prod.snd =
        .ok (some (.handler .accountExpired)) := by decide
    intro w' hstart
    rw [hstart] at hanswer
    cases hanswer

/-- The process does not connect to the management socket in time. The networker's `Stop` then waits
for a process that it has not told to exit. -/
theorem management_timeout_not_cleaned_up :
    World.stop {} (World.launch {} true) = .error .waitsForUntold ∧
    World.stop { ended := true } (World.launch {} true) = .error .nilClient ∧
    ¬ CleansUp {} { someStart with management := .timeout } [{}, {}] := by
  have hstart : World.start { someStart with management := .timeout } {} =
    .ok (World.launch {} true, some .managementTimeout) := rfl
  refine ⟨rfl, rfl, ?_⟩
  rw [cleansUp_of_start hstart]
  exact not_endsIdle_launch_true rfl

end NordVPN.OpenVPN
