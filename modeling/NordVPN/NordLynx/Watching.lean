import NordVPN.Lib.Runs
import NordVPN.NordLynx.Monitor

/-!
Disconnect notifications of NordLynx.

A connection that is up is watched by its monitor, whose context must not be done. But the context
is a child of that of the call: `TryExecuteWith` and `Enable` both cancel theirs when they return,
and the monitor then publishes a disconnect and ends. No run in which a call has returned `nil`
escapes this: what is needed is that the call itself returns and that the monitor is scheduled.
-/

namespace NordVPN.NordLynx

open NordVPN.Netip NordVPN.Networker

variable {w w' : World} {i : Nat} {m : Monitor} {effects : List Effect}

/-! ### The context of a monitor -/

theorem perform_frame : (w.perform i effects).monitors = w.monitors ∧
    (w.perform i effects).waiting = w.waiting ∧ (w.perform i effects).exec = w.exec ∧
    (w.perform i effects).cancelled = w.cancelled ∧ (w.perform i effects).l = w.l := by
  induction effects generalizing w with
  | nil => exact ⟨rfl, rfl, rfl, rfl, rfl⟩
  | cons effect rest ih =>
    cases effect with
    | close => exact ih
    | publish notice => exact ih

/-- The context that the call cancels when it has returned. -/
def World.parent (w : World) : Caller → Option Nat
  | .start _ => w.exec
  | .enable ctx => some ctx

/-- The context of the monitor of a waiting call descends from the one that the call cancels. -/
def World.Parented (w : World) : Prop :=
  ∀ i caller, w.waiting = some (i, caller) →
    ∃ m c, w.monitors[i]? = some m ∧ w.parent caller = some c ∧ c ∈ m.ctx

theorem Parented.of_none (h : w.waiting = none) : w.Parented := by
  intro i caller hwaiting
  cases h.symm.trans hwaiting

theorem Parented.of_same (h : w.Parented) (hwaiting : w'.waiting = w.waiting)
    (hmonitors : w'.monitors = w.monitors) (hexec : w'.exec = w.exec) : w'.Parented := by
  intro i caller hi
  obtain ⟨m, c, hm, hc, hmem⟩ := h i caller (hwaiting ▸ hi)
  refine ⟨m, c, hmonitors ▸ hm, ?_, hmem⟩
  cases caller with
  | start privateKey => exact hexec.trans hc
  | enable ctx => exact hc

theorem parented_setMonitor {m' : Monitor} (h : w.Parented) (hm : w.monitors[i]? = some m)
    (hctx : m'.ctx = m.ctx) : (w.setMonitor i m').Parented := by
  intro j caller hj
  obtain ⟨mj, c, hmj, hc, hmem⟩ := h j caller hj
  by_cases heq : i = j
  · subst heq
    cases hm.symm.trans hmj
    obtain ⟨hi, -⟩ := List.getElem?_eq_some_iff.mp hm
    exact ⟨m', c, List.getElem?_set_self hi, hc, hctx ▸ hmem⟩
  · exact ⟨mj, c, (List.getElem?_set_ne heq).trans hmj, hc, hmem⟩

theorem ctx_onEvent (event : NodeEvent) : (m.onEvent event).1.ctx = m.ctx := by
  unfold Monitor.onEvent
  cases event.state <;> grind [Monitor.change, Monitor.closeInitial]

theorem ctx_onDone : m.onDone.1.ctx = m.ctx := by
  unfold Monitor.onDone
  grind [Monitor.change]

theorem cancelMonitor_frame : w.cancelMonitor.waiting = w.waiting ∧
    w.cancelMonitor.monitors = w.monitors ∧ w.cancelMonitor.exec = w.exec := by
  unfold World.cancelMonitor
  split <;> exact ⟨rfl, rfl, rfl⟩

/-- The monitor of a new connection stands at the end of the list. -/
theorem parented_beginConnect {r : Env} {server : ServerData} {parent : Context} {caller : Caller}
    {ok : Bool} {c : Nat} (hbegin : w.beginConnect r server parent caller = (w', ok))
    (hnone : w.waiting = none) (hparent : w.parent caller = some c) (hc : c ∈ parent) :
    w'.Parented := by
  unfold World.beginConnect at hbegin
  dsimp only at hbegin
  split at hbegin
  · cases hbegin
    rintro i caller' ⟨⟩
    refine ⟨{
      ctx := w.nextCtx :: parent, pubKey := server.nordLynxPublicKey, server := w.l.currentServer },
      c, ?_, ?_, List.mem_cons_of_mem w.nextCtx hc⟩
    · simp only [List.length_append, List.length_singleton, Nat.add_sub_cancel]
      exact List.getElem?_concat_length
    · cases caller with
      | start privateKey => exact hparent
      | enable ctx => exact hparent
  · cases hbegin
    exact Parented.of_none hnone

theorem parented_start {r : Env} {creds : Credentials} {server : ServerData} (h : w.Parented) :
    (w.start r creds server).Parented := by
  unfold World.start
  split
  · rename_i ctx hexec hwaiting
    dsimp only
    split
    · generalize hbegin : World.beginConnect _ _ _ _ _ = begun
      exact parented_beginConnect hbegin hwaiting hexec List.mem_cons_self
    · exact Parented.of_none hwaiting
  · exact h

theorem parented_enable {r : Env} {ip : Addr} {privateKey : String} (h : w.Parented) :
    (w.enable r ip privateKey).Parented := by
  unfold World.enable
  split
  · exact h
  · rename_i hready
    have hnone : w.waiting = none := by
      cases hwaiting : w.waiting with
      | none => rfl
      | some call => simp [hwaiting] at hready
    have hcancelled : w.cancelMonitor.waiting = none := cancelMonitor_frame.1.trans hnone
    dsimp only
    split
    · exact Parented.of_none hnone
    · split
      · exact Parented.of_none hcancelled
      · split <;> rename_i hbegin
        all_goals have hbegun := parented_beginConnect hbegin hcancelled rfl List.mem_cons_self
        · exact hbegun
        · exact Parented.of_same hbegun rfl rfl rfl

theorem parented_tryExecute (h : w.Parented) : w.tryExecute.Parented := by
  unfold World.tryExecute
  split
  · exact h
  · rename_i hfree
    intro i caller hwaiting
    obtain ⟨m, c, hm, hc, hmem⟩ := h i caller hwaiting
    cases caller with
    | start privateKey => exact absurd (Option.isSome_of_eq_some hc) hfree
    | enable ctx => exact ⟨m, c, hm, hc, hmem⟩

/-- The lock is held as long as a `Start` waits. -/
theorem parented_unlock (h : w.Parented) : w.unlock.Parented := by
  unfold World.unlock
  split
  · exact h
  · rename_i hnot
    intro i caller hwaiting
    obtain ⟨m, c, hm, hc, hmem⟩ := h i caller hwaiting
    cases caller with
    | start privateKey => exact absurd hwaiting (hnot i privateKey)
    | enable ctx => exact ⟨m, c, hm, hc, hmem⟩
  · exact h

theorem parented_connected (h : w.Parented) : w.connected.Parented := by
  unfold World.connected
  split
  · exact h
  · split
    · dsimp only
      split <;> exact Parented.of_none rfl
    · exact h

theorem parented_contextDone {r : Env} (h : w.Parented) : (w.contextDone r).Parented := by
  unfold World.contextDone
  split
  · exact h
  · split
    · exact h
    · split
      · dsimp only
        split <;> exact Parented.of_none rfl
      · exact h

theorem parented_perform {m' : Monitor} (h : w.Parented) (hm : w.monitors[i]? = some m)
    (hctx : m'.ctx = m.ctx) : ((w.setMonitor i m').perform i effects).Parented :=
  Parented.of_same (parented_setMonitor h hm hctx) perform_frame.2.1 perform_frame.1
    perform_frame.2.2.1

theorem parented_step {step : Step} (h : w.Parented) : (w.step step).Parented := by
  cases step with
  | tryExecute => exact parented_tryExecute h
  | start r creds server => exact parented_start h
  | enable r ip privateKey => exact parented_enable h
  | connected => exact parented_connected h
  | contextDone r => exact parented_contextDone h
  | unlock => exact parented_unlock h
  | executed ctx =>
    simp only [World.step, World.executed]
    split
    · exact Parented.of_same h rfl rfl rfl
    · exact h
  | deadline ctx =>
    simp only [World.step, World.deadline]
    split
    · exact Parented.of_same h rfl rfl rfl
    · exact h
  | stop r =>
    simp only [World.step, World.stop]
    split
    · exact h
    · exact Parented.of_same h cancelMonitor_frame.1 cancelMonitor_frame.2.1
        cancelMonitor_frame.2.2
  | event event i =>
    simp only [World.step, World.event]
    split
    · rename_i m hm
      split
      · exact parented_setMonitor h hm rfl
      · exact h
    · exact h
  | handle i =>
    simp only [World.step, World.handle]
    split
    · rename_i m hm
      split
      · exact parented_setMonitor h hm rfl
      · rename_i event hphase
        exact parented_perform h hm (ctx_onEvent event)
      · exact h
    · exact h
  | notice i =>
    simp only [World.step, World.notice]
    split
    · rename_i m hm
      split
      · exact parented_perform h hm ctx_onDone
      · exact h
    · exact h

theorem parented_run (steps : List Step) : (runAll World.step {} steps).Parented := by
  induction steps with
  | nil => exact Parented.of_none rfl
  | cons step earlier ih => exact parented_step ih

/-! ### The end of a monitor -/

/-- The monitor at this position has left its loop. -/
def World.Ended (w : World) (i : Nat) : Prop := ∃ m, w.monitors[i]? = some m ∧ m.phase = .ended

theorem getElem?_setMonitor (hm : w.monitors[i]? = some m) (m' : Monitor) :
    (w.setMonitor i m').monitors[i]? = some m' := by
  obtain ⟨hi, -⟩ := List.getElem?_eq_some_iff.mp hm
  exact List.getElem?_set_self hi

theorem phase_onDone : m.onDone.1.phase = .ended := by
  unfold Monitor.onDone
  rfl

/-- A monitor in its `select` whose context is done ends. A connection is reported as closed. -/
theorem notice_of_listening (hm : w.monitors[i]? = some m) (hphase : m.phase = .listening)
    (hdone : w.done m.ctx = true) :
    (w.notice i).Ended i ∧ (w.notice i).l = w.l ∧
      (m.notify = .connected → (w.notice i).published = .disconnected true :: w.published) := by
  unfold World.notice
  simp only [hm, if_pos (And.intro hphase hdone)]
  refine ⟨⟨m.onDone.1, ?_, phase_onDone⟩, ?_, fun hnotify => ?_⟩
  · rw [perform_frame.1, getElem?_setMonitor hm]
  · rw [perform_frame.2.2.2.2]
    rfl
  · simp [Monitor.onDone, Monitor.change, hnotify, World.perform, World.setMonitor]

theorem done_of_cancelled {ctx : Context} (h : w'.cancelled = w.cancelled) :
    w'.done ctx = w.done ctx := by
  rw [World.done, World.done, h]

/-- Whatever the monitor is at, it ends once it has handled the event it had taken. -/
theorem handle_notice_ended (hm : w.monitors[i]? = some m) (hdone : w.done m.ctx = true) :
    ((w.handle i).notice i).Ended i ∧ ((w.handle i).notice i).l = w.l ∧
      (m.phase = .listening → m.notify = .connected →
        ((w.handle i).notice i).published = .disconnected true :: w.published) := by
  cases hphase : m.phase with
  | busy taken =>
    cases taken with
    | none =>
      have hhandle : w.handle i = w.setMonitor i { m with phase := .listening } := by
        simp only [World.handle, hm, hphase]
      rw [hhandle]
      obtain ⟨hended, hl, -⟩ := notice_of_listening
        (getElem?_setMonitor hm { m with phase := .listening }) rfl hdone
      exact ⟨hended, hl, nofun⟩
    | some event =>
      have hhandle : w.handle i = (w.setMonitor i { (m.onEvent event).1 with
          phase := .listening }).perform i (m.onEvent event).2 := by
        simp only [World.handle, hm, hphase]
      obtain ⟨hmonitors, -, -, hcancelled, hl⟩ := hhandle ▸ perform_frame
      have hm' := (congrArg (·[i]?) hmonitors).trans (getElem?_setMonitor hm _)
      have hdone' : (w.handle i).done (m.onEvent event).1.ctx = true := by
        rw [done_of_cancelled hcancelled, ctx_onEvent]
        exact hdone
      obtain ⟨hended, hsame, -⟩ := notice_of_listening hm' rfl hdone'
      exact ⟨hended, hsame.trans hl, nofun⟩
  | listening =>
    have hhandle : w.handle i = w := by
      simp only [World.handle, hm, hphase]
    rw [hhandle]
    obtain ⟨hended, hl, hpublished⟩ := notice_of_listening hm hphase hdone
    exact ⟨hended, hl, fun _ => hpublished⟩
  | ended =>
    have hhandle : w.handle i = w := by
      simp only [World.handle, hm, hphase]
    have hnotice : w.notice i = w := by
      simp [World.notice, hm, hphase]
    rw [hhandle, hnotice]
    exact ⟨⟨m, hm, hphase⟩, rfl, nofun⟩

/-- A monitor that has ended takes no event. -/
theorem event_of_ended (h : w.Ended i) (event : NodeEvent) : w.event event i = w := by
  obtain ⟨m, hm, hphase⟩ := h
  simp [World.event, hm, hphase]

/-! ### Every call that has returned `nil` -/

/-- A step that the goroutines take by themselves: a `TryExecuteWith` returns or a monitor runs. -/
def Step.isOwn : Step → Bool
  | .unlock | .executed _ | .handle _ | .notice _ => true
  | _ => false

/-- The context of the monitor is done as soon as the call and its request have returned. -/
theorem done_after_return {caller : Caller} {c : Nat}
    (hwaiting : w.waiting = some (i, caller)) (hclosed : i ∈ w.closed)
    (hc : w.parent caller = some c) (hmem : c ∈ m.ctx) :
    ∃ later : List Step, (∀ step ∈ later, step.isOwn = true) ∧
      let u := runAll World.step w.connected later
      u.monitors = w.monitors ∧ u.published = w.published ∧ u.l.active = true ∧
        u.done m.ctx = true := by
  have hdone : ∀ u : World, c ∈ u.cancelled → u.done m.ctx = true := fun u hcancelled =>
    List.any_eq_true.mpr ⟨c, hmem, List.contains_iff_mem.mpr hcancelled⟩
  cases caller with
  | start privateKey =>
    have hexec : w.exec = some c := hc
    refine ⟨[.executed c, .unlock], by simp [Step.isOwn], ?_⟩
    simp [runAll, World.step, World.connected, hwaiting, hclosed, World.unlock, hexec,
      World.executed, World.cancel, hdone]
  | enable ctx =>
    cases hc
    refine ⟨[], by decide, ?_⟩
    simp [runAll, World.connected, hwaiting, hclosed, World.cancel, hdone]

/-- **Every call that returns `nil` loses its monitor**: in any run, once the monitor has closed the
channel on which a `Start` or an `Enable` waits, the return of the call and of its request is
enough for the monitor to end, without a `Stop`, another call or an event. The connection is
active, later events find no monitor, and a disconnect is published if the connection was up. -/
theorem monitor_ends_after_nil (steps : List Step) (i : Nat) (caller : Caller)
    (hwaiting : (runAll World.step {} steps).waiting = some (i, caller))
    (hclosed : i ∈ (runAll World.step {} steps).closed) :
    ∃ later : List Step, (∀ step ∈ later, step.isOwn = true) ∧
      let w := runAll World.step {} steps
      let u := runAll World.step (w.step .connected) later
      u.l.active = true ∧ u.Ended i ∧ (∀ event, u.step (.event event i) = u) ∧
        ∀ m, w.monitors[i]? = some m → m.phase = .listening → m.notify = .connected →
          u.published = .disconnected true :: w.published := by
  obtain ⟨m, c, hm, hc, hmem⟩ := parented_run steps i caller hwaiting
  obtain ⟨later, hown, hmonitors, hpublished, hactive, hdone⟩ :=
    done_after_return hwaiting hclosed hc hmem
  have hm' := (congrArg (·[i]?) hmonitors).trans hm
  obtain ⟨hended, hl, hdisconnect⟩ := handle_notice_ended hm' hdone
  refine ⟨.notice i :: .handle i :: later, by simpa [Step.isOwn] using hown, hl ▸ hactive, hended,
    event_of_ended hended, ?_⟩
  intro m' hsame hphase hnotify
  cases hm.symm.trans hsame
  exact hpublished ▸ hdisconnect hphase hnotify

/-- The steps of a connection up to the return of `Start`, the latest first. -/
def connecting : List Step :=
  [.connected, .handle 0, .event { state := .connected, publicKey := "server" } 0,
    .handle 0, .start {} {} { nordLynxPublicKey := "server" }, .tryExecute]

theorem monitor_ends_after_connecting : ∃ later : List Step, (∀ step ∈ later, step.isOwn = true) ∧
    (runAll World.step (runAll World.step {} connecting) later).published.head? =
      some (.disconnected true) := by
  obtain ⟨later, hown, -, -, -, hpublished⟩ := monitor_ends_after_nil connecting.tail 0 (.start "")
    (by decide) (by decide)
  exact ⟨later, hown, congrArg List.head? (hpublished _ rfl rfl rfl)⟩

/-- The request returns: its context is cancelled, and the monitor of the connection publishes a
disconnect and ends. -/
theorem disconnect_published_after_connect :
    let w := runAll World.step {} ([.notice 0, .executed 0, .unlock] ++ connecting)
    w.l.active = true ∧ w.published.head? = some (.disconnected true) ∧
      w.monitors.map Monitor.phase = [.ended] := by
  decide

end NordVPN.NordLynx
