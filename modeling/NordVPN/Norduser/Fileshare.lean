import NordVPN.Lib.Runs

/-!
The management of the fileshare process by norduserd (`norduser/fileshare.go`).

Two nested loops read one channel: the management loop, and the start-up loop that it enters
when fileshare does not start. The start-up loop tries again every ten seconds and returns on
`Stop` and on `Shutdown`. Neither loop ends on a `Shutdown`, and neither remembers it. Errors of
`StopProcess` are only logged, so its result is left out.
-/

namespace NordVPN.Norduser

inductive FileshareManagementMsg where
  | start
  | stop
  | shutdown
deriving DecidableEq, Repr

/-- `childprocess.StartupErrorCode`; `started` is the code 0, `other` an exit code without a
name. -/
inductive StartupErrorCode where
  | started
  | alreadyRunning
  | alreadyRunningForOtherUser
  | failedToCreateUnixScoket
  | meshnetNotEnabled
  | addressAlreadyInUse
  | failedToEnable
  | userNotInGroup
  | other (code : Int)

/-- What `StartProcess` returns; `none` is an error. -/
abbrev StartResult := Option StartupErrorCode

/-- `startFileshare`: is there nothing to retry? -/
def startFileshare : StartResult → Bool
  | some .started | some .addressAlreadyInUse | some .alreadyRunningForOtherUser
  | some .failedToCreateUnixScoket | some .alreadyRunning => true
  | _ => false

/-- The goroutine of `fileshareManagementLoop`, with the messages it has received, the latest
first, and for each call of `StartProcess` the messages received until then. -/
structure FileshareLoop where
  /-- it is inside `fileshareStartupLoop` -/
  inStartup : Bool := false
  shutdownClosed : Bool := false
  panicked : Bool := false
  received : List FileshareManagementMsg := []
  starts : List (List FileshareManagementMsg) := []

/-- A message arrives, or the timer of the start-up loop fires; with the result of the start that
it may cause. -/
inductive LoopInput where
  | message (msg : FileshareManagementMsg) (result : StartResult)
  | timeout (result : StartResult)

namespace FileshareLoop

/-- `close(shutdownChan)`, which panics on a closed channel. -/
@[grind] def close (s : FileshareLoop) : FileshareLoop :=
  { s with shutdownClosed := true, panicked := s.shutdownClosed }

/-- A call of `startFileshare` by either loop. -/
@[grind] def tryStart (s : FileshareLoop) (result : StartResult) : FileshareLoop :=
  { s with starts := s.received :: s.starts, inStartup := !startFileshare result }

/-- The reaction of `fileshareManagementLoop`. -/
@[grind] def manage (s : FileshareLoop) (result : StartResult) :
    FileshareManagementMsg → FileshareLoop
  | .start => s.tryStart result
  | .stop => s
  | .shutdown => s.close

/-- The reaction of `fileshareStartupLoop`. -/
@[grind] def whileStarting (s : FileshareLoop) : FileshareManagementMsg → FileshareLoop
  | .start => s
  | .stop => { s with inStartup := false }
  | .shutdown => { s.close with inStartup := false }

@[grind] def step (s : FileshareLoop) (i : LoopInput) : FileshareLoop :=
  if s.panicked then s else
    match i with
    | .message msg result =>
      let s := { s with received := msg :: s.received }
      if s.inStartup then s.whileStarting msg else s.manage result msg
    | .timeout result => if s.inStartup then s.tryStart result else s

end FileshareLoop

/-- The messages among the inputs, the latest first. -/
def messages : List LoopInput → List FileshareManagementMsg
  | [] => []
  | .message msg _ :: earlier => msg :: messages earlier
  | .timeout _ :: earlier => messages earlier

/-- The protocol of the two channels, after the given messages. -/
structure Orderly (sent : List FileshareManagementMsg) (s : FileshareLoop) : Prop where
  /-- no second close -/
  calm : s.panicked = false
  answered : s.received = sent
  closed : .shutdown ∈ sent → s.shutdownClosed = true
  noStart : ∀ before ∈ s.starts, .shutdown ∉ before

/-- After a `Shutdown` only `Stop` is sent. -/
def EndsOnShutdown (sent : List FileshareManagementMsg) : Prop :=
  sent.Pairwise fun later earlier => earlier = .shutdown → later = .stop

/-- What is known after an orderly run: only a `Shutdown` has closed the channel, and it has
led back to the management loop. -/
structure Waiting (sent : List FileshareManagementMsg) (s : FileshareLoop) : Prop
    extends Orderly sent s where
  unclosed : s.shutdownClosed = true → .shutdown ∈ sent
  managing : .shutdown ∈ sent → s.inStartup = false

/-- The loop has panicked, or has started the process after a `Shutdown`. -/
def Broken (s : FileshareLoop) : Prop := s.panicked = true ∨ ∃ before ∈ s.starts, .shutdown ∈ before

section

variable {s : FileshareLoop} {sent : List FileshareManagementMsg}

theorem Broken.step (h : Broken s) (i : LoopInput) : Broken (s.step i) := by
  unfold Broken at h ⊢
  cases i with
  | message msg result => cases msg <;> grind
  | timeout result => grind

theorem Waiting.timeout (h : Waiting sent s) (result : StartResult) :
    Waiting sent (s.step (.timeout result)) := by
  obtain ⟨⟨calm, answered, closed, noStart⟩, unclosed, managing⟩ := h
  refine ⟨⟨?_, ?_, ?_, ?_⟩, ?_, ?_⟩ <;> grind

theorem Waiting.message (h : Waiting sent s) {msg : FileshareManagementMsg} (result : StartResult)
    (hmsg : .shutdown ∈ sent → msg = .stop) :
    Waiting (msg :: sent) (s.step (.message msg result)) := by
  obtain ⟨⟨calm, answered, closed, noStart⟩, unclosed, managing⟩ := h
  cases msg <;> refine ⟨⟨?_, ?_, ?_, ?_⟩, ?_, ?_⟩ <;> grind

/-- A `Start` or a second `Shutdown` after a `Shutdown` meets the management loop. -/
theorem Waiting.broken (h : Waiting sent s) {msg : FileshareManagementMsg} (result : StartResult)
    (hsent : .shutdown ∈ sent) (hmsg : msg ≠ .stop) : Broken (s.step (.message msg result)) := by
  have hs := h.managing hsent
  have hclosed := h.closed hsent
  have hcalm := h.calm
  have hrec := h.answered
  unfold Broken
  cases msg <;> grind

end

/-- Every run is orderly until something else than `Stop` follows a `Shutdown`, and broken from
then on. -/
theorem waiting_or_broken (inputs : List LoopInput) :
    (EndsOnShutdown (messages inputs) ∧
        Waiting (messages inputs) (runAll FileshareLoop.step {} inputs)) ∨
      (¬ EndsOnShutdown (messages inputs) ∧ Broken (runAll FileshareLoop.step {} inputs)) := by
  induction inputs with
  | nil => exact .inl ⟨.nil, ⟨rfl, rfl, nofun, nofun⟩, nofun, nofun⟩
  | cons i earlier ih =>
    cases i with
    | timeout result => exact ih.imp (fun h => ⟨h.1, h.2.timeout result⟩) fun h => ⟨h.1, h.2.step _⟩
    | message msg result =>
      rcases ih with ⟨hends, hwait⟩ | ⟨hends, hbroken⟩
      · by_cases hmsg : .shutdown ∈ messages earlier → msg = .stop
        · refine .inl ⟨List.pairwise_cons.mpr ⟨?_, hends⟩, hwait.message result hmsg⟩
          rintro _ hmem rfl
          exact hmsg hmem
        · obtain ⟨hmem, hstop⟩ := Classical.not_imp.mp hmsg
          refine .inr ⟨fun h => hstop ((List.pairwise_cons.mp h).1 _ hmem rfl),
            hwait.broken result hmem hstop⟩
      · exact .inr ⟨fun h => hends (List.pairwise_cons.mp h).2, hbroken.step _⟩

/-- The protocol is kept exactly by the runs in which only `Stop` follows a `Shutdown`. -/
theorem orderly_iff_endsOnShutdown (inputs : List LoopInput) :
    Orderly (messages inputs) (runAll FileshareLoop.step {} inputs) ↔
      EndsOnShutdown (messages inputs) := by
  rcases waiting_or_broken inputs with ⟨hends, hwait⟩ | ⟨hends, hbroken⟩
  · exact iff_of_true hwait.toOrderly hends
  · refine iff_of_false (fun h => ?_) hends
    rcases hbroken with hpanic | ⟨before, hmem, hshut⟩
    · exact absurd h.calm (by simp [hpanic])
    · exact h.noStart before hmem hshut

/-- A second `Shutdown` closes the closed channel, and a `Start` after a `Shutdown` starts
fileshare again. -/
theorem shutdown_twice_panics :
    (runAll FileshareLoop.step {} [.message .shutdown none, .message .shutdown none]).panicked ∧
      (runAll FileshareLoop.step {} [.message .start none, .message .shutdown none]).starts =
        [[.start, .shutdown]] :=
  ⟨rfl, rfl⟩

end NordVPN.Norduser
