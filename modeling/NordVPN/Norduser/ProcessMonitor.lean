import NordVPN.Lib.Runs
import Mathlib.Data.List.Basic

/-!
The norduserd processes of the members of the group (`norduser/process_monitor.go` and
`process_monitor_snap.go`).

The monitor keeps a state for every member and starts, stops and restarts norduserd as the file of
the group and that of the logins change. An update changes the state of a user at most once, so the
set of users is a function of the name, and the order in which the map is walked does not matter.
Under snap norduserd is only stopped, for members that are gone.
-/

namespace NordVPN.Norduser

/-- Which calls succeed that an update makes for a user. -/
structure Answers where
  getUserID : Bool := true
  enable : Bool := true
  stop : Bool := true
  restart : Bool := true

inductive NorduserState where
  | notActive | loginGUI | loginText | runningGUI | runningText
deriving DecidableEq, Repr

def NorduserState.isRunning : NorduserState → Bool
  | .runningGUI | .runningText => true
  | _ => false

/-- A user: whether the set has an entry, its state, and whether norduserd was started and not
stopped since. -/
structure User where
  tracked : Bool := false
  state : NorduserState := .notActive
  process : Bool := false

/-- A lookup or a call that fails leaves the state as it is. -/
def User.changeState (user : User) (answers : Answers) (newState : NorduserState) : User :=
  if user.state = .notActive ∧ (newState = .loginGUI ∨ newState = .loginText) then
    if answers.getUserID && answers.enable then
      { user with
        state := if newState = .loginGUI then .runningGUI else .runningText
        process := true }
    else user
  else if (user.state = .runningText ∨ user.state = .runningGUI) ∧ newState = .notActive then
    if answers.getUserID && answers.stop then { user with state := .notActive, process := false }
    else user
  else if user.state = .runningGUI ∧ newState = .loginText then
    if answers.getUserID && answers.restart then { user with state := .runningText } else user
  else if user.state = .runningText ∧ newState = .loginGUI then { user with state := .runningGUI }
  else user

/-- `handleGroupFileUpdate` for one user. -/
def User.groupFileUpdate (user : User) (isMember : Bool) (status : Option NorduserState)
    (answers : Answers) : User :=
  if isMember && !user.tracked then
    let user := { user with tracked := true, state := .notActive }
    match status with
    | some userStatus => user.changeState answers userStatus
    | none => user
  else if user.tracked && !isMember then
    -- the entry is deleted whatever became of the process
    { user.changeState answers .notActive with tracked := false }
  else user

/-- `handleUTMPFileUpdate` for one user. -/
def User.utmpFileUpdate (user : User) (status : Option NorduserState) (answers : Answers) : User :=
  if user.tracked then user.changeState answers (status.getD .notActive) else user

/-- What an update reads, `none` for a failure, and what its calls answer. -/
structure Update where
  newGroupMembers : Option (List String)
  activeUsers : Option (String → Option NorduserState)
  answers : String → Answers := fun _ => {}

/-- The file of the group has changed, or that of the logins. -/
inductive Event where
  | group (x : Update)
  | utmp (x : Update)

def handle (users : String → User) (e : Event) (name : String) : User :=
  match e with
  | .group x =>
    match x.newGroupMembers, x.activeUsers with
    | some newGroupMembers, some activeUsers =>
      (users name).groupFileUpdate (newGroupMembers.contains name) (activeUsers name)
        (x.answers name)
    | _, _ => users name
  | .utmp x =>
    match x.activeUsers with
    | some activeUsers => (users name).utmpFileUpdate (activeUsers name) (x.answers name)
    | none => users name

/-- The process runs exactly if the set says so. -/
def User.Tracked (user : User) : Prop :=
  user.process = (user.tracked && user.state.isRunning)

def Answers.stops (answers : Answers) : Bool := answers.getUserID && answers.stop

/-- Where a member is gone whose process runs, the lookup and `Stop` succeed. -/
def Stoppable (users : String → User) : Event → Prop
  | .group x => ∀ members ∈ x.newGroupMembers, ∀ name ∉ members,
      (users name).process = true → (x.answers name).stops = true
  | .utmp _ => True

namespace User

variable {user : User} {answers : Answers}

theorem Tracked.changeState (h : user.Tracked) (hentry : user.tracked = true)
    (newState : NorduserState) : (user.changeState answers newState).Tracked := by
  unfold Tracked at h ⊢
  unfold User.changeState
  cases hs : user.state <;> grind [NorduserState.isRunning]

/-- A user who is to be inactive is left without a process if the calls succeed. -/
theorem Tracked.stops (h : user.Tracked) (hstops : user.process = true → answers.stops = true) :
    (user.changeState answers .notActive).process = false := by
  unfold Tracked at h
  unfold User.changeState
  cases hs : user.state <;> grind [NorduserState.isRunning, Answers.stops]

theorem Tracked.groupFileUpdate (h : user.Tracked) {isMember : Bool}
    (hstops : isMember = false → user.process = true → answers.stops = true)
    (status : Option NorduserState) : (user.groupFileUpdate isMember status answers).Tracked := by
  unfold User.groupFileUpdate
  split
  · have hnew : ({ user with tracked := true, state := .notActive } : User).Tracked := by
      unfold Tracked at h ⊢
      grind [NorduserState.isRunning]
    dsimp only
    split
    · exact hnew.changeState rfl _
    · exact hnew
  · split
    · exact h.stops (hstops (by grind))
    · exact h

theorem Tracked.utmpFileUpdate (h : user.Tracked) (status : Option NorduserState) :
    (user.utmpFileUpdate status answers).Tracked := by
  unfold User.utmpFileUpdate
  split
  · rename_i hentry
    exact h.changeState hentry _
  · exact h

end User

theorem tracked_handle {users : String → User} {e : Event} (h : ∀ name, (users name).Tracked)
    (he : Stoppable users e) (name : String) : (handle users e name).Tracked := by
  unfold handle
  split
  · split
    · rename_i hmembers _
      exact (h name).groupFileUpdate (fun hgone => he _ hmembers name (by simpa using hgone)) _
    · exact h name
  · split
    · exact (h name).utmpFileUpdate _
    · exact h name

/-- In a run in which every running process of a member who is gone can be stopped, the processes
are tracked, and an update whose calls succeed stops those of users who are gone or logged out. -/
theorem stoppable_run_tracked {users : String → User}
    (h : Reaches handle Stoppable (fun _ => {}) users) (name : String) :
    ((users name).process = true →
      (users name).tracked = true ∧ (users name).state.isRunning = true) ∧
      ∀ members active, let x : Update := ⟨some members, some active, fun _ => {}⟩
        (name ∉ members → (handle users (.group x) name).process = false) ∧
          (active name = none → (handle users (.utmp x) name).process = false) := by
  have htracked : (users name).Tracked :=
    h.invariant (I := fun users => ∀ name, (users name).Tracked) (fun _ => rfl)
      (fun _ _ => tracked_handle) name
  have hstops : ((users name).changeState {} .notActive).process = false :=
    htracked.stops fun _ => rfl
  unfold User.Tracked at htracked
  refine ⟨fun hrun => ?_, fun members active => ⟨fun hgone => ?_, fun hout => ?_⟩⟩
  · simpa [htracked] using hrun
  · grind [handle, User.groupFileUpdate]
  · grind [handle, User.utmpFileUpdate]

/-- Two members log in, one of them leaves the group, and the other logs out. -/
theorem logout_run_tracked :
    let active : String → Option NorduserState := fun _ => some .loginText
    let joined : Event := .group ⟨some ["ana", "bo"], some active, fun _ => {}⟩
    let users := runAll handle (fun _ => {})
      [.group ⟨some ["bo"], some active, fun _ => {}⟩, joined]
    (runAll handle (fun _ => {}) [joined] "ana").process = true ∧
      (handle users (.utmp ⟨some [], some fun _ => none, fun _ => {}⟩) "bo").process = false := by
  intro active joined users
  have hmeet : AllMeet handle Stoppable (fun _ => {})
      [.group ⟨some ["bo"], some active, fun _ => {}⟩, joined] :=
    ⟨⟨trivial, fun _ _ _ _ => nofun⟩, fun _ _ _ _ _ => rfl⟩
  exact ⟨by decide, ((stoppable_run_tracked (reaches_runAll hmeet) "bo").2 [] fun _ => none).2 rfl⟩

/-- `Stop` fails for a member who is gone, and the process is not tracked any more. -/
theorem failed_stop_untracked :
    let active : String → Option NorduserState := fun _ => some .loginText
    let users := runAll handle (fun _ => {})
      [.group ⟨some [], some active, fun _ => { stop := false }⟩,
        .group ⟨some ["ana"], some active, fun _ => {}⟩]
    (users "ana").process = true ∧ (users "ana").tracked = false := by
  decide

/-! ### Under snap -/

/-- The members whom the loop keeps in the list, and those it stops norduserd for. -/
def stopForDeletedGroupMembers (answers : String → Answers)
    (currentGroupMembers newGroupMembers : List String) : List String × List String :=
  currentGroupMembers.partition fun username =>
    newGroupMembers.contains username || !(answers username).stops

/-- The loop of `StartSnap`. -/
structure Snap where
  groupMembers : List String
  /-- members at some version of the file for whom norduserd was not stopped since -/
  due : List String := groupMembers
  /-- those for whom the last update stopped it -/
  stopped : List String := []

def Snap.update (s : Snap) (x : Update) : Snap :=
  match x.newGroupMembers with
  | none => { s with stopped := [] }
  | some new =>
    let (groupMembers, stopped) := stopForDeletedGroupMembers x.answers s.groupMembers new
    { groupMembers, stopped, due := new ++ s.due.filter fun username => !stopped.contains username }

/-- The update stops norduserd for everybody who was a member and is not, if it can. -/
def Snap.Prompt (s : Snap) (x : Update) : Prop :=
  ∀ members ∈ x.newGroupMembers, ∀ name ∈ s.due, name ∉ members → (x.answers name).stops = true →
    name ∈ (s.update x).stopped

/-- Nobody is a member who is not in the list already. -/
def Listed (s : Snap) (x : Update) : Prop :=
  ∀ members ∈ x.newGroupMembers, ∀ name ∈ members, name ∈ s.groupMembers

theorem due_update {s : Snap} {x : Update} (h : ∀ name ∈ s.due, name ∈ s.groupMembers)
    (hx : Listed s x) (name : String) (hname : name ∈ (s.update x).due) :
    name ∈ (s.update x).groupMembers := by
  unfold Snap.update at hname ⊢
  split at hname
  · exact h name hname
  · rename_i members hmembers
    have hjoins := hx members hmembers name
    simp only [stopForDeletedGroupMembers, List.partition_eq_filter_filter] at hname ⊢
    grind

/-- In a run in which nobody joins, every update stops those it has to. -/
theorem listed_run_prompt {members : List String} {s : Snap}
    (h : Reaches Snap.update Listed { groupMembers := members } s) (x : Update) : s.Prompt x := by
  intro members hmembers name hdue hgone hstops
  have hlisted : name ∈ s.groupMembers :=
    h.invariant (I := fun s => ∀ name ∈ s.due, name ∈ s.groupMembers) (fun _ => id)
      (fun _ _ => due_update) name hdue
  rw [Snap.update, show x.newGroupMembers = some members from hmembers]
  simp [stopForDeletedGroupMembers, hlisted, hgone, hstops]

theorem leaver_run_prompt :
    let s := runAll Snap.update { groupMembers := ["ana", "bo"] } [⟨some ["bo"], none, fun _ => {}⟩]
    s.Prompt ⟨some [], none, fun _ => {}⟩ := by
  intro s
  have hmeet : AllMeet Snap.update Listed { groupMembers := ["ana", "bo"] }
      [⟨some ["bo"], none, fun _ => {}⟩] := ⟨trivial, by simp [Listed, runAll]⟩
  exact listed_run_prompt (reaches_runAll hmeet) _

/-- A member who has joined after the start leaves, and norduserd is not stopped. -/
theorem joiner_not_stopped :
    let s :=
      runAll Snap.update { groupMembers := ["ana"] } [⟨some ["ana", "bo"], none, fun _ => {}⟩]
    let x : Update := ⟨some ["ana"], none, fun _ => {}⟩
    "bo" ∈ s.due ∧ (x.answers "bo").stops = true ∧ (s.update x).stopped = [] ∧
      "bo" ∉ (s.update x).groupMembers := by
  decide

end NordVPN.Norduser
