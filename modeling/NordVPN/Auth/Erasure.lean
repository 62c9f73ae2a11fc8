import NordVPN.Auth.Login
import NordVPN.Meshnet.OnOff

/-!
What `Logout` leaves of the credentials when other calls run at the same time.

A call that has loaded the settings before `Logout` erases the user saves what it has afterwards,
and the entry comes back. If no such call is on its way when the user is erased, nothing can bring
the entry back: the calls that load the settings later do not find the user in them.
-/

namespace NordVPN.Auth

open Script
open NordVPN.Meshnet (LogoutReply)

/-! ### The calls -/

/-- `fetchSaveServices`; the last service with the id of the VPN decides. -/
def fetchSaveServices (userID : Int) (data : TokenData) : AuthM (Except Failure TokenData) := do
  let answer : Except ApiError (List ServiceData) ← ask (.services userID data.token)
  match answer with
  | .error e => pure (.error (.api e))
  | .ok services =>
    let data := services.foldl (fun data service =>
      if service.serviceID = 1 then { data with serviceExpiry := service.expiresAt } else data) data
    saveThen (saveVpnExpirationDate userID data) (pure (.ok data))

def isVPNExpired : AuthM (Except Failure Bool) := do
  let cfg : Option Config ← ask .load
  match cfg with
  | none => pure (.error .load)
  | some cfg => do
    let data := cfg.entry cfg.id
    let isExpired : Bool ← ask (.isExpired cfg.id data.serviceExpiry)
    if isExpired then
      match ← fetchSaveServices cfg.id data with
      | .error e => pure (.error e)
      | .ok data => do
        let isExpired : Bool ← ask (.isExpired cfg.id data.serviceExpiry)
        pure (.ok isExpired)
    else do
      let isExpired : Bool ← ask (.isExpired cfg.id data.serviceExpiry)
      pure (.ok isExpired)

/-- `GetCredentialsFromAPI`, once the user has an id there. -/
def fetchNCData (userID : Int) (token : String) (ncData : NCData) :
    AuthM (Except Failure NCData) := do
  let answer : Except ApiError NotificationCredentialsResponse ←
    ask (.notificationCredentials userID token ncData.userID)
  match answer with
  | .error e => pure (.error (.api e))
  | .ok resp =>
    let ncData := { ncData with
      endpoint := resp.endpoint, username := resp.username, password := resp.password }
    saveThen (saveNCData userID ncData) (pure (.ok ncData))

def getCredentialsFromAPI : AuthM (Except Failure NCData) := do
  let cfg : Option Config ← ask .load
  match cfg with
  | none => pure (.error .load)
  | some cfg => do
    let tokenData := cfg.entry cfg.id
    if tokenData.ncData.userID = 0 then
      let userID : Nat ← ask .newUUID
      let ncData := { tokenData.ncData with userID }
      saveThen (saveNCData cfg.id ncData) (fetchNCData cfg.id tokenData.token ncData)
    else fetchNCData cfg.id tokenData.token tokenData.ncData

/-- `RevokeCredentials`, whose result is only logged. -/
def revokeCredentials : AuthM Unit := do
  let cfg : Option Config ← ask .load
  match cfg with
  | none => pure ()
  | some cfg => do
    let tokenData := cfg.entry cfg.id
    let ncData := tokenData.ncData
    if ncData.userID ≠ 0 ∨ ncData.endpoint ≠ "" ∨ ncData.username ≠ "" ∨ ncData.password ≠ "" then
      let _ ← ask (.notificationCredentialsRevoke tokenData.token ncData.userID)
      pure ()
    else pure ()

/-- What `Logout` makes of an answer of the API; some errors mean that the token is invalid
anyway. -/
def orRefuse (answer : Except ApiError Unit) (invalid : List ApiError)
    (next : AuthM LogoutReply) : AuthM LogoutReply :=
  match answer with
  | .ok _ => next
  | .error e =>
    if e ∈ invalid then next
    else pure (if e = .serverInternal then .internalError else .failure)

/-- The end of `Logout`. -/
def eraseUser (reply : LogoutReply) : AuthM LogoutReply := do
  let saved : Bool ← ask .saveErased
  pure (if saved then reply else .error)

/-- What `Logout` does with the token. -/
def dropToken (persistToken : Bool) (tokenData : TokenData) : AuthM LogoutReply := do
  if persistToken then eraseUser .success
  else do
    revokeCredentials
    let deleted : Except ApiError Unit ← ask (.deleteToken tokenData.token)
    orRefuse deleted [.unauthorized, .badRequest] do
      let loggedOut : Except ApiError Unit ← ask (.apiLogout tokenData.token)
      orRefuse loggedOut [.unauthorized, .badRequest, .notFound] do
        eraseUser (if tokenData.renewToken = "" then .tokenInvalidated else .success)

/-- `Logout` of a user who is logged in. -/
def logoutCurrent (persistToken : Bool) : AuthM LogoutReply := do
  let cfg : Option Config ← ask .load
  match cfg with
  | none => pure .failure
  | some cfg => do
    let stopped : Bool ← ask .stop
    if stopped then
      let unset : Bool ← ask .unSetMesh
      if unset then
        match cfg.lookup cfg.id with
        | none => pure .failure
        | some tokenData => dropToken persistToken tokenData
      else pure .failure
    else pure .failure

/-- The request `Logout`. -/
def logoutRequest (persistToken : Bool) : AuthM LogoutReply := do
  if ← isLoggedIn then logoutCurrent persistToken else pure .notLoggedIn

/-- The calls that run beside `Logout`. -/
inductive Call where
  | isLoggedIn | isVPNExpired | getCredentialsFromAPI
deriving DecidableEq, Repr

/-- What the calls end with. -/
inductive Reply where
  | logout (reply : LogoutReply)
  | isLoggedIn (answer : Bool)
  | isVPNExpired (answer : Except Failure Bool)
  | getCredentialsFromAPI (answer : Except Failure NCData)

def Call.script : Call → AuthM Reply
  | isLoggedIn => do pure (.isLoggedIn (← Auth.isLoggedIn))
  | isVPNExpired => do pure (.isVPNExpired (← Auth.isVPNExpired))
  | getCredentialsFromAPI => do pure (.getCredentialsFromAPI (← Auth.getCredentialsFromAPI))

/-! ### Whom the calls touch -/

/-- An operation of a call that has loaded `c`: it is for nobody but the current user of `c` and
those with an entry. -/
def Known (c : Config) (op : Op) : Prop :=
  op ≠ .saveErased ∧ ∀ user, op.owner = some user → user = c.id ∨ (c.lookup user).isSome = true

variable {op : Op}

section Known

variable {c : Config} {uid : Int} {α : Type} {m : AuthM α}

theorem Known.of_owner (h : op.owner = some uid)
    (huid : uid = c.id ∨ (c.lookup uid).isSome = true) :
    Known c op := by
  constructor
  · rintro rfl
    cases h
  · intro user huser
    rw [h] at huser
    cases huser
    exact huid

theorem For.known (h : For uid m) (huid : uid = c.id ∨ (c.lookup uid).isSome = true) :
    m.All (Known c) fun _ => True :=
  h.mono (fun _ howner => .of_owner howner huid) fun _ => id

theorem known_renewAll {entries : List ((_ : Int) × TokenData)}
    (hentries : ∀ entry ∈ entries, (c.lookup entry.1).isSome = true) (isLoggedIn : Bool) :
    (renewAll isLoggedIn entries).All (Known c) fun _ => True := by
  induction entries generalizing isLoggedIn with
  | nil => trivial
  | cons entry rest ih =>
    have hrest := ih fun entry hmem => hentries entry (List.mem_cons_of_mem _ hmem)
    apply (for_renew.known (.inr (hentries entry List.mem_cons_self))).bind
    intro result _
    cases result with
    | ok => exact hrest isLoggedIn
    | error e => exact hrest false

theorem lookup_isSome_of_mem {entry : (_ : Int) × TokenData} (h : entry ∈ c.tokensData.entries) :
    (c.lookup entry.1).isSome = true :=
  AList.lookup_isSome.2 (List.mem_keys_of_mem h)

theorem for_fetchSaveServices {data : TokenData} : For uid (fetchSaveServices uid data) := by
  apply For.ask rfl
  intro answer
  cases answer with
  | error e => trivial
  | ok services =>
    apply for_saveThen rfl
    trivial

theorem for_fetchNCData {token : String} {ncData : NCData} :
    For uid (fetchNCData uid token ncData) := by
  apply For.ask rfl
  intro answer
  cases answer with
  | error e => trivial
  | ok resp =>
    apply for_saveThen rfl
    trivial

/-- A call that loads the settings first. What follows is for the users that it finds there. -/
def LoadsFirst (Q : Option Config → α → Prop) (m : AuthM α) : Prop :=
  ∃ next, m = step .load next ∧ (∃ a, next none = done a ∧ Q none a) ∧
    ∀ c, (next (some c)).All (Known c) (Q (some c))

theorem LoadsFirst.bind_pure {β : Type} {Q : Option Config → α → Prop} (h : LoadsFirst Q m)
    (f : α → β) : LoadsFirst (fun _ _ => True) (m >>= fun a => pure (f a)) := by
  obtain ⟨next, rfl, ⟨a, hnone, -⟩, hsome⟩ := h
  refine ⟨fun answer => next answer >>= fun a => pure (f a), rfl, ⟨f a, ?_, trivial⟩, ?_⟩
  · simp [hnone]
  · exact fun c => (hsome c).bind fun _ _ => trivial

/-- Without a current user nobody is logged in. -/
theorem loadsFirst_isLoggedIn :
    LoadsFirst (fun cfg answer => (∀ c ∈ cfg, c.id = 0) → answer = false) isLoggedIn := by
  refine ⟨_, rfl, ⟨false, rfl, fun _ => rfl⟩, ?_⟩
  intro c
  apply (known_renewAll (fun _ => lookup_isSome_of_mem) true).bind
  intro answer _ hid
  simp [hid c rfl]

theorem loadsFirst_isVPNExpired : LoadsFirst (fun _ _ => True) isVPNExpired := by
  refine ⟨_, rfl, ⟨_, rfl, trivial⟩, ?_⟩
  intro c
  have hcurrent {date : String} : Known c (.isExpired c.id date) := .of_owner rfl (.inl rfl)
  refine ⟨hcurrent, fun isExpired => ?_⟩
  cases isExpired with
  | false => exact ⟨hcurrent, fun _ => trivial⟩
  | true =>
    apply (for_fetchSaveServices.known (.inl rfl)).bind
    intro result _
    cases result with
    | error e => trivial
    | ok data => exact ⟨hcurrent, fun _ => trivial⟩

theorem loadsFirst_getCredentialsFromAPI : LoadsFirst (fun _ _ => True) getCredentialsFromAPI := by
  refine ⟨_, rfl, ⟨_, rfl, trivial⟩, ?_⟩
  intro c
  simp only [Script.bind]
  split
  · refine ⟨⟨by rintro ⟨⟩, by rintro _ ⟨⟩⟩, fun userID => ?_⟩
    exact (for_saveThen rfl for_fetchNCData).known (.inl rfl)
  · exact for_fetchNCData.known (.inl rfl)

theorem Call.loadsFirst_script (call : Call) : LoadsFirst (fun _ _ => True) call.script := by
  cases call with
  | isLoggedIn => exact loadsFirst_isLoggedIn.bind_pure _
  | isVPNExpired => exact loadsFirst_isVPNExpired.bind_pure _
  | getCredentialsFromAPI => exact loadsFirst_getCredentialsFromAPI.bind_pure _

end Known

/-! ### The request -/

/-- The user is erased. -/
def Erased : (op : Op) → op.Answer → Prop
  | .saveErased, saved => saved = true
  | _, _ => False

theorem not_erased (h : op ≠ .saveErased) (answer : op.Answer) : ¬ Erased op answer := by
  cases op with
  | saveErased => exact absurd rfl h
  | _ => exact id

/-- The answers that report success. -/
def LogsOut (reply : LogoutReply) : Prop := reply = .success ∨ reply = .tokenInvalidated

instance : DecidablePred LogsOut := fun reply =>
  inferInstanceAs (Decidable (reply = .success ∨ reply = .tokenInvalidated))

section Request

variable {persistToken : Bool} {tokenData : TokenData} {reply : LogoutReply}

theorem until_eraseUser : (eraseUser reply).Until Erased Ended (¬ LogsOut ·) := by
  intro saved
  cases saved with
  | true => exact ⟨fun _ => ⟨reply, rfl⟩, fun h => absurd rfl h⟩
  | false => exact ⟨by rintro ⟨⟩, fun _ => show ¬ LogsOut .error by decide⟩

theorem until_orRefuse {answer : Except ApiError Unit} {invalid : List ApiError}
    {next : AuthM LogoutReply} (h : next.Until Erased Ended (¬ LogsOut ·)) :
    (orRefuse answer invalid next).Until Erased Ended (¬ LogsOut ·) := by
  unfold orRefuse
  cases answer with
  | ok => exact h
  | error e =>
    dsimp only
    split
    · exact h
    · change ¬ LogsOut _
      split <;> decide

theorem until_ask {next : op.Answer → AuthM LogoutReply} (hop : op ≠ .saveErased)
    (h : ∀ answer, (next answer).Until Erased Ended (¬ LogsOut ·)) :
    (step op next).Until Erased Ended (¬ LogsOut ·) :=
  fun answer => ⟨fun herased => absurd herased (not_erased hop answer), fun _ => h answer⟩

theorem all_revokeCredentials :
    revokeCredentials.All (fun op => ∀ answer, ¬ Erased op answer) fun _ => True := by
  refine ⟨not_erased (by rintro ⟨⟩), fun cfg => ?_⟩
  cases cfg with
  | none => trivial
  | some cfg =>
    simp only [Script.bind]
    split
    · exact ⟨not_erased (by rintro ⟨⟩), fun _ => trivial⟩
    · trivial

theorem until_dropToken : (dropToken persistToken tokenData).Until Erased Ended (¬ LogsOut ·) := by
  unfold dropToken
  split
  · exact until_eraseUser
  · apply Until.of_all all_revokeCredentials
    intro _ _
    apply until_ask (by rintro ⟨⟩)
    intro deleted
    apply until_orRefuse
    apply until_ask (by rintro ⟨⟩)
    intro loggedOut
    exact until_orRefuse until_eraseUser

theorem until_logoutCurrent : (logoutCurrent persistToken).Until Erased Ended (¬ LogsOut ·) := by
  have hfailure : (done .failure : AuthM LogoutReply).Until Erased Ended (¬ LogsOut ·) :=
    show ¬ LogsOut .failure by decide
  apply until_ask (by rintro ⟨⟩)
  intro cfg
  cases cfg with
  | none => exact hfailure
  | some cfg =>
    apply until_ask (by rintro ⟨⟩)
    intro stopped
    cases stopped with
    | false => exact hfailure
    | true =>
      apply until_ask (by rintro ⟨⟩)
      intro unset
      cases unset with
      | false => exact hfailure
      | true =>
        simp only [Script.bind, if_true]
        split
        · exact hfailure
        · exact until_dropToken

def logoutScript (persistToken : Bool) : AuthM Reply := do
  pure (.logout (← logoutRequest persistToken))

def Reply.LogsOut : Reply → Prop
  | .logout reply => Auth.LogsOut reply
  | _ => False

/-- After its first step the request comes to erase the user before it reports success, and without
a current user it reports no success. -/
theorem logoutScript_loads : ∃ next, logoutScript persistToken = step .load next ∧
    ∀ cfg, (next cfg).Until Erased Ended (¬ ·.LogsOut) ∧
      ((∀ c ∈ cfg, c.id = 0) → (next cfg).All (· ≠ .saveErased) (¬ ·.LogsOut)) := by
  obtain ⟨next, heq, ⟨a, hnone, hrefused⟩, hsome⟩ := loadsFirst_isLoggedIn
  have hnext : ∀ cfg, (next cfg).All (· ≠ .saveErased)
      fun answer => (∀ c ∈ cfg, c.id = 0) → answer = false := by
    intro cfg
    cases cfg with
    | none =>
      rw [hnone]
      exact hrefused
    | some c => exact (hsome c).mono (fun _ h => h.1) fun _ => id
  refine ⟨fun cfg => (next cfg >>= fun answer =>
    if answer then logoutCurrent persistToken else pure .notLoggedIn) >>=
      fun reply => pure (.logout reply), ?_, fun cfg => ⟨?_, ?_⟩⟩
  · rw [logoutScript, logoutRequest, heq]
    rfl
  · have hrequest : (next cfg >>= fun answer =>
        if answer then logoutCurrent persistToken else pure .notLoggedIn).Until Erased Ended
          (¬ LogsOut ·) := by
      apply Until.of_all ((hnext cfg).mono (fun _ => not_erased) fun _ _ => trivial)
      intro answer _
      cases answer with
      | true => exact until_logoutCurrent
      | false => exact show ¬ LogsOut .notLoggedIn by decide
    exact hrequest.map fun _ => id
  · intro hid
    have hrequest : (next cfg >>= fun answer =>
        if answer then logoutCurrent persistToken else pure .notLoggedIn).All (· ≠ .saveErased)
          (¬ LogsOut ·) := by
      apply (hnext cfg).bind
      intro answer hanswer
      rw [hanswer hid]
      exact show ¬ LogsOut .notLoggedIn by decide
    exact hrequest.bind fun _ => id

end Request

/-! ### Every interleaving -/

section Interleaving

variable {κ : Type} [DecidableEq κ]

/-- The request and the calls beside it, none of which has begun. -/
def start (c : Config) (persistToken : Bool) (calls : κ → Call) :
    Pool Config (Option κ) Op Op.Answer Reply where
  store := c
  script
    | none => logoutScript persistToken
    | some i => (calls i).script

/-- When the request erases the user, every other call has ended or has not loaded the settings. -/
def ErasesAlone (calls : κ → Call) (pool : Pool Config (Option κ) Op Op.Answer Reply)
    (move : Option κ × Moment) : Prop :=
  move.1 = none → (∃ next, pool.script none = step .saveErased next) →
    ∀ i, pool.script (some i) = (calls i).script ∨ Ended (pool.script (some i))

/-- An operation that does not touch the user. -/
def Passes (user : Int) (op : Op) : Prop := op ≠ .saveErased ∧ op.owner ≠ some user

variable {user : Int} {persistToken : Bool} {calls : κ → Call}
  {pool : Pool Config (Option κ) Op Op.Answer Reply} {move : Option κ × Moment} {c : Config}

omit [DecidableEq κ] in
theorem eq_of_mem_load {r : Moment} {c' : Config} (h : c' ∈ (exec r .load c).1) : c' = c := by
  cases hloads : r.loads <;> simp_all [exec]

omit [DecidableEq κ] in
theorem exec_id {r : Moment} (h : ¬ Erased op (exec r op c).1) :
    (exec r op c).2.id = c.id := by
  cases op with
  | saveErased =>
    have hsaves : r.saves = false := by simpa [Erased, exec] using h
    simp [exec, hsaves]
  | saveWith f => cases hsaves : r.saves <;> simp [exec, hsaves]
  | _ => rfl

theorem Passes.lookup {r : Moment} (h : Passes user op) :
    (exec r op c).2.lookup user = c.lookup user := by
  obtain ⟨herase, howner⟩ := h
  cases op with
  | saveErased => exact absurd rfl herase
  | saveWith f =>
    have hne : user ≠ f.userID := fun heq => howner (by rw [heq]; rfl)
    cases hsaves : r.saves <;> simp [exec, hsaves, SaveFunc.lookup_apply_of_ne hne]
  | _ => rfl

theorem Known.passes (h : Known c op) (hnone : c.lookup user = none) (hid : c.id ≠ user) :
    Passes user op := by
  refine ⟨h.1, fun howner => ?_⟩
  rcases h.2 user howner with rfl | hsome
  · exact hid rfl
  · simp [hnone] at hsome

/-- Before the user is erased. Without a current user the request never comes to that. -/
structure Unerased (user : Int) (persistToken : Bool)
    (pool : Pool Config (Option κ) Op Op.Answer Reply) : Prop where
  current : pool.store.id = user
  others : ∀ i, (pool.script (some i)).All (· ≠ .saveErased) fun _ => True
  request : pool.script none = logoutScript persistToken ∨
    (user ≠ 0 ∧ (pool.script none).Until Erased Ended (¬ ·.LogsOut)) ∨
    (pool.script none).All (· ≠ .saveErased) (¬ ·.LogsOut)

/-- Once the user is erased, nobody who touches the user's entry is left. -/
structure Spared (user : Int) (calls : κ → Call)
    (pool : Pool Config (Option κ) Op Op.Answer Reply) : Prop where
  erased : pool.store.lookup user = none
  current : pool.store.id ≠ user
  request : Ended (pool.script none)
  others : ∀ i, pool.script (some i) = (calls i).script ∨
    (pool.script (some i)).All (Passes user) fun _ => True

theorem Call.script_ne_saveErased (call : Call) :
    call.script.All (· ≠ .saveErased) fun _ => True := by
  obtain ⟨next, heq, ⟨a, hnone, -⟩, hsome⟩ := call.loadsFirst_script
  rw [heq]
  refine ⟨by rintro ⟨⟩, fun cfg => ?_⟩
  cases cfg with
  | none =>
    rw [hnone]
    trivial
  | some c => exact (hsome c).mono (fun _ h => h.1) fun _ => id

omit [DecidableEq κ] in
theorem unerased_start (c : Config) : Unerased c.id persistToken (start c persistToken calls) where
  current := rfl
  others i := (calls i).script_ne_saveErased
  request := .inl rfl

/-- A step of another call. -/
theorem Unerased.advance_call (h : Unerased user persistToken pool) (i : κ) (r : Moment) :
    Unerased user persistToken (pool.advance exec (some i, r)) := by
  cases hscript : pool.script (some i) with
  | done a =>
    rw [Pool.advance_done hscript]
    exact h
  | step op next =>
    have hall := h.others i
    rw [hscript] at hall
    rw [Pool.advance_step hscript]
    constructor
    · exact (exec_id (not_erased hall.1 _)).trans h.current
    · intro j
      by_cases hij : j = i
      · subst hij
        simpa using hall.2 _
      · simpa [hij] using h.others j
    · simpa using h.request

/-- A step of the request. -/
theorem Unerased.advance_request (h : Unerased user persistToken pool) (r : Moment)
    (halone : ErasesAlone calls pool (none, r)) :
    Unerased user persistToken (pool.advance exec (none, r)) ∨
      Spared user calls (pool.advance exec (none, r)) := by
  -- what is left to show of a step that does not erase the user
  have hkept {op : Op} {next : op.Answer → AuthM Reply} (hscript : pool.script none = step op next)
      (hop : ¬ Erased op (exec r op pool.store).1)
      (hnext : (user ≠ 0 ∧ (next (exec r op pool.store).1).Until Erased Ended (¬ ·.LogsOut)) ∨
        (next (exec r op pool.store).1).All (· ≠ .saveErased) (¬ ·.LogsOut)) :
      Unerased user persistToken (pool.advance exec (none, r)) := by
    rw [Pool.advance_step hscript]
    constructor
    · exact (exec_id hop).trans h.current
    · simpa using h.others
    · right
      simpa using hnext
  rcases h.request with hstart | ⟨huser, huntil⟩ | hall
  · obtain ⟨next, heq, hnext⟩ := @logoutScript_loads persistToken
    left
    apply hkept (hstart.trans heq) (not_erased (by rintro ⟨⟩) _)
    by_cases huser : user = 0
    · right
      apply (hnext _).2
      intro c hc
      rw [eq_of_mem_load hc, h.current, huser]
    · exact .inl ⟨huser, (hnext _).1⟩
  · cases hscript : pool.script none with
    | done a =>
      left
      rw [Pool.advance_done hscript]
      exact h
    | step op next =>
      rw [hscript] at huntil
      by_cases herased : Erased op (exec r op pool.store).1
      · right
        cases op with
        | saveErased =>
          have hsaves : r.saves = true := herased
          rw [Pool.advance_step hscript]
          constructor
          · simp [exec, hsaves, eraseCurrent, Config.lookup, h.current]
          · simpa [exec, hsaves, eraseCurrent] using huser.symm
          · simpa using (huntil _).1 herased
          · intro i
            rcases halone rfl ⟨next, hscript⟩ i with hwaits | ⟨a, ha⟩
            · exact .inl (by simpa using hwaits)
            · exact .inr (by simp [ha, All])
        | _ => cases herased
      · exact .inl (hkept hscript herased (.inl ⟨huser, (huntil _).2 herased⟩))
  · left
    cases hscript : pool.script none with
    | done a =>
      rw [Pool.advance_done hscript]
      exact h
    | step op next =>
      rw [hscript] at hall
      exact hkept hscript (not_erased hall.1 _) (.inr (hall.2 _))

theorem Spared.advance (h : Spared user calls pool) (move : Option κ × Moment) :
    Spared user calls (pool.advance exec move) := by
  -- a step of the call `i`, after which the call still passes the user
  have hkept {i : κ} {r : Moment} {op : Op} {next : op.Answer → AuthM Reply}
      (hscript : pool.script (some i) = step op next) (hop : Passes user op)
      (hnext : (next (exec r op pool.store).1).All (Passes user) fun _ => True) :
      Spared user calls (pool.advance exec (some i, r)) := by
    rw [Pool.advance_step hscript]
    constructor
    · exact hop.lookup.trans h.erased
    · rw [exec_id (not_erased hop.1 _)]
      exact h.current
    · simpa using h.request
    · intro j
      by_cases hij : j = i
      · subst hij
        right
        simpa using hnext
      · simpa [hij] using h.others j
  obtain ⟨thread, r⟩ := move
  cases thread with
  | none =>
    obtain ⟨a, ha⟩ := h.request
    rw [Pool.advance_done ha]
    exact h
  | some i =>
    rcases h.others i with hwaits | hall
    · obtain ⟨next, heq, ⟨a, hnone, -⟩, hsome⟩ := (calls i).loadsFirst_script
      apply hkept (hwaits.trans heq) ⟨by rintro ⟨⟩, by rintro ⟨⟩⟩
      cases hcfg : (exec r .load pool.store).1 with
      | none =>
        rw [hnone]
        trivial
      | some c =>
        obtain rfl := eq_of_mem_load hcfg
        exact (hsome _).mono (fun _ hop => hop.passes h.erased h.current) fun _ => id
    · cases hscript : pool.script (some i) with
      | done a =>
        rw [Pool.advance_done hscript]
        exact h
      | step op next =>
        rw [hscript] at hall
        exact hkept hscript hall.1 (hall.2 _)

theorem unerased_or_spared
    (hreach : Reaches (Pool.advance exec) (ErasesAlone calls) (start c persistToken calls) pool) :
    Unerased c.id persistToken pool ∨ Spared c.id calls pool := by
  apply hreach.invariant (.inl (unerased_start c))
  rintro pool ⟨thread, r⟩ (h | h) halone
  · cases thread with
    | none => exact h.advance_request r halone
    | some i => exact .inl (h.advance_call i r)
  · exact .inr (h.advance _)

end Interleaving

/-- In every run in which no other call that has loaded the settings is on its way when `Logout`
erases the user, nothing of the user is stored once `Logout` has reported success, whatever calls
begin or end before or after. -/
theorem logout_erases_user {κ : Type} [DecidableEq κ] (c : Config) (persistToken : Bool)
    (calls : κ → Call) {pool : Pool Config (Option κ) Op Op.Answer Reply}
    (hreach : Reaches (Pool.advance exec) (ErasesAlone calls) (start c persistToken calls) pool)
    {reply : LogoutReply} (hdone : pool.script none = .done (.logout reply))
    (hsuccess : reply = .success ∨ reply = .tokenInvalidated) :
    pool.store.lookup c.id = none := by
  rcases unerased_or_spared hreach with h | h
  · have hreply : ¬ (Reply.logout reply).LogsOut := by
      rcases h.request with hstart | ⟨-, huntil⟩ | hall
      · obtain ⟨next, heq, -⟩ := @logoutScript_loads persistToken
        rw [hdone, heq] at hstart
        cases hstart
      · simpa [hdone, Until] using huntil
      · simpa [hdone, All] using hall
    exact absurd hsuccess hreply
  · exact h.erased

/-- A user with a trusted pass still to be fetched. -/
def oauthConfig : Config where
  id := 7
  tokensData := AList.singleton 7
    { token := "token", renewToken := "renew token", tokenExpiry := "expiry", isOAuth := true
      nordLynxPrivateKey := "key", openVPNUsername := "name", openVPNPassword := "password" }

/-- The request and one `IsLoggedIn` take their steps in this order, the first one first. -/
def interleaved (threads : List (Option Unit)) : Pool Config (Option Unit) Op Op.Answer Reply :=
  runAll (Pool.advance exec) (start oauthConfig false fun _ => .isLoggedIn)
    (threads.reverse.map fun thread => (thread, {}))

theorem logout_erases_user_sample :
    (interleaved (List.replicate 4 (some ()) ++ List.replicate 11 none)).store.lookup 7 = none := by
  apply @logout_erases_user Unit _ oauthConfig false (fun _ => .isLoggedIn) _ (reaches_runAll _)
    .success rfl (.inl rfl)
  repeat' apply And.intro
  all_goals first
    | trivial
    | exact fun _ _ _ => .inr ⟨_, rfl⟩
    | exact fun h => nomatch h

/-- `IsLoggedIn` has loaded the settings and waits for the API while the user logs out. Then it
saves the tokens that it has. -/
theorem logout_undone :
    let pool := interleaved (List.replicate 4 none ++ List.replicate 3 (some ()) ++
      List.replicate 7 none ++ [some ()])
    pool.script none = .done (.logout .success) ∧
      pool.script (some ()) = .done (.isLoggedIn true) ∧
      (pool.store.lookup 7).map (fun user => (user.token, user.renewToken)) =
        some ("token", "renew token") :=
  ⟨rfl, rfl, rfl⟩

end NordVPN.Auth
