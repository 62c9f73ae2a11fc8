import NordVPN.Auth.Tokens

/-!
The calls of the checker that look at the login of the users (`auth/auth.go`), and what renewing
the token of a user leaves stored.
-/

namespace NordVPN.Auth

open Script

/-- The error that a call ends with: of the API, or of `cm.SaveWith`, or of `cm.Load`. -/
inductive Failure where
  | api (error : ApiError)
  | save
  | load
deriving DecidableEq, Repr

/-- `cm.SaveWith`. -/
def saveWith (f : SaveFunc) : AuthM (Except Failure Unit) := do
  let saved : Bool ← ask (.saveWith f)
  pure (if saved then .ok () else .error .save)

/-- `cm.SaveWith`, whose error is returned at once. -/
def saveThen {α : Type} (f : SaveFunc) (next : AuthM (Except Failure α)) :
    AuthM (Except Failure α) := do
  let saved : Bool ← ask (.saveWith f)
  if saved then next else pure (.error .save)

/-! ### Renewal -/

def renewLoginToken (uid : Int) (data : TokenData) : AuthM (Except ApiError TokenData) := do
  let answer : Except ApiError TokenRenewResponse ← ask (.tokenRenew uid data.renewToken)
  pure (answer.map fun resp =>
    { data with token := resp.token, renewToken := resp.renewToken, tokenExpiry := resp.expiresAt })

def renewNCCredentials (uid : Int) (data : TokenData) : AuthM (Except ApiError TokenData) := do
  let answer : Except ApiError NotificationCredentialsResponse ←
    ask (.notificationCredentials uid data.token data.ncData.userID)
  pure (answer.map fun resp =>
    { data with ncData := { data.ncData with
        endpoint := resp.endpoint, username := resp.username, password := resp.password } })

def renewTrustedPassToken (uid : Int) (data : TokenData) : AuthM (Except ApiError TokenData) := do
  let answer : Except ApiError TrustedPassTokenResponse ←
    ask (.trustedPassToken uid data.token)
  pure (answer.map fun resp =>
    { data with trustedPassOwnerID := resp.ownerID, trustedPassToken := resp.token })

def renewVpnCredentials (uid : Int) (data : TokenData) : AuthM (Except ApiError TokenData) := do
  let answer : Except ApiError CredentialsResponse ← ask (.serviceCredentials uid data.token)
  pure (answer.map fun credentials =>
    { data with
      nordLynxPrivateKey := credentials.nordlynxPrivateKey
      openVPNUsername := credentials.username
      openVPNPassword := credentials.password })

/-- What `renew` makes of an answer of the API: some errors log the user out. -/
def orLogout (uid : Int) (answer : Except ApiError TokenData)
    (otherwise : AuthM (Except Failure Unit)) (next : TokenData → AuthM (Except Failure Unit)) :
    AuthM (Except Failure Unit) :=
  match answer with
  | .ok data => next data
  | .error e => if e.invalidates then saveWith (logout uid) else otherwise

/-- The last part of `renew`: the credentials of the VPN. -/
def fillVpnCredentials (uid : Int) (data : TokenData) : AuthM (Except Failure Unit) := do
  if data.nordLynxPrivateKey = "" ∨ data.openVPNUsername = "" ∨ data.openVPNPassword = "" then
    match ← renewVpnCredentials uid data with
    | .error e => pure (.error (.api e))
    | .ok data => saveWith (saveVpnServerCredentials uid data)
  else pure (.ok ())

/-- The second part of `renew`: the trusted pass, if it has never been stored. Where the API fails
otherwise, the data are saved as they are. -/
def fillTrustedPass (uid : Int) (data : TokenData) : AuthM (Except Failure Unit) := do
  let isTrustedPassNotValid := data.trustedPassToken = "" ∨ data.trustedPassOwnerID = ""
  let store (data : TokenData) :=
    saveThen (saveLoginToken uid data) (fillVpnCredentials uid data)
  if data.isOAuth ∧ isTrustedPassNotValid then
    orLogout uid (← renewTrustedPassToken uid data) (store data) store
  else fillVpnCredentials uid data

/-- What `renew` does with a renewed token at last. -/
def storeLogin (uid : Int) (data : TokenData) : AuthM (Except Failure Unit) :=
  saveThen (saveLoginToken uid data) (fillTrustedPass uid data)

/-- What `renew` renews along with the token, before it saves anything. -/
def renewAlong (uid : Int) (data : TokenData) : AuthM (Except Failure Unit) := do
  orLogout uid (← renewNCCredentials uid data) (pure (.ok ())) fun data => do
    if data.isOAuth then
      orLogout uid (← renewTrustedPassToken uid data) (storeLogin uid data) (storeLogin uid)
    else storeLogin uid data

def renew (uid : Int) (data : TokenData) : AuthM (Except Failure Unit) := do
  let isExpired : Bool ← ask (.isExpired uid data.tokenExpiry)
  if isExpired then
    orLogout uid (← renewLoginToken uid data) (pure (.ok ())) (renewAlong uid)
  else fillTrustedPass uid data

/-- The loop of `IsLoggedIn` over the users. -/
def renewAll (isLoggedIn : Bool) : List ((_ : Int) × TokenData) → AuthM Bool
  | [] => pure isLoggedIn
  | ⟨uid, data⟩ :: rest => do
    match ← renew uid data with
    | .ok _ => renewAll isLoggedIn rest
    | .error _ => renewAll false rest

def isLoggedIn : AuthM Bool := do
  let cfg : Option Config ← ask .load
  match cfg with
  | none => pure false
  | some cfg => do
    let isLoggedIn ← renewAll true cfg.tokensData.entries
    pure (cfg.id ≠ 0 && !cfg.tokensData.entries.isEmpty && isLoggedIn)

/-! ### The renewed token -/

/-- The call of `m` alone, with nothing done before. -/
def call {α : Type} (world : Option Int → Nat → Moment) (m : AuthM α) (c : Config) :
    Ran Config (Option Int) Op Op.Answer α :=
  m.run exec Op.owner world c fun _ => []

/-- The token, the renew token and the expiry of the response. -/
def Carries (resp : TokenRenewResponse) (data : TokenData) : Prop :=
  data.token = resp.token ∧ data.renewToken = resp.renewToken ∧ data.tokenExpiry = resp.expiresAt

/-- The user's entry has what the response brought. -/
def Holds (resp : TokenRenewResponse) (uid : Int) (c : Config) : Prop :=
  ∃ user, c.lookup uid = some user ∧ Carries resp user

/-- The error that a call of the API for a user was answered with. -/
def apiError : (op : Op) × op.Answer → Option ApiError
  | ⟨.tokenRenew _ _, .error e⟩ | ⟨.notificationCredentials _ _ _, .error e⟩
  | ⟨.trustedPassToken _ _, .error e⟩ | ⟨.serviceCredentials _ _, .error e⟩ => some e
  | _ => none

/-- The user is logged out, after a call of the API with an error that calls for it. -/
def LoggedOut {α : Type} (uid : Int) (ran : Ran Config (Option Int) Op Op.Answer α) : Prop :=
  ran.store.lookup uid = none ∧
    ∃ event ∈ ran.history (some uid), ∃ e, apiError event = some e ∧ e.invalidates = true

/-- The renewed token is stored, or the user is logged out for a reason. -/
def Settled {α : Type} (resp : TokenRenewResponse) (uid : Int)
    (ran : Ran Config (Option Int) Op Op.Answer α) : Prop :=
  Holds resp uid ran.store ∨ LoggedOut uid ran

section Renewed

variable {world : Option Int → Nat → Moment} {uid : Int} {resp : TokenRenewResponse}
  {data : TokenData} {c : Config} {history : Option Int → List ((op : Op) × op.Answer)}

theorem Carries.of_map {α : Type} {f : α → TokenData} {answer : Except ApiError α}
    (h : answer.map f = .ok data) (hf : ∀ a, Carries resp (f a)) : Carries resp data := by
  cases answer with
  | error e => cases h
  | ok a =>
    cases h
    exact hf a

theorem holds_saveLoginToken (h : Carries resp data) :
    Holds resp uid ((saveLoginToken uid data).apply c) :=
  ⟨_, SaveFunc.lookup_apply _ c, h⟩

theorem Holds.saveVpnServerCredentials (h : Holds resp uid c) :
    Holds resp uid ((saveVpnServerCredentials uid data).apply c) := by
  obtain ⟨user, huser, hcarries⟩ := h
  refine ⟨_, SaveFunc.lookup_apply _ c, ?_⟩
  simpa [Auth.saveVpnServerCredentials, Config.entry, huser, Carries] using hcarries

theorem Holds.fillVpnCredentials (h : Holds resp uid c) :
    Holds resp uid ((fillVpnCredentials uid data).run exec Op.owner world c history).store := by
  unfold Auth.fillVpnCredentials
  split
  · simp only [renewVpnCredentials, ask, step_bind, done_bind, pure_eq, Script.run, exec]
    cases (world _ _).serviceCredentials with
    | error e => exact h
    | ok credentials =>
      simp only [Except.map, saveWith, ask, step_bind, done_bind, pure_eq, Script.run, exec]
      split
      · exact h.saveVpnServerCredentials
      · exact h
  · exact h

variable (hsaves : ∀ n, (world (some uid) n).saves = true)
include hsaves

theorem run_saveThen {f : SaveFunc} {next : AuthM (Except Failure Unit)} (hf : f.userID = uid) :
    (saveThen f next).run exec Op.owner world c history =
      next.run exec Op.owner world (f.apply c)
        (Function.update history (some uid) (history (some uid) ++ [⟨.saveWith f, true⟩])) := by
  subst hf
  simp only [saveThen, ask, step_bind, done_bind, Script.run, exec, Op.owner, hsaves, if_true]

/-- The errors of the API that log the user out do so; it is left to see that the other answers
settle the token. -/
theorem settled_orLogout {answer : Except ApiError TokenData}
    {otherwise : AuthM (Except Failure Unit)} {next : TokenData → AuthM (Except Failure Unit)}
    (hevent : ∀ e, answer = .error e → ∃ event ∈ history (some uid), apiError event = some e)
    (hother : ∀ e, answer = .error e → e.invalidates = false →
      Settled resp uid (otherwise.run exec Op.owner world c history))
    (hnext : ∀ data, answer = .ok data →
      Settled resp uid ((next data).run exec Op.owner world c history)) :
    Settled resp uid ((orLogout uid answer otherwise next).run exec Op.owner world c history) := by
  unfold orLogout
  cases answer with
  | ok data => exact hnext data rfl
  | error e =>
    dsimp only
    split
    · next hinvalid =>
      obtain ⟨event, hmem, he⟩ := hevent e rfl
      right
      constructor
      · simp only [saveWith, ask, step_bind, done_bind, pure_eq, Script.run, exec, Op.owner,
          logout, hsaves, if_true]
        exact SaveFunc.lookup_apply (logout uid) c
      · refine ⟨event, ?_, e, he, hinvalid⟩
        simp [saveWith, ask, Script.run, Op.owner, logout, hmem]
    · next hvalid => exact hother e rfl (by simpa using hvalid)

/-- The same for a call of the API whose answer is read so. -/
theorem settled_ask {op : Op} {read : op.Answer → Except ApiError TokenData}
    {otherwise : AuthM (Except Failure Unit)} {next : TokenData → AuthM (Except Failure Unit)}
    (howner : op.owner = some uid) (hquiet : ∀ r, (exec r op c).2 = c)
    (hread : ∀ answer e, read answer = .error e → apiError ⟨op, answer⟩ = some e)
    (hother : ∀ history' e,
      read (exec (world (some uid) (history (some uid)).length) op c).1 = .error e →
      e.invalidates = false → Settled resp uid (otherwise.run exec Op.owner world c history'))
    (hnext : ∀ history' data,
      read (exec (world (some uid) (history (some uid)).length) op c).1 = .ok data →
      (history' (some uid)).length = (history (some uid)).length + 1 →
      Settled resp uid ((next data).run exec Op.owner world c history')) :
    Settled resp uid
      ((step op fun answer => orLogout uid (read answer) otherwise next).run exec Op.owner world
        c history) := by
  simp only [Script.run, howner, hquiet]
  apply settled_orLogout hsaves
  · intro e he
    exact ⟨_, by simp, hread _ e he⟩
  · intro e he hvalid
    exact hother _ e he hvalid
  · intro data hdata
    exact hnext _ data hdata (by simp)

/-- Once the renewed token is stored, the rest of the renewal keeps it or logs the user out. -/
theorem settled_fillTrustedPass (hdata : Carries resp data) (h : Holds resp uid c) :
    Settled resp uid ((fillTrustedPass uid data).run exec Op.owner world c history) := by
  have hstore (data : TokenData) (history) (hdata : Carries resp data) :
      Settled resp uid ((saveThen (saveLoginToken uid data) (fillVpnCredentials uid data)).run
        exec Op.owner world c history) := by
    rw [run_saveThen hsaves rfl]
    exact .inl (holds_saveLoginToken hdata).fillVpnCredentials
  unfold fillTrustedPass
  dsimp only
  split
  · apply settled_ask hsaves rfl (fun _ => rfl)
    · intro answer e he
      cases answer <;> simp_all [Except.map, apiError]
    · intro history' e _ _
      exact hstore data history' hdata
    · intro history' data' hdata' _
      exact hstore data' history' (.of_map hdata' fun _ => hdata)
  · exact .inl h.fillVpnCredentials

theorem settled_storeLogin (hdata : Carries resp data) :
    Settled resp uid ((storeLogin uid data).run exec Op.owner world c history) := by
  unfold storeLogin
  rw [run_saveThen hsaves rfl]
  exact settled_fillTrustedPass hsaves hdata (holds_saveLoginToken hdata)

/-- What is renewed along with the token does not lose it, when the notification credentials are
renewed or the user is logged out. -/
theorem settled_renewAlong (hdata : Carries resp data)
    (hnc : ∀ e, (world (some uid) (history (some uid)).length).notificationCredentials = .error e →
      e.invalidates = true) :
    Settled resp uid ((renewAlong uid data).run exec Op.owner world c history) := by
  apply settled_ask hsaves rfl (fun _ => rfl)
  · intro answer e he
    cases answer <;> simp_all [Except.map, apiError]
  · intro history' e he hvalid
    have hanswer : (world (some uid) (history (some uid)).length).notificationCredentials =
        .error e := by
      simp only [exec] at he
      cases hcreds : (world (some uid) (history (some uid)).length).notificationCredentials <;>
        simp_all [Except.map]
    rw [hnc e hanswer] at hvalid
    cases hvalid
  · intro history' data' hdata' _
    have hcarries : Carries resp data' := .of_map hdata' fun _ => hdata
    split
    · apply settled_ask hsaves rfl (fun _ => rfl)
      · intro answer e he
        cases answer <;> simp_all [Except.map, apiError]
      · intro history'' e _ _
        exact settled_storeLogin hsaves hcarries
      · intro history'' data'' hdata'' _
        exact settled_storeLogin hsaves (.of_map hdata'' fun _ => hcarries)
    · exact settled_storeLogin hsaves hcarries

omit hsaves in
/-- The early return: nothing is stored. -/
theorem run_renewAlong_lost {e : ApiError} (hvalid : e.invalidates = false)
    (hnc : (world (some uid) (history (some uid)).length).notificationCredentials = .error e) :
    (renewAlong uid data).run exec Op.owner world c history =
      ⟨.ok (), c, Function.update history (some uid) (history (some uid) ++
        [⟨.notificationCredentials uid data.token data.ncData.userID, .error e⟩])⟩ := by
  simp [renewAlong, renewNCCredentials, ask, Script.run, exec, Op.owner, hnc, hvalid, orLogout,
    Except.map]

/-- The token is lost exactly on the early return, as long as no earlier answer logs the user out.
-/
theorem settled_renewAlong_iff (hdata : Carries resp data)
    (hpast : ∀ event ∈ history (some uid), ∀ e, apiError event = some e → e.invalidates = false) :
    Settled resp uid ((renewAlong uid data).run exec Op.owner world c history) ↔
      (∀ e, (world (some uid) (history (some uid)).length).notificationCredentials = .error e →
        e.invalidates = true) ∨ Holds resp uid c := by
  by_cases hnc : ∀ e, (world (some uid) (history (some uid)).length).notificationCredentials =
      .error e → e.invalidates = true
  · exact iff_of_true (settled_renewAlong hsaves hdata hnc) (.inl hnc)
  · simp only [hnc, false_or]
    push Not at hnc
    obtain ⟨e, hnc, hvalid⟩ := hnc
    rw [run_renewAlong_lost (by simpa using hvalid) hnc]
    constructor
    · rintro (hholds | ⟨-, event, hmem, e', he', hinvalid⟩)
      · exact hholds
      · simp only [Function.update_self, List.mem_append, List.mem_singleton] at hmem
        rcases hmem with hmem | rfl
        · simp [hpast event hmem e' he'] at hinvalid
        · cases he'
          exact absurd hinvalid hvalid
    · exact .inl

omit hsaves in
theorem Settled.renewToken {α : Type} {ran : Ran Config (Option Int) Op Op.Answer α}
    (h : Settled resp uid ran) {user : TokenData} (huser : ran.store.lookup uid = some user) :
    user.renewToken = resp.renewToken := by
  rcases h with ⟨user', huser', _, hrenew, _⟩ | ⟨hnone, _⟩
  · rw [huser'] at huser
    cases huser
    exact hrenew
  · rw [hnone] at huser
    cases huser

end Renewed

/-- The token that the server has just issued, and with it the only renew token that it still takes,
is stored or the user is logged out, unless the notification credentials could not be renewed for
another reason than that the API does not know the user: the renewal then ends without saving. -/
theorem renewed_token_kept_iff (world : Option Int → Nat → Moment) (uid : Int) (data : TokenData)
    (c : Config) (resp : TokenRenewResponse)
    (hexpired : (world (some uid) 0).clock.isExpired data.tokenExpiry = true)
    (hrenewed : (world (some uid) 1).tokenRenew = .ok resp)
    (hsaves : ∀ n, (world (some uid) n).saves = true) :
    (Settled resp uid (call world (renew uid data) c) ∧
        ∀ user, (call world (renew uid data) c).store.lookup uid = some user →
          user.renewToken = resp.renewToken) ↔
      (∀ e, (world (some uid) 2).notificationCredentials = .error e → e.invalidates = true) ∨
        Holds resp uid c := by
  have hstart : call world (renew uid data) c =
      (renewAlong uid { data with
        token := resp.token, renewToken := resp.renewToken, tokenExpiry := resp.expiresAt }).run
        exec Op.owner world c (Function.update (fun _ => []) (some uid)
          [⟨.isExpired uid data.tokenExpiry, true⟩,
            ⟨.tokenRenew uid data.renewToken, .ok resp⟩]) := by
    simp [call, renew, renewLoginToken, ask, Script.run, exec, Op.owner, hexpired, hrenewed,
      orLogout, Except.map]
  have hpast : ∀ event ∈ (Function.update (fun _ => []) (some uid)
      [⟨.isExpired uid data.tokenExpiry, true⟩, ⟨.tokenRenew uid data.renewToken, .ok resp⟩] :
        Option Int → List ((op : Op) × op.Answer)) (some uid),
      ∀ e, apiError event = some e → e.invalidates = false := by
    simp [apiError]
  rw [hstart, and_iff_left_of_imp fun hsettled user => hsettled.renewToken,
    settled_renewAlong_iff hsaves ⟨rfl, rfl, rfl⟩ hpast]
  simp

/-- A server that renews the token, with its answer for the notification credentials. -/
def renewingWorld (answer : Except ApiError NotificationCredentialsResponse) :
    Option Int → Nat → Moment := fun _ _ =>
  { clock := { now := 1, parse := fun _ => some 0 }
    tokenRenew := .ok ⟨"token", "renew token", "expiry"⟩
    notificationCredentials := answer }

def oldData : TokenData :=
  { token := "old token", renewToken := "old renew token", tokenExpiry := "old expiry" }

def oldConfig : Config := { id := 7, tokensData := AList.singleton 7 oldData }

theorem renewed_token_sample :
    Settled ⟨"token", "renew token", "expiry"⟩ 7
      (call (renewingWorld (.ok ⟨"endpoint", "name", "password"⟩)) (renew 7 oldData) oldConfig) :=
  ((renewed_token_kept_iff _ 7 oldData oldConfig ⟨"token", "renew token", "expiry"⟩ (by decide) rfl
    fun _ => rfl).2 (.inl (by rintro e ⟨⟩))).1

/-- The server has renewed the token and then fails once: the old renew token stays. -/
theorem renewed_token_lost :
    (call (renewingWorld (.error .serverInternal)) (renew 7 oldData) oldConfig).value = .ok () ∧
      (call (renewingWorld (.error .serverInternal)) (renew 7 oldData) oldConfig).store.lookup 7 =
        some oldData ∧
      ¬ Settled ⟨"token", "renew token", "expiry"⟩ 7
        (call (renewingWorld (.error .serverInternal)) (renew 7 oldData) oldConfig) := by
  have hstored : (call (renewingWorld (.error .serverInternal)) (renew 7 oldData)
      oldConfig).store.lookup 7 = some oldData := by decide
  refine ⟨by decide, hstored, ?_⟩
  rintro (⟨user, huser, htoken, -⟩ | ⟨hnone, -⟩)
  · rw [hstored] at huser
    cases huser
    exact absurd htoken (by decide)
  · rw [hstored] at hnone
    cases hnone

end NordVPN.Auth
