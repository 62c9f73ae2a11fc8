import NordVPN.Auth.Renewal

/-!
Whose login `IsLoggedIn` reports.

The call renews the entries of all users and looks at the current one only to see whether there is
one. The renewals do not disturb each other (`lookup_isLoggedIn`), but the answer is about all of
them together.
-/

namespace NordVPN.Auth

open Script

/-! ### Renewing touches one user -/

section Owner

variable {uid : Int} {op : Op}

theorem confined_of_owner (h : op.owner = some uid) :
    Confined exec Op.owner (·.lookup uid) (some uid) op := by
  refine ⟨h, ?_⟩
  intro r c c' hview
  cases op with
  | saveWith f =>
    cases h
    replace hview : c.lookup f.userID = c'.lookup f.userID := hview
    have hentry : c.entry f.userID = c'.entry f.userID := by
      unfold Config.entry
      rw [hview]
    cases hsaves : r.saves <;> simp [exec, hsaves, hview, hentry]
  | isExpired | tokenRenew | notificationCredentials | trustedPassToken | serviceCredentials
  | services => exact ⟨rfl, hview⟩
  | _ => cases h

theorem spares_of_owner {user : Int} (h : op.owner = some user) (hne : user ≠ uid) :
    Spares exec Op.owner (·.lookup uid) (some uid) op := by
  refine ⟨by simpa [h] using hne, ?_⟩
  intro r c
  cases op with
  | saveWith f =>
    cases h
    cases hsaves : r.saves
    · simp [exec, hsaves]
    · simpa [exec, hsaves] using SaveFunc.lookup_apply_of_ne hne.symm c
  | isExpired | tokenRenew | notificationCredentials | trustedPassToken | serviceCredentials
  | services => rfl
  | _ => cases h

end Owner

/-- Every operation of the script is for the user. -/
def For {α : Type} (uid : Int) (m : AuthM α) : Prop :=
  m.All (fun op => op.owner = some uid) fun _ => True

section For

variable {uid : Int} {data : TokenData}

theorem For.ask {α : Type} {op : Op} {next : op.Answer → AuthM α} (howner : op.owner = some uid)
    (h : ∀ answer, For uid (next answer)) : For uid (step op next) := ⟨howner, h⟩

theorem for_saveWith {f : SaveFunc} (hf : f.userID = uid) : For uid (saveWith f) := by
  subst hf
  exact ⟨rfl, fun _ => trivial⟩

theorem for_saveThen {α : Type} {f : SaveFunc} {next : AuthM (Except Failure α)}
    (hf : f.userID = uid)
    (h : For uid next) : For uid (saveThen f next) := by
  subst hf
  refine ⟨rfl, ?_⟩
  intro saved
  cases saved with
  | true => exact h
  | false => trivial

theorem for_orLogout {answer : Except ApiError TokenData}
    {otherwise : AuthM (Except Failure Unit)} {next : TokenData → AuthM (Except Failure Unit)}
    (hother : For uid otherwise) (hnext : ∀ data, For uid (next data)) :
    For uid (orLogout uid answer otherwise next) := by
  unfold orLogout
  cases answer with
  | ok data => exact hnext data
  | error e =>
    dsimp only
    split
    · exact for_saveWith rfl
    · exact hother

theorem for_fillVpnCredentials : For uid (fillVpnCredentials uid data) := by
  unfold fillVpnCredentials
  split
  · apply For.ask rfl
    intro answer
    cases answer with
    | error e => trivial
    | ok credentials => exact for_saveWith rfl
  · trivial

theorem for_fillTrustedPass : For uid (fillTrustedPass uid data) := by
  have hstore (data : TokenData) :
      For uid (saveThen (saveLoginToken uid data) (fillVpnCredentials uid data)) :=
    for_saveThen rfl for_fillVpnCredentials
  unfold fillTrustedPass
  dsimp only
  split
  · apply For.ask rfl
    intro answer
    exact for_orLogout (hstore data) hstore
  · exact for_fillVpnCredentials

theorem for_renewAlong : For uid (renewAlong uid data) := by
  have hstore (data : TokenData) : For uid (storeLogin uid data) :=
    for_saveThen rfl for_fillTrustedPass
  apply For.ask rfl
  intro answer
  apply for_orLogout
  · trivial
  intro data'
  split
  · apply For.ask rfl
    intro answer
    exact for_orLogout (hstore data') hstore
  · exact hstore data'

theorem for_renew : For uid (renew uid data) := by
  apply For.ask rfl
  intro isExpired
  cases isExpired with
  | false => exact for_fillTrustedPass
  | true =>
    apply For.ask rfl
    intro answer
    apply for_orLogout
    · trivial
    · exact fun _ => for_renewAlong

end For

/-! ### The loop over the users -/

/-- The renewal of an entry ends without an error. -/
def Renews (world : Option Int → Nat → Moment) (c : Config) (uid : Int) (data : TokenData) : Prop :=
  (call world (renew uid data) c).value = .ok ()

instance (world : Option Int → Nat → Moment) (c : Config) (uid : Int) (data : TokenData) :
    Decidable (Renews world c uid data) := by
  unfold Renews
  infer_instance

section Loop

variable {world : Option Int → Nat → Moment} {uid : Int} {data : TokenData} {c : Config}
  {history : Option Int → List ((op : Op) × op.Answer)}

/-- The renewal of one user leaves the others alone. -/
theorem run_renew_of_ne {user : Int} (hne : user ≠ uid) :
    ((renew user data).run exec Op.owner world c history).store.lookup uid = c.lookup uid ∧
      ((renew user data).run exec Op.owner world c history).history (some uid) =
        history (some uid) :=
  run_spares (for_renew.mono (fun _ h => spares_of_owner h hne) fun _ => id) c history

/-- The renewal of a user depends on that user's entry and outcomes only. -/
theorem run_renew_congr {world' : Option Int → Nat → Moment} {c' : Config}
    {history' : Option Int → List ((op : Op) × op.Answer)}
    (hworld : world (some uid) = world' (some uid)) (hlookup : c.lookup uid = c'.lookup uid)
    (hpast : history (some uid) = history' (some uid)) :
    ((renew uid data).run exec Op.owner world c history).value =
        ((renew uid data).run exec Op.owner world' c' history').value ∧
      ((renew uid data).run exec Op.owner world c history).store.lookup uid =
        ((renew uid data).run exec Op.owner world' c' history').store.lookup uid := by
  obtain ⟨hvalue, hstore, -⟩ := run_confined
    (for_renew.mono (fun _ h => confined_of_owner h) fun _ => id) hworld hlookup hpast
  exact ⟨hvalue, hstore⟩

theorem run_renew_fresh (hpast : history (some uid) = []) :
    ((renew uid data).run exec Op.owner world c history).value =
        (call world (renew uid data) c).value ∧
      ((renew uid data).run exec Op.owner world c history).store.lookup uid =
        (call world (renew uid data) c).store.lookup uid :=
  run_renew_congr rfl rfl hpast

theorem renews_congr {world' : Option Int → Nat → Moment} {c' : Config}
    (hworld : world (some uid) = world' (some uid)) (hlookup : c.lookup uid = c'.lookup uid) :
    Renews world c uid data ↔ Renews world' c' uid data := by
  unfold Renews call
  rw [(run_renew_congr hworld hlookup rfl).1]

theorem run_renewAll_cons {isLoggedIn : Bool} {rest : List ((_ : Int) × TokenData)} :
    (renewAll isLoggedIn (⟨uid, data⟩ :: rest)).run exec Op.owner world c history =
      (renewAll (isLoggedIn &&
          ((renew uid data).run exec Op.owner world c history).value.isOk) rest).run
        exec Op.owner world ((renew uid data).run exec Op.owner world c history).store
        ((renew uid data).run exec Op.owner world c history).history := by
  rw [renewAll, run_bind]
  cases ((renew uid data).run exec Op.owner world c history).value with
  | ok => simp [Except.isOk, Except.toBool]
  | error e => simp [Except.isOk, Except.toBool]

/-- The loop tells whether every renewal ended without an error, and renews the entry of each user
once. -/
theorem run_renewAll {entries : List ((_ : Int) × TokenData)} (hkeys : entries.NodupKeys)
    (hpast : ∀ entry ∈ entries, history (some entry.1) = []) (isLoggedIn : Bool) :
    (((renewAll isLoggedIn entries).run exec Op.owner world c history).value = true ↔
      isLoggedIn = true ∧ ∀ entry ∈ entries, Renews world c entry.1 entry.2) ∧
    ∀ uid, ((renewAll isLoggedIn entries).run exec Op.owner world c history).store.lookup uid =
      match entries.dlookup uid with
      | some data => (call world (renew uid data) c).store.lookup uid
      | none => c.lookup uid := by
  induction entries generalizing c history isLoggedIn with
  | nil => exact ⟨by simp [renewAll, Script.run], fun _ => rfl⟩
  | cons entry rest ih =>
    obtain ⟨user, data⟩ := entry
    obtain ⟨hnotMem, hrest⟩ := List.nodupKeys_cons.1 hkeys
    have hne : ∀ entry ∈ rest, user ≠ entry.1 := List.ne_key.1 hnotMem
    have hfresh := hpast ⟨user, data⟩ List.mem_cons_self
    have hpast' : ∀ entry ∈ rest,
        ((renew user data).run exec Op.owner world c history).history (some entry.1) = [] :=
      fun entry hentry => (run_renew_of_ne (hne entry hentry)).2.trans
        (hpast entry (List.mem_cons_of_mem _ hentry))
    rw [run_renewAll_cons]
    refine ⟨(ih hrest hpast' _).1.trans ?_, fun uid => ((ih hrest hpast' _).2 uid).trans ?_⟩
    · have hfirst : ((renew user data).run exec Op.owner world c history).value.isOk = true ↔
          Renews world c user data := by
        rw [(run_renew_fresh hfresh).1]
        unfold Renews
        cases (call world (renew user data) c).value <;> simp [Except.isOk, Except.toBool]
      rw [Bool.and_eq_true, hfirst, and_assoc, List.forall_mem_cons]
      exact and_congr_right fun _ => and_congr_right fun _ => forall₂_congr fun entry hentry =>
        renews_congr rfl (run_renew_of_ne (hne entry hentry)).1
    · by_cases huser : uid = user
      · subst huser
        rw [List.dlookup_eq_none.2 hnotMem, List.dlookup_cons_eq]
        exact (run_renew_fresh hfresh).2
      · have hsame : ((renew user data).run exec Op.owner world c history).store.lookup uid =
            c.lookup uid := (run_renew_of_ne (Ne.symm huser)).1
        rw [List.dlookup_cons_ne _ _ huser]
        cases rest.dlookup uid with
        | none => exact hsame
        | some data' => exact (run_renew_congr rfl hsame rfl).2

end Loop

/-! ### The answer -/

section Answer

variable {world : Option Int → Nat → Moment} {c : Config}

theorem isLoggedIn_iff :
    (call world isLoggedIn c).value = true ↔
      (world none 0).loads = true ∧ c.id ≠ 0 ∧ c.tokensData.entries ≠ [] ∧
        ∀ entry ∈ c.tokensData.entries, Renews world c entry.1 entry.2 := by
  unfold call isLoggedIn
  simp only [ask, step_bind, done_bind, Script.run, exec, Op.owner, List.length_nil]
  by_cases hloads : (world none 0).loads = true
  · simp only [hloads, if_true, run_bind, pure_eq, Script.run, Bool.and_eq_true]
    rw [(run_renewAll c.tokensData.nodupKeys (by simp) _).1]
    simp [and_assoc]
  · simp [hloads, Script.run]

theorem lookup_isLoggedIn (uid : Int) :
    (call world isLoggedIn c).store.lookup uid =
      if (world none 0).loads then (c.lookup uid).bind fun data =>
        (call world (renew uid data) c).store.lookup uid
      else c.lookup uid := by
  unfold call isLoggedIn
  simp only [ask, step_bind, done_bind, Script.run, exec, Op.owner, List.length_nil]
  by_cases hloads : (world none 0).loads = true
  · simp only [hloads, if_true, run_bind, pure_eq, Script.run]
    rw [(run_renewAll c.tokensData.nodupKeys (by simp) _).2]
    change (match c.lookup uid with
      | some data => (call world (renew uid data) c).store.lookup uid
      | none => c.lookup uid) = _
    cases hentry : c.lookup uid with
    | none => simp
    | some data => rfl
  · simp [hloads, Script.run]

/-- Two calls for the same current user: the user's entry, what is answered for the user and whether
the settings can be read are the same. The other users may differ in everything. -/
structure SameUser (world : Option Int → Nat → Moment) (c : Config)
    (world' : Option Int → Nat → Moment) (c' : Config) : Prop where
  id : c'.id = c.id
  entry : c'.lookup c.id = c.lookup c.id
  load : world' none = world none
  outcomes : world' (some c.id) = world (some c.id)

variable {world' : Option Int → Nat → Moment} {c' : Config}

theorem SameUser.lookup (h : SameUser world c world' c') :
    (call world' isLoggedIn c').store.lookup c.id =
      (call world isLoggedIn c).store.lookup c.id := by
  simp only [lookup_isLoggedIn, h.entry, h.load]
  cases c.lookup c.id with
  | none => rfl
  | some data =>
    simp only [Option.bind_some]
    rw [call, call, (run_renew_congr h.outcomes h.entry rfl).2]

/-- What makes the answer `false` whatever the other users are. -/
def OwnRefusal (world : Option Int → Nat → Moment) (c : Config) : Prop :=
  (world none 0).loads = false ∨ c.id = 0 ∨
    ∃ data, c.lookup c.id = some data ∧ ¬ Renews world c c.id data

theorem OwnRefusal.value (h : OwnRefusal world c) : (call world isLoggedIn c).value = false := by
  rw [Bool.eq_false_iff, ne_eq, isLoggedIn_iff]
  rintro ⟨hloads, hid, -, hrenews⟩
  rcases h with hloads' | hid' | ⟨data, hdata, hnot⟩
  · simp [hloads] at hloads'
  · exact hid hid'
  · exact hnot (hrenews ⟨c.id, data⟩ (AList.mem_lookup_iff.1 hdata))

theorem SameUser.ownRefusal (h : SameUser world c world' c') (hc : OwnRefusal world c) :
    OwnRefusal world' c' := by
  rcases hc with hloads | hid | ⟨data, hdata, hnot⟩
  · exact .inl (by rw [h.load, hloads])
  · exact .inr (.inl (h.id.trans hid))
  · refine .inr (.inr ⟨data, ?_, ?_⟩)
    · rw [h.id, h.entry, hdata]
    · rw [h.id, renews_congr h.outcomes h.entry]
      exact hnot

/-- Another user whose renewal fails turns every answer to `false`. -/
theorem exists_sameUser_false : ∃ world' c', SameUser world c world' c' ∧
    (call world' isLoggedIn c').value = false := by
  have hne : c.id ≠ c.id + 1 := by omega
  refine ⟨Function.update world (some (c.id + 1)) fun _ => {},
    { c with tokensData := c.tokensData.insert (c.id + 1) { tokenExpiry := "expiry" } }, ?_, ?_⟩
  · constructor
    · rfl
    · exact AList.lookup_insert_ne hne
    · exact Function.update_of_ne (by simp) _ _
    · exact Function.update_of_ne (fun heq => hne (Option.some.inj heq)) _ _
  · rw [Bool.eq_false_iff, ne_eq, isLoggedIn_iff]
    rintro ⟨-, -, -, hrenews⟩
    have hfails := hrenews ⟨c.id + 1, { tokenExpiry := "expiry" }⟩
      (AList.mem_lookup_iff.1 (by simp))
    simp [Renews, call, renew, ask, Script.run, exec, Op.owner, Clock.isExpired, fillTrustedPass,
      fillVpnCredentials, renewVpnCredentials, Except.map] at hfails

/-- A user whose own data do not refuse the login is reported as logged in when all the others are
renewed, also when there is no entry of the current user. -/
theorem exists_sameUser_true (h : ¬ OwnRefusal world c) : ∃ world' c', SameUser world c world' c' ∧
    (call world' isLoggedIn c').value = true := by
  unfold OwnRefusal at h
  push Not at h
  obtain ⟨hloads, hid, hrenews⟩ := h
  cases hentry : c.lookup c.id with
  | some data =>
    have hsame : SameUser world c world
        { id := c.id, tokensData := AList.singleton c.id data } := by
      constructor
      · rfl
      · rw [hentry]
        exact List.dlookup_cons_eq _ _ _
      · rfl
      · rfl
    refine ⟨_, _, hsame, isLoggedIn_iff.2
      ⟨by simpa using hloads, hid, by simp [AList.singleton_entries], ?_⟩⟩
    intro entry hmem
    obtain rfl := List.mem_singleton.1 hmem
    exact (renews_congr rfl hsame.entry).2 (hrenews data hentry)
  | none =>
    have hne : c.id ≠ c.id + 1 := by omega
    refine ⟨Function.update world (some (c.id + 1)) fun _ => {},
      { id := c.id, tokensData := AList.singleton (c.id + 1) {} }, ?_, ?_⟩
    · constructor
      · rfl
      · rw [hentry]
        exact List.dlookup_cons_ne [] (⟨c.id + 1, {}⟩ : (_ : Int) × TokenData) hne
      · exact Function.update_of_ne (by simp) _ _
      · exact Function.update_of_ne (fun heq => hne (Option.some.inj heq)) _ _
    · refine isLoggedIn_iff.2 ⟨by simpa using hloads, hid, by simp [AList.singleton_entries], ?_⟩
      intro entry hmem
      obtain rfl := List.mem_singleton.1 hmem
      simp [Renews, call, renew, ask, Script.run, exec, Op.owner, Clock.isExpired, renewLoginToken,
        Except.map, orLogout, ApiError.invalidates]

end Answer

/-- The answer of `IsLoggedIn` is about the current user, and about nobody else, exactly when it is
`false` on that user's account. Otherwise a failed renewal of another user turns it, and a current
user who has just been logged out, or who has no entry at all, is reported as logged in. -/
theorem login_is_current_users_iff (world : Option Int → Nat → Moment) (c : Config) :
    (((call world isLoggedIn c).value = true →
        ((call world isLoggedIn c).store.lookup c.id).isSome = true) ∧
      ∀ world' c', SameUser world c world' c' →
        (call world' isLoggedIn c').value = (call world isLoggedIn c).value ∧
        (call world' isLoggedIn c').store.lookup c.id =
          (call world isLoggedIn c).store.lookup c.id) ↔
      (world none 0).loads = false ∨ c.id = 0 ∨
        ∃ data, c.lookup c.id = some data ∧ ¬ Renews world c c.id data := by
  change _ ↔ OwnRefusal world c
  constructor
  · rintro ⟨-, hsame⟩
    by_contra hnot
    obtain ⟨world₁, c₁, hsame₁, hfalse⟩ := @exists_sameUser_false world c
    obtain ⟨world₂, c₂, hsame₂, htrue⟩ := exists_sameUser_true hnot
    have h₁ := (hsame world₁ c₁ hsame₁).1
    have h₂ := (hsame world₂ c₂ hsame₂).1
    simp [hfalse, htrue, ← h₁] at h₂
  · intro h
    refine ⟨fun htrue => ?_, fun world' c' hsame => ⟨?_, hsame.lookup⟩⟩
    · rw [h.value] at htrue
      cases htrue
    · rw [h.value, (hsame.ownRefusal h).value]

/-- The server does not take the renew token of the current user any more. -/
def refusingWorld : Option Int → Nat → Moment := fun _ _ =>
  { clock := { now := 1, parse := fun _ => some 0 }, tokenRenew := .error .unauthorized }

/-- Logged out within the call, and reported as logged in. -/
theorem logged_out_user_is_logged_in :
    (call refusingWorld isLoggedIn oldConfig).value = true ∧
      (call refusingWorld isLoggedIn oldConfig).store.lookup oldConfig.id = none := by
  decide

end NordVPN.Auth
