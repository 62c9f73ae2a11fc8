import Mathlib.Data.List.AList
import NordVPN.Lib.Script

/-!
The stored credentials of the users, and the calls that renew and erase them (`auth/auth.go`,
`nc/creds_fetcher.go`, `daemon/rpc_logout.go`).

The calls are scripts: `cm.Load`, `cm.SaveWith` and each call of the API are one operation. The map
`TokensData` is an association list whose order is arbitrary, as the order is in which Go ranges
over a map. Of the settings only the current user and this map are kept. The locks of the checker
and of the notification client are left out, so more interleavings are possible here than in the
daemon.
-/

namespace NordVPN.Auth

/-- `config.NCData`. A UUID is a number, `uuid.Nil` is 0. -/
structure NCData where
  userID : Nat := 0
  username : String := ""
  password : String := ""
  endpoint : String := ""
deriving DecidableEq, Repr

/-- `config.TokenData`. -/
structure TokenData where
  token : String := ""
  tokenExpiry : String := ""
  renewToken : String := ""
  isOAuth : Bool := false
  trustedPassToken : String := ""
  trustedPassOwnerID : String := ""
  serviceExpiry : String := ""
  nordLynxPrivateKey : String := ""
  openVPNUsername : String := ""
  openVPNPassword : String := ""
  ncData : NCData := {}
deriving DecidableEq, Repr

/-- `config.Config`: `AutoConnectData.ID` and `TokensData`. -/
structure Config where
  id : Int := 0
  tokensData : AList fun _ : Int => TokenData := ∅

/-- The entry of a user, if there is one. -/
def Config.lookup (c : Config) (userID : Int) : Option TokenData := c.tokensData.lookup userID

/-- A missing entry of the map reads as the zero value. -/
def Config.entry (c : Config) (userID : Int) : TokenData := (c.lookup userID).getD {}

/-! ### Changes of the settings -/

/-- A `config.SaveFunc` that changes the entry of one user, or deletes it. -/
structure SaveFunc where
  userID : Int
  change : TokenData → Option TokenData

def SaveFunc.apply (f : SaveFunc) (c : Config) : Config :=
  { c with tokensData := match f.change (c.entry f.userID) with
      | some user => c.tokensData.insert f.userID user
      | none => c.tokensData.erase f.userID }

@[simp] theorem SaveFunc.id_apply (f : SaveFunc) (c : Config) : (f.apply c).id = c.id := rfl

@[simp] theorem SaveFunc.lookup_apply (f : SaveFunc) (c : Config) :
    (f.apply c).lookup f.userID = f.change (c.entry f.userID) := by
  unfold SaveFunc.apply Config.lookup
  split
  · next user h => simp [h]
  · next h => simp [h]

theorem SaveFunc.lookup_apply_of_ne {f : SaveFunc} {user : Int} (h : user ≠ f.userID)
    (c : Config) : (f.apply c).lookup user = c.lookup user := by
  unfold SaveFunc.apply Config.lookup
  split
  · exact AList.lookup_insert_ne h
  · exact AList.lookup_erase_ne h

def saveLoginToken (userID : Int) (data : TokenData) : SaveFunc where
  userID
  change user := some { user with
    token := data.token
    renewToken := data.renewToken
    tokenExpiry := data.tokenExpiry
    ncData := { user.ncData with
      endpoint := data.ncData.endpoint
      username := data.ncData.username
      password := data.ncData.password }
    trustedPassOwnerID := data.trustedPassOwnerID
    trustedPassToken := data.trustedPassToken }

def saveVpnExpirationDate (userID : Int) (data : TokenData) : SaveFunc where
  userID
  change user := some { user with serviceExpiry := data.serviceExpiry }

def saveVpnServerCredentials (userID : Int) (data : TokenData) : SaveFunc where
  userID
  change user := some { user with
    nordLynxPrivateKey := data.nordLynxPrivateKey
    openVPNUsername := data.openVPNUsername
    openVPNPassword := data.openVPNPassword }

/-- The change that `GetCredentialsFromAPI` makes. -/
def saveNCData (userID : Int) (ncData : NCData) : SaveFunc where
  userID
  change user := some { user with ncData }

/-- `auth.Logout`. -/
def logout (user : Int) : SaveFunc where
  userID := user
  change _ := none

/-- The change that the request `Logout` makes. -/
def eraseCurrent (c : Config) : Config :=
  { id := 0, tokensData := c.tokensData.erase c.id }

/-! ### The API -/

/-- The errors of the API that the callers tell apart. -/
inductive ApiError where
  | unauthorized | notFound | badRequest | serverInternal | other
deriving DecidableEq, Repr

/-- The errors after which the checker logs the user out. -/
def ApiError.invalidates : ApiError → Bool
  | unauthorized | notFound | badRequest => true
  | serverInternal | other => false

structure TokenRenewResponse where
  token : String
  renewToken : String
  expiresAt : String
deriving DecidableEq, Repr

structure NotificationCredentialsResponse where
  endpoint : String
  username : String
  password : String
deriving DecidableEq, Repr

structure TrustedPassTokenResponse where
  ownerID : String
  token : String
deriving DecidableEq, Repr

structure CredentialsResponse where
  username : String
  password : String
  nordlynxPrivateKey : String
deriving DecidableEq, Repr

/-- `core.ServiceData`, with the id of its service. -/
structure ServiceData where
  serviceID : Int
  expiresAt : String
deriving DecidableEq, Repr

/-- The time, and `time.Parse` with the date format of the API. -/
structure Clock where
  now : Int
  parse : String → Option Int

/-- `systemTimeExpirationChecker.isExpired`. -/
def Clock.isExpired (clock : Clock) (expiryTime : String) : Bool :=
  if expiryTime = "" then true
  else match clock.parse expiryTime with
    | none => true
    | some expiry => decide (expiry < clock.now)

/-! ### Operations -/

/-- What the calls do in one step. The calls of the API that are made for a user name the user. -/
inductive Op where
  | load
  | saveWith (f : SaveFunc)
  | isExpired (user : Int) (date : String)
  | tokenRenew (user : Int) (renewToken : String)
  | notificationCredentials (user : Int) (token : String) (userID : Nat)
  | trustedPassToken (user : Int) (token : String)
  | serviceCredentials (user : Int) (token : String)
  | services (user : Int) (token : String)
  | newUUID
  /-- `Logout`: `netw.Stop`, `netw.UnSetMesh`, and what it asks the API for -/
  | stop
  | unSetMesh
  | notificationCredentialsRevoke (token : String) (userID : Nat)
  | deleteToken (token : String)
  | apiLogout (token : String)
  | saveErased

/-- What an operation is answered with. `load` gives the settings and `saveWith` whether it
succeeded. -/
@[reducible] def Op.Answer : Op → Type
  | load => Option Config
  | saveWith _ | isExpired _ _ | stop | unSetMesh | saveErased => Bool
  | tokenRenew _ _ => Except ApiError TokenRenewResponse
  | notificationCredentials _ _ _ => Except ApiError NotificationCredentialsResponse
  | trustedPassToken _ _ => Except ApiError TrustedPassTokenResponse
  | serviceCredentials _ _ => Except ApiError CredentialsResponse
  | services _ _ => Except ApiError (List ServiceData)
  | newUUID => Nat
  | notificationCredentialsRevoke _ _ => Bool
  | deleteToken _ | apiLogout _ => Except ApiError Unit

/-- How everything around the daemon behaves at one moment. -/
structure Moment where
  loads : Bool := true
  saves : Bool := true
  clock : Clock := { now := 0, parse := fun _ => some 0 }
  tokenRenew : Except ApiError TokenRenewResponse := .error .other
  notificationCredentials : Except ApiError NotificationCredentialsResponse := .error .other
  trustedPassToken : Except ApiError TrustedPassTokenResponse := .error .other
  serviceCredentials : Except ApiError CredentialsResponse := .error .other
  services : Except ApiError (List ServiceData) := .error .other
  newUUID : Nat := 1
  stops : Bool := true
  /-- `UnSetMesh` succeeds, or the meshnet was not active -/
  unsetsMesh : Bool := true
  revokes : Bool := true
  deleteToken : Except ApiError Unit := .ok ()
  apiLogout : Except ApiError Unit := .ok ()

/-- What an operation is answered with and what it makes of the settings. -/
def exec (r : Moment) : (op : Op) → Config → op.Answer × Config
  | .load, c => (if r.loads then some c else none, c)
  | .saveWith f, c => (r.saves, if r.saves then f.apply c else c)
  | .saveErased, c => (r.saves, if r.saves then eraseCurrent c else c)
  | .isExpired _ date, c => (r.clock.isExpired date, c)
  | .tokenRenew _ _, c => (r.tokenRenew, c)
  | .notificationCredentials _ _ _, c => (r.notificationCredentials, c)
  | .trustedPassToken _ _, c => (r.trustedPassToken, c)
  | .serviceCredentials _ _, c => (r.serviceCredentials, c)
  | .services _ _, c => (r.services, c)
  | .newUUID, c => (r.newUUID, c)
  | .stop, c => (r.stops, c)
  | .unSetMesh, c => (r.unsetsMesh, c)
  | .notificationCredentialsRevoke _ _, c => (r.revokes, c)
  | .deleteToken _, c => (r.deleteToken, c)
  | .apiLogout _, c => (r.apiLogout, c)

/-- The user that an operation is for, if it is for one. -/
def Op.owner : Op → Option Int
  | saveWith f => some f.userID
  | isExpired user _ | tokenRenew user _ | notificationCredentials user _ _
  | trustedPassToken user _ | serviceCredentials user _ | services user _ => some user
  | load | newUUID | stop | unSetMesh | notificationCredentialsRevoke _ _ | deleteToken _
  | apiLogout _ | saveErased => none

abbrev AuthM := Script Op Op.Answer

/-- One operation. -/
def ask (op : Op) : AuthM op.Answer := .step op .done

end NordVPN.Auth
