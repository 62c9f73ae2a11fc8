import NordVPN.Servers.Picking

/-!
Dedicated servers (`daemon/servers.go`).

A user may have several services for a dedicated server, and a service may have no server selected
or one that the list does not have. `selectDedicatedIPServer` checks that some service has a server
selected, and then draws from all of them.
-/

namespace NordVPN.Servers

open NordVPN.Daemon

/-- `auth.NoServerSelected`. -/
def noServerSelected : Int := -1

/-- `auth.DedicatedIPService`. -/
structure DedicatedIPService where
  serverID : Int
deriving DecidableEq, Repr

/-- The errors of `selectServer`. -/
inductive SelectError where
  | pick (e : PickError)
  | code (code : Int)
  | notLoggedIn | unhandled | saving
deriving DecidableEq, Repr

/-- `isAnyDIPServersAvailable`. -/
def isAnyDIPServersAvailable (services : List DedicatedIPService) : Bool :=
  services.any fun service => service.serverID != noServerSelected

/-- `getServerByID`. -/
def getServerByID (servers : List Server) (serverID : Int) : Option Server :=
  servers.find? fun server => server.id == serverID

/-- `selectDedicatedIPServer`. The services are those that the account has, if it could be asked. -/
def selectDedicatedIPServer (rng : Rng) (services : Option (List DedicatedIPService))
    (servers : List Server) : Except SelectError Server :=
  match services with
  | none => .error .unhandled
  | some services =>
    if h : services = [] then .error (.code 3041)
    else if isAnyDIPServersAvailable services = false then .error (.code 3043)
    else
      let service := services.get
        ⟨rng.draw services.length, rng.draw_lt _ (List.length_pos_of_ne_nil h)⟩
      match getServerByID servers service.serverID with
      | none => .error (.pick .serverIsUnavailable)
      | some server => .ok server

/-- The last part of `selectServer`: a dedicated server has to be one of the user's. -/
def checkDedicated (services : Option (List DedicatedIPService)) (c : Criteria) (server : Server)
    (remote : Bool) : Except SelectError (Server × Bool) :=
  if server.isDedicatedIP then
    match services with
    | none => .error .unhandled
    | some services =>
      if services = [] then .error (.code 3041)
      else if isAnyDIPServersAvailable services = false then .error (.code 3043)
      else if services.all fun service => service.serverID != server.id then .error (.code 3042)
      else if !isUsable c.tech c.protocol c.obfuscated server then
        .error (.pick .serverIsUnavailable)
      else .ok (server, remote)
  else .ok (server, remote)

/-- The request was refused with `core.ErrUnauthorized`. -/
def PickError.isUnauthorized (e : PickError) : Bool := e == .api "Unauthorized"

/-- `selectServer`. It returns nothing where `PickServer` panics. -/
def selectServer (u : CaseTables) (rng : Rng) (api : ServersAPI) (countries : List Country)
    (servers : List Server) (c : Criteria) (services : Option (List DedicatedIPService))
    (saves : Bool) : Option (Except SelectError (Server × Bool)) :=
  (pickServer u rng api countries servers c).map fun
    | .ok (server, remote) => checkDedicated services c server remote
    | .error e =>
      if e.isUnauthorized then .error (if saves then .notLoggedIn else .saving)
      else match e with
        | .tagDoesNotExist | .groupDoesNotExist | .serverIsUnavailable | .doubleGroup
        | .virtualServerSelected => .error (.pick e)
        | .dedicatedIPServer =>
          match selectDedicatedIPServer rng services servers with
          | .error e => .error e
          | .ok server => checkDedicated services c server false
        | _ => .error .unhandled

/-! ### What is drawn -/

section Drawn

variable {services : List DedicatedIPService} {servers : List Server}

/-- Some service has a server selected that the list has. -/
def Available (services : List DedicatedIPService) (servers : List Server) : Prop :=
  ∃ service ∈ services, service.serverID ≠ noServerSelected ∧
    ∃ server ∈ servers, server.id = service.serverID

/-- Every service has a server that the list has. -/
def AllListed (services : List DedicatedIPService) (servers : List Server) : Prop :=
  ∀ service ∈ services, ∃ server ∈ servers, server.id = service.serverID

/-- The draw ends with a server of one of the services. -/
def Found (rng : Rng) (services : List DedicatedIPService) (servers : List Server) : Prop :=
  ∃ server ∈ servers, selectDedicatedIPServer rng (some services) servers = .ok server ∧
    ∃ service ∈ services, service.serverID = server.id

theorem getServerByID_some {serverID : Int} {server : Server}
    (h : getServerByID servers serverID = some server) : server ∈ servers ∧ server.id = serverID :=
  ⟨List.mem_of_find?_eq_some h, by simpa using List.find?_some h⟩

theorem Available.isAny (h : Available services servers) :
    isAnyDIPServersAvailable services = true := by
  obtain ⟨service, hmem, hselected, -⟩ := h
  exact List.any_eq_true.mpr ⟨service, hmem, bne_iff_ne.mpr hselected⟩

/-- With a service available, the result is that of the service drawn. -/
theorem selectDedicatedIPServer_eq (rng : Rng) (h : Available services servers)
    (hlt : rng.draw services.length < services.length) :
    selectDedicatedIPServer rng (some services) servers =
      match getServerByID servers (services.get ⟨rng.draw services.length, hlt⟩).serverID with
      | none => .error (.pick .serverIsUnavailable)
      | some server => .ok server := by
  have hne : services ≠ [] := by
    rintro rfl
    cases hlt
  unfold selectDedicatedIPServer
  dsimp only
  rw [dif_neg hne, if_neg (by simp [h.isAny])]

theorem found_of_allListed (rng : Rng) (h : Available services servers)
    (hall : AllListed services servers) : Found rng services servers := by
  have ⟨service₀, hmem₀, _⟩ := h
  have hlt := rng.draw_lt services.length (List.length_pos_of_mem hmem₀)
  obtain ⟨server₀, hserver₀, hid₀⟩ := hall _ (List.get_mem services ⟨_, hlt⟩)
  cases hfind : getServerByID servers (services.get ⟨rng.draw services.length, hlt⟩).serverID with
  | none =>
    have hnone := List.find?_eq_none.mp hfind server₀ hserver₀
    simp [hid₀] at hnone
  | some server =>
    obtain ⟨hserver, hid⟩ := getServerByID_some hfind
    refine ⟨server, hserver, ?_, _, List.get_mem services ⟨_, hlt⟩, hid.symm⟩
    rw [selectDedicatedIPServer_eq rng h hlt, hfind]

/-- A draw that comes out at a given place. -/
def Rng.at (i : Nat) : Rng where
  draw n := if i < n then i else 0
  draw_lt n hn := by
    split
    · assumption
    · exact hn

theorem allListed_of_found (h : Available services servers)
    (hfound : ∀ rng, Found rng services servers) : AllListed services servers := by
  intro service hmem
  obtain ⟨i, hi, rfl⟩ := List.getElem_of_mem hmem
  have hdraw : (Rng.at i).draw services.length = i := if_pos hi
  obtain ⟨server, -, hresult, -⟩ := hfound (Rng.at i)
  rw [selectDedicatedIPServer_eq _ h (hdraw.symm ▸ hi)] at hresult
  simp only [hdraw, List.get_eq_getElem] at hresult
  cases hfind : getServerByID servers services[i].serverID with
  | none =>
    rw [hfind] at hresult
    cases hresult
  | some server' => exact ⟨server', getServerByID_some hfind⟩

theorem checkDedicated_ok {services : Option (List DedicatedIPService)} {c : Criteria}
    {server server' : Server} {remote remote' : Bool}
    (h : checkDedicated services c server remote = .ok (server', remote'))
    (hdedicated : server'.isDedicatedIP = true) :
    ∃ listed, services = some listed ∧ ∃ service ∈ listed, service.serverID = server'.id := by
  unfold checkDedicated at h
  split at h
  · cases services with
    | none => cases h
    | some listed =>
      dsimp only at h
      split at h
      · cases h
      split at h
      · cases h
      split at h
      · cases h
      · rename_i hany
        split at h
        · cases h
        · cases h
          refine ⟨listed, rfl, ?_⟩
          simpa using hany
  · rename_i hnot
    cases h
    exact absurd hdedicated hnot

theorem selectServer_dedicated {u : CaseTables} {rng : Rng} {api : ServersAPI}
    {countries : List Country} {c : Criteria} {services : Option (List DedicatedIPService)}
    {saves : Bool} {server : Server} {remote : Bool}
    (h : selectServer u rng api countries servers c services saves = some (.ok (server, remote)))
    (hdedicated : server.isDedicatedIP = true) :
    ∃ listed, services = some listed ∧ ∃ service ∈ listed, service.serverID = server.id := by
  obtain ⟨picked, -, hpicked⟩ := Option.map_eq_some_iff.mp h
  cases picked with
  | ok pair => exact checkDedicated_ok hpicked hdedicated
  | error e =>
    dsimp only at hpicked
    split at hpicked
    · cases hpicked
    · cases e with
      | dedicatedIPServer =>
        dsimp only at hpicked
        split at hpicked
        · cases hpicked
        · exact checkDedicated_ok hpicked hdedicated
      | _ => cases hpicked

end Drawn

/-- Where one is available, every draw finds a dedicated server of the user's, exactly if every
service has a server in the list; and a dedicated server is only selected if it is the user's. -/
theorem dedicated_server_found_iff (services : List DedicatedIPService) (servers : List Server) :
    ((Available services servers → ∀ rng, Found rng services servers) ∧
      ∀ u rng api countries c saves server remote,
        selectServer u rng api countries servers c (some services) saves =
          some (.ok (server, remote)) → server.isDedicatedIP = true →
        ∃ service ∈ services, service.serverID = server.id) ↔
      (Available services servers → AllListed services servers) := by
  constructor
  · intro h havailable
    exact allListed_of_found havailable (h.1 havailable)
  · intro h
    refine ⟨fun havailable rng => found_of_allListed rng havailable (h havailable), ?_⟩
    intro u rng api countries c saves server remote hselect hdedicated
    obtain ⟨listed, hlisted, hservice⟩ := selectServer_dedicated hselect hdedicated
    cases hlisted
    exact hservice

/-- One service has no server selected, the other has one that is listed, and the first is drawn. -/
theorem dedicated_server_missed :
    let services : List DedicatedIPService := [⟨noServerSelected⟩, ⟨7⟩]
    let servers : List Server :=
      [{ id := 7, groups := [{ id := .dedicatedIP, title := "Dedicated IP" }] }]
    (∃ service ∈ services, service.serverID ≠ noServerSelected ∧
      ∃ server ∈ servers, server.id = service.serverID) ∧
    selectDedicatedIPServer (Rng.at 0) (some services) servers =
      .error (.pick .serverIsUnavailable) := by
  decide

end NordVPN.Servers
