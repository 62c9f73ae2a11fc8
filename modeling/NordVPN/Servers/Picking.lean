import NordVPN.Servers.Names

/-!
The choice of a server (`daemon/servers.go`).

The API is whatever its methods answer. A choice at random is an index below the length of a list;
`PickServer` panics, and returns nothing here, when it draws from an empty one.
-/

namespace NordVPN.Servers

open NordVPN.Daemon

/-! ### The API -/

/-- `core.Country` as the API lists it, with its cities. -/
structure Country where
  id : Int := 0
  name : String
  code : String
  cities : List City := []
deriving DecidableEq, Repr

/-- `core.ServerBy`. -/
inductive ServerBy where
  | unknown | speed | country | city | name
deriving DecidableEq, Repr

/-- `core.ServerTag`. -/
structure ServerTag where
  action : ServerBy := .unknown
  id : Int := 0
deriving DecidableEq, Repr

/-- The number of a group in the API. -/
def groupID : ServerGroup → Int
  | .undefined => 0
  | .doubleVPN => 1
  | .onionOverVPN => 3
  | .dedicatedIP => 9
  | .standardVPNServers => 11
  | .p2p => 15
  | .obfuscated => 17
  | .europe => 19
  | .theAmericas => 21
  | .asiaPacific => 23
  | .africaMiddleEastIndia => 25
  | .other id => id

/-- `core.ServersFilter`. -/
structure ServersFilter where
  limit : Int
  tech : ServerTechnology
  group : ServerGroup
  tag : ServerTag
deriving DecidableEq, Repr

/-- The errors of the choice; `api` stands for those of the requests. -/
inductive PickError where
  | doubleGroup | groupDoesNotExist | dedicatedIPServer | tagDoesNotExist | serverIsUnavailable
  | virtualServerSelected | unknownTechnology | emptyRecommendation
  | undeterminedTag (serverTag : String)
  | api (text : String)
deriving DecidableEq, Repr

/-- `core.ServersAPI`. The coordinates of the user are part of it. -/
structure ServersAPI where
  serversCountries : Except PickError (List Country)
  server : Int → Except PickError Server
  recommendedServers : ServersFilter → Except PickError (List Server)

/-- Choices at random: an index for each length. -/
structure Rng where
  draw : Nat → Nat
  draw_lt : ∀ n, 0 < n → draw n < n

/-! ### Tags -/

variable (u : CaseTables)

/-- `resolveServerGroup`. -/
def resolveServerGroup (flag tag : String) : Except PickError ServerGroup :=
  let tagServerGroup := groupConvert tag
  let flagServerGroup := groupConvert flag
  if tagServerGroup ≠ .undefined ∧ flagServerGroup ≠ .undefined then .error .doubleGroup
  else if flag ≠ "" then
    if flagServerGroup = .undefined then .error .groupDoesNotExist else .ok flagServerGroup
  else .ok tagServerGroup

/-- The comparisons of `locationByName` with a country. -/
def isCountryName (name : String) (country : Country) : Bool :=
  u.equalFold name (snakeCase country.name) || u.equalFold name (snakeCase country.code)

/-- The comparisons of `locationByName` with a city. -/
def isCityName (name : String) (country : Country) (city : City) : Bool :=
  u.equalFold name (snakeCase city.name) ||
    u.equalFold name (snakeCase country.name ++ " " ++ snakeCase city.name) ||
    u.equalFold name (snakeCase country.code ++ " " ++ snakeCase city.name)

/-- `locationByName`: the first country with the name, or with a city of the name. -/
def locationByName (name : String) : List Country → Option (Country × Option City)
  | [] => none
  | country :: countries =>
    if isCountryName u name country then some (country, none)
    else match country.cities.find? (isCityName u name country) with
      | some city => some (country, some city)
      | none => locationByName name countries

/-- `serverLocationTagFromString`. -/
def serverLocationTagFromString (serverTag : String) (countries : List Country) :
    Option ServerTag :=
  (locationByName u serverTag countries).map fun
    | (country, none) => { action := .country, id := country.id }
    | (_, some city) => { action := .city, id := city.id }

/-- The regular expression `tag`. -/
def matchesTag (serverTag : String) : Bool :=
  let (letters, digits) := serverTag.toList.splitAt 2
  letters.length == 2 && letters.all Char.isLower && digits.all Char.isDigit &&
    2 ≤ digits.length && digits.length ≤ 4

/-- The server with the name. -/
def serverByName (serverTag : String) (servers : List Server) : Option Server :=
  servers.find? fun server => u.equalFold serverTag server.hostnameID

/-- The tag that is looked up: `uk` stands for `gb`. -/
def ukAlias (serverTag : String) : String := if u.equalFold serverTag "uk" then "gb" else serverTag

/-- `serverTagFromString`. With an error its tag is the zero value. -/
def serverTagFromString (countries : List Country) (api : ServersAPI) (serverTag : String)
    (group : ServerGroup) (servers : List Server) (isGroupFlagSet : Bool) :
    Except PickError ServerTag :=
  if serverTag = "" then .ok {}
  else if group ≠ .undefined ∧ isGroupFlagSet = false then
    .ok { action := .speed, id := groupID group }
  else
    let serverTag := ukAlias u serverTag
    match if countries.isEmpty then api.serversCountries else .ok countries with
    | .error e => .error e
    | .ok countries =>
      match serverLocationTagFromString u serverTag countries with
      | some locationTag => .ok locationTag
      | none =>
        match serverByName u serverTag servers with
        | some server => .ok { action := .name, id := server.id }
        | none => if matchesTag serverTag then .error (.undeterminedTag serverTag)
            else .error .tagDoesNotExist

/-! ### Candidates -/

/-- `techToServerTech`. -/
def techToServerTech (tech : Technology) (protocol : Protocol) (obfuscated : Bool) :
    ServerTechnology :=
  match tech, protocol with
  | .nordlynx, _ => .wireguard
  | .openvpn, .tcp => if obfuscated then .openVPNTCPObfuscated else .openVPNTCP
  | .openvpn, .udp => if obfuscated then .openVPNUDPObfuscated else .openVPNUDP
  | _, _ => .unknown

/-- `selectFilter`. -/
def selectFilter (tag : String) (group : ServerGroup) (obfuscated : Bool) (s : Server) : Bool :=
  if tag ≠ "" ∧ group ≠ .undefined then s.inGroup group && s.keys.contains tag
  else if group ≠ .undefined then s.inGroup group
  else if tag ≠ "" then s.keys.contains tag
  else s.inGroup (if obfuscated then .obfuscated else .standardVPNServers)

/-- The technology part of `canConnect`. -/
def isUsable (tech : Technology) (protocol : Protocol) (obfuscated : Bool) (s : Server) : Bool :=
  s.isConnectableWithProtocol tech protocol && s.isObfuscated == obfuscated

/-- `canConnect`. -/
def canConnect (tech : Technology) (protocol : Protocol) (serverTag : String) (group : ServerGroup)
    (obfuscated : Bool) (s : Server) : Bool :=
  isUsable tech protocol obfuscated s && selectFilter serverTag group obfuscated s

/-- `filterServers`. -/
def filterServers (servers : List Server) (tech : Technology) (protocol : Protocol)
    (serverTag : String) (group : ServerGroup) (obfuscated : Bool) :
    Except PickError (List Server) :=
  let ret := servers.filter (canConnect tech protocol serverTag group obfuscated)
  if ret.isEmpty then .error .serverIsUnavailable else .ok ret

/-- `getSpecificServerRemote`. -/
def getSpecificServerRemote (api : ServersAPI) (tech : Technology) (protocol : Protocol)
    (obfuscated : Bool) (serverTag : ServerTag) : Except PickError (List Server) :=
  match api.server serverTag.id with
  | .error e => .error e
  | .ok server => if isUsable tech protocol obfuscated server then .ok [server]
      else .error .serverIsUnavailable

/-- `getServersRemote`. -/
def getServersRemote (api : ServersAPI) (tech : Technology) (protocol : Protocol)
    (obfuscated : Bool)
    (tag : ServerTag) (group : ServerGroup) (count : Int) : Except PickError (List Server) :=
  let serverTech := techToServerTech tech protocol obfuscated
  if serverTech = .unknown then .error .unknownTechnology
  else
    let limit := if count ≠ 1 then count else 20
    let group := if group = .undefined ∧ obfuscated = true then .obfuscated else group
    match api.recommendedServers { limit, tech := serverTech, group, tag } with
    | .error e => .error e
    | .ok servers => if servers.isEmpty then .error .emptyRecommendation else .ok servers

/-- What a choice of a server is asked for. -/
structure Criteria where
  tech : Technology
  protocol : Protocol
  obfuscated : Bool
  tag : String
  groupFlag : String
  allowVirtualServer : Bool

section Choice

variable (rng : Rng) (api : ServersAPI) (countries : List Country) (servers : List Server)
  (c : Criteria)

/-- The servers of the API for a tag that was resolved. -/
def remoteServers (serverTag : Except PickError ServerTag) (group : ServerGroup) (count : Int) :
    Except PickError (List Server) :=
  match serverTag with
  | .error e => .error e
  | .ok serverTag =>
    if serverTag.action = .name then
      getSpecificServerRemote api c.tech c.protocol c.obfuscated serverTag
    else getServersRemote api c.tech c.protocol c.obfuscated serverTag group count

/-- Whether the tag is the name of a server; it is not if it was not resolved. -/
def byName : Except PickError ServerTag → Bool
  | .ok serverTag => serverTag.action == .name
  | .error _ => false

/-- The servers of the local list. Dedicated servers are removed unless a server's name was asked
for or only one server matches. -/
def localServers (serverTag : Except PickError ServerTag) (group : ServerGroup) :
    Except PickError (List Server) :=
  match filterServers servers c.tech c.protocol c.tag group c.obfuscated with
  | .error e => .error e
  | .ok ret => .ok (if !byName serverTag && 1 < ret.length then
      ret.filter fun s => !s.isDedicatedIP else ret)

/-- Virtual locations are removed if they are not allowed. -/
def dropVirtual (ret : List Server) : Except PickError (List Server) :=
  if !c.allowVirtualServer && !ret.isEmpty then
    let real := ret.filter fun s => !s.isVirtualLocation u
    if real.isEmpty then .error .virtualServerSelected else .ok real
  else .ok ret

/-- `getServers` once the tag is resolved. -/
def getServersFor (serverTag : Except PickError ServerTag) (group : ServerGroup) (count : Int) :
    Except PickError (List Server × Bool) := do
  let (ret, remote) ← (match remoteServers api c serverTag group count with
    | .ok ret => .ok (ret, true)
    | .error _ => (localServers servers c serverTag group).map (·, false))
  let ret ← dropVirtual u c ret
  pure (if count = 1 then (ret[rng.draw ret.length]?).toList else ret, remote)

/-- `getServers`. -/
def getServers (count : Int) : Except PickError (List Server × Bool) := do
  let serverGroup ← resolveServerGroup c.groupFlag c.tag
  if serverGroup = .dedicatedIP then .error .dedicatedIPServer
  else
    let serverTag :=
      serverTagFromString u countries api c.tag serverGroup servers (c.groupFlag != "")
    if serverTag = .error .tagDoesNotExist then .error .tagDoesNotExist
    else getServersFor u rng api servers c serverTag serverGroup count

/-- `PickServer`: the server and whether it comes from the API. -/
def pickServer : Option (Except PickError (Server × Bool)) :=
  match getServers u rng api countries servers c 1 with
  | .error e => some (.error e)
  | .ok (result, remote) => (result[rng.draw result.length]?).map fun server => .ok (server, remote)

end Choice

/-! ### What is chosen -/

section Eligible

variable {u} {rng : Rng} {api : ServersAPI} {countries : List Country} {servers : List Server}
  {c : Criteria} {serverTag : Except PickError ServerTag} {group : ServerGroup} {ret : List Server}

/-- The server is one of those that the API answers with. -/
def FromAPI (api : ServersAPI) (server : Server) : Prop :=
  (∃ id, api.server id = .ok server) ∨
    ∃ filter answer, api.recommendedServers filter = .ok answer ∧ server ∈ answer

theorem remoteServers_ok {count : Int} (h : remoteServers api c serverTag group count = .ok ret) :
    ret ≠ [] ∧ ∀ server ∈ ret, FromAPI api server := by
  cases serverTag with
  | error e => cases h
  | ok serverTag =>
    simp only [remoteServers, getSpecificServerRemote, getServersRemote] at h
    split at h
    · split at h
      · cases h
      · rename_i server hserver
        split at h
        · cases h
          refine ⟨List.cons_ne_nil _ _, fun other hother => ?_⟩
          obtain rfl := List.mem_singleton.mp hother
          exact .inl ⟨_, hserver⟩
        · cases h
    · split at h
      · cases h
      · split at h
        · cases h
        · rename_i answer hanswer
          split at h
          · cases h
          · rename_i hempty
            cases h
            refine ⟨fun hnil => hempty (List.isEmpty_iff.mpr hnil), fun server hserver => ?_⟩
            exact .inr ⟨_, ret, hanswer, hserver⟩

/-- The servers of the local list that match. -/
def matched (servers : List Server) (c : Criteria) (group : ServerGroup) : List Server :=
  servers.filter (canConnect c.tech c.protocol c.tag group c.obfuscated)

theorem filterServers_eq : filterServers servers c.tech c.protocol c.tag group c.obfuscated =
    if (matched servers c group).isEmpty then .error .serverIsUnavailable
    else .ok (matched servers c group) := rfl

theorem localServers_ok (h : localServers servers c serverTag group = .ok ret) :
    matched servers c group ≠ [] ∧
    ret = if byName serverTag = false ∧ 1 < (matched servers c group).length then
      (matched servers c group).filter fun s => !s.isDedicatedIP else matched servers c group := by
  rw [localServers, filterServers_eq] at h
  by_cases hempty : (matched servers c group).isEmpty = true
  · rw [if_pos hempty] at h
    cases h
  · rw [if_neg hempty] at h
    cases h
    refine ⟨fun hnil => hempty (List.isEmpty_iff.mpr hnil), ?_⟩
    simp only [Bool.and_eq_true, Bool.not_eq_true', decide_eq_true_eq]

theorem dropVirtual_ok {real : List Server} (h : dropVirtual u c ret = .ok real) :
    (real = [] ↔ ret = []) ∧ ∀ server ∈ real, server ∈ ret ∧
      (server.isVirtualLocation u = true → c.allowVirtualServer = true) := by
  unfold dropVirtual at h
  split at h
  · rename_i hdrop
    dsimp only at h
    split at h
    · cases h
    · rename_i hreal
      cases h
      simp only [Bool.and_eq_true, Bool.not_eq_true', List.isEmpty_eq_false_iff] at hdrop
      rw [List.isEmpty_iff] at hreal
      refine ⟨⟨fun hnil => absurd hnil hreal, fun hnil => absurd hnil hdrop.2⟩,
        fun server hserver => ?_⟩
      obtain ⟨hmem, hvirtual⟩ := List.mem_filter.mp hserver
      exact ⟨hmem, fun hyes => by simp [hyes] at hvirtual⟩
  · rename_i hkeep
    cases h
    refine ⟨Iff.rfl, fun server hserver => ⟨hserver, fun _ => ?_⟩⟩
    have hne : ret ≠ [] := List.ne_nil_of_mem hserver
    simpa [hne] using hkeep

/-- The draw of `PickServer` from a list that is not empty. -/
theorem draw_eq_some (rng : Rng) (h : ret ≠ []) :
    ∃ server ∈ ret, ret[rng.draw ret.length]? = some server := by
  have hlt : rng.draw ret.length < ret.length := rng.draw_lt _ (List.length_pos_iff.mpr h)
  exact ⟨ret[rng.draw ret.length], List.getElem_mem hlt, List.getElem?_eq_getElem hlt⟩

/-- A tag that is not the name of a server is not resolved to one. -/
theorem byName_eq_false {isGroupFlagSet : Bool}
    (h : serverByName u (ukAlias u c.tag) servers = none) :
    byName (serverTagFromString u countries api c.tag group servers isGroupFlagSet) = false := by
  unfold serverTagFromString
  split
  · rfl
  · split
    · rfl
    · dsimp only
      split
      · rfl
      · split
        · rename_i locationTag hlocation
          obtain ⟨⟨country, city⟩, -, rfl⟩ := Option.map_eq_some_iff.mp hlocation
          cases city with
          | none => rfl
          | some city => rfl
        · rw [h]
          dsimp only
          split
          · rfl
          · rfl

theorem mem_matched {server : Server} : server ∈ matched servers c group ↔
    server ∈ servers ∧ canConnect c.tech c.protocol c.tag group c.obfuscated server = true :=
  List.mem_filter

/-- What holds of a server that is chosen, from the API (`remote`) or from the local list. -/
structure Eligible (u : CaseTables) (api : ServersAPI) (servers : List Server) (c : Criteria)
    (server : Server) (remote : Bool) : Prop where
  source : if remote then FromAPI api server else server ∈ servers
  virtualLocation : server.isVirtualLocation u = true → c.allowVirtualServer = true
  dedicatedIP : remote = false → serverByName u (ukAlias u c.tag) servers = none →
    ∀ group, resolveServerGroup c.groupFlag c.tag = .ok group →
    ∀ other ∈ servers, canConnect c.tech c.protocol c.tag group c.obfuscated other = true →
      other.isDedicatedIP = false → server.isDedicatedIP = false

/-- `PickServer` returns, and if its error is `nil` the server is eligible. -/
def PicksEligible (u : CaseTables) (rng : Rng) (api : ServersAPI) (countries : List Country)
    (servers : List Server) (c : Criteria) : Prop :=
  ∃ result, pickServer u rng api countries servers c = some result ∧
    ∀ server remote, result = .ok (server, remote) → Eligible u api servers c server remote

/-- The API has no server for a tag that is not a server's name, and two or more servers of the
local list match, all of them dedicated. -/
structure OnlyDedicated (u : CaseTables) (api : ServersAPI) (countries : List Country)
    (servers : List Server) (c : Criteria) (group : ServerGroup)
    (serverTag : Except PickError ServerTag) : Prop where
  resolved : resolveServerGroup c.groupFlag c.tag = .ok group
  tagged : serverTagFromString u countries api c.tag group servers (c.groupFlag != "") = serverTag
  otherGroup : group ≠ .dedicatedIP
  tagExists : serverTag ≠ .error .tagDoesNotExist
  noRemote : ∀ ret, remoteServers api c serverTag group 1 ≠ .ok ret
  notByName : byName serverTag = false
  several : 1 < (matched servers c group).length
  dedicated : ∀ server ∈ matched servers c group, server.isDedicatedIP = true

variable {result : List Server}

theorem getServersFor_ok {remote : Bool}
    (h : getServersFor u rng api servers c serverTag group 1 = .ok (result, remote)) :
    ∃ ret real, (remoteServers api c serverTag group 1 = .ok ret ∧ remote = true ∨
        (∀ ret, remoteServers api c serverTag group 1 ≠ .ok ret) ∧
          localServers servers c serverTag group = .ok ret ∧ remote = false) ∧
      dropVirtual u c ret = .ok real ∧ result = (real[rng.draw real.length]?).toList := by
  unfold getServersFor at h
  cases hremote : remoteServers api c serverTag group 1 with
  | ok ret =>
    rw [hremote] at h
    cases hreal : dropVirtual u c ret with
    | error e => simp [hreal, bind, Except.bind] at h
    | ok real =>
      simp only [hreal, bind, Except.bind, pure, Except.pure, if_true, Except.ok.injEq,
        Prod.mk.injEq] at h
      exact ⟨ret, real, .inl ⟨rfl, h.2.symm⟩, hreal, h.1.symm⟩
  | error e =>
    rw [hremote] at h
    cases hlocal : localServers servers c serverTag group with
    | error e' => simp [hlocal, bind, Except.bind, Except.map] at h
    | ok ret =>
      cases hreal : dropVirtual u c ret with
      | error e => simp [hlocal, hreal, bind, Except.bind, Except.map] at h
      | ok real =>
        simp only [hlocal, hreal, bind, Except.bind, Except.map, pure, Except.pure, if_true,
          Except.ok.injEq, Prod.mk.injEq] at h
        exact ⟨ret, real, .inr ⟨nofun, rfl, h.2.symm⟩, hreal, h.1.symm⟩

/-- The second draw is from the one server that the first chose. -/
theorem draw_drawn : (ret[rng.draw ret.length]?).toList[rng.draw
    (ret[rng.draw ret.length]?).toList.length]? = ret[rng.draw ret.length]? := by
  cases hdraw : ret[rng.draw ret.length]? with
  | none => rfl
  | some server =>
    have hzero : rng.draw 1 = 0 := Nat.lt_one_iff.mp (rng.draw_lt 1 Nat.one_pos)
    simp [hzero]

theorem getServers_ok {remote : Bool}
    (h : getServers u rng api countries servers c 1 = .ok (result, remote)) :
    ∃ group serverTag, resolveServerGroup c.groupFlag c.tag = .ok group ∧
      serverTagFromString u countries api c.tag group servers (c.groupFlag != "") = serverTag ∧
      group ≠ .dedicatedIP ∧ serverTag ≠ .error .tagDoesNotExist ∧
      getServersFor u rng api servers c serverTag group 1 = .ok (result, remote) := by
  unfold getServers at h
  cases hgroup : resolveServerGroup c.groupFlag c.tag with
  | error e => simp [hgroup, bind, Except.bind] at h
  | ok group =>
    simp only [hgroup, bind, Except.bind] at h
    split at h
    · cases h
    · split at h
      · cases h
      · exact ⟨group, _, rfl, rfl, ‹_›, ‹_›, h⟩

/-- Servers are left for the choice unless all were dedicated. -/
theorem eligible_of_getServersFor {remote : Bool}
    (hresolved : resolveServerGroup c.groupFlag c.tag = .ok group)
    (htagged : serverTagFromString u countries api c.tag group servers
      (c.groupFlag != "") = serverTag)
    (hgroup : group ≠ .dedicatedIP) (hexists : serverTag ≠ .error .tagDoesNotExist)
    (hno : ¬ OnlyDedicated u api countries servers c group serverTag)
    (h : getServersFor u rng api servers c serverTag group 1 = .ok (result, remote)) :
    ∃ server, result[rng.draw result.length]? = some server ∧
      Eligible u api servers c server remote := by
  obtain ⟨ret, real, hsource, hreal, rfl⟩ := getServersFor_ok h
  obtain ⟨hempty, hmem⟩ := dropVirtual_ok hreal
  rw [draw_drawn]
  rcases hsource with ⟨hremote, rfl⟩ | ⟨hremote, hlocal, rfl⟩
  · obtain ⟨hne, hapi⟩ := remoteServers_ok hremote
    obtain ⟨server, hserver, hdraw⟩ := draw_eq_some rng fun hnil => hne (hempty.mp hnil)
    exact ⟨server, hdraw, hapi server (hmem server hserver).1, (hmem server hserver).2, nofun⟩
  · obtain ⟨hmatched, hret⟩ := localServers_ok hlocal
    have hne : ret ≠ [] := by
      intro hnil
      rw [hret] at hnil
      split at hnil
      · rename_i hseveral
        refine hno ⟨hresolved, htagged, hgroup, hexists, hremote, hseveral.1, hseveral.2, ?_⟩
        intro server hserver
        by_contra hded
        exact List.filter_eq_nil_iff.mp hnil server hserver (by simpa using hded)
      · exact hmatched hnil
    obtain ⟨server, hserver, hdraw⟩ := draw_eq_some rng fun hnil => hne (hempty.mp hnil)
    obtain ⟨hserverRet, hvirtual⟩ := hmem server hserver
    have hlisted : server ∈ matched servers c group := by
      rw [hret] at hserverRet
      split at hserverRet
      · exact (List.mem_filter.mp hserverRet).1
      · exact hserverRet
    refine ⟨server, hdraw, (mem_matched.mp hlisted).1, hvirtual, ?_⟩
    intro _ hname group' hgroup' other hother hconnect hnot
    obtain rfl : group = group' := Except.ok.inj (hresolved.symm.trans hgroup')
    have hby : byName serverTag = false := htagged ▸ byName_eq_false hname
    have hotherIn : other ∈ matched servers c group := mem_matched.mpr ⟨hother, hconnect⟩
    rw [hret] at hserverRet
    split at hserverRet
    · simpa using (List.mem_filter.mp hserverRet).2
    · -- only one server matches
      rename_i hone
      have hlength : (matched servers c group).length ≤ 1 := by
        by_contra hmore
        exact hone ⟨hby, by omega⟩
      obtain rfl : server = other := by
        obtain ⟨only, honly⟩ := List.length_eq_one_iff.mp
          (le_antisymm hlength (List.length_pos_iff.mpr hmatched))
        rw [honly, List.mem_singleton] at hlisted hotherIn
        rw [hlisted, hotherIn]
      exact hnot

theorem localServers_of_onlyDedicated
    (h : OnlyDedicated u api countries servers c group serverTag) :
    localServers servers c serverTag group = .ok [] := by
  have hne : ¬ (matched servers c group).isEmpty = true := by
    rw [List.isEmpty_iff]
    exact List.ne_nil_of_length_pos (Nat.lt_of_succ_lt h.several)
  have hdrop : (!byName serverTag && decide (1 < (matched servers c group).length)) = true := by
    rw [h.notByName, decide_eq_true h.several]
    rfl
  have hnone : (matched servers c group).filter (fun s => !s.isDedicatedIP) = [] :=
    List.filter_eq_nil_iff.mpr fun server hserver => by simp [h.dedicated server hserver]
  rw [localServers, filterServers_eq, if_neg hne]
  dsimp only
  rw [if_pos hdrop, hnone]

/-- `PickServer` panics when all servers left are dedicated. -/
theorem pickServer_of_onlyDedicated (h : OnlyDedicated u api countries servers c group serverTag) :
    pickServer u rng api countries servers c = none := by
  have hfor : getServersFor u rng api servers c serverTag group 1 = .ok ([], false) := by
    unfold getServersFor
    cases hremote : remoteServers api c serverTag group 1 with
    | ok ret => exact absurd hremote (h.noRemote ret)
    | error e =>
      rw [localServers_of_onlyDedicated h]
      simp [dropVirtual, bind, Except.bind, Except.map, pure, Except.pure]
  have hservers : getServers u rng api countries servers c 1 = .ok ([], false) := by
    simp only [getServers, h.resolved, bind, Except.bind, h.tagged]
    rw [if_neg h.otherGroup, if_neg h.tagExists, hfor]
  unfold pickServer
  rw [hservers]
  dsimp only
  rw [List.getElem?_nil, Option.map_none]

/-- An eligible server is picked, or an error returned, unless all servers left are dedicated. -/
theorem pickServer_eligible_iff (u : CaseTables) (rng : Rng) (api : ServersAPI)
    (countries : List Country) (servers : List Server) (c : Criteria) :
    PicksEligible u rng api countries servers c ↔
      ∀ group serverTag, ¬ OnlyDedicated u api countries servers c group serverTag := by
  constructor
  · rintro ⟨result, hresult, -⟩ group serverTag h
    rw [pickServer_of_onlyDedicated h] at hresult
    cases hresult
  · intro hno
    unfold PicksEligible pickServer
    cases hservers : getServers u rng api countries servers c 1 with
    | error e => exact ⟨_, rfl, nofun⟩
    | ok found =>
      obtain ⟨result, remote⟩ := found
      obtain ⟨group, serverTag, hresolved, htagged, hgroup, hexists, hfor⟩ := getServers_ok hservers
      obtain ⟨server, hdraw, heligible⟩ := eligible_of_getServersFor hresolved htagged hgroup
        hexists (hno group serverTag) hfor
      refine ⟨.ok (server, remote), by simp [hdraw], ?_⟩
      rintro _ _ ⟨⟩
      exact heligible

end Eligible

/-- An API that answers no request. -/
def offline : ServersAPI where
  serversCountries := .error (.api "offline")
  server _ := .error (.api "offline")
  recommendedServers _ := .error (.api "offline")

def first : Rng := ⟨fun _ => 0, fun _ h => h⟩

/-- A dedicated server of Sweden. -/
def dedicatedServer (hostname : String) : Server :=
  { hostname, technologies := [⟨.wireguard, .online⟩]
    groups := [⟨.dedicatedIP, "Dedicated IP"⟩], keys := ["sweden"] }

/-- Without the API, the two servers of the tag are both dedicated. -/
theorem pickServer_panics : pickServer .ascii first offline [{ name := "Sweden", code := "SE" }]
    [dedicatedServer "se1.nordvpn.com", dedicatedServer "se2.nordvpn.com"]
    { tech := .nordlynx, protocol := .udp, obfuscated := false, tag := "sweden", groupFlag := ""
      allowVirtualServer := true } = none := by
  decide

end NordVPN.Servers
