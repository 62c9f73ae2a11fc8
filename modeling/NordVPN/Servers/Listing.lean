import NordVPN.Servers.Picking

/-!
The countries and cities that the daemon lists (`daemon/data_manager.go`), against the servers that
the local choice accepts for them.

Three predicates on a server are compared: it is online for the server technology of the request
(the listing and the API), it is connectable with the protocol, plain or obfuscated, and it is
obfuscated, which means both obfuscated technologies (the local choice).
-/

namespace NordVPN.Servers

open NordVPN.Daemon

/-! ### The listing -/

/-- `toServerTechnology`. -/
def toServerTechnology (technology : Technology) (protocol : Protocol) (obfuscated : Bool) :
    Option ServerTechnology :=
  match technology, protocol with
  | .nordlynx, _ => some .wireguard
  | .openvpn, .tcp => some (if obfuscated then .openVPNTCPObfuscated else .openVPNTCP)
  | .openvpn, .udp => some (if obfuscated then .openVPNUDPObfuscated else .openVPNUDP)
  | .openvpn, .unknown => none
  | .unknown, _ => none

/-- `pb.ServerGroup`: a country or a city. -/
structure Place where
  name : String
  virtualLocation : Bool
deriving DecidableEq, Repr

section Listing

variable (u : CaseTables)

/-- The servers that a listing looks at. -/
def isListed (serverTechnology : ServerTechnology) (virtualLocation : Bool) (s : Server) : Bool :=
  s.isConnectableVia serverTechnology && (virtualLocation || !s.isVirtualLocation u)

/-- The loop of `Countries` and `Cities`: the first listed server of each kind that is wanted. -/
def placesFrom (listed : Server → Bool) (wanted : Location → Bool) (kind name : Location → String) :
    List String → List Server → List Place
  | _, [] => []
  | seen, server :: rest =>
    match if listed server then server.country else none with
    | none => placesFrom listed wanted kind name seen rest
    | some country =>
      if seen.contains (kind country) || !wanted country then
        placesFrom listed wanted kind name seen rest
      else ⟨title (name country), server.isVirtualLocation u⟩ ::
        placesFrom listed wanted kind name (kind country :: seen) rest

/-- The result of a listing, by name. -/
def places (servers : List Server) (technology : Technology) (protocol : Protocol)
    (obfuscated : Bool)
    (virtualLocation : Bool) (wanted : Location → Bool) (kind name : Location → String) :
    Option (List Place) :=
  (toServerTechnology technology protocol obfuscated).map fun serverTechnology =>
    (placesFrom u (isListed u serverTechnology virtualLocation) wanted kind name
      [] servers).insertionSort
      fun p q => p.name ≤ q.name

/-- `Countries`. -/
def listCountries (servers : List Server) (technology : Technology) (protocol : Protocol)
    (obfuscated virtualLocation : Bool) : Option (List Place) :=
  places u servers technology protocol obfuscated virtualLocation (fun _ => true) (·.code) (·.name)

/-- `Cities`. -/
def listCities (servers : List Server) (countryName : String) (technology : Technology)
    (protocol : Protocol) (obfuscated virtualLocation : Bool) : Option (List Place) :=
  places u servers technology protocol obfuscated virtualLocation
    (fun country => u.upper countryName == country.code ||
      u.lower countryName == u.lower (title country.name)) (·.city.name) (·.city.name)

end Listing

/-! ### What is listed -/

section Places

variable {u : CaseTables} {listed : Server → Bool} {wanted : Location → Bool}
  {kind name : Location → String} {servers : List Server}

theorem mem_placesFrom {seen : List String} {place : Place}
    (h : place ∈ placesFrom u listed wanted kind name seen servers) :
    ∃ server ∈ servers, listed server = true ∧ ∃ country, server.country = some country ∧
      place.name = title (name country) := by
  induction servers generalizing seen with
  | nil => cases h
  | cons server rest ih =>
    have hrest {seen : List String} (h : place ∈ placesFrom u listed wanted kind name seen rest) :
        ∃ other ∈ server :: rest, listed other = true ∧ ∃ country, other.country = some country ∧
          place.name = title (name country) := by
      obtain ⟨other, hother, hplace⟩ := ih h
      exact ⟨other, List.mem_cons_of_mem _ hother, hplace⟩
    unfold placesFrom at h
    split at h
    · exact hrest h
    · rename_i country hcountry
      split at h
      · exact hrest h
      · rcases List.mem_cons.mp h with rfl | h
        · split at hcountry
          · exact ⟨server, List.mem_cons_self, ‹_›, country, hcountry, rfl⟩
          · cases hcountry
        · exact hrest h

/-- The place of the first server is listed. -/
theorem placesFrom_cons (u : CaseTables) (kind name : Location → String) (servers : List Server)
    {server : Server} {country : Location} (hlisted : listed server = true)
    (hcountry : server.country = some country) (hwanted : wanted country = true) :
    ∃ place ∈ placesFrom u listed wanted kind name [] (server :: servers),
      place.name = title (name country) := by
  refine ⟨⟨title (name country), server.isVirtualLocation u⟩, ?_, rfl⟩
  simp [placesFrom, hlisted, hcountry, hwanted]

end Places

/-! ### The predicates compared -/

section Technologies

variable {tech : Technology} {protocol : Protocol} {obfuscated : Bool} {s : Server}
  {serverTechnology : ServerTechnology}

/-- A server online for the technology is connectable with the protocol. -/
theorem isConnectableWithProtocol_of_via
    (h : toServerTechnology tech protocol obfuscated = some serverTechnology)
    (hvia : s.isConnectableVia serverTechnology = true) :
    s.isConnectableWithProtocol tech protocol = true := by
  cases tech with
  | unknown => cases h
  | nordlynx =>
    cases h
    exact hvia
  | openvpn =>
    cases protocol with
    | unknown => cases h
    | udp | tcp =>
      cases h
      cases obfuscated with
      | true => exact Bool.or_eq_true_iff.mpr (.inr hvia)
      | false => exact Bool.or_eq_true_iff.mpr (.inl hvia)

/-- Without obfuscation, a server whose obfuscated variant of the protocol is online has the plain
one online as well, or both obfuscated ones. -/
def Plain (tech : Technology) (protocol : Protocol) (obfuscated : Bool) (s : Server) : Prop :=
  tech = .openvpn → obfuscated = false → protocol ≠ .unknown →
    s.isConnectableVia (techToServerTech .openvpn protocol true) = true →
    s.isConnectableVia (techToServerTech .openvpn protocol false) = true ∨ s.isObfuscated = true

/-- The local choice accepts only servers that are online for the technology exactly if they are
plain. -/
theorem usable_via_iff : (isUsable tech protocol obfuscated s = true →
      s.isConnectableVia (techToServerTech tech protocol obfuscated) = true) ↔
    Plain tech protocol obfuscated s := by
  cases tech with
  | unknown => simp [isUsable, Server.isConnectableWithProtocol, Plain]
  | nordlynx =>
    simp only [isUsable, Server.isConnectableWithProtocol, Plain, techToServerTech,
      Bool.and_eq_true]
    constructor
    · exact fun _ h => nomatch h
    · exact fun _ h => h.1
  | openvpn =>
    cases protocol with
    | unknown => simp [isUsable, Server.isConnectableWithProtocol, Plain]
    | udp | tcp =>
      cases obfuscated with
      | true =>
        -- an obfuscated server has both obfuscated variants
        refine ⟨fun _ _ => nofun, fun _ h => ?_⟩
        have hobf : s.isObfuscated = true := beq_iff_eq.mp ((Bool.and_eq_true _ _).mp h).2
        simp only [Server.isObfuscated, Bool.and_eq_true] at hobf
        simp [techToServerTech, hobf]
      | false =>
        simp only [isUsable, Server.isConnectableWithProtocol, Plain, techToServerTech,
          Bool.and_eq_true, Bool.or_eq_true, beq_iff_eq, if_true, Bool.false_eq_true, if_false]
        constructor
        · intro h _ _ _ hhidden
          by_cases hobf : s.isObfuscated = true
          · exact .inr hobf
          · exact .inl (h ⟨.inr hhidden, Bool.not_eq_true _ ▸ hobf⟩)
        · rintro h ⟨hplain | hhidden, hobf⟩
          · exact hplain
          · rcases h trivial trivial nofun hhidden with hplain | hyes
            · exact hplain
            · rw [hobf] at hyes
              cases hyes

end Technologies

/-! ### Local choice and listing -/

section Respects

variable {u : CaseTables} {tech : Technology} {protocol : Protocol} {obfuscated : Bool} {s : Server}
  {servers : List Server}

/-- The keys of the server come from `generateKeys`. -/
def Keyed (u : CaseTables) (s : Server) : Prop :=
  ∃ country, s.country = some country ∧ s.keys = generateKeys u country s

/-- The local choice accepts a server for the lower-cased name of a place. -/
def Accepts (u : CaseTables) (servers : List Server) (tech : Technology) (protocol : Protocol)
    (obfuscated : Bool) (place : Place) : Prop :=
  ∃ ret, filterServers servers tech protocol (u.lower place.name)
    (groupConvert (u.lower place.name))
    obfuscated = .ok ret

/-- The local choice agrees with the API and with the listing. -/
structure Respects (u : CaseTables) (servers : List Server) (tech : Technology)
    (protocol : Protocol)
    (obfuscated : Bool) : Prop where
  technology : ∀ tag group ret, filterServers servers tech protocol tag group obfuscated = .ok ret →
    ∀ s ∈ ret, s.isConnectableVia (techToServerTech tech protocol obfuscated) = true
  countries : (∀ s ∈ servers, Keyed u s) → ∀ virtualLocation list,
    listCountries u servers tech protocol obfuscated virtualLocation = some list →
    ∀ place ∈ list, Accepts u servers tech protocol obfuscated place
  cities : (∀ s ∈ servers, Keyed u s) → ∀ countryName virtualLocation list,
    listCities u servers countryName tech protocol obfuscated virtualLocation = some list →
    ∀ place ∈ list, Accepts u servers tech protocol obfuscated place

/-- The server answers to the listed name of a place. -/
def AnswersTo (u : CaseTables) (obfuscated : Bool) (s : Server) (name : String) : Prop :=
  selectFilter (u.lower (title name)) (groupConvert (u.lower (title name))) obfuscated s = true

/-- The three predicates agree on the server, and it answers to the names it is listed under. -/
structure Regular (u : CaseTables) (tech : Technology) (protocol : Protocol) (obfuscated : Bool)
    (s : Server) : Prop where
  plain :
    (∃ tag group, selectFilter tag group obfuscated s = true) → Plain tech protocol obfuscated s
  obfuscation : Keyed u s → ∀ serverTechnology,
    toServerTechnology tech protocol obfuscated = some serverTechnology →
    s.isConnectableVia serverTechnology = true → s.isObfuscated = obfuscated
  names : Keyed u s → ∀ serverTechnology,
    toServerTechnology tech protocol obfuscated = some serverTechnology →
    s.isConnectableVia serverTechnology = true → ∀ country, s.country = some country →
    AnswersTo u obfuscated s country.name ∧ AnswersTo u obfuscated s country.city.name

theorem filterServers_ok_iff {tag : String} {group : ServerGroup} :
    (∃ ret, filterServers servers tech protocol tag group obfuscated = .ok ret) ↔
      ∃ s ∈ servers, canConnect tech protocol tag group obfuscated s = true := by
  unfold filterServers
  dsimp only
  split
  · rename_i hempty
    rw [List.isEmpty_iff, List.filter_eq_nil_iff] at hempty
    constructor
    · rintro ⟨ret, ⟨⟩⟩
    · rintro ⟨s, hs, hconnect⟩
      exact absurd hconnect (hempty s hs)
  · rename_i hne
    rw [List.isEmpty_iff, List.filter_eq_nil_iff] at hne
    refine ⟨fun _ => ?_, fun _ => ⟨_, rfl⟩⟩
    by_contra hno
    exact hne fun s hs hconnect => hno ⟨s, hs, hconnect⟩

theorem mem_filterServers {tag : String} {group : ServerGroup} {ret : List Server}
    (h : filterServers servers tech protocol tag group obfuscated = .ok ret) :
    s ∈ ret ↔ s ∈ servers ∧ canConnect tech protocol tag group obfuscated s = true := by
  unfold filterServers at h
  dsimp only at h
  split at h
  · cases h
  · cases h
    exact List.mem_filter

/-- A regular server is accepted for the names it is listed under. -/
theorem accepts_of_regular {virtualLocation : Bool} {wanted : Location → Bool}
    {kind name : Location → String} {list : List Place} {place : Place}
    (h : places u servers tech protocol obfuscated virtualLocation wanted kind name = some list)
    (hplace : place ∈ list) (hregular : ∀ s ∈ servers, Regular u tech protocol obfuscated s)
    (hkeyed : ∀ s ∈ servers, Keyed u s)
    (hname : ∀ s country, AnswersTo u obfuscated s country.name ∧
      AnswersTo u obfuscated s country.city.name → AnswersTo u obfuscated s (name country)) :
    Accepts u servers tech protocol obfuscated place := by
  obtain ⟨serverTechnology, htech, rfl⟩ := Option.map_eq_some_iff.mp h
  obtain ⟨server, hserver, hlisted, country, hcountry, hplaceName⟩ :=
    mem_placesFrom ((List.mem_insertionSort _).mp hplace)
  have hvia := ((Bool.and_eq_true _ _).mp hlisted).1
  have hreg := hregular server hserver
  have hanswers : AnswersTo u obfuscated server (name country) :=
    hname server country (hreg.names (hkeyed server hserver) _ htech hvia country hcountry)
  refine filterServers_ok_iff.mpr ⟨server, hserver, ?_⟩
  rw [hplaceName, canConnect, isUsable, isConnectableWithProtocol_of_via htech hvia,
    hreg.obfuscation (hkeyed server hserver) _ htech hvia, hanswers]
  simp

theorem respects_of_regular (h : ∀ s ∈ servers, Regular u tech protocol obfuscated s) :
    Respects u servers tech protocol obfuscated where
  technology tag group ret hret s hs := by
    obtain ⟨hserver, hconnect⟩ := (mem_filterServers hret).mp hs
    obtain ⟨husable, hselect⟩ := (Bool.and_eq_true _ _).mp hconnect
    exact usable_via_iff.mpr ((h s hserver).plain ⟨tag, group, hselect⟩) husable
  countries hkeyed _ _ hlist _ hplace :=
    accepts_of_regular hlist hplace h hkeyed fun _ _ hname => hname.1
  cities hkeyed _ _ _ hlist _ hplace :=
    accepts_of_regular hlist hplace h hkeyed fun _ _ hname => hname.2

/-- The only server of a list is accepted for a place it is listed under. -/
theorem answers_of_accepts {name : String} {virtualLocation : Bool}
    (h : Accepts u [s] tech protocol obfuscated ⟨title name, virtualLocation⟩) :
    s.isObfuscated = obfuscated ∧ AnswersTo u obfuscated s name := by
  obtain ⟨other, hother, hconnect⟩ := filterServers_ok_iff.mp h
  obtain rfl := List.mem_singleton.mp hother
  obtain ⟨husable, hselect⟩ := (Bool.and_eq_true _ _).mp hconnect
  exact ⟨beq_iff_eq.mp ((Bool.and_eq_true _ _).mp husable).2, hselect⟩

theorem regular_of_respects (h : Respects u [s] tech protocol obfuscated) :
    Regular u tech protocol obfuscated s := by
  have hall (hkeyed : Keyed u s) (serverTechnology : ServerTechnology)
      (htech : toServerTechnology tech protocol obfuscated = some serverTechnology)
      (hvia : s.isConnectableVia serverTechnology = true) (country : Location)
      (hcountry : s.country = some country) : s.isObfuscated = obfuscated ∧
        AnswersTo u obfuscated s country.name ∧ AnswersTo u obfuscated s country.city.name := by
    have hlisted (wanted : Location → Bool) (kind name : Location → String)
        (hwanted : wanted country = true) :
        ∃ list, places u [s] tech protocol obfuscated true wanted kind name = some list ∧
          ∃ place ∈ list, place.name = title (name country) := by
      have hlooked : isListed u serverTechnology true s = true := by simp [isListed, hvia]
      obtain ⟨place, hplace, hname⟩ := placesFrom_cons u kind name [] hlooked hcountry hwanted
      exact ⟨_, by rw [places, htech, Option.map_some], place,
        (List.mem_insertionSort _).mpr hplace,
        hname⟩
    have hservers : ∀ s' ∈ [s], Keyed u s' := List.forall_mem_singleton.mpr hkeyed
    obtain ⟨list, hlist, ⟨name, _⟩, hplace, rfl⟩ := hlisted (fun _ => true) (·.code) (·.name) rfl
    have hcountries := answers_of_accepts (h.countries hservers true list hlist _ hplace)
    -- the cities of the country asked for by its listed name
    obtain ⟨list, hlist, ⟨name, _⟩, hplace, rfl⟩ := hlisted
      (fun other => u.upper (title country.name) == other.code ||
        u.lower (title country.name) == u.lower
          (title other.name)) (·.city.name) (·.city.name) (by simp)
    have hcities := answers_of_accepts (h.cities hservers _ true list hlist _ hplace)
    exact ⟨hcountries.1, hcountries.2, hcities.2⟩
  refine ⟨?_, ?_, ?_⟩
  · rintro ⟨tag, group, hselect⟩
    refine usable_via_iff.mp fun husable => ?_
    have hconnect : canConnect tech protocol tag group obfuscated s = true := by
      rw [canConnect, husable, hselect]
      rfl
    obtain ⟨ret, hret⟩ := filterServers_ok_iff.mpr ⟨s, List.mem_singleton_self s, hconnect⟩
    exact h.technology tag group ret hret s
      ((mem_filterServers hret).mpr ⟨List.mem_singleton_self s, hconnect⟩)
  · intro hkeyed serverTechnology htech hvia
    obtain ⟨country, hcountry, -⟩ := id hkeyed
    exact (hall hkeyed serverTechnology htech hvia country hcountry).1
  · intro hkeyed serverTechnology htech hvia country hcountry
    exact (hall hkeyed serverTechnology htech hvia country hcountry).2

/-- Whatever servers lists are made of: the local choice agrees with the API and the listing on all
these lists exactly if the servers are regular. -/
theorem local_choice_respects_iff (u : CaseTables) (tech : Technology) (protocol : Protocol)
    (obfuscated : Bool) (P : Server → Prop) :
    (∀ servers : List Server, (∀ s ∈ servers, P s) → Respects u servers tech protocol obfuscated) ↔
      ∀ s, P s → Regular u tech protocol obfuscated s := by
  constructor
  · intro h s hs
    exact regular_of_respects (h [s] (List.forall_mem_singleton.mpr hs))
  · intro h servers hservers
    exact respects_of_regular fun s hs => h s (hservers s hs)

end Respects

def stockholm : Location := { name := "Sweden", code := "SE", city := { name := "Stockholm" } }

/-- A server of Sweden with these technologies online. -/
def swedishServer (technologies : List ServerTechnology) : Server :=
  let server : Server := { hostname := "se1.nordvpn.com", locations := [stockholm]
                           technologies := technologies.map fun tech => ⟨tech, .online⟩ }
  { server with keys := generateKeys .ascii stockholm server }

/-- A server with the obfuscated variant only is accepted where the plain one is asked for, and one
with all variants is listed but not accepted. -/
theorem local_choice_differs :
    ¬ Respects .ascii [swedishServer [.openVPNUDPObfuscated]] .openvpn .udp false ∧
    ¬ Respects .ascii [swedishServer [.openVPNUDP, .openVPNUDPObfuscated, .openVPNTCPObfuscated]]
      .openvpn .udp false := by
  constructor
  · intro h
    have hvia := h.technology "sweden" .undefined [swedishServer [.openVPNUDPObfuscated]]
      (by decide) _ List.mem_cons_self
    exact absurd hvia (by decide)
  · intro h
    obtain ⟨ret, hret⟩ := h.countries (List.forall_mem_singleton.mpr ⟨stockholm, rfl, rfl⟩) true
      [⟨"Sweden", false⟩] (by decide) _ List.mem_cons_self
    have hnone : filterServers
        [swedishServer [.openVPNUDP, .openVPNUDPObfuscated, .openVPNTCPObfuscated]] .openvpn .udp
        "sweden" .undefined false = .error .serverIsUnavailable := by decide
    have hlower : CaseTables.ascii.lower "Sweden" = "sweden" := by decide
    have hgroup : groupConvert "sweden" = .undefined := by decide
    rw [hlower, hgroup, hnone] at hret
    cases hret

end NordVPN.Servers
