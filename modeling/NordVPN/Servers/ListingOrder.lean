import NordVPN.Lib.Firsts
import NordVPN.Servers.Listing
import Mathlib.Data.List.Pairwise

/-!
Whether the countries and cities listed depend on the order of the servers.

`Countries` and `Cities` list the first server of each country or city, and take the name and the
virtual flag from it. The order of the servers is by their penalties, which change while the daemon
runs. `sort.Slice` sorts the list by name and leaves open how places of one name are ordered.
-/

namespace NordVPN.Servers

open NordVPN.Daemon

section Candidates

variable (u : CaseTables) (listed : Server → Bool) (wanted : Location → Bool)
  (kind name : Location → String)

/-- The listing looks at the server. -/
def isCandidate (s : Server) : Bool := listed s && s.country.any wanted

/-- The country or city of a server. -/
def kindOf (s : Server) : String := (s.country.map kind).getD ""

/-- What the server is listed as. -/
def placeOf (s : Server) : Place :=
  ⟨(s.country.map fun c => title (name c)).getD "", s.isVirtualLocation u⟩

variable {u listed wanted kind name} {servers : List Server}

theorem placesFrom_eq (seen : List String) (servers : List Server) :
    placesFrom u listed wanted kind name seen servers =
      (Firsts.firsts (kindOf kind) seen (servers.filter (isCandidate listed wanted))).map
        (placeOf u name) := by
  induction servers generalizing seen with
  | nil => rfl
  | cons server rest ih =>
    cases hlisted : listed server with
    | false => simp [placesFrom, isCandidate, hlisted, ih]
    | true =>
      cases hcountry : server.country with
      | none => simp [placesFrom, isCandidate, hlisted, hcountry, ih]
      | some country =>
        cases hwanted : wanted country with
        | false => simp [placesFrom, isCandidate, hlisted, hcountry, hwanted, ih]
        | true =>
          by_cases hseen : kind country ∈ seen
          · simp [placesFrom, isCandidate, kindOf, Firsts.firsts, hlisted, hcountry, hwanted,
              hseen, ih]
          · simp [placesFrom, isCandidate, kindOf, placeOf, Firsts.firsts, hlisted, hcountry,
              hwanted, hseen, ih]

end Candidates

/-! ### Sorting by name -/

/-- What `sort.Slice` promises. -/
def Sorts (result places : List Place) : Prop :=
  result.Perm places ∧ result.Pairwise fun p q => p.name ≤ q.name

theorem sorts_insertionSort (places : List Place) :
    Sorts (places.insertionSort fun p q => p.name ≤ q.name) places := by
  have htotal : Std.Total fun p q : Place => p.name ≤ q.name :=
    ⟨fun p q => String.le_total p.name q.name⟩
  have htrans : IsTrans Place fun p q => p.name ≤ q.name := ⟨fun _ _ _ => String.le_trans⟩
  exact ⟨List.perm_insertionSort _ _, List.pairwise_insertionSort _ _⟩

/-- Places of one name are the same. -/
def NamesDecide (places : List Place) : Prop :=
  ∀ p ∈ places, ∀ q ∈ places, p.name = q.name → p = q

theorem Sorts.unique {places result result' : List Place} (hnames : NamesDecide places)
    (h : Sorts result places) (h' : Sorts result' places) : result = result' := by
  refine List.Perm.eq_of_pairwise ?_ h.2 h'.2 (h.1.trans h'.1.symm)
  intro p q hp hq hpq hqp
  exact hnames p (h.1.subset hp) q (h'.1.subset hq) (String.le_antisymm hpq hqp)

/-- By name, and of one name those with the flag last. -/
def flagLast (flag : Bool) (p q : Place) : Prop :=
  p.name ≤ q.name ∧ (p.name = q.name → p.virtualLocation = flag → q.virtualLocation = flag)

instance (flag : Bool) : DecidableRel (flagLast flag) :=
  fun p q => inferInstanceAs (Decidable (p.name ≤ q.name ∧ _))

theorem flagLast.total (flag : Bool) (p q : Place) : flagLast flag p q ∨ flagLast flag q p := by
  by_cases hname : p.name = q.name
  · by_cases hq : q.virtualLocation = flag
    · exact .inl ⟨hname ▸ String.le_refl _, fun _ _ => hq⟩
    · exact .inr ⟨hname ▸ String.le_refl _, fun _ h => absurd h hq⟩
  · rcases String.le_total p.name q.name with hle | hle
    · exact .inl ⟨hle, fun h => absurd h hname⟩
    · exact .inr ⟨hle, fun h => absurd h.symm hname⟩

theorem flagLast.trans {flag : Bool} {p q r : Place} (h : flagLast flag p q)
    (h' : flagLast flag q r) : flagLast flag p r := by
  refine ⟨String.le_trans h.1 h'.1, fun hname hp => ?_⟩
  have hpq : p.name = q.name := String.le_antisymm h.1 (hname ▸ h'.1)
  exact h'.2 (hpq.symm.trans hname) (h.2 hpq hp)

theorem exists_sorts_flagLast (flag : Bool) (places : List Place) :
    ∃ result, Sorts result places ∧ result.Pairwise (flagLast flag) := by
  have htotal : Std.Total (flagLast flag) := ⟨flagLast.total flag⟩
  have htrans : IsTrans Place (flagLast flag) := ⟨fun _ _ _ => flagLast.trans⟩
  have hsorted := List.pairwise_insertionSort (flagLast flag) places
  exact ⟨_, ⟨List.perm_insertionSort _ _, hsorted.imp fun h => h.1⟩, hsorted⟩

/-- If there is one way to sort the places, those of one name are the same. -/
theorem namesDecide_of_unique {places result : List Place}
    (h : ∀ result', Sorts result' places → result' = result) : NamesDecide places := by
  obtain ⟨first, hfirst, hlast⟩ := exists_sorts_flagLast true places
  obtain ⟨second, hsecond, hlast'⟩ := exists_sorts_flagLast false places
  rw [h first hfirst] at hlast hfirst
  rw [h second hsecond] at hlast'
  -- both orders of the flags are kept, so that places of one name have the same flag
  have hpairs :
      result.Pairwise fun p q => p.name = q.name → p.virtualLocation = q.virtualLocation := by
    refine (hlast.and hlast').imp ?_
    rintro p q ⟨hp, hq⟩ hname
    cases hflag : p.virtualLocation with
    | true => exact (hp.2 hname hflag).symm
    | false => exact (hq.2 hname hflag).symm
  have hsymm :
      Std.Symm fun p q : Place => p.name = q.name → p.virtualLocation = q.virtualLocation :=
    ⟨fun _ _ h hname => (h hname.symm).symm⟩
  intro p hp q hq hname
  have hflag := List.Pairwise.forall_of_forall (fun _ _ _ => rfl) hpairs
    (hfirst.1.symm.subset hp) (hfirst.1.symm.subset hq) hname
  cases p
  cases q
  cases hname
  cases hflag
  rfl

/-! ### The order of the servers -/

section Orders

variable (u : CaseTables) (servers : List Server) (technology : Technology) (protocol : Protocol)
  (obfuscated virtualLocation : Bool) (wanted : Location → Bool) (kind name : Location → String)

/-- The listing is the same for every order of the servers and every way to sort it. It has each
country or city with a listed server once, as virtual if all its connectable servers are. -/
structure Orderless : Prop where
  permuted : ∀ servers', servers'.Perm servers →
    places u servers' technology protocol obfuscated virtualLocation wanted kind name =
      places u servers technology protocol obfuscated virtualLocation wanted kind name
  sorted :
    ∀ serverTechnology, toServerTechnology technology protocol obfuscated = some serverTechnology →
    ∀ result, Sorts result
      (placesFrom u (isListed u serverTechnology virtualLocation) wanted kind name [] servers) →
    places u servers technology protocol obfuscated virtualLocation wanted kind name = some result
  once :
    ∀ serverTechnology, toServerTechnology technology protocol obfuscated = some serverTechnology →
    ∃ (result : List Place) (kinds : List String) (entry : String → Place),
      places u servers technology protocol obfuscated virtualLocation wanted kind
        name = some result ∧
      result.Perm (kinds.map entry) ∧ kinds.Nodup ∧
      (∀ k, k ∈ kinds ↔ ∃ s ∈ servers,
        isCandidate (isListed u serverTechnology virtualLocation) wanted s = true ∧
        kindOf kind s = k) ∧
      ∀ k ∈ kinds, (entry k).virtualLocation = true ↔
        ∀ s ∈ servers, s.isConnectableVia serverTechnology = true → s.country.any wanted = true →
          kindOf kind s = k → s.isVirtualLocation u = true

/-- Servers of one country or city, or of one name, are listed as the same place. -/
def Agree : Prop :=
  ∀ serverTechnology, toServerTechnology technology protocol obfuscated = some serverTechnology →
    ∀ s ∈ servers, isCandidate (isListed u serverTechnology virtualLocation) wanted s = true →
    ∀ t ∈ servers, isCandidate (isListed u serverTechnology virtualLocation) wanted t = true →
    kindOf kind s = kindOf kind t ∨ (placeOf u name s).name = (placeOf u name t).name →
    placeOf u name s = placeOf u name t

end Orders

section Agreement

variable {u : CaseTables} {servers : List Server} {technology : Technology} {protocol : Protocol}
  {obfuscated virtualLocation : Bool} {wanted : Location → Bool} {kind name : Location → String}
  {serverTechnology : ServerTechnology}

theorem places_some
    (htech : toServerTechnology technology protocol obfuscated = some serverTechnology) :
    places u servers technology protocol obfuscated virtualLocation wanted kind name =
      some ((placesFrom u (isListed u serverTechnology virtualLocation) wanted kind name []
        servers).insertionSort fun p q => p.name ≤ q.name) := by
  rw [places, htech, Option.map_some]

theorem Agree.uniform
    (h : Agree u servers technology protocol obfuscated virtualLocation wanted kind name)
    (htech : toServerTechnology technology protocol obfuscated = some serverTechnology) :
    Firsts.Uniform (kindOf kind) (placeOf u name)
      (servers.filter (isCandidate (isListed u serverTechnology virtualLocation) wanted)) := by
  intro s hs t ht hkind
  obtain ⟨hs, hscand⟩ := List.mem_filter.mp hs
  obtain ⟨ht, htcand⟩ := List.mem_filter.mp ht
  exact h serverTechnology htech s hs hscand t ht htcand (.inl hkind)

theorem Agree.namesDecide
    (h : Agree u servers technology protocol obfuscated virtualLocation wanted kind name)
    (htech : toServerTechnology technology protocol obfuscated = some serverTechnology) :
    NamesDecide (placesFrom u (isListed u serverTechnology virtualLocation) wanted kind name []
      servers) := by
  rw [placesFrom_eq]
  intro p hp q hq hname
  obtain ⟨s, hs, rfl⟩ := List.mem_map.mp hp
  obtain ⟨t, ht, rfl⟩ := List.mem_map.mp hq
  obtain ⟨hs, hscand⟩ := List.mem_filter.mp (Firsts.mem_of_mem_firsts hs)
  obtain ⟨ht, htcand⟩ := List.mem_filter.mp (Firsts.mem_of_mem_firsts ht)
  exact h serverTechnology htech s hs hscand t ht htcand (.inr hname)

theorem Agree.permuted
    (h : Agree u servers technology protocol obfuscated virtualLocation wanted kind name)
    {servers' : List Server} (hperm : servers'.Perm servers) :
    places u servers' technology protocol obfuscated virtualLocation wanted kind name =
      places u servers technology protocol obfuscated virtualLocation wanted kind name := by
  cases htech : toServerTechnology technology protocol obfuscated with
  | none => rw [places, places, htech]; rfl
  | some serverTechnology =>
    have hsame : (placesFrom u (isListed u serverTechnology virtualLocation) wanted kind name []
        servers').Perm (placesFrom u (isListed u serverTechnology virtualLocation)
          wanted kind name []
        servers) := by
      rw [placesFrom_eq, placesFrom_eq]
      exact (h.uniform htech).map_perm (hperm.filter _)
    have hsorts := sorts_insertionSort
      (placesFrom u (isListed u serverTechnology virtualLocation) wanted kind name [] servers')
    rw [places_some htech, places_some htech, Option.some_inj]
    exact Sorts.unique (h.namesDecide htech) ⟨hsorts.1.trans hsame, hsorts.2⟩
      (sorts_insertionSort _)

/-- Only virtual servers are listed as a virtual place, and then no other is connectable. -/
theorem Agree.virtual_iff
    (h : Agree u servers technology protocol obfuscated virtualLocation wanted kind name)
    (htech : toServerTechnology technology protocol obfuscated = some serverTechnology) {x : Server}
    (hx : x ∈ servers)
    (hxcand : isCandidate (isListed u serverTechnology virtualLocation) wanted x = true) :
    (placeOf u name x).virtualLocation = true ↔
      ∀ s ∈ servers, s.isConnectableVia serverTechnology = true → s.country.any wanted = true →
        kindOf kind s = kindOf kind x → s.isVirtualLocation u = true := by
  have hparts := hxcand
  simp only [isCandidate, isListed, Bool.and_eq_true, Bool.or_eq_true, Bool.not_eq_true'] at hparts
  constructor
  · intro hvirtual s hs hvia hwanted hkind
    have hallowed : virtualLocation = true := by
      refine hparts.1.2.resolve_right fun hreal => ?_
      rw [show x.isVirtualLocation u = true from hvirtual] at hreal
      cases hreal
    have hscand : isCandidate (isListed u serverTechnology virtualLocation) wanted s = true := by
      simp [isCandidate, isListed, hvia, hwanted, hallowed]
    have hsame := h serverTechnology htech s hs hscand x hx hxcand (.inl hkind)
    exact (congrArg Place.virtualLocation hsame).trans hvirtual
  · intro hall
    exact hall x hx hparts.1.1 hparts.2 rfl

theorem Agree.orderless
    (h : Agree u servers technology protocol obfuscated virtualLocation wanted kind name) :
    Orderless u servers technology protocol obfuscated virtualLocation wanted kind name where
  permuted _ hperm := h.permuted hperm
  sorted serverTechnology htech result hresult := by
    rw [places_some htech, Option.some_inj]
    exact Sorts.unique (h.namesDecide htech) (sorts_insertionSort _) hresult
  once serverTechnology htech := by
    have huniform := h.uniform htech
    let candidates :=
      servers.filter (isCandidate (isListed u serverTechnology virtualLocation) wanted)
    refine ⟨_, (Firsts.firsts (kindOf kind) [] candidates).map (kindOf kind),
      Firsts.entryOf (kindOf kind) (placeOf u name) ⟨"", false⟩ candidates,
      places_some htech, ?_, Firsts.keys_nodup, fun k => ?_, fun k hk => ?_⟩
    · rw [← huniform.map_firsts _ (fun _ hx => hx), ← placesFrom_eq]
      exact (sorts_insertionSort _).1
    · rw [Firsts.mem_keys]
      simp only [candidates, List.not_mem_nil, not_false_eq_true, true_and,
        List.mem_filter, and_assoc]
    · obtain ⟨-, x, hx, rfl⟩ := Firsts.mem_keys.mp hk
      rw [huniform.entryOf _ hx]
      obtain ⟨hx, hxcand⟩ := List.mem_filter.mp hx
      exact h.virtual_iff htech hx hxcand

/-- Every order of the candidates comes from an order of the servers. -/
theorem exists_servers_perm {p : Server → Bool} {candidates : List Server}
    (h : candidates.Perm (servers.filter p)) :
    ∃ servers' : List Server, servers'.Perm servers ∧ servers'.filter p = candidates := by
  refine ⟨candidates ++ servers.filter fun s => !p s, ?_, ?_⟩
  · exact (h.append_right _).trans (List.filter_append_perm p servers)
  · have hall : ∀ s ∈ candidates, p s = true := fun s hs => (List.mem_filter.mp (h.subset hs)).2
    have hnone : (servers.filter fun s => !p s).filter p = [] := by
      rw [List.filter_eq_nil_iff]
      intro s hs
      simpa using (List.mem_filter.mp hs).2
    rw [List.filter_append, List.filter_eq_self.mpr hall, hnone, List.append_nil]

theorem Orderless.agree
    (h : Orderless u servers technology protocol obfuscated virtualLocation wanted kind name) :
    Agree u servers technology protocol obfuscated virtualLocation wanted kind name := by
  intro serverTechnology htech s hs hscand t ht htcand hsame
  have huniform : Firsts.Uniform (kindOf kind) (placeOf u name)
      (servers.filter (isCandidate (isListed u serverTechnology virtualLocation) wanted)) := by
    refine Firsts.uniform_of_map_perm fun candidates hperm => ?_
    obtain ⟨servers', hperm', rfl⟩ := exists_servers_perm hperm
    have hplaces := h.permuted servers' hperm'
    rw [places_some htech, places_some htech, Option.some_inj] at hplaces
    rw [← placesFrom_eq, ← placesFrom_eq]
    exact (sorts_insertionSort _).1.symm.trans (hplaces ▸ (sorts_insertionSort _).1)
  have hlisted : ∀ x ∈ servers,
      isCandidate (isListed u serverTechnology virtualLocation) wanted x = true →
      placeOf u name x ∈ placesFrom u (isListed u serverTechnology virtualLocation)
        wanted kind name []
        servers := by
    intro x hx hxcand
    have hmem := List.mem_filter.mpr ⟨hx, hxcand⟩
    obtain ⟨y, hy, hkey⟩ : ∃ y ∈ Firsts.firsts (kindOf kind) [] _, kindOf kind y = kindOf kind x :=
      List.mem_map.mp (Firsts.mem_keys.mpr ⟨List.not_mem_nil, x, hmem, rfl⟩)
    rw [placesFrom_eq, ← huniform y (Firsts.mem_of_mem_firsts hy) x hmem hkey]
    exact List.mem_map_of_mem hy
  rcases hsame with hkind | hname
  · exact huniform s (List.mem_filter.mpr ⟨hs, hscand⟩) t (List.mem_filter.mpr ⟨ht, htcand⟩) hkind
  · have hunique : ∀ result', Sorts result'
        (placesFrom u (isListed u serverTechnology virtualLocation) wanted kind name [] servers) →
        result' = (placesFrom u (isListed u serverTechnology virtualLocation) wanted kind name []
          servers).insertionSort fun p q => p.name ≤ q.name := by
      intro result' hresult
      have hplaces := h.sorted serverTechnology htech result' hresult
      rw [places_some htech, Option.some_inj] at hplaces
      exact hplaces.symm
    exact namesDecide_of_unique hunique _ (hlisted s hs hscand) _ (hlisted t ht htcand) hname

end Agreement

/-- The listings of `listCountries` and `listCities` do not depend on the order of the servers
exactly if servers of one country or city, or of one name, are listed as the same place. -/
theorem listing_orderless_iff (u : CaseTables) (servers : List Server) (technology : Technology)
    (protocol : Protocol) (obfuscated virtualLocation : Bool) (countryName : String) :
    (Orderless u servers technology protocol obfuscated virtualLocation (fun _ => true) (·.code)
        (·.name) ∧
      Orderless u servers technology protocol obfuscated virtualLocation
        (fun country => u.upper countryName == country.code ||
          u.lower countryName == u.lower (title country.name)) (·.city.name) (·.city.name)) ↔
    Agree u servers technology protocol obfuscated virtualLocation (fun _ => true)
      (·.code) (·.name) ∧
      Agree u servers technology protocol obfuscated virtualLocation
        (fun country => u.upper countryName == country.code ||
          u.lower countryName == u.lower (title country.name)) (·.city.name) (·.city.name) := by
  constructor
  · rintro ⟨hcountries, hcities⟩
    exact ⟨hcountries.agree, hcities.agree⟩
  · rintro ⟨hcountries, hcities⟩
    exact ⟨hcountries.orderless, hcities.orderless⟩

/-- Two servers of a city, one of them virtual, in both orders. -/
theorem listing_depends_on_order :
    let server := swedishServer [.wireguard]
    let elsewhere : Server := { server with
      specifications := [{ identifier := "virtual_location", values := ["true"] }] }
    listCountries .ascii [server, elsewhere] .nordlynx .udp false true = some [⟨"Sweden", false⟩] ∧
      listCountries .ascii [elsewhere, server] .nordlynx .udp false true = some [⟨"Sweden", true⟩] ∧
      listCities .ascii [server, elsewhere] "sweden" .nordlynx .udp false true =
        some [⟨"Stockholm", false⟩] ∧
      listCities .ascii [elsewhere, server] "sweden" .nordlynx .udp false true =
        some [⟨"Stockholm", true⟩] := by
  decide

end NordVPN.Servers
