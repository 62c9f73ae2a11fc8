import NordVPN.Meshnet.OnOff

/-!
The two records of whether meshnet is on.

The networker's flag never is set without the one of the settings as long as what `DisableMeshnet`
and the mesh unsetter ignore does not happen: an error of `UnSetMesh`. It is this order between the
flags that makes a failed request repeatable, since `SetMesh` refuses a meshnet that is set already.
-/

namespace NordVPN.Meshnet

open NordVPN.Netip NordVPN.Daemon NordVPN.Networker Prog

/-! ### Runs -/

/-- The two requests that turn meshnet on and off. -/
inductive Toggle where
  | enable | disable
deriving DecidableEq, Repr

def Toggle.exec : Toggle → SwitchM Reply Unit
  | .enable => enableMeshnet
  | .disable => disableMeshnet

/-- A request that reaches its end is answered with `Empty`. -/
def reply : Except Reply Unit → Reply
  | .ok _ => .empty
  | .error answer => answer

/-- What a request is answered with. -/
def Toggle.answer (q : Toggle) (r : SwitchEnv) (s : Switch) : Reply := reply (q.exec r s).result

/-- The answers that report an error; the others say that there is nothing to do, or that the
settings rule the request out. -/
def reportsError : Reply → Bool
  | .notLoggedIn | .notRegistered | .configFailure | .apiFailure | .tunnelClosed
  | .libFailure => true
  | _ => false

inductive Event where
  | toggle (q : Toggle)
  | logout (persistToken : Bool)
  | selfRemoved

/-- An event and what is answered during it. -/
structure SwitchStep where
  event : Event
  env : SwitchEnv

def Switch.step (s : Switch) (i : SwitchStep) : Switch :=
  match i.event with
  | .toggle q => (q.exec i.env s).final
  | .logout persistToken => (logout persistToken i.env s).final
  | .selfRemoved => (unsetMesh (fun e => e) i.env s).final

/-- Every call of a request succeeds. -/
structure SwitchEnv.Works (r : SwitchEnv) : Prop where
  netw : r.netw.Succeeds
  isLoggedIn : r.isLoggedIn = true
  registerLoads : r.registerLoads = true
  registerSaves : r.registerSaves = true
  releaseName : r.releaseName = true
  newKey : r.newKey ≠ ""
  registers : ∃ device, r.registers = .machine device ∧ device.hasID = true ∧
    device.address.isValid = true
  loads : r.loads = true
  map : ∃ resp, r.map = .map resp ∧ resp.Consistent
  saves : r.saves = true

/-- The errors that keep the flags apart, or that hide that a request has nothing to do, do not
happen. -/
def Sound (s : Switch) (i : SwitchStep) : Prop :=
  i.env.netw.AddsMesh ∧ i.env.netw.DeletesMesh ∧
    match i.event with
    | .toggle .enable => i.env.saves = true ∧ (i.env.Works ∨
        s.cfg.mesh = false ∧ s.cfg.autoConnectData.postquantumVpn = false)
    | .toggle .disable => i.env.netw.Unsets ∧ i.env.saves = true ∧
        (i.env.loads = true ∨ s.cfg.mesh = true)
    | .logout _ => True
    | .selfRemoved => i.env.netw.Unsets

/-- The networker has meshnet on only if the settings do. -/
structure Coherent (s : Switch) : Prop where
  tracks : Tracks s.netw
  on : s.netw.netw.isMeshnetSet = true → s.cfg.mesh = true

theorem Coherent.off {s : Switch} (h : Coherent s) (hmesh : s.cfg.mesh = false) :
    s.netw.netw.isMeshnetSet = false := by
  cases hset : s.netw.netw.isMeshnetSet with
  | false => rfl
  | true => exact absurd ((h.on hset).symm.trans hmesh) (by decide)

/-! ### Steps of a request -/

section

variable {ε : Type} {r : SwitchEnv} {s : Switch}

variable {answer : Error → ε} {t : Switch}

theorem wp_callNetw {m : Netw Unit} {Q : Except ε Unit → Switch → Prop} :
    wp (callNetw answer m) r any Q s ↔
      wp m r.netw any (fun x w => Q (x.mapError answer) { s with netw := w }) s.netw :=
  wp_mapError.trans wp_zoom

theorem wp_endIf {c : Bool} {answer : ε} {α : Type} {f : Unit → SwitchM ε α}
    {Q : Except ε α → Switch → Prop} :
    wp (endIf c answer >>= f) r any Q s ↔
      (c = true → Q (.error answer) s) ∧ (c = false → wp (f ()) r any Q s) := by
  rw [wp_bind, endIf, wp_when, wp_fail, onOk_error, onOk_ok]

/-- What the requests leave alone until they call `SetMesh`. -/
structure Untouched (s t : Switch) : Prop where
  mesh : t.cfg.mesh = s.cfg.mesh
  pq : t.cfg.autoConnectData.postquantumVpn = s.cfg.autoConnectData.postquantumVpn
  set : t.netw.netw.isMeshnetSet = s.netw.netw.isMeshnetSet
  tracks : Tracks t.netw

theorem Coherent.untouched (h : Coherent s) : Untouched s s := ⟨rfl, rfl, rfl, h.tracks⟩

theorem Untouched.coherent (h : Untouched s t) (hs : Coherent s) : Coherent t := by
  refine ⟨h.tracks, fun hset => ?_⟩
  rw [h.mesh]
  exact hs.on (h.set.symm.trans hset)

/-- A change of the settings that leaves both flags of them alone. -/
theorem Untouched.withCfg (h : Untouched s t) {f : Config → Config}
    (hmesh : (f t.cfg).mesh = t.cfg.mesh)
    (hdata : (f t.cfg).autoConnectData = t.cfg.autoConnectData) :
    Untouched s (t.withCfg f) :=
  ⟨hmesh.trans h.mesh, by rw [Switch.withCfg, hdata, h.pq], h.set, h.tracks⟩

/-! ### Turning meshnet on -/

theorem register_untouched (hs : Coherent s) : wp register r any (fun _ t => Untouched s t) s := by
  refine wp_env_bind.mpr ((wp_endIf.mpr ⟨fun _ => hs.untouched, fun _ => ?_⟩))
  refine wp_state_bind.mpr ?_
  rcases registerMachine r s.cfg with _ | ⟨device, privateKey⟩
  · exact wp_fail.mpr hs.untouched
  · refine wp_endIf.mpr ⟨fun _ => hs.untouched, fun _ => ?_⟩
    refine wp_update_bind.mpr ⟨trivial, ?_⟩
    have hsaved := hs.untouched.withCfg (f := meshConfig device privateKey) rfl rfl
    exact wp_when.mpr ⟨fun _ => wp_fail.mpr hsaved, fun _ => hsaved⟩

/-- The removal of a device whose settings have meshnet off changes nothing. -/
theorem unsetMesh_untouched (hadds : r.netw.AddsMesh) (hdeletes : r.netw.DeletesMesh)
    (ht : Untouched s t) (hmesh : t.cfg.mesh = false) (hset : t.netw.netw.isMeshnetSet = false) :
    wp (unsetMesh answer) r any (fun _ u => Untouched s u) t := by
  refine wp_env_bind.mpr ((wp_when.mpr ⟨fun _ => ?_, fun _ => ht⟩))
  refine wp_seq (P := fun _ u => Untouched s u ∧ u.cfg.mesh = false) (wp_ignore.mpr
    (wp_callNetw.mpr (wp_post (wp_both (tracks_exec hadds hdeletes .unSetMesh _ ht.tracks)
      apiUnSetMesh_flag) ?_))) (fun _ u hu => ?_) fun _ _ h => h.1
  · rintro x w ⟨htracks, hflag⟩
    refine ⟨⟨ht.mesh, ht.pq, ?_, htracks⟩, hmesh⟩
    rw [← ht.set, hset, hflag, hset, Bool.and_false]
  · refine wp_when.mpr ⟨fun _ => wp_update.mpr ⟨trivial, ?_⟩, fun _ => hu.1⟩
    exact hu.1.withCfg hu.2.symm rfl

theorem fetchMap_untouched (hadds : r.netw.AddsMesh) (hdeletes : r.netw.DeletesMesh)
    (ht : Untouched s t) (hmesh : t.cfg.mesh = false) (hset : t.netw.netw.isMeshnetSet = false)
    (cfg : Config) :
    wp (fetchMap cfg) r any
      (fun x u => Untouched s u ∧ (x.isOk = true → u = t)) t := by
  refine wp_env_bind.mpr ?_
  split
  · exact wp_pure.mpr ⟨ht, fun _ => rfl⟩
  · refine wp_endIf.mpr ⟨fun _ => ⟨ht, nofun⟩, fun _ => ?_⟩
    refine wp_update_bind.mpr ⟨trivial, ?_⟩
    exact wp_fail.mpr ⟨ht.withCfg rfl rfl, nofun⟩
  · refine wp_seq (unsetMesh_untouched hadds hdeletes ht hmesh hset) (fun _ u hu => ?_)
      fun _ _ hu => ⟨hu, nofun⟩
    exact wp_fail.mpr ⟨hu, nofun⟩
  · exact wp_fail.mpr ⟨ht, nofun⟩

/-- `EnableMeshnet` turns both flags on or leaves both alone. -/
theorem enableMeshnet_flags (hadds : r.netw.AddsMesh) (hdeletes : r.netw.DeletesMesh)
    (hsaves : r.saves = true) (hs : Coherent s) :
    wp enableMeshnet r any (fun x t => Tracks t.netw ∧
      (x.isOk = true → t.netw.netw.isMeshnetSet = true ∧ t.cfg.mesh = true) ∧
        (x.isOk = false → Untouched s t)) s := by
  have hleft {answer : Reply} {t : Switch} (ht : Untouched s t) :
      Tracks t.netw ∧ ((Except.error answer : Except Reply Unit).isOk = true →
        t.netw.netw.isMeshnetSet = true ∧ t.cfg.mesh = true) ∧
          ((Except.error answer : Except Reply Unit).isOk = false → Untouched s t) :=
    ⟨ht.tracks, nofun, fun _ => ht⟩
  refine wp_env_bind.mpr ((wp_endIf.mpr ⟨fun _ => hleft hs.untouched, fun _ => ?_⟩))
  refine wp_seq (register_untouched hs) (fun _ t ht => ?_) fun _ _ ht => hleft ht
  refine wp_endIf.mpr ⟨fun _ => hleft ht, fun _ => wp_state_bind.mpr ?_⟩
  refine wp_endIf.mpr ⟨fun _ => hleft ht, fun hmesh => ?_⟩
  refine wp_endIf.mpr ⟨fun _ => hleft ht, fun _ => ?_⟩
  have hset : t.netw.netw.isMeshnetSet = false := (ht.coherent hs).off hmesh
  refine wp_seq (fetchMap_untouched hadds hdeletes ht hmesh hset t.cfg) (fun resp u hu => ?_)
    fun _ _ hu => hleft hu.1
  obtain rfl : u = t := hu.2 rfl
  refine wp_seq (P := fun x v => Tracks v.netw ∧ v.cfg = u.cfg ∧
      v.netw.netw.isMeshnetSet = x.isOk) (wp_callNetw.mpr (wp_post (wp_both
    (tracks_exec hadds hdeletes (.setMesh resp _ _) _ ht.tracks) (setMesh_flag resp _ _)) ?_)) ?_ ?_
  · rintro x w ⟨htracks, hflag⟩
    rw [hset, Bool.or_false] at hflag
    refine ⟨htracks, rfl, hflag.trans ?_⟩
    cases x <;> rfl
  · rintro _ v ⟨htracks, -, hflag⟩
    rw [hsaves]
    refine wp_endIf.mpr ⟨nofun, fun _ => wp_update.mpr ⟨trivial, htracks, fun _ => ?_, nofun⟩⟩
    exact ⟨hflag, rfl⟩
  · rintro e v ⟨htracks, hcfg, hflag⟩
    refine hleft ⟨hcfg ▸ ht.mesh, hcfg ▸ ht.pq, hflag.trans ?_, htracks⟩
    rw [← ht.set, hset]
    rfl

theorem register_works (hr : r.Works) (hs : Coherent s) :
    wp register r any (fun x t => x = .ok () ∧ Untouched s t) s := by
  obtain ⟨device, hregisters, hid, haddress⟩ := hr.registers
  obtain ⟨privateKey, hkey, hmachine⟩ : ∃ privateKey, privateKey ≠ "" ∧
      registerMachine r s.cfg = some (device, privateKey) := by
    unfold registerMachine
    rw [hr.releaseName, hregisters]
    refine ⟨_, ?_, rfl⟩
    split
    · exact hr.newKey
    · assumption
  have hcorrect : isRegistrationInfoCorrect device privateKey = true := by
    simp [isRegistrationInfoCorrect, hkey, hid, haddress]
  have hregister : wp register r any (fun x _ => x = .ok ()) s := by
    refine wp_env_bind.mpr (wp_endIf.mpr ⟨fun h => ?_, fun _ => wp_state_bind.mpr ?_⟩)
    · simp [hr.registerLoads] at h
    rw [hmachine]
    refine wp_endIf.mpr ⟨fun h => ?_, fun _ => wp_update_bind.mpr ⟨trivial, ?_⟩⟩
    · simp [hr.registerSaves] at h
    · rw [hcorrect]
      exact wp_pure.mpr rfl
  exact wp_both hregister (register_untouched hs)

/-- With every call succeeding only the settings can rule `EnableMeshnet` out. -/
theorem enableMeshnet_works (hr : r.Works) (hs : Coherent s) :
    wp enableMeshnet r any (fun x _ => reply x =
      if s.cfg.mesh then .alreadyEnabled
      else if s.cfg.autoConnectData.postquantumVpn then .conflictWithPQ else .empty) s := by
  refine wp_env_bind.mpr (wp_endIf.mpr ⟨fun h => ?_, fun _ => ?_⟩)
  · simp [hr.isLoggedIn] at h
  refine wp_next (register_works hr hs) fun t ht => ?_
  refine wp_endIf.mpr ⟨fun h => ?_, fun _ => wp_state_bind.mpr ?_⟩
  · simp [hr.loads] at h
  rw [← ht.mesh, ← ht.pq]
  refine wp_endIf.mpr ⟨fun hmesh => ?_, fun hmesh => ?_⟩
  · rw [hmesh]
    rfl
  refine wp_endIf.mpr ⟨fun hpq => ?_, fun hpq => ?_⟩
  · rw [hmesh, hpq]
    rfl
  rw [hmesh, hpq]
  obtain ⟨resp, hmap, hresp⟩ := hr.map
  refine wp_returns (a := resp) (P := (· = t)) (wp_env_bind.mpr ?_) ?_
  · rw [hmap]
    exact wp_pure.mpr ⟨rfl, rfl⟩
  rintro _ rfl
  refine wp_seq (P := fun x _ => x = .ok ()) (wp_callNetw.mpr (wp_post (setMesh_working
    hr.netw hresp _ _ ht.tracks ((ht.coherent hs).off hmesh)) ?_)) (fun _ u _ => ?_)
    fun _ _ h => nomatch h
  · rintro x w rfl
    rfl
  · rw [hr.saves]
    exact wp_endIf.mpr ⟨nofun, fun _ => wp_update.mpr ⟨trivial, rfl⟩⟩

/-! ### Turning meshnet off -/

/-- The networker has meshnet off, whatever the settings say. -/
def Off (s : Switch) : Prop := Tracks s.netw ∧ s.netw.netw.isMeshnetSet = false

theorem Off.coherent (h : Off s) : Coherent s :=
  ⟨h.1, fun hon => absurd (h.2.symm.trans hon) (by decide)⟩

/-- `UnSetMesh`, its error dropped, when its calls succeed. -/
theorem dropMesh_off (hadds : r.netw.AddsMesh) (hunsets : r.netw.Unsets) (hs : Tracks s.netw) :
    wp (ignore (callNetw answer Api.unSetMesh)) r any (fun x t => x = .ok () ∧ Off t)
      s := by
  refine wp_ignore.mpr (wp_callNetw.mpr (wp_post (wp_both
    (tracks_exec hadds hunsets.deletes .unSetMesh _ hs) (apiUnSetMesh_off hunsets hs)) ?_))
  rintro x w ⟨htracks, hoff⟩
  exact ⟨rfl, htracks, hoff⟩

/-- `DisableMeshnet` turns both flags off or changes nothing. -/
theorem disableMeshnet_flags (hadds : r.netw.AddsMesh) (hunsets : r.netw.Unsets)
    (hsaves : r.saves = true) (hs : Coherent s) :
    wp disableMeshnet r any (fun x t => Tracks t.netw ∧
      (x.isOk = true → t.netw.netw.isMeshnetSet = false ∧ t.cfg.mesh = false) ∧
        (x.isOk = false → t = s)) s := by
  refine wp_env_bind.mpr (wp_endIf.mpr ⟨fun _ => ⟨hs.tracks, nofun, fun _ => rfl⟩, fun _ => ?_⟩)
  refine wp_state_bind.mpr (wp_endIf.mpr ⟨fun _ => ⟨hs.tracks, nofun, fun _ => rfl⟩, fun _ => ?_⟩)
  refine wp_next (P := fun t => Tracks t.netw) (wp_when.mpr ⟨fun _ => wp_ignore.mpr
    (wp_callNetw.mpr (wp_post (tracks_exec hadds hunsets.deletes .stop _ hs.tracks) ?_)),
      fun _ => ⟨rfl, hs.tracks⟩⟩) fun t ht => ?_
  · intro x w htracks
    exact ⟨rfl, htracks⟩
  refine wp_next (dropMesh_off hadds hunsets ht) fun u hu => ?_
  obtain ⟨htracks, hoff⟩ := hu
  rw [hsaves]
  refine wp_endIf.mpr ⟨nofun, fun _ => wp_update.mpr ⟨trivial, htracks, fun _ => ?_, nofun⟩⟩
  exact ⟨hoff, rfl⟩

/-- `DisableMeshnet` needs the settings only. -/
theorem disableMeshnet_works (hloads : r.loads = true) (hsaves : r.saves = true) :
    wp disableMeshnet r any
      (fun x _ => reply x = if s.cfg.mesh then .empty else .alreadyDisabled) s := by
  refine wp_env_bind.mpr (wp_endIf.mpr ⟨fun h => ?_, fun _ => wp_state_bind.mpr ?_⟩)
  · simp [hloads] at h
  refine wp_endIf.mpr ⟨fun h => ?_, fun h => ?_⟩
  · rw [Bool.not_eq_true'] at h
    rw [h]
    rfl
  rw [Bool.not_eq_false'] at h
  rw [h, hsaves]
  refine (NeverFails.ignore.when).next fun _ _ => NeverFails.ignore.next fun _ _ => ?_
  exact wp_endIf.mpr ⟨nofun, fun _ => wp_update.mpr ⟨trivial, rfl⟩⟩

theorem unsetMesh_coherent (hadds : r.netw.AddsMesh) (hunsets : r.netw.Unsets) (hs : Coherent s) :
    wp (unsetMesh answer) r any (fun _ t => Coherent t) s := by
  refine wp_env_bind.mpr (wp_when.mpr ⟨fun _ => ?_, fun _ => hs⟩)
  refine wp_next (dropMesh_off hadds hunsets hs.tracks) fun t ht => ?_
  have hsaved (f : Config → Config) : Off (t.withCfg f) := ht
  exact wp_when.mpr ⟨fun _ => wp_update.mpr ⟨trivial, (hsaved _).coherent⟩,
    fun _ => (hsaved id).coherent⟩

/-- After a successful `UnSetMesh` the rest of `Logout` can end anywhere. -/
theorem logout_coherent (hadds : r.netw.AddsMesh) (hdeletes : r.netw.DeletesMesh)
    (persistToken : Bool) (hs : Coherent s) :
    wp (logout persistToken) r any (fun _ t => Coherent t) s := by
  refine wp_env_bind.mpr (wp_endIf.mpr ⟨fun _ => hs, fun _ => ?_⟩)
  refine wp_endIf.mpr ⟨fun _ => hs, fun _ => ?_⟩
  refine wp_state_bind.mpr (wp_seq (P := fun _ t => Coherent t) (wp_callNetw.mpr (wp_post (wp_both
    (tracks_exec hadds hdeletes .stop _ hs.tracks) apiStop_flag) ?_)) (fun _ t ht => ?_)
      fun _ _ h => h)
  · rintro x w ⟨htracks, hflag⟩
    exact ⟨htracks, fun hset => hs.on (hflag.symm.trans hset)⟩
  refine wp_seq (P := fun x u => Coherent u ∧ (x.isOk = true → u.netw.netw.isMeshnetSet = false))
    (wp_callNetw.mpr (wp_post (wp_both
      ((tracks_exec hadds hdeletes .unSetMesh).tolerate _ ht.tracks)
      (apiUnSetMesh_tolerated hdeletes ht.tracks)) ?_)) (fun _ u hu => ?_) fun _ _ h => h.1
  · rintro x w ⟨htracks, hflag⟩
    refine ⟨⟨htracks, fun hset => ?_⟩, fun hok => ?_⟩
    · rw [hflag, Bool.and_eq_true] at hset
      exact ht.on hset.2
    · cases x with
      | ok _ => exact hflag
      | error e => exact nomatch hok
  have hend {c : Bool} {answer : LogoutReply} : Keeps r any Off (endIf c answer) :=
    Keeps.when fun _ => Keeps.fail _
  have htoken {answer : ApiResult} {invalid : List ApiResult} :
      Keeps r any Off (checkToken answer invalid) :=
    (Keeps.pure _).ite ((Keeps.fail _).ite (Keeps.fail _))
  have hsave (f : Config → Config) :
      Keeps (ε := LogoutReply) r any Off (update (Switch.withCfg f)) :=
    Keeps.assign fun _ h => h
  have hoff : Off u := ⟨hu.1.tracks, hu.2 rfl⟩
  refine wp_post ((hend.seq <| (htoken.seq <| htoken).guard.bind
    fun _ => hend.seq <| (hsave _).seq <| Keeps.pure _) u hoff) fun _ v hv => ?_
  exact hv.coherent

/-! ### Answers -/

theorem raises_callNetw {answer : Error → Reply} {m : Netw Unit} (h : ∀ e, answer e ≠ .empty) :
    Raises r (· ≠ .empty) (callNetw answer m) :=
  Raises.mapError (E := fun _ => True) (fun _ => wp_post wp_true fun _ _ _ _ _ => trivial)
    fun e _ => h e

theorem raises_endIf {c : Bool} {answer : Reply} (h : answer ≠ .empty) :
    Raises r (· ≠ .empty) (endIf c answer) :=
  Raises.when (Raises.fail h)

/-- No request ends early with the answer for success. -/
theorem raises_exec (q : Toggle) : Raises r (· ≠ .empty) q.exec := by
  have hunset : Raises r (· ≠ .empty) (unsetMesh fun _ => Reply.apiFailure) :=
    Raises.env.seq <| Raises.when (Raises.ignore.seq <| Raises.when Raises.update)
  have hmap (cfg : Config) : Raises r (· ≠ .empty) (fetchMap cfg) := by
    refine Raises.env.bind fun _ => ?_
    split
    · exact Raises.pure _
    · exact (raises_endIf (by decide)).seq <| Raises.update.seq <| Raises.fail (by decide)
    · exact hunset.seq <| Raises.fail (by decide)
    · exact Raises.fail (by decide)
  have hregister : Raises r (· ≠ .empty) register := by
    refine Raises.env.bind fun _ => (raises_endIf (by decide)).bind fun _ =>
      Raises.state.bind fun _ => ?_
    split
    · exact Raises.fail (by decide)
    · exact (raises_endIf (by decide)).seq <| Raises.update.seq <| raises_endIf (by decide)
  cases q with
  | enable =>
    refine Raises.env.seq <| (raises_endIf (by decide)).seq <| hregister.seq <|
      (raises_endIf (by decide)).seq <| Raises.state.seq <|
        (raises_endIf (by decide)).seq <| (raises_endIf (by decide)).seq <|
          (hmap _).seq <| (raises_callNetw fun e => ?_).seq <|
            (raises_endIf (by decide)).seq <| Raises.update
    split
    · decide
    · decide
  | disable =>
    exact Raises.env.seq <| (raises_endIf (by decide)).seq <|
      Raises.state.seq <| (raises_endIf (by decide)).seq <|
        (Raises.when Raises.ignore).seq <| Raises.ignore.seq <|
          (raises_endIf (by decide)).seq <| Raises.update

theorem answer_eq_empty {q : Toggle} : q.answer r s = .empty ↔ (q.exec r s).result.isOk = true := by
  have hraises := (raises_exec q (r := r) s).2
  unfold Toggle.answer
  cases h : (q.exec r s).result with
  | ok _ => exact ⟨fun _ => rfl, fun _ => rfl⟩
  | error answer => exact ⟨fun hempty => absurd hempty (hraises answer h), nofun⟩

theorem not_ok_of_reportsError {q : Toggle} (h : reportsError (q.answer r s) = true) :
    (q.exec r s).result.isOk = false := by
  cases hok : (q.exec r s).result.isOk with
  | false => rfl
  | true =>
    rw [answer_eq_empty.mpr hok] at h
    exact h.symm

/-- With every call succeeding `EnableMeshnet` reports no error. -/
theorem reportsError_enable (hr : r.Works) (hs : Coherent s) :
    reportsError (Toggle.enable.answer r s) = false := by
  rw [show Toggle.enable.answer r s = _ from (enableMeshnet_works hr hs).2]
  cases s.cfg.mesh <;> cases s.cfg.autoConnectData.postquantumVpn <;> rfl

/-! ### Runs -/

theorem coherent_step {i : SwitchStep} (hs : Coherent s) (hi : Sound s i) :
    Coherent (s.step i) := by
  obtain ⟨event, r⟩ := i
  obtain ⟨hadds, hdeletes, hevent⟩ := hi
  cases event with
  | toggle q =>
    cases q with
    | enable =>
      obtain ⟨-, htracks, hon, hleft⟩ := enableMeshnet_flags hadds hdeletes hevent.1 hs
      cases hok : (enableMeshnet r s).result.isOk with
      | true => exact ⟨htracks, fun _ => (hon hok).2⟩
      | false => exact (hleft hok).coherent hs
    | disable =>
      obtain ⟨-, htracks, hoff, hleft⟩ := disableMeshnet_flags hadds hevent.1 hevent.2.1 hs
      cases hok : (disableMeshnet r s).result.isOk with
      | true => exact ⟨htracks, fun hon => absurd ((hoff hok).1.symm.trans hon) (by decide)⟩
      | false =>
        change Coherent (disableMeshnet r s).final
        rw [hleft hok]
        exact hs
  | logout persistToken => exact (logout_coherent hadds hdeletes persistToken hs).2
  | selfRemoved => exact (unsetMesh_coherent hadds hevent hs).2

end

/-- In every run in which the firewall takes and drops the rules of the meshnet, `EnableMeshnet` and
`DisableMeshnet` can save the settings, and `UnSetMesh` succeeds where its error is dropped: a
`EnableMeshnet` or `DisableMeshnet` answered with success leaves the two flags equal, any other
answer leaves both unchanged or equal, and a request that met an error succeeds when it is repeated
with every call succeeding. -/
theorem meshnet_switch_consistent {cfg : Config} {vpnet : Option Vpn} {fwmark : Nat} {s : Switch}
    (hs : Reaches Switch.step Sound (.startUp cfg vpnet fwmark) s) (q : Toggle) (r : SwitchEnv)
    (hi : Sound s ⟨.toggle q, r⟩) :
    let t := s.step ⟨.toggle q, r⟩
    (q.answer r s = .empty → t.netw.netw.isMeshnetSet = t.cfg.mesh) ∧
      (q.answer r s ≠ .empty →
        t.cfg.mesh = s.cfg.mesh ∧ t.netw.netw.isMeshnetSet = s.netw.netw.isMeshnetSet ∨
          t.netw.netw.isMeshnetSet = t.cfg.mesh) ∧
      (reportsError (q.answer r s) = true →
        ∀ r' : SwitchEnv, r'.Works → q.answer r' t = .empty) := by
  intro t
  have hcoherent : Coherent s := hs.invariant
    ⟨tracks_newCombined _ _ _ _, nofun⟩ fun _ _ hs hi => coherent_step hs hi
  have ht : Coherent t := coherent_step hcoherent hi
  obtain ⟨hadds, hdeletes, hevent⟩ := hi
  rw [ne_eq, answer_eq_empty, Bool.not_eq_true]
  cases q with
  | enable =>
    obtain ⟨hsaves, hrules⟩ := hevent
    obtain ⟨-, -, hon, hleft⟩ := enableMeshnet_flags hadds hdeletes hsaves hcoherent
    refine ⟨fun hok => (hon hok).1.trans (hon hok).2.symm,
      fun hok => .inl ⟨(hleft hok).mesh, (hleft hok).set⟩, fun herror r' hr' => ?_⟩
    have hsame := hleft (not_ok_of_reportsError herror)
    rcases hrules with hworks | ⟨hmesh, hpq⟩
    · exact absurd ((reportsError_enable hworks hcoherent).symm.trans herror) Bool.false_ne_true
    · have hanswer := (enableMeshnet_works hr' ht).2
      rw [show t.cfg.mesh = false from hsame.mesh.trans hmesh,
        show t.cfg.autoConnectData.postquantumVpn = false from hsame.pq.trans hpq] at hanswer
      exact hanswer
  | disable =>
    obtain ⟨hunsets, hsaves, hloads⟩ := hevent
    obtain ⟨-, -, hoff, hleft⟩ := disableMeshnet_flags hadds hunsets hsaves hcoherent
    refine ⟨fun hok => (hoff hok).1.trans (hoff hok).2.symm, fun hok => .inl ?_,
      fun herror r' hr' => ?_⟩
    · rw [show t = s from hleft hok]
      exact ⟨rfl, rfl⟩
    · have hanswer := (disableMeshnet_works (s := t) hr'.loads hr'.saves).2
      rw [show t = s from hleft (not_ok_of_reportsError herror)] at hanswer ⊢
      have hmesh : s.cfg.mesh = true := by
        refine hloads.elim (fun hloads => ?_) id
        rw [show Toggle.disable.answer r s = _ from (disableMeshnet_works hloads hsaves).2]
          at herror
        revert herror
        cases s.cfg.mesh with
        | true => exact fun _ => rfl
        | false => exact fun h => h
      rw [hmesh] at hanswer
      exact hanswer

/-- Services that always succeed. -/
def SwitchEnv.working : SwitchEnv :=
  { netw := Env.working [], registers := .machine ⟨true, .ofBytes 100 64 0 2⟩
    map := .map sampleMachine }

theorem SwitchEnv.working_works : SwitchEnv.working.Works where
  netw := Env.working_succeeds []
  isLoggedIn := rfl
  registerLoads := rfl
  registerSaves := rfl
  releaseName := rfl
  newKey := by decide
  registers := ⟨_, rfl, rfl, rfl⟩
  loads := rfl
  map := ⟨_, rfl, (by decide : sampleMachine.requests.Nodup)⟩
  saves := rfl

/-- Meshnet enabled after start-up. -/
def meshEnabled : Switch :=
  (Switch.startUp newConfig none 0xe1f1).step ⟨.toggle .enable, .working⟩

theorem disable_repeatable_when_enabled :
    let r : SwitchEnv := { SwitchEnv.working with loads := false }
    Toggle.disable.answer r meshEnabled = .configFailure ∧
      Toggle.disable.answer .working (meshEnabled.step ⟨.toggle .disable, r⟩) = .empty := by
  have hworks := SwitchEnv.working_works
  have hmesh : meshEnabled.cfg.mesh = true := by decide
  have hreaches : Reaches Switch.step Sound (.startUp newConfig none 0xe1f1) meshEnabled :=
    .tail _ .refl ⟨hworks.netw.addsMesh, hworks.netw.deletesMesh, rfl, .inl hworks⟩
  have hanswer : Toggle.disable.answer { SwitchEnv.working with loads := false } meshEnabled =
    .configFailure := rfl
  refine ⟨hanswer, (meshnet_switch_consistent hreaches .disable _ ?_).2.2 ?_ _ hworks⟩
  · exact ⟨hworks.netw.addsMesh, hworks.netw.deletesMesh, hworks.netw.unsets, rfl, .inr hmesh⟩
  · rw [hanswer]
    rfl

/-- The hosts file cannot be restored while meshnet is disabled: the request succeeds, the networker
keeps meshnet on, and no later request can turn it on or off. -/
theorem meshnet_stuck_after_disable :
    let r : SwitchEnv := { SwitchEnv.working with
      netw := { Env.working [] with fails := fun _ c => c == .unsetHosts } }
    let t := meshEnabled.step ⟨.toggle .disable, r⟩
    Toggle.disable.answer r meshEnabled = .empty ∧
      t.netw.netw.isMeshnetSet = true ∧ t.cfg.mesh = false ∧
      Toggle.enable.answer .working t = .libFailure ∧
      Toggle.enable.answer .working (t.step ⟨.toggle .enable, .working⟩) = .libFailure ∧
      Toggle.disable.answer .working t = .alreadyDisabled := by
  decide

end NordVPN.Meshnet
