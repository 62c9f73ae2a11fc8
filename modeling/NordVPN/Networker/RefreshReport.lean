import NordVPN.Networker.MeshSwitch
import NordVPN.Networker.Reconnect

/-!
What a refresh of the tunnels reports.

`refreshVPN` returns the join of two variables, whatever its body returns, so each step of
it is reported only if its error reaches one of the two. The steps of a refresh are noted
here by a copy of it that returns the notes as well; dropping them gives `refreshVPN` back.
The error of setting the borrowed kill switch reaches neither variable.
-/

namespace NordVPN.Networker

open NordVPN.Netip Prog

/-! ### A refresh that notes its steps -/

/-- The steps of a refresh that can fail. -/
inductive RefreshStep where
  | setKillSwitch | stop | unSetMesh | setMesh | start | unsetKillSwitch
deriving DecidableEq, Repr

/-- A step that was called, and the error it returned. -/
abbrev Report := RefreshStep × Option Error

/-- `remesh`. -/
def noteRemesh (ip : Addr) : Netw (Option Error × List Report) := do
  let unset ← failure (context "unsetting mesh" unSetMesh)
  if unset.isSome then pure (unset, [(.unSetMesh, unset)])
  else do
    let c ← netw
    let set ← failure (context "setting mesh" (setMesh c.cfg ip c.lastPrivateKey))
    pure (set, [(.unSetMesh, unset), (.setMesh, set)])

/-- `rebuildTunnels` after `stop`. -/
def noteRestart (isVPNStarted isMeshStarted : Bool) (tunIPs : List Addr) :
    Netw ((Option Error × Option Error) × List Report) := do
  let meshIPs ← (if isMeshStarted then ask .meshTunIPs Env.tunIPs else pure [])
  let mesh ← (if isMeshStarted then noteRemesh ((meshIPs ++ tunIPs).headD .invalid)
    else pure (none, []))
  let c ← netw
  let vpnErr ← (if isVPNStarted then
    failure (context "starting networker"
      (start c.lastCreds c.lastServer c.allowlist c.lastNameservers)) else pure none)
  pure ((vpnErr, mesh.1), if isVPNStarted then mesh.2 ++ [(.start, vpnErr)] else mesh.2)

/-- `rebuildTunnels`. -/
def noteRebuild (isVPNStarted isMeshStarted : Bool) :
    Netw ((Option Error × Option Error) × List Report) := do
  let tunIPs ← (if isVPNStarted then ask .tunIPs Env.tunIPs else pure [])
  let vpnErr ← (if isVPNStarted then failure (context "stopping networker" stop) else pure none)
  if vpnErr.isSome then pure ((vpnErr, none), [(.stop, vpnErr)])
  else do
    let restarted ← noteRestart isVPNStarted isMeshStarted tunIPs
    pure (restarted.1,
      if isVPNStarted then (.stop, vpnErr) :: restarted.2 else restarted.2)

/-- `returnKillSwitch`. -/
def noteReturn (vpnErr : Option Error) : Netw (Option Error × List Report) :=
  if vpnErr.isSome then do
    setNetw fun c => { c with isKillSwitchSet := false }
    pure (vpnErr, [])
  else do
    let e ← failure unsetKillSwitch
    pure (e, [(.unsetKillSwitch, e)])

/-- `recreateTunnels`, with the error it returns. -/
def noteRecreate (isVPNStarted isMeshStarted : Bool) : Netw (Option Error × List Report) := do
  let c ← netw
  if isVPNStarted && !c.isKillSwitchSet then do
    let borrowed ← failure (setKillSwitch c.allowlist)
    if borrowed.isSome then pure (GoError.joinOpt none none, [(.setKillSwitch, borrowed)])
    else do
      let rebuilt ← noteRebuild isVPNStarted isMeshStarted
      let returned ← noteReturn rebuilt.1.1
      pure (GoError.joinOpt returned.1 rebuilt.1.2,
        (.setKillSwitch, borrowed) :: rebuilt.2 ++ returned.2)
  else do
    let rebuilt ← noteRebuild isVPNStarted isMeshStarted
    pure (GoError.joinOpt rebuilt.1.1 rebuilt.1.2, rebuilt.2)

/-- `refreshVPN` up to where it creates the tunnels again, and whether it does. -/
def detectChange : Netw Bool := do
  let c ← netw
  if !c.isVpnSet && !c.isMeshnetSet then pure false
  else do
    let newInterfaces ← ask (.interfacesWithDefaultRoute c.tunName) Env.defaultRoutes
    let unhandled ← (if newInterfaces.all (c.interfaces.contains ·) then
      failure handleNetworkChanged else pure (some (.plain "new interface detected")))
    if unhandled.isNone then pure false
    else do
      setNetw fun c => { c with interfaces := newInterfaces }
      pure true

/-- `refreshVPN`. -/
def noteRefresh : Netw (Option Error × List Report) := do
  let c ← netw
  let change ← detectChange
  if change then noteRecreate c.isVpnSet c.isMeshnetSet else pure (none, [])

/-! ### Dropping the notes -/

section Erase

variable {α β : Type}

theorem failure_apply (m : Netw α) (r : Env) (w : World) :
    failure m r w = ⟨.ok (errorOf (m r w).result), (m r w).final, (m r w).visited⟩ := by
  refine (bind_of_ok (m := attempt m) rfl).trans ?_
  change Outcome.mk (.ok (errorOf (m r w).result)) (m r w).final ((m r w).visited ++ []) = _
  rw [List.append_nil]

/-- A procedure that does not fail can be taken out of a `failure`. -/
theorem failure_bind {m : Netw α} (h : ∀ r, NeverFails r m) (f : α → Netw β) :
    failure (m >>= f) = m >>= fun a => failure (f a) := by
  funext r w
  obtain ⟨a, ha⟩ := (h r w).2
  rw [failure_apply, bind_of_ok ha, bind_of_ok ha, failure_apply]

theorem failure_bind_unit (m : Netw Unit) (f : Unit → Netw α) :
    failure (m >>= f) = failure m >>= fun e => if e.isSome then pure e else failure (f ()) := by
  funext r w
  have hm : (failure m r w).result = .ok (errorOf (m r w).result) := by rw [failure_apply]
  rw [bind_of_ok hm, failure_apply m]
  cases h : (m r w).result with
  | ok u => rw [failure_apply, bind_of_ok h, errorOf, if_neg (by simp), failure_apply]
  | error e =>
    rw [failure_apply, bind_of_error h]
    change _ = Outcome.mk (.ok (some e)) (m r w).final ((m r w).visited ++ [])
    rw [List.append_nil]
    rfl

variable (vpnErr : Option Error) (isVPNStarted isMeshStarted : Bool) (r : Env)

theorem neverFails_netw : NeverFails r netw := fun _ => wp_netw.mpr ⟨_, rfl⟩

theorem neverFails_setNetw (f : Combined → Combined) (r : Env) : NeverFails r (setNetw f) :=
  fun _ => wp_setNetw.mpr ⟨trivial, _, rfl⟩

theorem failure_joinErrors (meshErr : Option Error) :
    failure (joinErrors vpnErr meshErr) = pure (GoError.joinOpt vpnErr meshErr) := by
  unfold joinErrors
  cases GoError.joinOpt vpnErr meshErr <;> rfl

theorem fst_noteRemesh (ip : Addr) : Prod.fst <$> noteRemesh ip = failure (remesh ip) := by
  rw [remesh, failure_bind_unit, noteRemesh, map_bind]
  congr 1
  funext unset
  split
  · rw [map_pure]
  · rw [failure_bind neverFails_netw]
    simp only [map_bind, map_pure, bind_pure]

theorem fst_noteRebuild :
    Prod.fst <$> noteRebuild isVPNStarted isMeshStarted =
      rebuildTunnels isVPNStarted isMeshStarted := by
  rw [noteRebuild, rebuildTunnels]
  simp only [map_bind]
  congr 1
  funext tunIPs
  congr 1
  funext vpnErr
  split
  · rw [map_pure]
  · simp only [noteRestart, map_bind, map_pure, bind_assoc, pure_bind]
    congr 1
    funext meshIPs
    cases isMeshStarted with
    | false => rfl
    | true => simp only [if_true, ← fst_noteRemesh, bind_map_left]

theorem fst_noteReturn : Prod.fst <$> noteReturn vpnErr = returnKillSwitch vpnErr := by
  unfold noteReturn returnKillSwitch
  split
  · simp only [map_bind, map_pure]
  · simp only [map_bind, map_pure, bind_pure]

theorem neverFails_rebuildTunnels : NeverFails r (rebuildTunnels isVPNStarted isMeshStarted) := by
  refine ((neverFails_ask _ _).ite (.pure _)).seq <|
    ((neverFails_failure _).ite (.pure _)).seq <| (NeverFails.pure _).ite ?_
  exact ((neverFails_ask _ _).ite (.pure _)).seq <|
    ((neverFails_failure _).ite (.pure _)).seq <| (neverFails_netw r).seq <|
      ((neverFails_failure _).ite (.pure _)).seq <| .pure _

theorem neverFails_returnKillSwitch : NeverFails r (returnKillSwitch vpnErr) :=
  ((neverFails_setNetw _ r).seq <| .pure _).ite (neverFails_failure _)

theorem fst_noteRecreate :
    Prod.fst <$> noteRecreate isVPNStarted isMeshStarted =
      failure (recreateTunnels isVPNStarted isMeshStarted) := by
  have hbuild := neverFails_rebuildTunnels isVPNStarted isMeshStarted
  rw [noteRecreate, recreateTunnels, failure_bind neverFails_netw, map_bind]
  congr 1
  funext c
  split
  · rw [failure_bind fun _ => neverFails_failure _, map_bind]
    congr 1
    funext borrowed
    split
    · rw [map_pure, failure_joinErrors]
    · rw [failure_bind hbuild, ← fst_noteRebuild]
      simp only [map_bind, map_pure, bind_map_left, ← failure_joinErrors]
      congr 1
      funext rebuilt
      rw [failure_bind (neverFails_returnKillSwitch _), ← fst_noteReturn, bind_map_left]
  · rw [failure_bind hbuild, ← fst_noteRebuild]
    simp only [map_bind, map_pure, bind_map_left, ← failure_joinErrors]

theorem netw_bind (f : Combined → Netw α) (r : Env) (w : World) :
    (netw >>= f) r w = f w.netw r w := rfl

theorem neverFails_detectChange : NeverFails r detectChange :=
  (neverFails_netw r).seq <| (NeverFails.pure _).ite ((neverFails_ask _ _).seq <|
    ((neverFails_failure _).ite (.pure _)).seq <| (NeverFails.pure _).ite
      ((neverFails_setNetw _ r).seq <| .pure _))

theorem refreshVPN_eq : refreshVPN = netw >>= fun c => detectChange >>= fun change =>
    if change then recreateTunnels c.isVpnSet c.isMeshnetSet else pure () := by
  funext r w
  rw [refreshVPN, detectChange, netw_bind, netw_bind]
  simp only [bind_assoc]
  rw [netw_bind]
  by_cases hset : (!w.netw.isVpnSet && !w.netw.isMeshnetSet) = true
  · rw [if_pos hset, if_pos hset]
    rfl
  · rw [if_neg hset, if_neg hset, bind_assoc]
    refine congrFun (congrFun (congrArg (ask _ _ >>= ·) (funext fun newInterfaces => ?_)) r) w
    rw [bind_assoc]
    congr 1
    funext unhandled
    split
    · rfl
    · rw [bind_assoc]
      rfl

/-- A refresh without its notes is `refreshVPN`. -/
theorem fst_noteRefresh : Prod.fst <$> noteRefresh = failure refreshVPN := by
  rw [refreshVPN_eq, failure_bind neverFails_netw, noteRefresh, map_bind]
  congr 1
  funext c
  rw [failure_bind neverFails_detectChange, map_bind]
  congr 1
  funext change
  split
  · exact fst_noteRecreate _ _
  · rfl

end Erase

/-! ### The two flags -/

def Flags (vpn mesh : Bool) (w : World) : Prop :=
  w.netw.isVpnSet = vpn ∧ w.netw.isMeshnetSet = mesh

section Flags

variable {r : Env} {vpn mesh : Bool}

theorem flags_invariant (vpn mesh : Bool) : FlagInvariant (Flags vpn mesh) :=
  ⟨⟨fun _ _ => trivial, fun hcore hlink hw => ⟨(congrArg Link.isVpnSet hlink).trans hw.1,
    (congrArg Core.isMeshnetSet hcore).trans hw.2⟩⟩, fun _ _ h => h, fun _ _ h => h⟩

theorem flags_rules : RuleUpkeep r any (Flags vpn mesh) any :=
  (flags_invariant vpn mesh).ruleUpkeep fun _ _ h => h

theorem flags_setKillSwitch (allowlist : Allowlist) :
    Keeps r any (Flags vpn mesh) (setKillSwitch allowlist) := by
  have hI := flags_invariant vpn mesh
  refine keeps_netw.seq <| (Keeps.when fun _ => ?_).seq <|
    keeps_setNetw hI.toQuietInvariant fun w hw => hw
  exact keeps_setNetwork hI.toQuietInvariant (fun _ _ => hI.keeps_firewall _)
    (flags_rules.keeps_setAllowlist _) fun _ h => h

theorem flags_unsetKillSwitch : Keeps r any (Flags vpn mesh) unsetKillSwitch := by
  have hI := flags_invariant vpn mesh
  refine keeps_netw.seq <| (Keeps.when fun _ => ?_).seq <|
    keeps_setNetw hI.toQuietInvariant fun w hw => hw
  exact keeps_unsetNetwork hI.toQuietInvariant (fun _ _ => hI.keeps_firewall _)
    flags_rules.keeps_unsetAllowlist fun _ h => h

/-- Detecting a change touches the allowlist and the interfaces only. -/
theorem keeps_detectChange {I : World → Prop} (hI : FlagInvariant I)
    (hlist : ∀ w allowlist, I w → I (w.withNetw fun c => { c with allowlist })) :
    Keeps r any I detectChange := by
  have hrules : RuleUpkeep r any I any := hI.ruleUpkeep hlist
  have hhandle : Keeps r any I handleNetworkChanged :=
    fun w hw => keeps_handleNetworkChanged hI.toQuietInvariant hw fun _ =>
      hrules.keeps_resetAllowlist
  refine keeps_netw.bind fun _ => (Keeps.pure _).ite
    ((keeps_ask hI.toQuietInvariant _ _ rfl).bind fun _ => ?_)
  refine ((keeps_failure hhandle).ite (Keeps.pure _)).seq <| (Keeps.pure _).ite
    (Keeps.bind ?_ fun _ => Keeps.pure _)
  exact keeps_setNetw hI.toQuietInvariant fun w hw => hI.quiet (w := w) rfl rfl hw

/-- A mesh that is set up or torn down does not bring the VPN up. -/
theorem remesh_vpnOff (ip : Addr) : Keeps r any (fun w => w.netw.isVpnSet = false) (remesh ip) := by
  have hI : FlagInvariant fun w : World => w.netw.isVpnSet = false :=
    ⟨⟨fun _ _ => trivial, fun _ hlink hw => (congrArg Link.isVpnSet hlink).trans hw⟩,
      fun _ _ h => h, fun _ _ h => h⟩
  have henable (self : Addr) (privateKey : String) :=
    keeps_enableMesh_of (r := r) hI.toQuietInvariant
      (keeps_setNetw hI.toQuietInvariant fun _ _ => rfl) self privateKey
  refine (keeps_unSetMesh hI.toQuietInvariant (fun _ h => h) hI.keeps_defaultMeshUnBlock
    fun _ h => h).mapError.seq <| keeps_netw.seq <| Keeps.mapError ?_
  exact keeps_setMesh hI.toQuietInvariant (fun _ h => h) hI.keeps_defaultMeshUnBlock henable _ _ _
    ((hI.keeps_refresh (fun _ _ h => h) _).seq <| keeps_setNetw hI.toQuietInvariant fun _ h => h)

theorem start_mesh (creds : Credentials) (serverData : ServerData) (allowlist : Allowlist)
    (nameservers : List String) : Keeps r any (fun w => w.netw.isMeshnetSet = mesh)
      (start creds serverData allowlist nameservers) :=
  (meshFlag_upkeep mesh).keeps_start _ _ _ trivial fun w hw _ =>
    (flag_invariant mesh).keeps_refresh (fun _ _ h => h) _ w hw

end Flags

/-! ### Which steps are reported -/

section Reported

variable {r : Env} {w : World}

/-- No step that was called returned an error. -/
def Clean (notes : List Report) : Prop := ∀ report ∈ notes, report.2 = none

theorem errorOf_eq_none {α : Type} {x : Except Error α} : errorOf x = none ↔ ∃ a, x = .ok a := by
  cases x <;> simp [errorOf]

theorem wp_failure_bind {α β : Type} {A : World → Prop} {m : Netw α} {f : Option Error → Netw β}
    {Q : Except Error β → World → Prop} :
    wp (failure m >>= f) r A Q w ↔ wp m r A (fun x t => wp (f (errorOf x)) r A Q t) w := by
  rw [wp_bind, wp_failure]
  simp only [onOk_ok]

/-- Without an error both steps went well, and the mesh is on. -/
theorem noteRemesh_clean (ip : Addr) :
    wp (noteRemesh ip) r any (fun x t => ∃ y, x = .ok y ∧
      (y.1 = none → Clean y.2 ∧ t.netw.isMeshnetSet = true)) w := by
  refine (neverFails_failure _).next fun unset t => ?_
  refine wp_ite.mpr ⟨fun hsome => wp_pure.mpr ⟨_, rfl, fun hnone => ?_⟩, fun hok => ?_⟩
  · rw [show unset = none from hnone] at hsome
    cases hsome
  · have hunset : unset = none := by simpa using hok
    refine wp_netw_bind.mpr (wp_failure_bind.mpr (wp_mapError.mpr
      (wp_post (setMesh_flag _ _ _) fun x u hu => wp_pure.mpr ⟨_, rfl, fun hnone => ?_⟩)))
    cases x with
    | ok _ =>
      refine ⟨?_, hu⟩
      simp [Clean, hunset, errorOf]
    | error e => cases hnone

/-- `noteRemesh` leaves the VPN down, as `remesh` does. -/
theorem noteRemesh_vpnOff (ip : Addr) :
    Keeps r any (fun w => w.netw.isVpnSet = false) (noteRemesh ip) := by
  intro w hw
  have hkeeps := (keeps_failure (remesh_vpnOff (r := r) ip)) w hw
  rw [← fst_noteRemesh, map_eq_pure_bind, wp_bind] at hkeeps
  refine wp_post hkeeps fun x t ht => ?_
  cases x with
  | ok y =>
    rw [onOk_ok, wp_pure] at ht
    exact ht
  | error e => exact ht

/-- The mesh is as it was unless an error says so, and a VPN that was off stays off. -/
theorem noteRemesh_flags {vpn mesh : Bool} (ip : Addr)
    (hw : (vpn = false → w.netw.isVpnSet = false) ∧ w.netw.isMeshnetSet = mesh) :
    wp (if mesh then noteRemesh ip else pure (none, [])) r any (fun x t => ∃ y, x = .ok y ∧
      (vpn = false → t.netw.isVpnSet = false) ∧
        (y.1 = none → Clean y.2 ∧ t.netw.isMeshnetSet = mesh)) w := by
  cases mesh with
  | false => exact wp_pure.mpr ⟨_, rfl, hw.1, fun _ => ⟨List.forall_mem_nil _, hw.2⟩⟩
  | true =>
    cases vpn with
    | false =>
      refine wp_post (wp_both (noteRemesh_clean _) (noteRemesh_vpnOff _ w (hw.1 rfl)))
        fun x u hu => ?_
      obtain ⟨⟨y, hy, hclean⟩, hoff⟩ := hu
      exact ⟨y, hy, fun _ => hoff, hclean⟩
    | true =>
      refine wp_post (noteRemesh_clean _) fun x u hu => ?_
      obtain ⟨y, hy, hclean⟩ := hu
      exact ⟨y, hy, nofun, hclean⟩

theorem noteRestart_clean {vpn mesh : Bool} (tunIPs : List Addr)
    (hvpn : vpn = false → w.netw.isVpnSet = false) (hmesh : w.netw.isMeshnetSet = mesh) :
    wp (noteRestart vpn mesh tunIPs) r any (fun x t => ∃ y, x = .ok y ∧
      (y.1.1 = none → y.1.2 = none → Clean y.2 ∧ Flags vpn mesh t)) w := by
  have hquiet : QuietInvariant any fun w =>
      (vpn = false → w.netw.isVpnSet = false) ∧ w.netw.isMeshnetSet = mesh :=
    ⟨fun _ _ => trivial, fun hcore hlink hw =>
      ⟨fun h => (congrArg Link.isVpnSet hlink).trans (hw.1 h),
      (congrArg Core.isMeshnetSet hcore).trans hw.2⟩⟩
  refine ((keeps_ask hquiet _ _ rfl).ite (.pure _)).next ((neverFails_ask _ _).ite (.pure _))
    ⟨hvpn, hmesh⟩ fun meshIPs t ht => ?_
  refine wp_yields (noteRemesh_flags _ ht) fun y t hmeshed => ?_
  obtain ⟨hoff, hclean⟩ := hmeshed
  refine wp_netw_bind.mpr ?_
  cases vpn with
  | false =>
    refine wp_pure_bind.mpr (wp_pure.mpr ⟨_, rfl, fun _ hnone => ?_⟩)
    exact ⟨(hclean hnone).1, hoff rfl, (hclean hnone).2⟩
  | true =>
    have hkept (creds serverData allowlist nameservers) :
        wp (start creds serverData allowlist nameservers) r any
          (fun _ u => y.1 = none → u.netw.isMeshnetSet = mesh) t := by
      by_cases hnone : y.1 = none
      · exact wp_post (start_mesh _ _ _ _ t (hclean hnone).2) fun _ _ h _ => h
      · exact wp_post wp_true fun _ _ _ h => absurd h hnone
    refine wp_failure_bind.mpr (wp_mapError.mpr (wp_post
      (wp_both ((start_isVpnSet _ _ _ _).ok trivial ()) (hkept _ _ _ _)) fun x u hu =>
        wp_pure.mpr ⟨_, rfl, fun hstarted hnone => ?_⟩))
    cases x with
    | ok _ =>
      refine ⟨fun report hreport => ?_, hu.1 rfl, hu.2 hnone⟩
      rcases List.mem_append.mp hreport with hmem | hmem
      · exact (hclean hnone).1 report hmem
      · rw [List.mem_singleton.mp hmem]
        rfl
    | error e => cases hstarted

theorem noteRebuild_clean {vpn mesh : Bool} (hw : Flags vpn mesh w) :
    wp (noteRebuild vpn mesh) r any (fun x t => ∃ y, x = .ok y ∧
      (y.1.1 = none → y.1.2 = none → Clean y.2 ∧ Flags vpn mesh t)) w := by
  have hquiet := (flags_invariant vpn mesh).toQuietInvariant
  refine ((keeps_ask hquiet _ _ rfl).ite (.pure _)).next ((neverFails_ask _ _).ite (.pure _))
    hw fun tunIPs t ht => ?_
  cases vpn with
  | false =>
    exact wp_pure_bind.mpr (wp_yields (noteRestart_clean tunIPs (fun _ => ht.1) ht.2)
      fun y u hu => wp_pure.mpr ⟨_, rfl, hu⟩)
  | true =>
    refine wp_failure_bind.mpr
      (wp_mapError.mpr (wp_post ((meshFlag_upkeep mesh).keeps_stop t ht.2) fun x u hu => ?_))
    refine wp_ite.mpr ⟨fun hsome => wp_pure.mpr ⟨_, rfl, fun hnone => ?_⟩, fun hok => ?_⟩
    · rw [show errorOf _ = none from hnone] at hsome
      cases hsome
    · refine wp_yields (noteRestart_clean tunIPs (fun h => by cases h) hu)
        fun y v hclean => wp_pure.mpr ⟨_, rfl, fun hvpnErr hmeshErr => ?_⟩
      refine ⟨?_, (hclean hvpnErr hmeshErr).2⟩
      exact List.forall_mem_cons.mpr ⟨by simpa using hok, (hclean hvpnErr hmeshErr).1⟩

theorem noteReturn_clean {vpn mesh : Bool} (vpnErr : Option Error)
    (hw : Flags vpn mesh w) :
    wp (noteReturn vpnErr) r any (fun x t => ∃ y, x = .ok y ∧
      (y.1 = none → vpnErr = none ∧ Clean y.2 ∧ Flags vpn mesh t)) w := by
  refine wp_ite.mpr ⟨fun hsome => ?_, fun hnone => ?_⟩
  · refine (neverFails_setNetw _ r).next fun _ t => wp_pure.mpr ⟨_, rfl, fun hnone => ?_⟩
    rw [show vpnErr = none from hnone] at hsome
    cases hsome
  · refine wp_failure_bind.mpr (wp_post (flags_unsetKillSwitch w hw) fun x t ht =>
      wp_pure.mpr ⟨_, rfl, fun hx => ?_⟩)
    refine ⟨by simpa using hnone, ?_, ht⟩
    exact List.forall_mem_singleton.mpr hx

theorem joinOpt_eq_none {e e' : Option Error} :
    GoError.joinOpt e e' = none ↔ e = none ∧ e' = none := by
  cases e <;> cases e' <;> simp [GoError.joinOpt]

/-- With the kill switch lent, an error of any step is returned. -/
theorem noteRecreate_clean {vpn mesh : Bool}
    (hw : Flags vpn mesh w)
    (hlent : vpn = true → w.netw.isKillSwitchSet = false →
      (setKillSwitch w.netw.allowlist r w).result = .ok ()) :
    wp (noteRecreate vpn mesh) r any (fun x t => ∃ y, x = .ok y ∧
      (y.1 = none → Clean y.2 ∧ Flags vpn mesh t)) w := by
  refine wp_netw_bind.mpr (wp_ite.mpr ⟨fun hborrow => ?_, fun _ => ?_⟩)
  · have hok : (setKillSwitch w.netw.allowlist r w).result = .ok () := by
      rw [Bool.and_eq_true, Bool.not_eq_true'] at hborrow
      exact hlent hborrow.1 hborrow.2
    have hborrowed : wp (setKillSwitch w.netw.allowlist) r any (fun x t =>
        x = .ok () ∧ Flags vpn mesh t) w :=
      ⟨fun _ _ => trivial, hok, (flags_setKillSwitch _ w hw).2⟩
    refine wp_failure_bind.mpr (wp_post hborrowed fun x t ht => ?_)
    obtain ⟨rfl, ht⟩ := ht
    rw [errorOf, if_neg (by simp)]
    refine wp_yields (noteRebuild_clean ht) fun rebuilt u hclean => ?_
    refine wp_yields (noteReturn_clean rebuilt.1.1 ⟨rfl, rfl⟩) fun returned v hreturned =>
      wp_pure.mpr ⟨_, rfl, fun hnone => ?_⟩
    obtain ⟨hvpnErr, hmeshErr⟩ := joinOpt_eq_none.mp hnone
    obtain ⟨hvpnErr, hcleanReturn, hsameVpn, hsameMesh⟩ := hreturned hvpnErr
    obtain ⟨hcleanBuild, hvpn, hmesh⟩ := hclean hvpnErr hmeshErr
    refine ⟨fun report hreport => ?_, hsameVpn.trans hvpn, hsameMesh.trans hmesh⟩
    rcases List.mem_append.mp hreport with hmem | hmem
    · rcases List.mem_cons.mp hmem with rfl | hmem
      · rfl
      · exact hcleanBuild report hmem
    · exact hcleanReturn report hmem
  · refine wp_yields (noteRebuild_clean hw) fun rebuilt t hclean =>
      wp_pure.mpr ⟨_, rfl, fun hnone => ?_⟩
    obtain ⟨hvpnErr, hmeshErr⟩ := joinOpt_eq_none.mp hnone
    exact hclean hvpnErr hmeshErr

/-- A refresh and its notes end in the same state, with the same error. -/
theorem noteRefresh_apply (r : Env) (w : World) :
    (noteRefresh r w).final = (refreshVPN r w).final ∧
      ∃ notes, (noteRefresh r w).result = .ok (errorOf (refreshVPN r w).result, notes) := by
  have hfst := congrFun (congrFun fst_noteRefresh r) w
  rw [failure_apply, map_eq_pure_bind] at hfst
  cases h : (noteRefresh r w).result with
  | ok y =>
    rw [bind_of_ok h, Outcome.mk.injEq] at hfst
    refine ⟨hfst.2.1, y.2, ?_⟩
    rw [← Except.ok.inj hfst.1]
  | error e =>
    rw [bind_of_error h, Outcome.mk.injEq] at hfst
    cases hfst.1

/-- The steps that a refresh calls, in order, with what they return. -/
def reports (r : Env) (w : World) : List Report :=
  ((noteRefresh r w).result.toOption.map Prod.snd).getD []

/-- If the refresh returns no error, no step of it returned one, and the VPN and the meshnet
are on as they were. -/
def Reported (r : Env) (w : World) : Prop :=
  (refreshVPN r w).result = .ok () → Clean (reports r w) ∧
    (refreshVPN r w).final.netw.isVpnSet = w.netw.isVpnSet ∧
    (refreshVPN r w).final.netw.isMeshnetSet = w.netw.isMeshnetSet

/-- Where the refresh borrows the kill switch, it can be set. -/
def Lent (r : Env) (w : World) : Prop :=
  let t := (detectChange r w).final
  (detectChange r w).result = .ok true → w.netw.isVpnSet = true →
    t.netw.isKillSwitchSet = false → (setKillSwitch t.netw.allowlist r t).result = .ok ()

theorem reported_of_lent (h : Lent r w) : Reported r w := by
  have hnotes : wp noteRefresh r any (fun x t => ∃ y, x = .ok y ∧
      (y.1 = none → Clean y.2 ∧ Flags w.netw.isVpnSet w.netw.isMeshnetSet t)) w := by
    have hdetect : wp detectChange r any (fun x t => x = (detectChange r w).result ∧
        t = (detectChange r w).final) w := ⟨fun _ _ => trivial, rfl, rfl⟩
    have hflags : wp detectChange r any
        (fun _ t => Flags w.netw.isVpnSet w.netw.isMeshnetSet t) w :=
      keeps_detectChange (flags_invariant _ _) (fun _ _ h => h) w ⟨rfl, rfl⟩
    refine wp_netw_bind.mpr
      (wp_seq (wp_both hdetect hflags) (fun change t ht => ?_) fun e t ht => ?_)
    · obtain ⟨⟨hchange, rfl⟩, hsame⟩ := ht
      refine wp_ite.mpr ⟨fun hyes => ?_, fun _ => wp_pure.mpr ⟨_, rfl, fun _ => ?_⟩⟩
      · exact noteRecreate_clean hsame (h (hyes ▸ hchange.symm))
      · exact ⟨List.forall_mem_nil _, hsame⟩
    · obtain ⟨a, ha⟩ := (neverFails_detectChange r w).2
      cases ht.1.1.trans ha
  intro hok
  obtain ⟨hfinal, notes, hresult⟩ := noteRefresh_apply r w
  obtain ⟨y, hy, hclean⟩ := hnotes.2
  rw [hresult, hok] at hy
  obtain rfl := Except.ok.inj hy
  rw [reports, hresult, ← hfinal]
  exact hclean rfl

/-- The error of a kill switch that cannot be set is lost. -/
theorem lent_of_reported (h : Reported r w) : Lent r w := by
  intro hchange hvpn hks
  cases hset : (setKillSwitch (detectChange r w).final.netw.allowlist r
      (detectChange r w).final).result with
  | ok u => rfl
  | error e =>
    have hlost : wp noteRefresh r any
        (fun x _ => x = .ok (none, [(.setKillSwitch, some e)])) w := by
      refine wp_netw_bind.mpr (wp_seq (P := fun x t => x = .ok true ∧ t = (detectChange r w).final)
        ⟨fun _ _ => trivial, hchange, rfl⟩ (fun change t ht => ?_) fun _ _ h => by cases h.1)
      obtain ⟨hyes, rfl⟩ := ht
      obtain rfl : change = true := Except.ok.inj hyes
      rw [if_pos rfl, hvpn]
      refine wp_netw_bind.mpr ?_
      rw [if_pos (by rw [hks]; rfl)]
      refine wp_failure_bind.mpr (wp_post (Q := fun x _ => x = .error e)
        ⟨fun _ _ => trivial, hset⟩ fun x t hx => ?_)
      subst hx
      exact wp_pure.mpr rfl
    obtain ⟨-, notes, hresult⟩ := noteRefresh_apply r w
    rw [hlost.2] at hresult
    obtain ⟨hnone, rfl⟩ := Prod.mk.inj (Except.ok.inj hresult)
    obtain ⟨u, hok⟩ := errorOf_eq_none.mp hnone.symm
    have hclean := (h hok).1
    rw [reports, hlost.2] at hclean
    cases hclean _ (List.mem_singleton_self _)

end Reported

/-! ### The borrowed kill switch -/

section Borrowed

variable {w : World}

/-- With the network rules in place only a flag is set. -/
theorem lent_of_isNetworkSet (r : Env) (h : w.netw.isVpnSet = true →
    w.netw.isKillSwitchSet = true ∨ w.netw.isNetworkSet = true) : Lent r w := by
  intro _ hvpn hoff
  have hI : FlagInvariant fun t : World => t.netw.isKillSwitchSet = w.netw.isKillSwitchSet ∧
      t.netw.isNetworkSet = w.netw.isNetworkSet :=
    ⟨⟨fun _ _ => trivial, fun hcore _ ht => ⟨(congrArg Core.isKillSwitchSet hcore).trans ht.1,
      (congrArg Core.isNetworkSet hcore).trans ht.2⟩⟩, fun _ _ h => h, fun _ _ h => h⟩
  obtain ⟨hks, hnetwork⟩ := (keeps_detectChange (r := r) hI (fun _ _ h => h) w ⟨rfl, rfl⟩).2
  generalize (detectChange r w).final = t at *
  have hset : t.netw.isNetworkSet = true := by
    rcases h hvpn with hon | hon
    · cases hoff.symm.trans (hks.trans hon)
    · exact hnetwork.trans hon
  have hlent : wp (setKillSwitch t.netw.allowlist) r any (fun x _ => x = .ok ()) t := by
    refine wp_netw_bind.mpr
      (wp_next (P := any) (wp_when.mpr ⟨fun hnot => ?_, fun _ => ⟨rfl, trivial⟩⟩)
      fun _ _ => wp_setNetw.mpr ⟨trivial, rfl⟩)
    rw [hset] at hnot
    cases hnot
  exact hlent.2

/-- Neither tunnel handles a change of the network, and the devices cannot be listed. -/
def Env.unlisted : Env :=
  { Env.working [] with
    fails := fun _ c => c == .devices || c == .meshNetworkChanged || c == .vpnNetworkChanged }

/-- The procedure fails and leaves the networker as it was. -/
def Refuses (m : Netw Unit) (w : World) : Prop :=
  wp m .unlisted any (fun x t => x ≠ .ok () ∧ t.netw = w.netw) w

theorem Refuses.bind {m : Netw Unit} {f : Unit → Netw Unit} (h : Refuses m w) :
    Refuses (m >>= f) w :=
  wp_seq h (fun _ _ h => absurd rfl h.1) fun _ _ h => ⟨nofun, h.2⟩

theorem refuses_call {c : Call} (hc : Env.unlisted.fails w.log.length c = true) :
    Refuses (call c) w := by
  refine wp_call.mpr ⟨trivial, ?_⟩
  rw [hc]
  exact ⟨nofun, rfl⟩

theorem refuses_handleNetworkChanged (hvpn : w.netw.isVpnSet = true) :
    Refuses handleNetworkChanged w := by
  refine wp_netw_bind.mpr ?_
  cases hmesh : w.netw.isMeshnetSet with
  | true => exact (refuses_call rfl).bind
  | false =>
    rw [hvpn]
    exact wp_pure_bind.mpr (refuses_call rfl).bind

theorem detectChange_unlisted (hvpn : w.netw.isVpnSet = true) :
    wp detectChange .unlisted any
      (fun x t => x = .ok true ∧ t.netw = { w.netw with interfaces := [] }) w := by
  refine wp_netw_bind.mpr ?_
  rw [hvpn, Bool.not_true, Bool.false_and, if_neg Bool.false_ne_true]
  refine wp_ask_bind.mpr (wp_failure_bind.mpr (wp_post (refuses_handleNetworkChanged hvpn) ?_))
  rintro x t ⟨hx, ht⟩
  cases x with
  | ok u => exact absurd rfl hx
  | error e =>
    refine wp_setNetw_bind.mpr (wp_pure.mpr ⟨rfl, ?_⟩)
    rw [World.withNetw_netw, ht]
    rfl

/-- The network rules are not in place and cannot be set. -/
theorem setKillSwitch_unlisted (hnetwork : w.netw.isNetworkSet = false) (allowlist : Allowlist) :
    wp (setKillSwitch allowlist) .unlisted any (fun x _ => x ≠ .ok ()) w := by
  have hblock : wp blockTraffic .unlisted any (fun x _ => x = .error (.external "dependency")) w :=
    wp_seq (P := fun x _ => x = .error (.external "dependency")) (wp_devices.mpr ⟨trivial, rfl⟩)
      (fun _ _ h => by cases h) fun _ _ h => by
        cases h
        rfl
  have hset : wp (setNetwork allowlist) .unlisted any (fun x _ => x ≠ .ok ()) w := by
    refine wp_seq (P := fun x _ => x ≠ .ok ()) (wp_tolerate.mpr (wp_post hblock ?_))
      (fun _ _ h => absurd rfl h) fun _ _ _ => nofun
    rintro x t rfl
    exact nofun
  refine wp_netw_bind.mpr ?_
  rw [hnetwork]
  exact wp_seq hset (fun _ _ h => absurd rfl h) fun _ _ _ => nofun

end Borrowed

/-- **A refresh reports every failed step**, whatever fails, exactly in the states in which
borrowing the kill switch cannot fail: the VPN is off, the kill switch is on, or the network rules
are in place. -/
theorem refresh_reported_iff (w : World) : (∀ r, Reported r w) ↔
    (w.netw.isVpnSet = true → w.netw.isKillSwitchSet = true ∨ w.netw.isNetworkSet = true) := by
  refine ⟨fun h hvpn => ?_, fun h r => reported_of_lent (lent_of_isNetworkSet r h)⟩
  by_contra hnot
  obtain ⟨hks, hnetwork⟩ := not_or.mp hnot
  obtain ⟨-, hchange, hnetw⟩ := detectChange_unlisted hvpn
  have hlent := lent_of_reported (h .unlisted) hchange hvpn
  rw [hnetw] at hlent
  have hset := (setKillSwitch_unlisted (w := (detectChange .unlisted w).final)
    (by rw [hnetw]; simpa using hnetwork) w.netw.allowlist).2
  exact hset (hlent (by simpa using hks))

/-- The VPN is up without its firewall rules, and a new interface appears while the devices cannot
be listed: the kill switch is not set, nothing is refreshed, and no error is returned. -/
theorem refresh_hides_killSwitch :
    let w := ((newCombined (some ⟨"nordlynx", true⟩) 0xe1f1 false true).step
      ⟨.start {} { ip := .ofBytes 1 2 3 4 } {} [] true, Env.working []⟩).step
      ⟨.unsetFirewall, Env.working []⟩
    let r := { Env.working [] with
      defaultRoutes := fun _ => ["eth1"], fails := fun _ c => c == .devices }
    w.netw.isVpnSet = true ∧ (refreshVPN r w).result = .ok () ∧
      reports r w = [(.setKillSwitch, some (.external "dependency"))] := by
  decide

end NordVPN.Networker
