import NordVPN.Networker.Refresh

/-!
Turning meshnet on and off in the networker.

`setMesh` sets the flag with its last step and `unSetMesh` clears it with its last step, so the flag
follows the result of the call. With working dependencies `setMesh` succeeds on every consistent
map; `unSetMesh` needs a handful of calls only.
-/

namespace NordVPN.Networker

open NordVPN.Netip Prog

section

variable {r : Env} {w : World}

theorem tracks_exec (hadds : r.AddsMesh) (hdeletes : r.DeletesMesh) (op : Op) :
    Keeps r any Tracks op.exec :=
  (tracks_upkeep hadds).exec (fun _ => tracks_meshUpkeep hadds hdeletes) op.allows_any op.lists_any
    fun _ _ _ => trivial

/-! ### The flag -/

/-- `Stop` does not concern meshnet. -/
theorem apiStop_flag :
    wp Api.stop r any (fun _ t => t.netw.isMeshnetSet = w.netw.isMeshnetSet) w := by
  have hkeeps : Keeps r _ _ Op.stop.exec :=
    (meshFlag_upkeep w.netw.isMeshnetSet).exec (F := fun _ => True)
    (fun h => nomatch h) trivial trivial fun _ _ _ => trivial
  exact hkeeps w rfl

/-- `finishMesh` turns the meshnet on when it succeeds, and only then. -/
theorem finishMesh_flag (cfg : MachineMap) (privateKey : String)
    (hoff : w.netw.isMeshnetSet = false) :
    wp (finishMesh cfg privateKey) r any
      (fun x t => t.netw.isMeshnetSet = x.isOk) w := by
  have hquiet := (flag_invariant false).toQuietInvariant
  exact (keeps_ask hquiet _ _ rfl).leads (fun _ _ h => h) (fun _ =>
    (keeps_ask hquiet _ _ rfl).leads (fun _ _ h => h) fun _ =>
      (keeps_call hquiet _ rfl).mapError.leads (fun _ _ h => h) fun _ =>
        ((flag_invariant false).keeps_refresh (fun _ _ h => h) cfg).leads
          (fun _ _ h => h) fun _ _ _ =>
          wp_setNetw.mpr ⟨trivial, rfl⟩) w hoff

/-- A failed `setMesh` leaves the flag as it was. -/
theorem setMesh_flag (cfg : MachineMap) (self : Addr) (privateKey : String) :
    wp (setMesh cfg self privateKey) r any
      (fun x t => t.netw.isMeshnetSet = (x.isOk || w.netw.isMeshnetSet)) w := by
  have hflag := flag_invariant false
  have hrecover (routingRulesSet : Bool) :
      Keeps r any (fun t => t.netw.isMeshnetSet = false)
        (meshRecover routingRulesSet) :=
    keeps_meshRecover hflag.toQuietInvariant (fun _ h => h) hflag.keeps_defaultMeshUnBlock _
  refine wp_netw_bind.mpr ?_
  cases hon : w.netw.isMeshnetSet with
  | true => exact wp_fail.mpr hon
  | false =>
    rw [if_neg Bool.false_ne_true]
    have hprepare : Keeps r any (fun t => t.netw.isMeshnetSet = false)
        (prepareMesh self privateKey) :=
      keeps_prepareMesh hflag.toQuietInvariant (keeps_enableMesh (meshFields_core (P :=
        fun isMeshnetSet _ => isMeshnetSet = false))) _ _
    refine wp_seq ((hrecover false).onError hprepare w hon) (fun _ t ht => ?_) fun _ _ h => h
    exact wp_recover (finishMesh_flag cfg privateKey ht) (fun _ _ hu => hu) fun _ => hrecover true

/-- A failed `unSetMesh` leaves the flag as it was. -/
theorem unSetMesh_flag :
    wp unSetMesh r any
      (fun x t => t.netw.isMeshnetSet = (!x.isOk && w.netw.isMeshnetSet)) w := by
  have hflag := flag_invariant w.netw.isMeshnetSet
  have hquiet := hflag.toQuietInvariant
  refine wp_netw_bind.mpr (wp_ite.mpr ⟨fun _ => ?_, fun _ => wp_fail.mpr rfl⟩)
  -- every step but the last keeps the flag, so an error leaves it
  have hback := fun (_ : Error) (t : World) (ht : t.netw.isMeshnetSet = w.netw.isMeshnetSet) => ht
  exact (keeps_call hquiet _ rfl).mapError.leads hback (fun _ =>
    hflag.keeps_defaultMeshUnBlock.mapError.leads hback fun _ =>
      (keeps_call hquiet _ rfl).mapError.leads hback fun _ =>
        (keeps_call hquiet _ rfl).mapError.guard.leads hback fun _ =>
          (keeps_call hquiet _ rfl).ignore.leads hback fun _ =>
            (keeps_call hquiet _ rfl).ignore.guard.leads hback fun _ =>
              (keeps_call hquiet _ rfl).mapError.leads hback fun _ =>
                (keeps_addDefaultRoute hquiet).guard.leads hback fun _ _ _ =>
                  wp_setNetw.mpr ⟨trivial, rfl⟩) w rfl

/-- The API's `UnSetMesh` first enables local traffic, which `unSetMesh` does not look at. -/
theorem wp_apiUnSetMesh {Q : Except Error Unit → World → Prop}
    (h : ∀ t : World, t.core = w.core → t.netw.isMeshnetSet = w.netw.isMeshnetSet →
      wp unSetMesh r any Q t) :
    wp Api.unSetMesh r any Q w := by
  refine wp_setNetw_bind.mpr ?_
  apply h
  · rfl
  · rfl

theorem apiUnSetMesh_flag :
    wp Api.unSetMesh r any
      (fun x t => t.netw.isMeshnetSet = (!x.isOk && w.netw.isMeshnetSet)) w := by
  refine wp_apiUnSetMesh fun t _ hflag => ?_
  rw [← hflag]
  exact unSetMesh_flag

/-! ### Off -/

/-- With these calls meshnet is off afterwards, whether it was on or not. -/
theorem apiUnSetMesh_off (hr : r.Unsets) (hw : Tracks w) :
    wp Api.unSetMesh r any (fun _ t => t.netw.isMeshnetSet = false) w := by
  refine wp_apiUnSetMesh fun t hcore _ => ?_
  have htracks : Tracks t := tracks_core.stays hcore hw
  cases hon : t.netw.isMeshnetSet with
  | false =>
    refine wp_post unSetMesh_flag fun x u hu => ?_
    rw [hu, hon, Bool.and_false]
  | true =>
    exact wp_post (unSetMesh_unsets hr htracks hon) fun _ _ hu => hu.2.2

/-- An error of `unSetMesh` on a meshnet that is on is not the one for a meshnet that is off. -/
theorem unSetMesh_active (hdeletes : r.DeletesMesh) (hw : Tracks w)
    (hon : w.netw.isMeshnetSet = true) :
    wp unSetMesh r any (fun x _ => ∀ e, x = .error e → isErr .meshNotActive e = false)
      w := by
  have hcall {c : Call} {text : String} :
      Raises r (fun e => isErr .meshNotActive e = false) (context text (call c)) :=
    Raises.mapError (E := fun e => isErr .meshNotActive e = false) (Raises.env.seq <|
      Raises.state.seq <| Raises.update.seq <| Raises.ite (Raises.fail rfl)
        (Raises.pure _)) fun _ h => h
  have hroute : Raises r (fun e => isErr .meshNotActive e = false) addDefaultRoute :=
    Raises.bind (Raises.state.seq <| Raises.pure _) fun _ => Raises.bind
      (Raises.env.seq <| Raises.state.seq <| Raises.update.seq <| Raises.pure _) fun _ => hcall
  refine wp_netw_bind.mpr ?_
  rw [if_pos hon]
  refine wp_seq (wp_both (hcall w) ((keeps_call tracks_core.toQuiet _ rfl).mapError w hw))
    (fun _ t ht => ?_) fun _ _ h => h.1
  refine wp_next (wp_mapError_ok (tracks_defaultMeshUnBlock hdeletes ht.2)) fun u _ => ?_
  exact (hcall.seq <| hcall.when.seq <| Raises.ignore.seq <|
    Raises.ignore.when.seq <| hcall.seq <| hroute.when.seq <| Raises.update) u

/-- `UnSetMesh` with the error for a meshnet that is off counted as success. -/
theorem apiUnSetMesh_tolerated (hdeletes : r.DeletesMesh) (hw : Tracks w) :
    wp (tolerate (isErr .meshNotActive) Api.unSetMesh) r any
      (fun x t => t.netw.isMeshnetSet = (!x.isOk && w.netw.isMeshnetSet)) w := by
  refine wp_tolerate.mpr (wp_apiUnSetMesh fun t hcore hflag => ?_)
  rw [← hflag]
  cases hon : t.netw.isMeshnetSet with
  | false =>
    refine wp_post unSetMesh_flag fun x u hu => ?_
    rw [hu, hon, Bool.and_false, Bool.and_false]
  | true =>
    refine wp_post (wp_both (unSetMesh_active hdeletes (tracks_core.stays hcore hw) hon)
      unSetMesh_flag) ?_
    rintro x u ⟨herror, hu⟩
    cases x with
    | ok _ => exact hu
    | error e =>
      rw [forgive_error, herror e rfl]
      exact hu.trans hon

/-! ### On -/

theorem enableMesh_working (hr : r.Succeeds) (self : Addr) (privateKey : String) :
    Passes r (enableMesh self privateKey) := by
  intro w
  refine wp_returns (a := .ok ()) (wp_attempt.mpr (wp_post
    (Passes.call hr.calls (.meshEnable self privateKey) rfl w)
      ?_)) fun t ht => wp_pure.mpr ⟨rfl, ht⟩
  rintro x t ⟨rfl, ht⟩
  exact ⟨rfl, ht⟩

theorem prepareMesh_working (hr : r.Succeeds) (self : Addr) (privateKey : String) :
    Passes r (prepareMesh self privateKey) :=
  Passes.netw fun _ => (Passes.ignore_call _ rfl).when.seq
    ((enableMesh_working hr self privateKey).seq
    (Passes.netw fun _ => (Passes.addDefaultRoute hr.calls).when.seq
      (Passes.setupRoutingRules hr.calls _ _).context))

theorem finishMesh_working (hr : r.Succeeds) {cfg : MachineMap} (hcfg : cfg.Consistent)
    (privateKey : String) (hw : Tracks w) :
    wp (finishMesh cfg privateKey) r any (fun x _ => x = .ok ()) w := by
  have hquiet := tracks_core.toQuiet
  refine (keeps_ask hquiet _ _ rfl).next (neverFails_ask _ _) hw fun _ t ht => ?_
  refine (keeps_ask hquiet _ _ rfl).next (neverFails_ask _ _) ht fun _ u hu => ?_
  refine (Passes.call hr.calls _ rfl).context.next fun v hv => ?_
  refine wp_seq (refresh_working hr cfg (hv.tracks hu)) (fun _ _ _ => ?_) fun _ _ h => h.mpr hcfg
  exact wp_setNetw.mpr ⟨trivial, rfl⟩

/-- With working dependencies a meshnet that is off can be turned on. -/
theorem setMesh_working (hr : r.Succeeds) {cfg : MachineMap} (hcfg : cfg.Consistent) (self : Addr)
    (privateKey : String) (hw : Tracks w) (hoff : w.netw.isMeshnetSet = false) :
    wp (setMesh cfg self privateKey) r any (fun x _ => x = .ok ()) w := by
  refine wp_netw_bind.mpr ?_
  rw [hoff, if_neg Bool.false_ne_true]
  refine wp_next (wp_recover (prepareMesh_working hr self privateKey w) (fun _ _ h => h)
    fun _ _ h => by cases h.1) fun t ht => ?_
  · refine wp_onError.mpr (wp_post (finishMesh_working hr hcfg privateKey (ht.tracks hw)) ?_)
    rintro x u rfl
    rfl

end

end NordVPN.Networker
