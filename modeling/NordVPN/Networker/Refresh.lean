import NordVPN.Networker.Working

/-!
When a meshnet configuration can be put in force.

`refresh` records each rule it adds in `netw.rules` and refuses to add one that is
recorded. With working dependencies this is all that can go wrong: it succeeds exactly
if no two of the rules that a configuration asks for have the same name.
-/

namespace NordVPN.Networker

open NordVPN.Netip Prog

/-- The names of the rules that a peer asks for, but for the one that blocks the LAN. -/
def MachinePeer.requests (p : MachinePeer) : List String :=
  if p.address.isValid then
    (if p.doIAllowInbound then [allowIncomingName p.publicKey p.address] else []) ++
      (if p.doIAllowFileshare then [allowFileshareName p.publicKey p.address] else [])
  else []

/-- The names of the rules that a configuration asks for. -/
def MachineMap.requests (cfg : MachineMap) : List String :=
  allowIncomingName cfg.publicKey cfg.address :: cfg.peers.flatMap MachinePeer.requests

/-- No rule is asked for twice. -/
def MachineMap.Consistent (cfg : MachineMap) : Prop := cfg.requests.Nodup

/-- The meshnet is off, or can be refreshed. -/
def MeshReady (w : World) : Prop := w.netw.isMeshnetSet = true → w.netw.cfg.Consistent

/-- The names that `refresh` looks up before it adds a rule. -/
inductive Asked : String → Prop where
  | incoming (publicKey : String) (address : Addr) : Asked (allowIncomingName publicKey address)
  | fileshare (publicKey : String) (address : Addr) : Asked (allowFileshareName publicKey address)

/-- Of the names that may be looked up, those in `seen` are recorded. -/
def Recorded (seen : List String) (w : World) : Prop :=
  ∀ n, Asked n → (n ∈ w.netw.rules ↔ n ∈ seen)

variable {w : World}

theorem Recorded.append {seen : List String} {t : World} (h : Recorded seen w)
    {others : List String} {name : String}
    (hrules : t.netw.rules = w.netw.rules ++ others ++ [name]) (hothers : ∀ n ∈ others, ¬ Asked n) :
    Recorded (seen ++ [name]) t := by
  intro n hn
  rw [hrules, List.mem_append, List.mem_append, List.mem_append, h n hn]
  exact or_congr_left (or_iff_left fun hmem => hothers n hmem hn)

theorem not_asked_blockLan (publicKey : String) (address : Addr) :
    ¬ Asked (blockLanName publicKey address) := by
  generalize hn : blockLanName publicKey address = n
  rintro (⟨publicKey', address'⟩ | ⟨publicKey', address'⟩)
  · exact allowIncomingName_ne_blockLan hn.symm
  · exact allowFileshareName_ne_blockLan hn.symm

/-- `m` records `names`, and fails exactly if one of them is recorded by then. -/
def Requests (r : Env) (names : List String) (m : Netw Unit) : Prop :=
  ∀ seen w, seen.Nodup → Tracks w → Recorded seen w → wp m r (fun _ => True) (fun x t =>
    (x = .ok () ↔ (seen ++ names).Nodup) ∧ (x = .ok () → Tracks t ∧ Recorded (seen ++ names) t)) w

namespace Requests

variable {r : Env} {names names' : List String} {m m' : Netw Unit}

/-- What changes nothing records nothing. -/
theorem passes (h : Passes r m) : Requests r [] m := by
  intro seen w hseen hw hrec
  rw [List.append_nil]
  refine wp_post (h w) ?_
  rintro x t ⟨rfl, ht⟩
  exact ⟨⟨fun _ => hseen, fun _ => rfl⟩, fun _ => ⟨ht.tracks hw, fun n hn => ht.netw ▸ hrec n hn⟩⟩

theorem skip : Requests r [] (pure ()) := passes fun w => wp_pure.mpr ⟨rfl, .refl w⟩

theorem seq (h : Requests r names m) (h' : Requests r names' m') :
    Requests r (names ++ names') (m >>= fun _ => m') := by
  intro seen w hseen hw hrec
  refine wp_seq (h seen w hseen hw hrec) (fun _ t ht => ?_) fun e t ht =>
    ⟨⟨nofun, fun hn => ?_⟩, nofun⟩
  · obtain ⟨htracks, hrec'⟩ := ht.2 rfl
    rw [← List.append_assoc]
    exact h' _ t (ht.1.mp rfl) htracks hrec'
  · rw [← List.append_assoc] at hn
    exact nomatch ht.1.mpr hn.of_append_left

theorem when {c : Bool} (h : Requests r names m) :
    Requests r (if c then names else []) (when c m) := by
  cases c with
  | true => exact h
  | false => exact skip

theorem context {text : String} (h : Requests r names m) : Requests r names (context text m) := by
  intro seen w hseen hw hrec
  refine wp_mapError.mpr (wp_post (h seen w hseen hw hrec) fun x t ht => ?_)
  cases x with
  | ok _ => exact ht
  | error e => exact ⟨⟨nofun, fun hn => nomatch ht.1.mpr hn⟩, nofun⟩

theorem forEach {α : Type} {f : α → Netw Unit} {names : α → List String}
    (h : ∀ a, Requests r (names a) (f a)) :
    ∀ xs : List α, Requests r (xs.flatMap names) (forEach f xs)
  | [] => skip
  | a :: xs => (h a).seq (forEach h xs)

/-- A single name. -/
theorem single {name : String} {others : List String} (hr : r.Succeeds) (hasked : Asked name)
    (hothers : ∀ n ∈ others, ¬ Asked n)
    (h : ∀ w, Tracks w → wp m r any (Adds r w name others) w) : Requests r [name] m := by
  intro seen w hseen hw hrec
  have hnodup : (seen ++ [name]).Nodup ↔ name ∉ w.netw.rules := by
    rw [hrec name hasked, List.nodup_append_comm, List.singleton_append, List.nodup_cons]
    exact and_iff_left hseen
  refine wp_post (h w hw) fun x t ht => ?_
  rw [hnodup]
  by_cases hmem : name ∈ w.netw.rules
  · have hx := ht.refused hmem
    exact ⟨iff_of_false hx (not_not_intro hmem), fun h => absurd h hx⟩
  · obtain ⟨hx, hrules⟩ := ht.added (fun n => hr.agent n .add) hmem
    exact ⟨iff_of_true hx hmem, fun _ => ⟨ht.tracks, hrec.append hrules hothers⟩⟩

end Requests

section

variable {r : Env} (hr : r.Succeeds)
include hr

theorem allowIncoming_requests (publicKey : String) (address : Addr) (lanAllowed : Bool) :
    Requests r [allowIncomingName publicKey address]
      (allowIncoming publicKey address lanAllowed) := by
  refine .single hr (.incoming publicKey address) ?_ fun w =>
    allowIncoming_adds hr.addsMesh publicKey address lanAllowed
  split
  · simp
  · simpa using not_asked_blockLan publicKey address

theorem allowFileshare_requests (publicKey : String) (address : Addr) :
    Requests r [allowFileshareName publicKey address] (allowFileshare publicKey address) :=
  .single hr (.fileshare publicKey address) (by simp) fun _ => allowFileshare_adds publicKey address

theorem refreshPeer_requests (p : MachinePeer) : Requests r p.requests (refreshPeer p) :=
  ((allowIncoming_requests hr _ _ _).context.when.seq
    (allowFileshare_requests hr _ _).context.when).when

theorem defaultMeshBlock_working (ip : Addr) (hw : Flushed w) :
    wp (defaultMeshBlock ip) r any (fun x t => x = .ok () ∧ Tracks t ∧ Recorded [] t)
      w := by
  refine wp_post (tracks_defaultMeshBlock hr.addsMesh ip hw) fun x t ht => ?_
  obtain ⟨hx, hrules⟩ := ht.2 fun n => hr.agent n .add
  refine ⟨hx, ht.1, fun n hn => iff_of_false (fun hmem => ?_) List.not_mem_nil⟩
  have hcases : n = meshBlockName ∨ n = meshEstablishedName := by simpa [hrules] using hmem
  cases hn with
  | incoming =>
    exact hcases.elim (peerRuleName_ne_meshBlock .allow _ _)
      (peerRuleName_ne_meshEstablished .allow _ _)
  | fileshare =>
    exact hcases.elim (peerRuleName_ne_meshBlock .fileshare _ _)
      (peerRuleName_ne_meshEstablished .fileshare _ _)

/-- With working dependencies `refresh` succeeds exactly on consistent configurations. -/
theorem refresh_working (cfg : MachineMap) (hw : Tracks w) :
    wp (refresh cfg) r any (fun x _ => x = .ok () ↔ cfg.Consistent) w := by
  refine wp_next (P := Flushed) (wp_ignore.mpr (wp_post
    (tracks_defaultMeshUnBlock hr.deletesMesh hw) fun _ _ h => ⟨rfl, h.2⟩)) fun t ht => ?_
  refine (Passes.call hr.calls _ rfl).ignore.next fun u₁ h₁ =>
    (Passes.call hr.calls _ rfl).ignore.next fun u₂ h₂ =>
    (Passes.call hr.calls _ rfl).context.next fun u₃ h₃ =>
      (Passes.call hr.calls _ rfl).context.next fun u₄ h₄ => ?_
  have hflushed : Flushed u₄ :=
    flushed_core.stays (((h₁.trans h₂).trans h₃).trans h₄).core ht
  refine wp_next (P := Flushed) (wp_setNetw.mpr ⟨trivial, rfl, hflushed⟩) fun u hu => ?_
  refine wp_next (wp_mapError_ok (defaultMeshBlock_working hr _ hu)) ?_
  rintro v ⟨htracks, hrec⟩
  refine wp_post (((allowIncoming_requests hr _ _ _).context.seq
    ((Requests.forEach (refreshPeer_requests hr) cfg.peers).seq (.passes (Passes.netw fun _ =>
      (Passes.call hr.calls _ rfl).seq
        (Passes.call hr.calls _ rfl))))) [] v List.nodup_nil htracks hrec) fun x t h => ?_
  simpa [MachineMap.Consistent, MachineMap.requests] using h.1

/-! ### Meshnets that can be refreshed -/

omit hr in
theorem flag_invariant (on : Bool) : FlagInvariant fun w => w.netw.isMeshnetSet = on :=
  meshFields_flag (P := fun isMeshnetSet _ => isMeshnetSet = on)

omit hr in
theorem tracks_meshOff : CoreInvariant any fun w => Tracks w ∧ w.netw.isMeshnetSet = false :=
  tracks_core.and fun h hw => (congrArg Core.isMeshnetSet h).trans hw

omit hr in
theorem MeshReady.off (h : w.netw.isMeshnetSet = false) : MeshReady w :=
  fun hon => absurd (h.symm.trans hon) (by decide)

/-- `refresh` goes through only with a consistent configuration. -/
theorem finishMesh_ready (cfg : MachineMap) (privateKey : String)
    (hw : Tracks w ∧ w.netw.isMeshnetSet = false) :
    wp (finishMesh cfg privateKey) r any (fun x t =>
      t.netw.isMeshnetSet = false ∨ x = .ok () ∧ MeshReady t) w := by
  have hquiet := tracks_meshOff.toQuiet
  refine (keeps_ask hquiet _ _ rfl).leads (fun _ _ h => .inl h.2) (fun _ =>
    (keeps_ask hquiet _ _ rfl).leads (fun _ _ h => .inl h.2) fun _ =>
      (keeps_call hquiet _ rfl).mapError.leads (fun _ _ h => .inl h.2) fun _ v hv => ?_) w hw
  refine wp_seq (wp_both (wp_and (refresh_working hr cfg hv.1) ((refresh_cfg cfg).ok trivial ()))
    ((flag_invariant false).keeps_refresh (fun _ _ h => h) cfg v hv.2)) ?_ fun _ _ h => .inl h.2
  rintro _ z ⟨⟨hok, hcfg⟩, -⟩
  refine wp_setNetw.mpr ⟨trivial, .inr ⟨rfl, fun _ => ?_⟩⟩
  rw [World.withNetw_netw, hcfg rfl]
  exact hok.mp rfl

/-- Whatever `setMesh` does to a meshnet that is off, it leaves it off or with a
consistent configuration. -/
theorem setMesh_ready (cfg : MachineMap) (self : Addr) (privateKey : String) (hw : Tracks w)
    (hoff : w.netw.isMeshnetSet = false) :
    wp (setMesh cfg self privateKey) r any (fun _ t => MeshReady t) w := by
  have hrecover (routingRulesSet : Bool) {t : World} (ht : t.netw.isMeshnetSet = false) :
      wp (meshRecover routingRulesSet) r any (fun _ u => MeshReady u) t :=
    wp_post (keeps_meshRecover (flag_invariant false).toQuietInvariant (fun _ h => h)
      (flag_invariant false).keeps_defaultMeshUnBlock routingRulesSet t ht) fun _ _ h => .off h
  refine wp_netw_bind.mpr ?_
  rw [if_neg (by simp [hoff])]
  refine wp_seq (P := fun x t => Tracks t ∧ t.netw.isMeshnetSet = false ∨ x ≠ .ok () ∧ MeshReady t)
    (wp_recover (keeps_prepareMesh tracks_meshOff.toQuiet
      (keeps_enableMesh tracks_meshOff) self privateKey w ⟨hw, hoff⟩) (fun _ _ ht => .inl ht)
      fun _ _ ht => wp_post (hrecover false ht.2) fun _ _ h => .inr ⟨nofun, h⟩)
    (fun _ t ht => ?_) fun _ t ht => ?_
  · replace ht := ht.resolve_right fun h => h.1 rfl
    exact wp_recover (finishMesh_ready hr cfg privateKey ht) (fun _ _ hu => hu.elim .off And.right)
      fun _ _ hu => hrecover true (hu.resolve_right fun h => nomatch h.1)
  · exact ht.elim (fun h => .off h.2) And.right

/-- The calls whose errors `unSetMesh` returns succeed. -/
structure Env.Unsets (r : Env) : Prop where
  deletes : r.DeletesMesh
  unsetHosts : ∀ n, r.fails n .unsetHosts = false
  exitNode : ∀ n, r.fails n .exitNodeDisable = false
  cleanup : ∀ n, r.fails n .cleanupRouting = false
  disable : ∀ n, r.fails n .meshDisable = false
  addRoute : ∀ n route, r.fails n (.routerAdd .vpn route) = false

theorem Env.Succeeds.unsets : r.Unsets where
  deletes := hr.deletesMesh
  unsetHosts _ := hr.calls _ _
  exitNode _ := hr.calls _ _
  cleanup _ := hr.calls _ _
  disable _ := hr.calls _ _
  addRoute _ _ := hr.calls _ _

omit hr in
/-- With these calls `unSetMesh` turns the meshnet off. -/
theorem unSetMesh_unsets (hr : r.Unsets) (hw : Tracks w) (hon : w.netw.isMeshnetSet = true) :
    wp unSetMesh r any (fun x t => x = .ok () ∧ Tracks t ∧ t.netw.isMeshnetSet = false) w := by
  refine wp_netw_bind.mpr ?_
  rw [if_pos hon]
  refine (Passes.call_of hr.unsetHosts rfl).context.next fun t ht => ?_
  refine wp_next (wp_mapError_ok (tracks_defaultMeshUnBlock hr.deletes (ht.tracks hw))) fun u hu =>
    ?_
  refine (Passes.call_of hr.exitNode rfl).context.next fun u₁ h₁ => ?_
  refine (Passes.call_of hr.cleanup rfl).context.when.next fun u₂ h₂ => ?_
  refine (Passes.ignore_call _ rfl).next fun u₃ h₃ => ?_
  refine (Passes.ignore_call _ rfl).when.next fun u₄ h₄ => ?_
  refine (Passes.call_of hr.disable rfl).context.next fun u₅ h₅ => ?_
  have hroute : Passes r addDefaultRoute :=
    Passes.netw fun _ => Passes.ask rfl fun _ =>
      (Passes.call_of (fun n => hr.addRoute n _) rfl).context
  refine hroute.when.next fun u₆ h₆ => ?_
  have hsame := ((((h₁.trans h₂).trans h₃).trans h₄).trans h₅).trans h₆
  exact wp_setNetw.mpr ⟨trivial, rfl, hsame.tracks hu.1, rfl⟩

/-- After `remesh` the meshnet can be refreshed, whether or not it came up again. -/
theorem remesh_ready (ip : Addr) (hw : Tracks w) (hon : w.netw.isMeshnetSet = true) :
    wp (remesh ip) r any (fun _ t => MeshReady t) w := by
  refine wp_next (wp_mapError_ok (unSetMesh_unsets hr.unsets hw hon)) fun t ht => ?_
  exact wp_netw_bind.mpr (wp_mapError.mpr (setMesh_ready hr _ _ _ ht.1 ht.2))

end

end NordVPN.Networker
