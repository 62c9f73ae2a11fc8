import Mathlib.Data.List.Nodup
import NordVPN.Fileshare.EventManager
import NordVPN.Lib.Runs

/-!
The automatic finalization of finished transfers (`finalizeFinishedTransfer`).

The decision is taken from the live transfer alone, which was built from the storage at some earlier
event. It is right as long as the live transfer covers the stored one: every stored file that has
not ended is in it, unfinished. A file that is paused when the live transfer is built is left out,
as if it had failed, and so is an unfinished file of a transfer that was canceled.
-/

namespace NordVPN.Fileshare

/-! ### Stored files -/

/-- How far a stored file has come. -/
inductive FileState where
  /-- requested, pending or ongoing -/
  | underway
  /-- paused, or in a state that is not known -/
  | suspended
  /-- completed, failed or rejected -/
  | ended
deriving DecidableEq, Repr

def IncomingPathState.fileState : IncomingPathState → FileState
  | .pending | .started _ => .underway
  | .completed | .failed _ _ | .rejected _ => .ended
  | .paused _ | .unknown => .suspended

def OutgoingPathState.fileState : OutgoingPathState → FileState
  | .started _ => .underway
  | .completed | .failed _ _ | .rejected _ => .ended
  | .paused _ | .unknown => .suspended

/-- The file of a path with the meaning of its last state. -/
def PathInfo.stored {State : Type} (meaning : State → FileState) (path : PathInfo State) :
    String × FileState :=
  (path.fileId, (path.states.getLast?.map meaning).getD .underway)

/-- The files of a transfer, by their identifiers. -/
def TransferInfo.stored (ti : TransferInfo) : List (String × FileState) :=
  match ti.kind with
  | .incoming paths => paths.map (·.stored IncomingPathState.fileState)
  | .outgoing paths => paths.map (·.stored OutgoingPathState.fileState)
  | .unknown => []

/-- A stored transfer from which a live one can be built: its files are told apart by their
identifiers, none is paused, and if the transfer was canceled all have ended. -/
structure TransferInfo.Readable (ti : TransferInfo) : Prop where
  nodup : (ti.stored.map Prod.fst).Nodup
  running : ∀ f ∈ ti.stored, f.2 ≠ .suspended
  canceled : ∀ byPeer, ti.states.getLast? = some (.cancel byPeer) → ∀ f ∈ ti.stored, f.2 = .ended

/-! ### Live transfers -/

namespace LiveTransfer

/-- Identifiers are keys. -/
def Keyed (tr : LiveTransfer) : Prop := (tr.files.map LiveFile.id).Nodup

variable {tr : LiveTransfer} {file lf : LiveFile} {id : String}

theorem mem_of_file (h : tr.file id = some file) : file ∈ tr.files ∧ file.id = id := by
  unfold LiveTransfer.file at h
  exact ⟨List.mem_of_find?_eq_some h, by simpa using List.find?_some h⟩

theorem Keyed.eq (h : tr.Keyed) (hfile : file ∈ tr.files) (hlf : lf ∈ tr.files)
    (hid : file.id = lf.id) : file = lf :=
  List.inj_on_of_nodup_map h hfile hlf hid

theorem mem_setFile :
    lf ∈ (tr.setFile file).files ↔ (lf ∈ tr.files ∧ lf.id ≠ file.id) ∨ lf = file := by
  simp [setFile]

theorem keyed_setFile (h : tr.Keyed) : (tr.setFile file).Keyed := by
  unfold Keyed setFile
  rw [List.map_append, List.nodup_append]
  refine ⟨h.sublist (List.filter_sublist.map _), List.nodup_singleton _, ?_⟩
  intro a ha b hb
  obtain ⟨lf, hlf, rfl⟩ := List.mem_map.mp ha
  rw [List.map_singleton, List.mem_singleton] at hb
  rw [hb]
  simpa using (List.mem_filter.mp hlf).2

theorem keyed_remove (h : tr.Keyed) : (removeFileFromLiveTransfer tr file).Keyed :=
  h.sublist (List.filter_sublist.map _)

end LiveTransfer

variable {tr : LiveTransfer} {ti : TransferInfo} {storage : Storage}
  {ended : List (String × String)} {id : String}

theorem keyed_addFiles (h : tr.Keyed) (files : List File) : (addFiles tr files).Keyed := by
  induction files generalizing tr with
  | nil => exact h
  | cons file files ih => exact ih (LiveTransfer.keyed_setFile h)

theorem mem_addFiles_of_mem {files : List File} {lf : LiveFile} (h : lf ∈ tr.files)
    (hid : lf.id ∉ files.map File.id) : lf ∈ (addFiles tr files).files := by
  induction files generalizing tr with
  | nil => exact h
  | cons file files ih =>
    rw [List.map_cons, List.mem_cons, not_or] at hid
    exact ih (LiveTransfer.mem_setFile.mpr (.inl ⟨h, hid.1⟩)) hid.2

theorem mem_addFiles {files : List File} (hnodup : (files.map File.id).Nodup) {file : File}
    (h : file ∈ files) : newLiveFile file ∈ (addFiles tr files).files := by
  induction files generalizing tr with
  | nil => cases h
  | cons first files ih =>
    rw [List.map_cons, List.nodup_cons] at hnodup
    rcases List.mem_cons.mp h with rfl | h
    · have hset : newLiveFile file ∈ (tr.setFile (newLiveFile file)).files :=
        LiveTransfer.mem_setFile.mpr (.inr rfl)
      exact @mem_addFiles_of_mem _ files _ hset hnodup.1
    · exact ih hnodup.2 h

/-! ### Reading the storage -/

theorem incoming_underway {path : PathInfo IncomingPathState}
    (h : (path.stored IncomingPathState.fileState).2 = .underway) :
    isFileCompleted (norddropIncomingPathToPBFile path) = false := by
  unfold PathInfo.stored at h
  unfold isFileCompleted norddropIncomingPathToPBFile statusFromIncomingPath
  cases hlast : path.states.getLast? with
  | none => rfl
  | some state =>
    rw [hlast] at h
    cases state <;> first | rfl | cases h

theorem outgoing_underway {path : PathInfo OutgoingPathState}
    (h : (path.stored OutgoingPathState.fileState).2 = .underway) :
    isFileCompleted (norddropOutgoingPathToPBFile path) = false := by
  unfold PathInfo.stored at h
  unfold isFileCompleted norddropOutgoingPathToPBFile statusFromOutgoingPath
  cases hlast : path.states.getLast? with
  | none => rfl
  | some state =>
    rw [hlast] at h
    cases state <;> first | rfl | cases h

/-- The file of a path that is underway is not completed. -/
theorem not_completed_of_underway {f : String × FileState} (hf : f ∈ ti.stored)
    (hstate : f.2 = .underway) :
    ∃ file ∈ filesFromTransferInfo ti, file.id = f.1 ∧ isFileCompleted file = false := by
  obtain ⟨id, kind, states⟩ := ti
  cases kind with
  | incoming paths =>
    obtain ⟨path, hpath, rfl⟩ := List.mem_map.mp hf
    exact ⟨norddropIncomingPathToPBFile path, List.mem_map_of_mem hpath, rfl,
      incoming_underway hstate⟩
  | outgoing paths =>
    obtain ⟨path, hpath, rfl⟩ := List.mem_map.mp hf
    exact ⟨norddropOutgoingPathToPBFile path, List.mem_map_of_mem hpath, rfl,
      outgoing_underway hstate⟩
  | unknown => cases hf

theorem map_id_filesFromTransferInfo (ti : TransferInfo) :
    (filesFromTransferInfo ti).map File.id = ti.stored.map Prod.fst := by
  obtain ⟨id, kind, states⟩ := ti
  cases kind with
  | incoming paths | outgoing paths =>
    simp only [filesFromTransferInfo, TransferInfo.stored, List.map_map]
    rfl
  | unknown => rfl

/-- The statuses are adjusted only if the transfer was canceled. -/
theorem files_of_not_canceled (h : ∀ byPeer, ti.states.getLast? ≠ some (.cancel byPeer)) :
    (norddropTransferToPBTransfer ti).files = filesFromTransferInfo ti := by
  unfold norddropTransferToPBTransfer determineTransferStatusAndAdjustFileStatuses
  dsimp only
  split
  · rfl
  · rfl
  · exact absurd ‹_› (h _)

/-- What a live transfer says about the stored one: each of its files is unfinished in the live
transfer, has ended in the storage, or has ended by an event. -/
structure Covers (storage : Storage) (ended : List (String × String)) (id : String)
    (tr : LiveTransfer) : Prop where
  id_eq : tr.id = id
  keyed : tr.Keyed
  covered : tr.direction = .incoming → ∀ ti, storage.find id = some ti → ∀ f ∈ ti.stored,
    (∃ lf ∈ tr.files, lf.id = f.1 ∧ lf.finished = false) ∨ f.2 = .ended ∨ (id, f.1) ∈ ended

/-- A live transfer that is built from a readable one covers it. -/
theorem covers_new (hti : storage.find id = some ti)
    (hreadable : directionFromTransferInfo ti = .incoming → ti.Readable) :
    Covers storage ended id (newLiveTransfer (norddropTransferToPBTransfer ti)) := by
  unfold newLiveTransfer
  constructor
  · rw [addFiles_id]
    exact Storage.id_of_find hti
  · apply keyed_addFiles
    exact List.nodup_nil
  · rw [addFiles_direction]
    intro hincoming ti' hti' f hf
    obtain rfl : ti = ti' := Option.some.inj (hti.symm.trans hti')
    have hreadable := hreadable hincoming
    by_cases hended : f.2 = .ended
    · exact .inr (.inl hended)
    · have hcanceled (byPeer : Bool) : ti.states.getLast? ≠ some (.cancel byPeer) :=
        fun h => hended (hreadable.canceled byPeer h f hf)
      have hunderway : f.2 = .underway := by
        have hrunning := hreadable.running f hf
        cases hf2 : f.2 with
        | underway => rfl
        | suspended => exact absurd hf2 hrunning
        | ended => exact absurd hf2 hended
      obtain ⟨file, hfile, hid, hcompleted⟩ := not_completed_of_underway hf hunderway
      have hmem : file ∈ (norddropTransferToPBTransfer ti).files.filter isFileTransferred := by
        rw [files_of_not_canceled hcanceled]
        exact List.mem_filter.mpr ⟨hfile, by simp [isFileTransferred, hcompleted]⟩
      have hnodup : (((norddropTransferToPBTransfer ti).files.filter isFileTransferred).map
          File.id).Nodup := by
        rw [files_of_not_canceled hcanceled]
        refine List.Nodup.sublist (List.filter_sublist.map _) ?_
        rw [map_id_filesFromTransferInfo]
        exact hreadable.nodup
      exact .inl ⟨newLiveFile file, mem_addFiles hnodup hmem, hid, hcompleted⟩

theorem Covers.mono {ended' : List (String × String)} (h : Covers storage ended id tr)
    (hsub : ended ⊆ ended') :
    Covers storage ended' id tr :=
  ⟨h.id_eq, h.keyed, fun hincoming ti hti f hf =>
    (h.covered hincoming ti hti f hf).imp_right fun h => h.imp_right fun h => hsub h⟩

/-- A file that ended by an event may be finished, or removed. -/
theorem Covers.endFile {tr' : LiveTransfer} (h : Covers storage ended id tr) {fileId : String}
    (hended : (id, fileId) ∈ ended) (hid : tr'.id = tr.id)
    (hdirection : tr'.direction = tr.direction)
    (hkeyed : tr'.Keyed) (hothers : ∀ lf ∈ tr.files, lf.id ≠ fileId → lf ∈ tr'.files) :
    Covers storage ended id tr' := by
  refine ⟨hid.trans h.id_eq, hkeyed, fun hincoming ti hti f hf => ?_⟩
  rcases h.covered (hdirection ▸ hincoming) ti hti f hf with ⟨lf, hlf, hlfid, hfinished⟩ | h
  · by_cases hfile : lf.id = fileId
    · exact .inr (.inr (hlfid ▸ hfile ▸ hended))
    · exact .inl ⟨lf, hothers lf hlf hfile, hlfid, hfinished⟩
  · exact .inr h

/-- The progress of a file does not finish it. -/
theorem Covers.progress {tr' : LiveTransfer} (h : Covers storage ended id tr) {fileId : String}
    {file : LiveFile} (hfile : tr.file fileId = some file) {transferred total : UInt64}
    (htr' : tr' = { tr.setFile { file with transferred } with totalTransferred := total }) :
    Covers storage ended id tr' := by
  subst htr'
  obtain ⟨hmem, -⟩ := LiveTransfer.mem_of_file hfile
  refine ⟨h.id_eq, LiveTransfer.keyed_setFile h.keyed, fun hincoming ti hti f hf => ?_⟩
  rcases h.covered hincoming ti hti f hf with ⟨lf, hlf, hlfid, hfinished⟩ | h'
  · by_cases heq : lf.id = file.id
    · -- the live file of an identifier is the one that progresses
      obtain rfl := h.keyed.eq hmem hlf heq.symm
      exact .inl ⟨_, LiveTransfer.mem_setFile.mpr (.inr rfl), hlfid, hfinished⟩
    · exact .inl ⟨lf, LiveTransfer.mem_setFile.mpr (.inl ⟨hlf, heq⟩), hlfid, hfinished⟩
  · exact .inr h'

/-- If the live transfer is finished, all files have ended. -/
theorem Covers.ended_of_finished (h : Covers storage ended id tr)
    (hfinished : isLiveTransferFinished tr = true) (hincoming : tr.direction = .incoming)
    (hti : storage.find id = some ti) {f : String × FileState}
    (hf : f ∈ ti.stored) : f.2 = .ended ∨ (id, f.1) ∈ ended := by
  rcases h.covered hincoming ti hti f hf with ⟨lf, hlf, -, hunfinished⟩ | h
  · have hall := List.all_eq_true.mp hfinished lf hlf
    exact absurd (hunfinished.symm.trans hall) Bool.false_ne_true
  · exact h

/-! ### The event manager -/

/-- Every live transfer covers the stored one. -/
def EventManager.Sees (storage : Storage) (ended : List (String × String)) (em : EventManager) :
    Prop :=
  ∀ id tr, em.liveTransfers id = some tr → Covers storage ended id tr

section Sees

variable {storage : Storage} {ended : List (String × String)} {em em' : EventManager}

/-- What the storage is read for: the live transfer of an identifier that has none. -/
def ReadableFor (storage : Storage) (em : EventManager) (id : String) : Prop :=
  em.liveTransfers id = none → ∀ ti, storage.find id = some ti →
    directionFromTransferInfo ti = .incoming → ti.Readable

theorem getLiveTransfer_sees {r : EventEnv} {id : String} {tr : LiveTransfer}
    (hstorage : r.storage = none ∨ r.storage = some storage) (h : em.Sees storage ended)
    (hreadable : ReadableFor storage em id) (hlive : em.getLiveTransfer r id = some (tr, em')) :
    Covers storage ended id tr ∧ em'.Sees storage ended ∧ em'.finalized = em.finalized := by
  rcases EventManager.getLiveTransfer_cases hlive with
    ⟨hfound, rfl⟩ | ⟨hnone, rfl, stored, ti, hload, hti, rfl⟩
  · exact ⟨h id tr hfound, h, rfl⟩
  · rcases hstorage with hnothing | hsome
    · rw [hnothing] at hload
      cases hload
    · obtain rfl : storage = stored := Option.some.inj (hsome.symm.trans hload)
      have hcovers : Covers storage ended id (newLiveTransfer (norddropTransferToPBTransfer ti)) :=
        covers_new hti (hreadable hnone ti hti)
      refine ⟨hcovers, EventManager.Each.setLive h ?_, rfl⟩
      rw [hcovers.id_eq]
      exact hcovers

/-- What an event leaves: the live transfers still cover the stored ones, and a transfer that was
finalized automatically has ended. -/
structure Handled (storage : Storage) (ended : List (String × String)) (em em' : EventManager) :
    Prop where
  sees : em'.Sees storage ended
  finalized : em'.finalized = em.finalized ∨ ∃ id, em'.finalized = id :: em.finalized ∧
    ∀ ti, storage.find id = some ti → ∀ f ∈ ti.stored, f.2 = .ended ∨ (id, f.1) ∈ ended

theorem handled_finalizeFinished {tr : LiveTransfer} {id : String} (hsees : em'.Sees storage ended)
    (hfinalized : em'.finalized = em.finalized) (hcovers : Covers storage ended id tr) :
    Handled storage ended em ((em'.setLive tr).finalizeFinishedTransfer tr) := by
  have hset : (em'.setLive tr).Sees storage ended :=
    EventManager.Each.setLive hsees (hcovers.id_eq.symm ▸ hcovers)
  unfold EventManager.finalizeFinishedTransfer
  split
  · rename_i hfinished
    rw [Bool.and_eq_true, beq_iff_eq] at hfinished
    refine ⟨EventManager.Each.of_live hset rfl, .inr ⟨id, ?_, ?_⟩⟩
    · rw [← hfinalized, ← hcovers.id_eq]
      rfl
    · intro ti hti f hf
      exact hcovers.ended_of_finished hfinished.1 hfinished.2 hti hf
  · exact ⟨hset, .inl hfinalized⟩

/-- Ending the file in the live transfer keeps the others. -/
theorem Covers.of_fileEnd {id fileId : String} {tr tr' : LiveTransfer} {file : LiveFile}
    (h : Covers storage ended id tr) (hended : (id, fileId) ∈ ended)
    (hfile : tr.file fileId = some file)
    (htr' : tr' = removeFileFromLiveTransfer tr file ∨
      tr' = tr.setFile { file with finished := true }) :
    Covers storage ended id tr' := by
  obtain ⟨-, hid⟩ := LiveTransfer.mem_of_file hfile
  rcases htr' with rfl | rfl
  · refine h.endFile hended rfl rfl (LiveTransfer.keyed_remove h.keyed) ?_
    intro lf hlf hne
    exact List.mem_filter.mpr ⟨hlf, by simpa [hid] using hne⟩
  · refine h.endFile hended rfl rfl (LiveTransfer.keyed_setFile h.keyed) ?_
    intro lf hlf hne
    exact LiveTransfer.mem_setFile.mpr (.inl ⟨hlf, hid.symm ▸ hne⟩)

end Sees

/-! ### Runs -/

/-- The fileshare process with the storage, and the files for which an event that ends them was
handled. -/
structure Session where
  em : EventManager := {}
  storage : Storage
  ended : List (String × String) := []

inductive Move where
  /-- an event; the storage is the current one, unless it does not load -/
  | event (ev : Event) (r : EventEnv) (loads : Bool)
  /-- the process is restarted -/
  | restart
  /-- libdrop changes what it stores -/
  | store (storage : Storage)

/-- What the event manager is given at an event. -/
def Session.env (s : Session) (r : EventEnv) (loads : Bool) : EventEnv :=
  { r with storage := if loads then some s.storage else none }

def Session.step (s : Session) : Move → Session
  | .event ev r loads =>
      { s with em := s.em.onEvent (s.env r loads) ev, ended := ev.ends ++ s.ended }
  | .restart => { s with em := { defaultDownloadDir := s.em.defaultDownloadDir } }
  | .store storage => { s with storage }

/-- Live transfers keep their files in the storage, and a file that has ended stays so. -/
def StoreKeeps (s : Session) (storage : Storage) : Prop :=
  ∀ id tr, s.em.liveTransfers id = some tr → ∀ ti', storage.find id = some ti' →
    ∃ ti, s.storage.find id = some ti ∧
      ∀ f' ∈ ti'.stored, ∃ f ∈ ti.stored, f.1 = f'.1 ∧ (f.2 = .ended → f'.2 = .ended)

/-- The condition on a step: live transfers are built from readable ones only, and the storage does
not take back what it stored about a live transfer. -/
def Session.Sound (s : Session) : Move → Prop
  | .event ev _ _ => ReadableFor s.storage s.em ev.transferId
  | .restart => True
  | .store storage => StoreKeeps s storage

theorem handled_onEvent {s : Session} {ev : Event} {r : EventEnv} {loads : Bool}
    (h : s.em.Sees s.storage s.ended) (hreadable : ReadableFor s.storage s.em ev.transferId) :
    Handled s.storage (ev.ends ++ s.ended) s.em (s.em.onEvent (s.env r loads) ev) := by
  have hsees : s.em.Sees s.storage (ev.ends ++ s.ended) := fun id tr htr =>
    (h id tr htr).mono fun _ hmem => List.mem_append_right _ hmem
  have hstorage : (s.env r loads).storage = none ∨ (s.env r loads).storage = some s.storage := by
    cases loads with
    | true => exact .inr rfl
    | false => exact .inl rfl
  have hget {tr : LiveTransfer} {em' : EventManager}
      (hlive : s.em.getLiveTransfer (s.env r loads) ev.transferId = some (tr, em')) :=
    getLiveTransfer_sees hstorage hsees hreadable hlive
  have hhandles := s.em.handles_onEvent (s.env r loads) ev
  generalize s.em.onEvent (s.env r loads) ev = after at hhandles
  cases hhandles with
  | request => exact ⟨EventManager.Each.of_live hsees rfl, .inl rfl⟩
  | missing hlive => exact ⟨hsees, .inl rfl⟩
  | noFile hlive | unread hlive =>
    obtain ⟨-, hsees', hfinalized⟩ := hget hlive
    exact ⟨hsees', .inl hfinalized⟩
  | fileEnd hlive hev hends hfile htr' =>
    obtain ⟨hcovers, hsees', hfinalized⟩ := hget hlive
    have hended : (ev.transferId, _) ∈ ev.ends ++ s.ended :=
      List.mem_append_left _ (hends ▸ List.mem_cons_self)
    exact handled_finalizeFinished hsees' hfinalized (hcovers.of_fileEnd hended hfile htr')
  | progress hlive hfile htr' hsent =>
    obtain ⟨hcovers, hsees', hfinalized⟩ := hget hlive
    have hcovers' := hcovers.progress hfile htr'
    have hset := EventManager.Each.setLive hsees' (hcovers'.id_eq.symm ▸ hcovers')
    rcases hsent with rfl | ⟨_, _, -, -, rfl⟩
    · exact ⟨hset, .inl hfinalized⟩
    · exact ⟨EventManager.Each.of_live hset rfl, .inl hfinalized⟩
  | failed hlive | finalized hlive =>
    obtain ⟨-, hsees', hfinalized⟩ := hget hlive
    refine ⟨EventManager.Each.finalizeTransfer hsees', .inl ?_⟩
    rw [EventManager.finalized_finalizeTransfer, hfinalized]

theorem sees_step {s : Session} {move : Move} (h : s.em.Sees s.storage s.ended)
    (hsound : s.Sound move) :
    (s.step move).em.Sees (s.step move).storage (s.step move).ended := by
  cases move with
  | event ev r loads => exact (handled_onEvent h hsound).sees
  | restart => exact fun _ _ htr => nomatch htr
  | store storage =>
    intro id tr htr
    have hcovers := h id tr htr
    refine ⟨hcovers.id_eq, hcovers.keyed, fun hincoming ti' hti' f' hf' => ?_⟩
    obtain ⟨ti, hti, hfiles⟩ := hsound id tr htr ti' hti'
    obtain ⟨f, hf, hid, hended⟩ := hfiles f' hf'
    rw [← hid]
    exact (hcovers.covered hincoming ti hti f hf).imp_right fun h => h.imp_left hended

/-- A transfer is finalized automatically only when each of its files has ended, if every live
transfer was built while no file of the stored one was paused or canceled with it. -/
theorem finalized_only_when_ended {storage : Storage} {s : Session} {d : String}
    (h : Reaches Session.step Session.Sound { em := { defaultDownloadDir := d }, storage } s)
    {move : Move} (hsound : s.Sound move) {id : String}
    (hfinalized : (s.step move).em.finalized = id :: s.em.finalized) {ti : TransferInfo}
    (hti : s.storage.find id = some ti) :
    ∀ f ∈ ti.stored, f.2 = .ended ∨ (id, f.1) ∈ (s.step move).ended := by
  have hsees : s.em.Sees s.storage s.ended :=
    h.invariant (I := fun s => s.em.Sees s.storage s.ended) (fun _ _ htr => nomatch htr)
      fun _ _ ht hc => sees_step ht hc
  cases move with
  | event ev r loads =>
    rcases (handled_onEvent (r := r) hsees hsound).finalized with hsame | ⟨id', hnew, hended⟩
    · exact absurd (hsame.symm.trans hfinalized) (List.cons_ne_self _ _).symm
    · obtain rfl : id' = id := (List.cons.inj (hnew.symm.trans hfinalized)).1
      exact hended ti hti
  | restart => cases hfinalized
  | store storage => exact absurd hfinalized (List.cons_ne_self _ _).symm

/-- A transfer of two files; one is being downloaded. -/
def halfDone (other : IncomingPathState) : TransferInfo :=
  { id := "transfer", kind := .incoming
      [{ fileId := "a", states := [.pending, .started 0] }, { fileId := "b", states := [other] }] }

/-- The move that ends the download. -/
def downloaded : Move := .event (.fileDownloaded "transfer" "a") { storage := none } true

theorem finalized_after_both_files :
    (halfDone .completed).stored.Forall fun f => f.2 = .ended ∨
      ("transfer", f.1) ∈ (Session.step { storage := [halfDone .completed] } downloaded).ended := by
  apply List.forall_iff_forall_mem.mpr
  refine finalized_only_when_ended (d := "") .refl ?_ (by decide) (by decide)
  intro _ ti hti _
  obtain rfl : halfDone .completed = ti := Option.some.inj hti
  exact ⟨by decide, by decide, fun _ h => nomatch h⟩

/-- After a restart a file is paused, and the other one is downloaded: the transfer is finalized,
and the paused file is lost with it. -/
theorem paused_file_finalized :
    let s : Session := { storage := [halfDone (.paused 5)] }
    (s.step downloaded).em.finalized = ["transfer"] ∧
    ("b", .suspended) ∈ (halfDone (.paused 5)).stored ∧
    ("transfer", "b") ∉ (s.step downloaded).ended := by
  refine ⟨by decide, by decide, by decide⟩

end NordVPN.Fileshare
