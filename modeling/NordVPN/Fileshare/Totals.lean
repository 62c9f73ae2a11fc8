import NordVPN.Fileshare.Accepting
import NordVPN.Fileshare.Finalizing

/-!
The totals of live transfers.

A live transfer takes its two totals from the storage and its files from the list of the same stored
transfer. From then on they are kept in step: progress adds the difference, and a file that fails is
subtracted and removed. They agree at the start unless the statuses of the stored files were
adjusted after the totals had been computed, which is what happens to a canceled transfer with
unfinished files.
-/

namespace NordVPN.Fileshare

/-! ### Sums over live files -/

namespace LiveTransfer

/-- The sizes of the live files. -/
def sizeSum (tr : LiveTransfer) : Nat := (tr.files.map (·.size.toNat)).sum

/-- The bytes of the live files that were transferred. -/
def transferredSum (tr : LiveTransfer) : Nat := (tr.files.map (·.transferred.toNat)).sum

/-- Both totals are exact, and neither removing a file nor replacing its progress takes away more
than they hold. -/
structure Exact (tr : LiveTransfer) : Prop where
  totalSize : tr.totalSize.toNat = tr.sizeSum
  totalTransferred : tr.totalTransferred.toNat = tr.transferredSum
  le : tr.totalTransferred ≤ tr.totalSize
  size_le : ∀ file ∈ tr.files, file.size ≤ tr.totalSize
  transferred_le : ∀ file ∈ tr.files, file.transferred ≤ tr.totalTransferred

/-- The invariant behind `Exact`. -/
structure Accounted (tr : LiveTransfer) : Prop where
  keyed : tr.Keyed
  totalSize : tr.totalSize.toNat = tr.sizeSum
  totalTransferred : tr.totalTransferred.toNat = tr.transferredSum
  within : ∀ file ∈ tr.files, file.transferred ≤ file.size

variable {tr : LiveTransfer} {file : LiveFile}

/-- A live file and the other ones. -/
theorem Keyed.perm (h : tr.Keyed) (hfile : file ∈ tr.files) :
    tr.files.Perm (file :: tr.files.filter (·.id != file.id)) := by
  have herase : tr.files.erase file = tr.files.filter (·.id != file.id) := by
    rw [(List.Nodup.of_map LiveFile.id h).erase_eq_filter]
    apply List.filter_congr
    intro other hother
    rw [Bool.eq_iff_iff, bne_iff_ne, bne_iff_ne]
    exact ⟨fun hne hid => hne (h.eq hother hfile hid), fun hne heq => hne (congrArg _ heq)⟩
  rw [← herase]
  exact List.perm_cons_erase hfile

/-- A sum over the live files is the part of one file and that of the other ones. -/
theorem Keyed.sum_eq (h : tr.Keyed) (hfile : file ∈ tr.files) (part : LiveFile → Nat) :
    (tr.files.map part).sum =
      part file + ((tr.files.filter (·.id != file.id)).map part).sum := by
  rw [((h.perm hfile).map part).sum_nat, List.map_cons, List.sum_cons]

theorem Accounted.exact (h : tr.Accounted) : tr.Exact := by
  refine ⟨h.totalSize, h.totalTransferred, ?_, ?_, ?_⟩
  · rw [UInt64.le_iff_toNat_le, h.totalSize, h.totalTransferred]
    exact List.sum_le_sum fun file hfile => UInt64.le_iff_toNat_le.mp (h.within file hfile)
  · intro file hfile
    rw [UInt64.le_iff_toNat_le, h.totalSize, sizeSum, h.keyed.sum_eq hfile]
    omega
  · intro file hfile
    rw [UInt64.le_iff_toNat_le, h.totalTransferred, transferredSum, h.keyed.sum_eq hfile]
    omega

theorem accounted_remove (h : tr.Accounted) (hfile : file ∈ tr.files) :
    (removeFileFromLiveTransfer tr file).Accounted := by
  have hsize := h.exact.size_le file hfile
  have htransferred := h.exact.transferred_le file hfile
  refine ⟨keyed_remove h.keyed, ?_, ?_, ?_⟩
  · have hsum := h.keyed.sum_eq hfile (·.size.toNat)
    have htotal := h.totalSize
    rw [sizeSum] at htotal
    rw [removeFileFromLiveTransfer, UInt64.toNat_sub_of_le _ _ hsize, sizeSum]
    dsimp only
    omega
  · have hsum := h.keyed.sum_eq hfile (·.transferred.toNat)
    have htotal := h.totalTransferred
    rw [transferredSum] at htotal
    rw [removeFileFromLiveTransfer, UInt64.toNat_sub_of_le _ _ htransferred, transferredSum]
    dsimp only
    omega
  · intro other hother
    exact h.within other (List.mem_filter.mp hother).1

theorem sum_setFile (new : LiveFile) (hid : new.id = file.id) (part : LiveFile → Nat) :
    ((tr.setFile new).files.map part).sum =
      ((tr.files.filter (·.id != file.id)).map part).sum + part new := by
  simp only [setFile, hid, List.map_append, List.sum_append, List.map_singleton, List.sum_singleton]

/-- Ending a file changes neither total. -/
theorem accounted_finish (h : tr.Accounted) (hfile : file ∈ tr.files) :
    (tr.setFile { file with finished := true }).Accounted := by
  have hsum (part : LiveFile → Nat) (hpart : part { file with finished := true } = part file) :
      ((tr.setFile { file with finished := true }).files.map part).sum =
        (tr.files.map part).sum := by
    rw [sum_setFile _ rfl, h.keyed.sum_eq hfile, hpart, Nat.add_comm]
  refine ⟨keyed_setFile h.keyed, ?_, ?_, ?_⟩
  · rw [sizeSum, hsum _ rfl]
    exact h.totalSize
  · rw [transferredSum, hsum _ rfl]
    exact h.totalTransferred
  · intro other hother
    rcases mem_setFile.mp hother with ⟨hmem, -⟩ | rfl
    · exact h.within other hmem
    · exact h.within file hfile

/-- The difference that progress adds may be negative: the sum in 64 bits is right all the same. -/
theorem accounted_progress (h : tr.Accounted) (hfile : file ∈ tr.files) {transferred : UInt64}
    (hle : transferred ≤ file.size) :
    Accounted { tr.setFile { file with transferred } with
      totalTransferred := tr.totalTransferred + (transferred - file.transferred) } := by
  have hwithin : ∀ other ∈ (tr.setFile { file with transferred }).files,
      other.transferred ≤ other.size := by
    intro other hother
    rcases mem_setFile.mp hother with ⟨hmem, -⟩ | rfl
    · exact h.within other hmem
    · exact hle
  have hsize : ((tr.setFile { file with transferred }).files.map (·.size.toNat)).sum =
      tr.totalSize.toNat := by
    rw [h.totalSize, sizeSum, sum_setFile _ rfl, h.keyed.sum_eq hfile, Nat.add_comm]
  have hbound : ((tr.setFile { file with transferred }).files.map (·.transferred.toNat)).sum ≤
      tr.totalSize.toNat := by
    rw [← hsize]
    exact List.sum_le_sum fun other hother => UInt64.le_iff_toNat_le.mp (hwithin other hother)
  refine ⟨keyed_setFile h.keyed, hsize.symm, ?_, hwithin⟩
  have hnew : ((tr.setFile { file with transferred }).files.map (·.transferred.toNat)).sum =
      ((tr.files.filter (·.id != file.id)).map (·.transferred.toNat)).sum + transferred.toNat :=
    sum_setFile _ rfl _
  have hold := h.keyed.sum_eq hfile (·.transferred.toNat)
  have htotal := h.totalTransferred
  have hlt := tr.totalSize.toNat_lt
  rw [transferredSum] at htotal ⊢
  rw [UInt64.toNat_add, UInt64.toNat_sub]
  dsimp only at hnew hold hbound ⊢
  rw [hnew] at hbound ⊢
  have hfile := file.transferred.toNat_lt
  omega

end LiveTransfer

/-! ### Building a live transfer -/

/-- The bytes of the files that were transferred. -/
def exactTransferred (files : List File) : Nat := (files.map (·.transferred.toNat)).sum

theorem calculateTotals_append (files : List File) (file : File) :
    calculateTotalSizeAndTotalTransferred (files ++ [file]) =
      if isFileTransferred file then
        ((calculateTotalSizeAndTotalTransferred files).1 + file.size,
          (calculateTotalSizeAndTotalTransferred files).2 + file.transferred)
      else calculateTotalSizeAndTotalTransferred files := by
  unfold calculateTotalSizeAndTotalTransferred
  rw [List.foldl_append]
  rfl

/-- The totals in 64 bits are those of the files that count, up to the carry. -/
theorem toNat_calculateTotals (files : List File) :
    (calculateTotalSizeAndTotalTransferred files).1.toNat =
        exactSize (files.filter isFileTransferred) % 2 ^ 64 ∧
      (calculateTotalSizeAndTotalTransferred files).2.toNat =
        exactTransferred (files.filter isFileTransferred) % 2 ^ 64 := by
  induction files using List.reverseRecOn with
  | nil => exact ⟨rfl, rfl⟩
  | append_singleton files file ih =>
    rw [calculateTotals_append, List.filter_append]
    by_cases hcounts : isFileTransferred file = true
    · rw [if_pos hcounts, List.filter_cons_of_pos hcounts, List.filter_nil, UInt64.toNat_add,
        UInt64.toNat_add, ih.1, ih.2]
      simp only [exactSize, exactTransferred, List.map_append, List.sum_append, List.map_singleton,
        List.sum_singleton]
      omega
    · rw [if_neg hcounts, List.filter_cons_of_neg hcounts, List.filter_nil, List.append_nil]
      exact ih

theorem setFile_fresh {tr : LiveTransfer} {file : LiveFile} (h : ∀ lf ∈ tr.files, lf.id ≠ file.id) :
    tr.setFile file = { tr with files := tr.files ++ [file] } := by
  have hall : tr.files.filter (·.id != file.id) = tr.files := by
    rw [List.filter_eq_self]
    intro lf hlf
    exact bne_iff_ne.mpr (h lf hlf)
  rw [LiveTransfer.setFile, hall]

/-- Files with identifiers of their own are added one after the other. -/
theorem addFiles_eq {tr : LiveTransfer} {files : List File} (hnodup : (files.map File.id).Nodup)
    (hfresh : ∀ lf ∈ tr.files, lf.id ∉ files.map File.id) :
    addFiles tr files = { tr with files := tr.files ++ files.map newLiveFile } := by
  induction files generalizing tr with
  | nil =>
    rw [List.map_nil, List.append_nil]
    rfl
  | cons file files ih =>
    rw [List.map_cons, List.nodup_cons] at hnodup
    have hset : tr.setFile (newLiveFile file) =
        { tr with files := tr.files ++ [newLiveFile file] } := by
      apply setFile_fresh
      intro lf hlf heq
      exact hfresh lf hlf (heq ▸ List.mem_cons_self)
    have hrest : ∀ lf ∈ tr.files ++ [newLiveFile file], lf.id ∉ files.map File.id := by
      intro lf hlf
      rcases List.mem_append.mp hlf with hlf | hlf
      · exact fun hmem => hfresh lf hlf (List.mem_cons_of_mem _ hmem)
      · rw [List.mem_singleton.mp hlf]
        exact hnodup.1
    calc addFiles tr (file :: files) = addFiles (tr.setFile (newLiveFile file)) files := rfl
      _ = { tr with files := tr.files ++ [newLiveFile file] ++ files.map newLiveFile } := by
        rw [hset, ih hnodup.2 hrest]
      _ = { tr with files := tr.files ++ (file :: files).map newLiveFile } := by
        rw [List.append_assoc]
        rfl

/-- A stored transfer whose totals are those of its files: the files are told apart by their
identifiers, a canceled transfer has no unfinished file, the sizes can be added up, and no file has
more bytes transferred than its size. -/
structure TransferInfo.Countable (ti : TransferInfo) : Prop where
  nodup : ((filesFromTransferInfo ti).map File.id).Nodup
  settled : ∀ byPeer, ti.states.getLast? = some (.cancel byPeer) →
    ∀ file ∈ filesFromTransferInfo ti, isFileCompleted file = true
  fits : exactSize (filesFromTransferInfo ti) < 2 ^ 64
  within : ∀ file ∈ filesFromTransferInfo ti, file.transferred ≤ file.size

variable {ti : TransferInfo}

/-- Nothing is adjusted in a canceled transfer that has no unfinished file. -/
theorem TransferInfo.Countable.files_eq (h : ti.Countable) :
    (norddropTransferToPBTransfer ti).files = filesFromTransferInfo ti := by
  unfold norddropTransferToPBTransfer determineTransferStatusAndAdjustFileStatuses
  dsimp only
  split
  · rfl
  · rfl
  · rename_i byPeer hlast
    split
    · rfl
    · calc (filesFromTransferInfo ti).map _ = (filesFromTransferInfo ti).map fun file => file :=
          List.map_congr_left fun file hfile => if_pos (h.settled byPeer hlast file hfile)
        _ = filesFromTransferInfo ti := List.map_id' _

theorem TransferInfo.Countable.newLiveTransfer_eq (h : ti.Countable) :
    newLiveTransfer (norddropTransferToPBTransfer ti) =
      { id := ti.id, direction := directionFromTransferInfo ti
        totalSize := (calculateTotalSizeAndTotalTransferred (filesFromTransferInfo ti)).1
        totalTransferred := (calculateTotalSizeAndTotalTransferred (filesFromTransferInfo ti)).2
        files := ((filesFromTransferInfo ti).filter isFileTransferred).map newLiveFile } := by
  have hnodup : (((filesFromTransferInfo ti).filter isFileTransferred).map File.id).Nodup :=
    h.nodup.sublist (List.filter_sublist.map File.id)
  unfold newLiveTransfer
  rw [h.files_eq, addFiles_eq hnodup fun _ hlf => absurd hlf List.not_mem_nil, List.nil_append]
  rfl

theorem accounted_new (h : ti.Countable) :
    (newLiveTransfer (norddropTransferToPBTransfer ti)).Accounted := by
  have hsub : ((filesFromTransferInfo ti).filter isFileTransferred).Sublist
      (filesFromTransferInfo ti) := List.filter_sublist
  have hnodup := h.nodup.sublist (hsub.map File.id)
  have hsize : exactSize ((filesFromTransferInfo ti).filter isFileTransferred) < 2 ^ 64 :=
    Nat.lt_of_le_of_lt (exactSize_mono hsub) h.fits
  have hle : exactTransferred ((filesFromTransferInfo ti).filter isFileTransferred) ≤
      exactSize ((filesFromTransferInfo ti).filter isFileTransferred) :=
    List.sum_le_sum fun file hfile =>
      UInt64.le_iff_toNat_le.mp (h.within file (hsub.subset hfile))
  obtain ⟨htotalSize, htotalTransferred⟩ := toNat_calculateTotals (filesFromTransferInfo ti)
  rw [Nat.mod_eq_of_lt hsize] at htotalSize
  rw [Nat.mod_eq_of_lt (by omega)] at htotalTransferred
  rw [h.newLiveTransfer_eq]
  refine ⟨?_, ?_, ?_, ?_⟩
  · unfold LiveTransfer.Keyed
    rw [List.map_map]
    exact hnodup
  · rw [LiveTransfer.sizeSum, List.map_map]
    exact htotalSize
  · rw [LiveTransfer.transferredSum, List.map_map]
    exact htotalTransferred
  · intro lf hlf
    obtain ⟨file, hfile, rfl⟩ := List.mem_map.mp hlf
    exact h.within file (hsub.subset hfile)

/-! ### Events -/

/-- A live transfer under its own identifier, with totals that are accounted for. -/
def Balanced (id : String) (tr : LiveTransfer) : Prop := tr.id = id ∧ tr.Accounted

/-- What the storage is read for: the live transfer of an identifier that has none. -/
def CountableFor (r : EventEnv) (em : EventManager) (id : String) : Prop :=
  em.liveTransfers id = none → ∀ storage, r.storage = some storage →
    ∀ ti, Storage.find storage id = some ti → ti.Countable

/-- The reported progress is at most the size of the file, in the live transfer and in the storage.
-/
structure ReportWithin (r : EventEnv) (em : EventManager) (transferId fileId : String)
    (transferred : UInt64) : Prop where
  live : ∀ tr, em.liveTransfers transferId = some tr → ∀ file ∈ tr.files, file.id = fileId →
    transferred ≤ file.size
  stored : ∀ storage, r.storage = some storage → ∀ ti, Storage.find storage transferId = some ti →
    ∀ file ∈ filesFromTransferInfo ti, file.id = fileId → transferred ≤ file.size

section

variable {em em' : EventManager} {r : EventEnv} {transferId fileId : String} {tr : LiveTransfer}

/-- The report is within the size of the live file, also of one that the event brings to life. -/
theorem ReportWithin.le {transferred : UInt64} (hcountable : CountableFor r em transferId)
    (hreport : ReportWithin r em transferId fileId transferred)
    (hlive : em.getLiveTransfer r transferId = some (tr, em')) {file : LiveFile}
    (hfile : file ∈ tr.files) (hid : file.id = fileId) : transferred ≤ file.size := by
  rcases EventManager.getLiveTransfer_cases hlive with
    ⟨hfound, rfl⟩ | ⟨hnone, rfl, storage, ti, hstorage, hti, rfl⟩
  · exact hreport.live tr hfound file hfile hid
  · rw [(hcountable hnone storage hstorage ti hti).newLiveTransfer_eq] at hfile
    obtain ⟨stored, hstored, rfl⟩ := List.mem_map.mp hfile
    exact hreport.stored storage hstorage ti hti stored (List.mem_filter.mp hstored).1 hid

/-- What an event leaves of the live transfers: all are balanced, and only the one that the event is
about may have changed. -/
structure Outcome (em : EventManager) (transferId : String) (em' : EventManager) : Prop where
  balanced : em'.Each Balanced
  others : ∀ id, id ≠ transferId → em'.liveTransfers id = em.liveTransfers id

theorem Outcome.of_live {em'' : EventManager} (h : Outcome em transferId em')
    (hlive : em''.liveTransfers = em'.liveTransfers) : Outcome em transferId em'' :=
  ⟨h.balanced.of_live hlive, fun id hid => (congrFun hlive id).trans (h.others id hid)⟩

theorem Outcome.setLive (h : Outcome em transferId em') (htr : Balanced transferId tr) :
    Outcome em transferId (em'.setLive tr) := by
  obtain ⟨rfl, haccounted⟩ := htr
  refine ⟨h.balanced.setLive ⟨rfl, haccounted⟩, ?_⟩
  intro id hid
  rw [EventManager.liveTransfers_setLive, Function.update_of_ne hid]
  exact h.others id hid

theorem Outcome.finalizeTransfer {status : Status} (h : Outcome em transferId em')
    (htr : Balanced transferId tr) :
    Outcome em transferId (em'.finalizeTransfer tr status) ∧
      (em'.finalizeTransfer tr status).liveTransfers transferId = none := by
  obtain ⟨rfl, haccounted⟩ := htr
  refine ⟨⟨h.balanced.finalizeTransfer, ?_⟩, ?_⟩
  · intro id hid
    rw [EventManager.liveTransfers_finalizeTransfer, Function.update_of_ne hid]
    exact h.others id hid
  · rw [EventManager.liveTransfers_finalizeTransfer, Function.update_self]

theorem outcome_getLiveTransfer (h : em.Each Balanced) (hcountable : CountableFor r em transferId)
    (hlive : em.getLiveTransfer r transferId = some (tr, em')) :
    Balanced transferId tr ∧ Outcome em transferId em' := by
  have hsame : Outcome em transferId em := ⟨h, fun _ _ => rfl⟩
  rcases EventManager.getLiveTransfer_cases hlive with
    ⟨hfound, rfl⟩ | ⟨hnone, rfl, storage, ti, hstorage, hti, rfl⟩
  · exact ⟨h transferId tr hfound, hsame⟩
  · have hid : (newLiveTransfer (norddropTransferToPBTransfer ti)).id = transferId := by
      rw [(hcountable hnone storage hstorage ti hti).newLiveTransfer_eq]
      exact Storage.id_of_find hti
    have htr : Balanced transferId (newLiveTransfer (norddropTransferToPBTransfer ti)) :=
      ⟨hid, accounted_new (hcountable hnone storage hstorage ti hti)⟩
    exact ⟨htr, hsame.setLive htr⟩

end

/-! ### Runs -/

/-- The event manager, with the transfers whose last event ended them. -/
structure Ledger where
  em : EventManager := {}
  ended : String → Bool := fun _ => false

/-- An event and what the services around answer to it; the storage may be another one each time. -/
def Ledger.step (s : Ledger) (i : EventEnv × Event) : Ledger :=
  { em := s.em.onEvent i.1 i.2
    ended := Function.update s.ended i.2.transferId i.2.isTerminal }

@[simp] theorem Ledger.ended_step (s : Ledger) (i : EventEnv × Event) :
    (s.step i).ended = Function.update s.ended i.2.transferId i.2.isTerminal := rfl

/-- The condition on a step: live transfers are built from countable ones only, reports are within
the sizes, and the storage loads a finished transfer that is finalized. -/
structure Ledger.Orderly (s : Ledger) (i : EventEnv × Event) : Prop where
  countable : CountableFor i.1 s.em i.2.transferId
  report : ∀ transferId fileId transferred, i.2 = .fileProgress transferId fileId transferred →
    ReportWithin i.1 s.em transferId fileId transferred
  loads : ∀ transferId byPeer, i.2 = .transferFinalized transferId byPeer →
    ∀ tr, s.em.liveTransfers transferId = some tr → isLiveTransferFinished tr = true →
      (getTransferFromStorage transferId i.1.storage).isSome

/-- The totals of all live transfers are exact, and a transfer that is over is not live. -/
structure Ledger.Exact (s : Ledger) : Prop where
  totals : s.em.Each fun _ tr => tr.Exact
  ended : ∀ id, s.ended id = true → s.em.liveTransfers id = none

/-- The invariant behind `Exact`. -/
structure Ledger.Kept (s : Ledger) : Prop where
  balanced : s.em.Each Balanced
  ended : ∀ id, s.ended id = true → s.em.liveTransfers id = none

theorem Ledger.Kept.exact {s : Ledger} (h : s.Kept) : s.Exact :=
  ⟨fun id tr htr => (h.balanced id tr htr).2.exact, h.ended⟩

theorem outcome_onEvent {s : Ledger} {i : EventEnv × Event} (h : s.em.Each Balanced)
    (hi : s.Orderly i) :
    Outcome s.em i.2.transferId (s.em.onEvent i.1 i.2) ∧
      (i.2.isTerminal = true → (s.em.onEvent i.1 i.2).liveTransfers i.2.transferId = none) := by
  obtain ⟨r, ev⟩ := i
  obtain ⟨hcountable, hreport, hloads⟩ := hi
  have hget {tr : LiveTransfer} {em' : EventManager}
      (hlive : s.em.getLiveTransfer r ev.transferId = some (tr, em')) :=
    outcome_getLiveTransfer h hcountable hlive
  have hsame : Outcome s.em ev.transferId s.em := ⟨h, fun _ _ => rfl⟩
  have hgoesOn {ev : Event} (hev : ev.isTerminal = false) {P : Prop} (h : ev.isTerminal = true) :
      P := by
    rw [hev] at h
    cases h
  have hhandles := s.em.handles_onEvent r ev
  generalize s.em.onEvent r ev = after at hhandles
  cases hhandles with
  | request => exact ⟨hsame.of_live rfl, hgoesOn rfl⟩
  | missing hlive => exact ⟨hsame, fun _ => EventManager.live_of_getLiveTransfer hlive⟩
  | noFile hlive hev => exact ⟨(hget hlive).2, hgoesOn hev⟩
  | @fileEnd ev fileId tr tr' em' file hlive hev hends hfile htr' =>
    obtain ⟨⟨hid, htr⟩, hem⟩ := hget hlive
    obtain ⟨hmem, -⟩ := LiveTransfer.mem_of_file hfile
    have hbalanced : Balanced ev.transferId tr' := by
      rcases htr' with rfl | rfl
      · exact ⟨hid, LiveTransfer.accounted_remove htr hmem⟩
      · exact ⟨hid, LiveTransfer.accounted_finish htr hmem⟩
    refine ⟨(hem.setLive hbalanced).of_live ?_, hgoesOn hev⟩
    exact EventManager.liveTransfers_finalizeFinished _ tr'
  | @progress id fileId transferred tr tr' em' em'' file hlive hfile htr' hsent =>
    obtain ⟨⟨hid, htr⟩, hem⟩ := hget hlive
    obtain ⟨hmem, hfileId⟩ := LiveTransfer.mem_of_file hfile
    have hle := (hreport _ _ _ rfl).le hcountable hlive hmem hfileId
    have hbalanced : Balanced id tr' := by
      rw [htr']
      exact ⟨hid, LiveTransfer.accounted_progress htr hmem hle⟩
    have hset := hem.setLive hbalanced
    rcases hsent with rfl | ⟨_, _, -, -, rfl⟩
    · exact ⟨hset, hgoesOn rfl⟩
    · exact ⟨hset.of_live rfl, hgoesOn rfl⟩
  | unread hlive hfinished hfails =>
    -- the transfer was live before: otherwise it was read from the storage just now
    rcases EventManager.getLiveTransfer_cases hlive with
      ⟨hfound, -⟩ | ⟨-, -, storage, ti, hstorage, hti, -⟩
    · have hsome := hloads _ _ rfl _ hfound hfinished
      rw [hfails] at hsome
      cases hsome
    · rw [getTransferFromStorage, hstorage] at hfails
      exact absurd hfails (by simp [hti])
  | failed hlive | finalized hlive =>
    obtain ⟨htr, hem⟩ := hget hlive
    obtain ⟨houtcome, hnone⟩ := hem.finalizeTransfer htr
    exact ⟨houtcome, fun _ => hnone⟩

theorem Ledger.Kept.step {s : Ledger} {i : EventEnv × Event} (h : s.Kept) (hi : s.Orderly i) :
    (s.step i).Kept := by
  obtain ⟨houtcome, hterminal⟩ := outcome_onEvent h.balanced hi
  refine ⟨houtcome.balanced, ?_⟩
  intro id hended
  by_cases hid : id = i.2.transferId
  · subst hid
    rw [Ledger.ended_step, Function.update_self] at hended
    exact hterminal hended
  · rw [Ledger.ended_step, Function.update_of_ne hid] at hended
    exact (houtcome.others id hid).trans (h.ended id hended)

/-- In every run of orderly events the totals of all live transfers are exact, those of a live
transfer that the next event brings to life are so as well, and no transfer is live after its last
event ended it. -/
theorem live_totals_exact {d : String} {s : Ledger}
    (h : Reaches Ledger.step Ledger.Orderly { em := { defaultDownloadDir := d } } s) :
    s.Exact ∧ ∀ i, s.Orderly i → ∀ tr em',
      s.em.getLiveTransfer i.1 i.2.transferId = some (tr, em') → tr.Exact := by
  have hkept : s.Kept := by
    refine h.invariant ⟨?_, ?_⟩ fun _ _ ht hc => ht.step hc
    · intro id tr htr
      cases htr
    · intro id hended
      cases hended
  refine ⟨hkept.exact, ?_⟩
  intro i hi tr em' hlive
  exact (outcome_getLiveTransfer hkept.balanced hi.countable hlive).1.2.exact

/-- A file of ten bytes, of which four were received. -/
def download (states : List TransferState) : TransferInfo :=
  { id := "transfer", kind := .incoming [{ fileId := "a", bytes := 10, states := [.started 4] }]
    states }

/-- Seven bytes are reported. -/
def sevenBytes (states : List TransferState) : EventEnv × Event :=
  ({ storage := some [download states] }, .fileProgress "transfer" "a" 7)

theorem totals_after_progress : (Ledger.step {} (sevenBytes [])).Exact := by
  refine (live_totals_exact (d := "") (.tail (sevenBytes []) .refl ⟨?_, ?_, ?_⟩)).1
  · intro _ storage hstorage ti hti
    cases hstorage
    cases hti
    refine ⟨by decide, ?_, by decide, by decide⟩
    intro byPeer hlast
    cases hlast
  · intro transferId fileId transferred heq
    cases heq
    refine ⟨?_, ?_⟩
    · intro tr htr
      cases htr
    · intro storage hstorage ti hti
      cases hstorage
      cases hti
      decide
  · intro transferId byPeer heq
    cases heq

/-- The same report for a transfer that was canceled: the file is left out of the live transfer, but
its size and its four bytes are in the totals. -/
theorem canceled_file_in_totals :
    let s := Ledger.step {} (sevenBytes [.cancel false])
    (7 : UInt64) ≤ 10 ∧ exactSize (filesFromTransferInfo (download [.cancel false])) < 2 ^ 64 ∧
    ∃ tr, s.em.liveTransfers "transfer" = some tr ∧ tr.files = [] ∧
      tr.totalSize = 10 ∧ tr.totalTransferred = 4 ∧ ¬ tr.Exact := by
  refine ⟨by decide, by decide, _, rfl, by decide, by decide, by decide, ?_⟩
  intro h
  exact absurd h.totalSize (by decide)

end NordVPN.Fileshare
