import Mathlib.Algebra.Order.BigOperators.Group.List
import Mathlib.Algebra.Order.Ring.Nat
import Mathlib.Data.UInt
import NordVPN.Fileshare.EventManager

/-!
Accepted transfers and the space on the disk (`acceptTransfer`, `Server.Accept`).

The sizes of the files are announced by the peer and added up in 64 bits. The free space is a
product in 64 bits too, but there a carry that is lost makes the space smaller only. A carry that is
lost in the sum of the sizes makes a transfer fit that does not.
-/

namespace NordVPN.Fileshare

open EventManager

/-- The files that `Server.Accept` accepts if they are in the request: those of which a path of the
request is the beginning. -/
def isAccepted (filePaths : List String) (file : File) : Bool :=
  filePaths.isEmpty || filePaths.any file.hasPathPrefix

/-- `Server.Accept` for a transfer that `acceptTransfer` lets pass: the files that are accepted. -/
def accept (r : EventEnv) (tr : Transfer) (filePaths : List String) : List File :=
  acceptFiles r tr (isAccepted filePaths)

/-! ### Sizes -/

/-- The sum of the sizes, without a bound. -/
def exactSize (files : List File) : Nat := (files.map (·.size.toNat)).sum

/-- The sizes of the files as the paths of a request list them. -/
def announcedSize (tr : Transfer) (filePaths : List String) : Nat :=
  if filePaths.isEmpty then exactSize tr.files
  else (filePaths.map fun filePath => exactSize (getTransferFilesByPathPrefix tr filePath)).sum

theorem exactSize_append (files files' : List File) :
    exactSize (files ++ files') = exactSize files + exactSize files' := by
  simp [exactSize]

variable {files : List File} {tr : Transfer} {filePaths : List String}

theorem exactSize_mono {files' : List File} (h : files.Sublist files') :
    exactSize files ≤ exactSize files' :=
  (h.map _).sum_le_sum fun _ _ => Nat.zero_le _

/-- The sum in 64 bits is the exact one up to the carry. -/
theorem toNat_totalSize (files : List File) :
    (totalSize files).toNat = exactSize files % 2 ^ 64 := by
  have hfold (total : UInt64) : (files.foldl (fun total file => total + file.size) total).toNat =
      (total.toNat + exactSize files) % 2 ^ 64 := by
    induction files generalizing total with
    | nil =>
      have hlt := total.toNat_lt
      simp only [List.foldl_nil, exactSize, List.map_nil, List.sum_nil, Nat.add_zero]
      omega
    | cons file files ih =>
      rw [List.foldl_cons, ih, UInt64.toNat_add]
      simp only [exactSize, List.map_cons, List.sum_cons]
      omega
  simpa [totalSize] using hfold 0

theorem exactSize_filesByPaths (h : filesByPaths tr filePaths = .ok files) :
    exactSize files =
      (filePaths.map fun filePath => exactSize (getTransferFilesByPathPrefix tr filePath)).sum := by
  induction filePaths generalizing files with
  | nil =>
    cases h
    rfl
  | cons filePath rest ih =>
    unfold filesByPaths at h
    dsimp only at h
    split at h
    · cases h
    · split at h
      · cases h
      · rename_i others hothers
        cases h
        rw [exactSize_append, ih hothers, List.map_cons, List.sum_cons]

theorem exactSize_filesToAccept
    (h : filesToAccept tr filePaths = .ok files) :
    exactSize files = announcedSize tr filePaths := by
  unfold filesToAccept at h
  unfold announcedSize
  split at h
  · cases h
    rw [if_pos ‹_›]
  · rw [if_neg ‹_›]
    exact exactSize_filesByPaths h

/-! ### The check -/

/-- A request for files of the transfer is not refused for what it names: the transfer is incoming
and waits to be accepted, and every path of the request is the beginning of a file's. -/
structure Acceptable (tr : Transfer) (filePaths : List String) : Prop where
  incoming : tr.direction = .incoming
  requested : tr.status = .requested
  found : ∀ filePath ∈ filePaths, getTransferFilesByPathPrefix tr filePath ≠ []

theorem checkTransfer_eq_ok :
    checkTransfer tr = .ok () ↔ tr.direction = .incoming ∧ tr.status = .requested := by
  unfold checkTransfer
  constructor
  · intro h
    split at h
    · cases h
    · rename_i hdirection
      split at h
      · cases h
      · split at h
        · cases h
        · split at h
          · cases h
          · exact ⟨not_not.mp hdirection, not_not.mp ‹_›⟩
  · rintro ⟨hdirection, hstatus⟩
    simp [hdirection, hstatus]

theorem exists_filesByPaths : (∃ files, filesByPaths tr filePaths = .ok files) ↔
      ∀ filePath ∈ filePaths, getTransferFilesByPathPrefix tr filePath ≠ [] := by
  induction filePaths with
  | nil => exact ⟨fun _ _ h => (nomatch h), fun _ => ⟨[], rfl⟩⟩
  | cons filePath rest ih =>
    unfold filesByPaths
    dsimp only
    rw [List.forall_mem_cons, ← ih, ← List.isEmpty_eq_false_iff]
    cases (getTransferFilesByPathPrefix tr filePath).isEmpty with
    | true => simp
    | false =>
      cases filesByPaths tr rest with
      | error e => simp
      | ok files => simp

theorem exists_filesToAccept : (∃ files, filesToAccept tr filePaths = .ok files) ↔
      ∀ filePath ∈ filePaths, getTransferFilesByPathPrefix tr filePath ≠ [] := by
  unfold filesToAccept
  cases filePaths with
  | nil => exact ⟨fun _ _ h => (nomatch h), fun _ => ⟨tr.files, rfl⟩⟩
  | cons filePath rest => exact exists_filesByPaths

/-- What a transfer that is let pass has met. -/
structure Passed (em : EventManager) (r : EventEnv) (transferID path : String)
    (filePaths : List String) (tr : Transfer) (statfs : Statfs) : Prop where
  transfer : em.getTransfer r.storage transferID = some tr
  acceptable : Acceptable tr filePaths
  space : announcedSize tr filePaths % 2 ^ 64 ≤ (statfs.bavail * statfs.bsize.toUInt64).toNat

theorem passed_of_acceptTransfer {em : EventManager} {r : EventEnv} {transferID path : String}
    {statfs : Statfs} (h : em.acceptTransfer r transferID path filePaths = .ok tr)
    (hstatfs : r.statfs path = some statfs) :
    Passed em r transferID path filePaths tr statfs := by
  unfold acceptTransfer at h
  cases hdirectory : checkDirectory r path with
  | error e =>
    rw [hdirectory] at h
    cases h
  | ok u =>
    rw [hdirectory] at h
    cases htransfer : em.getTransfer r.storage transferID with
    | none =>
      rw [htransfer] at h
      cases h
    | some found =>
      rw [htransfer] at h
      cases hcheck : checkTransfer found with
      | error e => simp [hcheck, bind, Except.bind] at h
      | ok u =>
        cases hfiles : filesToAccept found filePaths with
        | error e => simp [hcheck, hfiles, bind, Except.bind] at h
        | ok files =>
          simp only [hcheck, hfiles, hstatfs, bind, Except.bind] at h
          split at h
          · cases h
          · rename_i hspace
            cases h
            obtain ⟨hincoming, hrequested⟩ := checkTransfer_eq_ok.mp hcheck
            refine ⟨htransfer, ⟨hincoming, hrequested, exists_filesToAccept.mp ⟨files, hfiles⟩⟩, ?_⟩
            rw [← exactSize_filesToAccept hfiles, ← toNat_totalSize]
            exact UInt64.le_iff_toNat_le.mp (UInt64.not_lt.mp hspace)

/-! ### Space on the disk -/

/-- A block size that is not negative keeps its value. -/
theorem toNat_toUInt64 {bsize : Int64} (h : 0 ≤ bsize.toInt) :
    (bsize.toUInt64.toNat : Int) = bsize.toInt := by
  have hlt := bsize.toUInt64.toNat_lt
  have hcases : bsize.toInt = if 2 * bsize.toUInt64.toNat < 2 ^ 64 then (bsize.toUInt64.toNat : Int)
      else (bsize.toUInt64.toNat : Int) - (2 ^ 64 : Nat) := rfl
  split at hcases
  · exact hcases.symm
  · omega

/-- The product in 64 bits is not larger than the exact one. -/
theorem space_le {statfs : Statfs} (h : 0 ≤ statfs.bsize.toInt) :
    ((statfs.bavail * statfs.bsize.toUInt64).toNat : Int) ≤
      statfs.bavail.toNat * statfs.bsize.toInt := by
  rw [← toNat_toUInt64 h, UInt64.toNat_mul]
  exact_mod_cast Nat.mod_le _ _

/-- Every file system reports a block size that is not negative. -/
def EventEnv.SaneDisk (r : EventEnv) : Prop :=
  ∀ path statfs, r.statfs path = some statfs → 0 ≤ statfs.bsize.toInt

/-- If the transfer is let pass, the files accepted from it fit on the disk. -/
def Fits (em : EventManager) (r : EventEnv) (transferID path : String) (filePaths : List String) :
    Prop :=
  ∀ tr statfs, em.acceptTransfer r transferID path filePaths = .ok tr →
  r.statfs path = some statfs →
    (exactSize (accept r tr filePaths) : Int) ≤ statfs.bavail.toNat * statfs.bsize.toInt

/-- A disk that has room for the announced size, in 64 bits, and everything else in order. -/
def roomyEnv (storage : Option Storage) (room : UInt64) : EventEnv :=
  { storage, lstat := fun _ => some { perm := 0o200, owner := some (0, 0) }
    currentUser := some (some 0), getGroupIds := some []
    statfs := fun _ => some { bavail := room, bsize := 1 } }

theorem saneDisk_roomyEnv {storage : Option Storage} {room : UInt64} :
    (roomyEnv storage room).SaneDisk := by
  rintro path statfs ⟨⟩
  change 0 ≤ (1 : Int64).toInt
  decide

theorem acceptTransfer_roomyEnv {em : EventManager} {storage : Option Storage}
    {transferID path : String} (htransfer : em.getTransfer storage transferID = some tr)
    (hcheck : checkTransfer tr = .ok ()) (hfiles : filesToAccept tr filePaths = .ok files) :
    em.acceptTransfer (roomyEnv storage (totalSize files)) transferID path filePaths = .ok tr := by
  have hdirectory : checkDirectory (roomyEnv storage (totalSize files)) path = .ok () := rfl
  have hspace : ¬ totalSize files > totalSize files * (1 : Int64).toUInt64 := by
    rw [show (1 : Int64).toUInt64 = 1 from rfl, UInt64.mul_one]
    exact UInt64.lt_irrefl _
  unfold acceptTransfer
  rw [hdirectory]
  simp only [roomyEnv, htransfer, hcheck, hfiles, bind, Except.bind, if_neg hspace]

/-- Whatever the disk is like, what is accepted from a transfer fits on it, exactly if the request
is refused or the announced size is, without its carry, still as large as what is accepted. -/
theorem accepted_transfer_fits_iff (em : EventManager) (storage : Option Storage)
    (transferID : String) (filePaths : List String) :
    (∀ r path, r.storage = storage → r.SaneDisk → Fits em r transferID path filePaths) ↔
      ∀ tr, em.getTransfer storage transferID = some tr → Acceptable tr filePaths →
        exactSize (tr.files.filter (isAccepted filePaths)) ≤ announcedSize tr
          filePaths % 2 ^ 64 := by
  constructor
  · intro hfits tr htransfer hacceptable
    obtain ⟨files, hfiles⟩ := exists_filesToAccept.mpr hacceptable.found
    have hcheck := checkTransfer_eq_ok.mpr ⟨hacceptable.incoming, hacceptable.requested⟩
    have hle :=
      hfits _ "" rfl saneDisk_roomyEnv tr _ (acceptTransfer_roomyEnv htransfer hcheck hfiles) rfl
    have hall : accept (roomyEnv storage (totalSize files)) tr filePaths =
        tr.files.filter (isAccepted filePaths) := by
      simp [accept, acceptFiles, roomyEnv]
    rw [hall, show ((1 : Int64).toInt : Int) = 1 from rfl, mul_one, toNat_totalSize,
      exactSize_filesToAccept hfiles] at hle
    exact_mod_cast hle
  · rintro hsize r path rfl hsane tr statfs haccept hstatfs
    have hpassed := passed_of_acceptTransfer haccept hstatfs
    have hsub : (accept r tr filePaths).Sublist (tr.files.filter (isAccepted filePaths)) :=
      List.monotone_filter_right _ fun file hfile => (Bool.and_eq_true _ _ ▸ hfile).1
    calc (exactSize (accept r tr filePaths) : Int)
        ≤ (announcedSize tr filePaths % 2 ^ 64 : Nat) := by
          exact_mod_cast (exactSize_mono hsub).trans (hsize tr hpassed.transfer hpassed.acceptable)
      _ ≤ ((statfs.bavail * statfs.bsize.toUInt64).toNat : Int) := by exact_mod_cast hpassed.space
      _ ≤ _ := space_le (hsane path statfs hstatfs)

/-- A transfer of two files whose sizes add up to a whole 2 ^ 64. -/
def hugeTransfer : TransferInfo :=
  { id := "transfer", kind := .incoming
      [{ fileId := "a", relativePath := "a", bytes := 2 ^ 63, states := [] },
       { fileId := "b", relativePath := "b", bytes := 2 ^ 63, states := [] }] }

/-- The transfer is accepted on a full disk. -/
theorem huge_transfer_accepted :
    let r := roomyEnv (some [hugeTransfer]) 0
    let tr := norddropTransferToPBTransfer hugeTransfer
    r.SaneDisk ∧ EventManager.acceptTransfer {} r "transfer" "/home" [] = .ok tr ∧
      exactSize (accept r tr []) = 2 ^ 64 ∧ ¬ Fits {} r "transfer" "/home" [] := by
  have haccept :
    EventManager.acceptTransfer {} (roomyEnv (some [hugeTransfer]) 0) "transfer" "/home" [] =
      .ok (norddropTransferToPBTransfer hugeTransfer) := by
    have hroom :
      totalSize (norddropTransferToPBTransfer hugeTransfer).files = 0 := by decide +kernel
    rw [← hroom]
    exact acceptTransfer_roomyEnv (by decide +kernel) (by decide +kernel) rfl
  have hsize : exactSize (accept (roomyEnv (some [hugeTransfer]) 0)
      (norddropTransferToPBTransfer hugeTransfer) []) = 2 ^ 64 := by decide +kernel
  refine ⟨saneDisk_roomyEnv, haccept, hsize, fun hfits => ?_⟩
  have hle := hfits _ _ haccept rfl
  rw [hsize] at hle
  exact absurd hle (by decide)

end NordVPN.Fileshare
