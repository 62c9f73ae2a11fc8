import NordVPN.Lib.Runs
import NordVPN.Lib.Words

/-!
Editing resolv.conf in place (`daemon/dns/dns_resolvconf_file.go`).

The file is marked when the daemon wrote it, and made immutable. What it held before is in one
backup file, which is written when there is none and deleted when it is restored. An `Unset` that
finds the file replaced by another program leaves both the file and the backup alone.
-/

namespace NordVPN.ResolvConf

/-! ### The source -/

def resolvconfFileMark : String := "# Generated by NordVPN"

/-- `/etc/resolv.conf` and its backup. -/
structure State where
  file : Option String
  locked : Bool := false
  writable : Bool := true
  symlink : Bool := false
  backup : Option String := none
deriving DecidableEq, Repr

/-- Which file operations succeed, and the name server that is found for the simple settings. -/
structure FileOps where
  readsFile : Bool := true
  writesFile : Bool := true
  readsBackup : Bool := true
  writesBackup : Bool := true
  deletesBackup : Bool := true
  nameserver : String := "1.1.1.1"

def isMarked (content : String) : Bool := Words.contains content resolvconfFileMark

/-- `internal.FileRead(resolvconfFilePath)`. -/
def FileOps.read (r : FileOps) (s : State) : Option String := if r.readsFile then s.file else none

/-- `backupDNS`. -/
def backupDNS (r : FileOps) (s : State) : Option State :=
  if s.backup.isSome then some s
  else (r.read s).bind fun out =>
    if r.writesBackup then some { s with backup := some out } else none

/-- The content of a file with these name servers. -/
def contentOf (addresses : List String) : String :=
  resolvconfFileMark ++ ("\n" ++ ("\n".intercalate (addresses.map ("nameserver " ++ ·)) ++ "\n"))

/-- `resetDNSinResolvconfFile`. -/
def resetDNSinResolvconfFile (r : FileOps) (addresses : List String) (s : State) : State :=
  if r.writesFile then { s with file := some (contentOf addresses), locked := true }
  else { s with locked := true }

/-- A file that the daemon has not written is left alone if it is locked, and any file if it is not
writable. -/
def mayWrite (r : FileOps) (s : State) : Bool :=
  s.file.isNone || ((((r.read s).any isMarked) || !s.locked) && s.writable)

/-- `setDNSinResolvconfFile`. -/
def setDNSinResolvconfFile (r : FileOps) (addresses : List String) (s : State) : State :=
  if mayWrite r s then
    match backupDNS r s with
    | none => s
    | some s => resetDNSinResolvconfFile r addresses s
  else s

/-- `restoreFromBackup`, with whether it succeeded. -/
def restoreFromBackup (r : FileOps) (s : State) : State × Bool :=
  match s.backup with
  | none => (s, false)
  | some backup =>
    let s := if r.deletesBackup then { s with backup := none } else s
    if !r.readsBackup then (s, false)
    else if isMarked backup then (s, false)
    else if r.writesFile then ({ s with file := some backup }, true)
    else (s, false)

/-- `restoreWithSimpleSettings`. -/
def restoreWithSimpleSettings (r : FileOps) (s : State) : State :=
  if r.writesFile then { s with file := some ("#restored\nnameserver " ++ r.nameserver ++ "\n") }
  else s

/-- `restoreDNS`, after the file was unlocked. -/
def restoreDNS (r : FileOps) (s : State) : State :=
  let tried := restoreFromBackup r { s with locked := false }
  if tried.2 then tried.1 else restoreWithSimpleSettings r tried.1

/-- `unsetDNSinResolvconfFile`. -/
def unsetDNSinResolvconfFile (r : FileOps) (s : State) : State :=
  if (r.read s).any isMarked then restoreDNS r s else s

/-- `tryToRestoreDNS`, at the start of the daemon. -/
def tryToRestoreDNS (r : FileOps) (s : State) : State :=
  if s.symlink then s
  else if (r.read s).any isMarked then restoreDNS r s
  else s

/-! ### Histories -/

/-- The calls of the daemon, and another program that replaces the file. -/
inductive Move where
  | set (addresses : List String) (r : FileOps)
  | unset (r : FileOps)
  | start (r : FileOps)
  | replace (content : String) (locked writable symlink : Bool)

/-- The state, with what the file held immediately before the last `Set` that found it without our
mark, and what another program wrote since. -/
structure History where
  s : State
  before : String
  since : Option String := none
deriving DecidableEq, Repr

/-- What the file should hold when it is not ours. -/
def History.foreign (h : History) : String := h.since.getD h.before

/-- A history begins with a file that is not ours, and without a backup. -/
def History.initial (content : String) : History :=
  { s := { file := some content }, before := content }

def History.step (h : History) : Move → History
  | .set addresses r =>
    match h.s.file with
    | none => { h with s := setDNSinResolvconfFile r addresses h.s }
    | some content =>
      if isMarked content then { h with s := setDNSinResolvconfFile r addresses h.s }
      else { s := setDNSinResolvconfFile r addresses h.s, before := content }
  | .unset r => { h with s := unsetDNSinResolvconfFile r h.s }
  | .start r => { h with s := tryToRestoreDNS r h.s }
  | .replace content locked writable symlink =>
    { h with s := { h.s with file := some content, locked, writable, symlink }
             since := some content }

/-- All file operations succeed. -/
structure FileOps.Succeed (r : FileOps) : Prop where
  readsFile : r.readsFile = true
  writesFile : r.writesFile = true
  readsBackup : r.readsBackup = true
  writesBackup : r.writesBackup = true
  deletesBackup : r.deletesBackup = true

/-- The condition on a step: a `Set` that takes over a file finds no backup of an earlier one. Other
programs do not write our mark. -/
def History.Fresh (h : History) : Move → Prop
  | .set _ r => r.Succeed ∧
      (mayWrite r h.s = true → h.s.file.any isMarked = false → h.s.backup = none)
  | .unset r | .start r => r.Succeed
  | .replace content _ _ _ => isMarked content = false

/-- What holds along a fresh history: a file that is not ours is the foreign one, and behind a file
that is ours there is the backup of it. -/
structure History.Kept (h : History) : Prop where
  foreign : isMarked h.foreign = false
  file : h.s.file = some h.foreign ∨
    ∃ content, h.s.file = some content ∧ isMarked content = true ∧ h.s.backup = some h.foreign

theorem isMarked_contentOf (addresses : List String) : isMarked (contentOf addresses) = true := by
  rw [isMarked, Words.contains_iff, contentOf, String.toList_append]
  exact ⟨[], _, rfl⟩

variable {r : FileOps}

theorem FileOps.Succeed.read (hr : r.Succeed) (s : State) : r.read s = s.file := by
  rw [FileOps.read, hr.readsFile]
  rfl

variable {s : State}

/-- With a backup that is not ours the restored file is that backup. -/
theorem file_restoreDNS (hr : r.Succeed) {backup : String} (hbackup : s.backup = some backup)
    (hforeign : isMarked backup = false) :
    (restoreDNS r s).file = some backup := by
  simp [restoreDNS, restoreFromBackup, hbackup, hr.deletesBackup, hr.readsBackup, hforeign,
    hr.writesFile]

/-- A `Set` that takes over a file keeps it in the backup. -/
theorem set_takes_over (hr : r.Succeed) {content : String} (hfile : s.file = some content)
    (hbackup : s.backup = none) (hmay : mayWrite r s = true) (addresses : List String) :
    (setDNSinResolvconfFile r addresses s).file = some (contentOf addresses) ∧
      (setDNSinResolvconfFile r addresses s).backup = some content := by
  simp [setDNSinResolvconfFile, hmay, backupDNS, hbackup, hr.read, hfile, hr.writesBackup,
    resetDNSinResolvconfFile, hr.writesFile]

/-- A `Set` on a file that is ours keeps the backup that is there. -/
theorem set_again (hr : r.Succeed) {backup : String} (hbackup : s.backup = some backup)
    (hmay : mayWrite r s = true) (addresses : List String) :
    (setDNSinResolvconfFile r addresses s).file = some (contentOf addresses) ∧
      (setDNSinResolvconfFile r addresses s).backup = some backup := by
  simp [setDNSinResolvconfFile, hmay, backupDNS, hbackup, resetDNSinResolvconfFile, hr.writesFile]

namespace History

variable {h : History}

/-- Whatever way a kept file is restored, the foreign content is there afterwards. -/
theorem Kept.unset (hkept : h.Kept) (hr : r.Succeed) :
    (unsetDNSinResolvconfFile r h.s).file = some h.foreign := by
  rw [unsetDNSinResolvconfFile, hr.read]
  rcases hkept.file with hfile | ⟨content, hfile, hmarked, hbackup⟩
  · rw [hfile, Option.any_some, hkept.foreign]
    exact hfile
  · rw [hfile, Option.any_some, hmarked, if_pos rfl]
    exact file_restoreDNS hr hbackup hkept.foreign

theorem tryToRestoreDNS_eq (hsymlink : s.symlink = false) :
    tryToRestoreDNS r s = unsetDNSinResolvconfFile r s := by
  rw [tryToRestoreDNS, hsymlink]
  rfl

theorem Kept.set (hkept : h.Kept) {addresses : List String} (hfresh : h.Fresh (.set addresses r)) :
    (h.step (.set addresses r)).Kept := by
  obtain ⟨hr, hbackup⟩ := hfresh
  rcases hkept.file with hfile | ⟨content, hfile, hmarked, hold⟩
  · have hstep : h.step (.set addresses r) =
        { s := setDNSinResolvconfFile r addresses h.s, before := h.foreign } := by
      simp only [step, hfile, hkept.foreign]
      rfl
    rw [hstep]
    refine ⟨hkept.foreign, ?_⟩
    cases hmay : mayWrite r h.s with
    | true =>
      have hnone := hbackup hmay (by rw [hfile, Option.any_some, hkept.foreign])
      obtain ⟨hset, hset'⟩ := set_takes_over hr hfile hnone hmay addresses
      exact .inr ⟨_, hset, isMarked_contentOf addresses, hset'⟩
    | false =>
      refine .inl ?_
      rw [setDNSinResolvconfFile, hmay]
      exact hfile
  · have hstep : h.step (.set addresses r) =
        { h with s := setDNSinResolvconfFile r addresses h.s } := by
      simp only [step, hfile, hmarked]
      rfl
    rw [hstep]
    refine ⟨hkept.foreign, .inr ?_⟩
    cases hmay : mayWrite r h.s with
    | true =>
      obtain ⟨hset, hset'⟩ := set_again hr hold hmay addresses
      exact ⟨_, hset, isMarked_contentOf addresses, hset'⟩
    | false =>
      rw [setDNSinResolvconfFile, hmay]
      exact ⟨content, hfile, hmarked, hold⟩

theorem Kept.step (hkept : h.Kept) {move : Move} (hfresh : h.Fresh move) : (h.step move).Kept := by
  cases move with
  | set addresses r => exact hkept.set hfresh
  | unset r => exact ⟨hkept.foreign, .inl (hkept.unset hfresh)⟩
  | start r =>
    cases hsymlink : h.s.symlink with
    | true =>
      refine ⟨hkept.foreign, ?_⟩
      have hsame : tryToRestoreDNS r h.s = h.s := by
        rw [tryToRestoreDNS, hsymlink]
        rfl
      rw [History.step, hsame]
      exact hkept.file
    | false =>
      refine ⟨hkept.foreign, .inl ?_⟩
      rw [History.step, tryToRestoreDNS_eq hsymlink]
      exact hkept.unset hfresh
  | replace content locked writable symlink => exact ⟨hfresh, .inl rfl⟩

end History

/-- After every `Unset`, and after every start with a file that is no symbolic link, the file holds
what it held before the last `Set` that found it without our mark, or what another program wrote
since, and not our mark. -/
theorem resolvconf_restored {content : String} (hcontent : isMarked content = false) {h : History}
    (hreach : Reaches History.step History.Fresh (History.initial content) h) {r : FileOps}
    (hr : r.Succeed) :
    isMarked h.foreign = false ∧
    (unsetDNSinResolvconfFile r h.s).file = some h.foreign ∧
    (h.s.symlink = false → (tryToRestoreDNS r h.s).file = some h.foreign) := by
  have hkept : h.Kept :=
    hreach.invariant ⟨hcontent, .inl rfl⟩ fun _ _ ht hc => ht.step hc
  refine ⟨hkept.foreign, hkept.unset hr, ?_⟩
  intro hsymlink
  rw [History.tryToRestoreDNS_eq hsymlink]
  exact hkept.unset hr

theorem set_then_unset :
    let connect : Move := .set ["103.86.96.100"] {}
    (unsetDNSinResolvconfFile {} ((History.initial "nameserver 9.9.9.9").step connect).s).file =
      some "nameserver 9.9.9.9" := by
  intro connect
  have hr : FileOps.Succeed {} := ⟨rfl, rfl, rfl, rfl, rfl⟩
  have hfresh : (History.initial "nameserver 9.9.9.9").Fresh connect := ⟨hr, fun _ _ => rfl⟩
  have hcontent : isMarked "nameserver 9.9.9.9" = false := by decide
  exact (resolvconf_restored hcontent (.tail connect .refl hfresh) hr).2.1

/-- Another program replaces the file while it is ours. The backup of the older content survives the
`Unset`, and is restored after the next connection. -/
theorem stale_backup_restored :
    let moves : List Move := [.unset {}, .set ["103.86.96.100"] {}, .unset {},
      .replace "nameserver 8.8.8.8" false true false, .set ["103.86.96.100"] {}]
    let h := runAll History.step (History.initial "nameserver 9.9.9.9") moves
    h.foreign = "nameserver 8.8.8.8" ∧ h.s.file = some "nameserver 9.9.9.9" := by
  decide

end NordVPN.ResolvConf
