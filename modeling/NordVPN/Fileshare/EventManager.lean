import NordVPN.Fileshare.Transfer

/-!
The event manager of fileshare (`fileshare/event_manager.go`).

It follows transfers by the events of libdrop. A live transfer is built from the storage at the
first event that needs it, and is dropped at the event that ends the transfer. Progress goes to the
channel that was subscribed last for the transfer; a send on a channel waits for its reader, so that
a message that was sent was also received.

Go maps are functions, or lists where they are ranged over. Every method holds the mutex for its
whole body. Notifications and log lines are left out; the result of `Finalize` is only logged.
-/

namespace NordVPN.Fileshare

/-! ### State and environment -/

/-- `LiveFile`. -/
structure LiveFile where
  id : String
  size : UInt64
  transferred : UInt64
  finished : Bool
deriving DecidableEq, Repr

/-- `LiveTransfer`. -/
structure LiveTransfer where
  id : String
  direction : Direction
  totalSize : UInt64
  totalTransferred : UInt64
  files : List LiveFile
deriving DecidableEq, Repr

/-- `TransferProgressInfo`. -/
structure TransferProgressInfo where
  transferID : String
  transferred : UInt32 := 0
  status : Status
deriving DecidableEq, Repr

/-- A channel that `Subscribe` returned, with what its reader received, the oldest first. -/
structure Channel where
  transferID : String
  received : List TransferProgressInfo := []
  closed : Bool := false
deriving DecidableEq, Repr

/-- `EventManager`, with the channels it made and the calls it made on libdrop. -/
structure EventManager where
  liveTransfers : String → Option LiveTransfer := fun _ => none
  /-- the number of the channel of a transfer -/
  transferSubscriptions : String → Option Nat := fun _ => none
  defaultDownloadDir : String := ""
  channels : List Channel := []
  /-- the transfers finalized because they were finished -/
  finalized : List String := []
  /-- the transfers finalized because the peer may not send files -/
  rejected : List String := []
  /-- the files accepted, with their transfer -/
  accepted : List (String × File) := []

/-- `fs.FileInfo`: the owner is there if the information is that of the operating system. -/
structure FileInfo where
  isSymlink : Bool := false
  isDir : Bool := true
  perm : Nat
  owner : Option (Nat × Nat)

/-- `syscall.Statfs_t`. -/
structure Statfs where
  bavail : UInt64
  bsize : Int64

/-- The permissions of a peer that fileshare reads. -/
structure PeerPermissions where
  doIAllowFileshare : Bool
  alwaysAcceptFiles : Bool

/-- What the services around the event manager answer. -/
structure EventEnv where
  /-- `storage.Load`, if it succeeds -/
  storage : Option Storage
  /-- `getPeerByIP`, if the peer is found -/
  peer : Option PeerPermissions := none
  lstat : String → Option FileInfo := fun _ => none
  /-- the number of the current user; `none` inside if the text is not a number -/
  currentUser : Option (Option Int) := none
  getGroupIds : Option (List String) := none
  statfs : String → Option Statfs := fun _ => none
  /-- `fileshare.Accept` succeeds for a file -/
  accepts : String → Bool := fun _ => true
  /-- the percentage that the floating point division gives -/
  percent : UInt64 → UInt64 → UInt32 := fun _ _ => 0

/-! ### Live transfers -/

namespace LiveTransfer

/-- `transfer.Files[id]`. -/
def file (tr : LiveTransfer) (id : String) : Option LiveFile := tr.files.find? (·.id == id)

/-- `transfer.Files[file.ID] = file`. -/
def setFile (tr : LiveTransfer) (file : LiveFile) : LiveTransfer :=
  { tr with files := tr.files.filter (·.id != file.id) ++ [file] }

end LiveTransfer

/-- The live file of a stored file. -/
def newLiveFile (file : File) : LiveFile :=
  { id := file.id, size := file.size, transferred := file.transferred
    finished := isFileCompleted file }

/-- The loop that adds stored files to a live transfer. -/
def addFiles (tr : LiveTransfer) (files : List File) : LiveTransfer :=
  files.foldl (fun tr file => tr.setFile (newLiveFile file)) tr

theorem addFiles_id (tr : LiveTransfer) (files : List File) : (addFiles tr files).id = tr.id := by
  induction files generalizing tr with
  | nil => rfl
  | cons file files ih => exact ih (tr.setFile (newLiveFile file))

theorem addFiles_direction (tr : LiveTransfer) (files : List File) :
    (addFiles tr files).direction = tr.direction := by
  induction files generalizing tr with
  | nil => rfl
  | cons file files ih => exact ih (tr.setFile (newLiveFile file))

/-- The live transfer of a stored transfer. -/
def newLiveTransfer (storageTransfer : Transfer) : LiveTransfer :=
  addFiles
    { id := storageTransfer.id, direction := storageTransfer.direction
      totalSize := storageTransfer.totalSize, totalTransferred := storageTransfer.totalTransferred
      files := [] }
    (storageTransfer.files.filter isFileTransferred)

/-- `isLiveTransferFinished`. -/
def isLiveTransferFinished (tr : LiveTransfer) : Bool := tr.files.all LiveFile.finished

/-- `removeFileFromLiveTransfer`. -/
def removeFileFromLiveTransfer (tr : LiveTransfer) (file : LiveFile) : LiveTransfer :=
  { tr with
    totalSize := tr.totalSize - file.size
    totalTransferred := tr.totalTransferred - file.transferred
    files := tr.files.filter (·.id != file.id) }

/-- `getTransferFromStorage`. -/
def getTransferFromStorage (id : String) (storage : Option Storage) : Option Transfer := do
  let storage ← storage
  (storage.find id).map norddropTransferToPBTransfer

namespace EventManager

def setLive (em : EventManager) (tr : LiveTransfer) : EventManager :=
  { em with liveTransfers := Function.update em.liveTransfers tr.id (some tr) }

variable (em : EventManager) (tr : LiveTransfer)

@[simp] theorem liveTransfers_setLive :
    (em.setLive tr).liveTransfers = Function.update em.liveTransfers tr.id (some tr) := rfl

/-- `getLiveTransfer`: the manager remembers a live transfer that had to be built. -/
def getLiveTransfer (em : EventManager) (r : EventEnv) (id : String) :
    Option (LiveTransfer × EventManager) :=
  match em.liveTransfers id with
  | some tr => some (tr, em)
  | none => (getTransferFromStorage id r.storage).map fun storageTransfer =>
    (newLiveTransfer storageTransfer, em.setLive (newLiveTransfer storageTransfer))

/-! ### Channels -/

/-- `Subscribe`: a channel that the transfer had before is forgotten. -/
def subscribe (em : EventManager) (id : String) : EventManager :=
  { em with
    channels := em.channels ++ [{ transferID := id }]
    transferSubscriptions :=
      Function.update em.transferSubscriptions id (some em.channels.length) }

/-- A send on a channel. -/
def send (em : EventManager) (channel : Nat) (info : TransferProgressInfo) : EventManager :=
  { em with channels := em.channels.modify channel fun c =>
    { c with received := c.received ++ [info] } }

/-- `close(progressCh)`. -/
def closeChannel (em : EventManager) (channel : Nat) : EventManager :=
  { em with channels := em.channels.modify channel fun c => { c with closed := true } }

/-- `finalizeTransfer`. -/
def finalizeTransfer (em : EventManager) (tr : LiveTransfer) (status : Status) : EventManager :=
  let em := match em.transferSubscriptions tr.id with
    | none => em
    | some channel =>
      { (em.send channel { transferID := tr.id, status }).closeChannel channel with
        transferSubscriptions := Function.update em.transferSubscriptions tr.id none }
  { em with liveTransfers := Function.update em.liveTransfers tr.id none }

@[simp] theorem liveTransfers_finalizeTransfer
    (status : Status) : (em.finalizeTransfer tr status).liveTransfers =
      Function.update em.liveTransfers tr.id none := by
  unfold finalizeTransfer
  split <;> rfl

@[simp] theorem finalized_finalizeTransfer (status : Status) :
    (em.finalizeTransfer tr status).finalized = em.finalized := by
  unfold finalizeTransfer
  split <;> rfl

/-- Every live transfer meets a condition. -/
def Each (P : String → LiveTransfer → Prop) (em : EventManager) : Prop :=
  ∀ id tr, em.liveTransfers id = some tr → P id tr

section Each

variable {P : String → LiveTransfer → Prop} {em em' : EventManager} {tr : LiveTransfer}

/-- The property reads the live transfers only. -/
theorem Each.of_live (h : em.Each P) (hlive : em'.liveTransfers = em.liveTransfers) :
    em'.Each P := by
  intro id tr htr
  rw [hlive] at htr
  exact h id tr htr

/-- Replacing one transfer by another with the property. -/
theorem Each.setLive (h : em.Each P) (htr : P tr.id tr) : (em.setLive tr).Each P := by
  intro id tr' htr'
  by_cases hid : id = tr.id
  · subst hid
    rw [liveTransfers_setLive, Function.update_self] at htr'
    cases htr'
    exact htr
  · rw [liveTransfers_setLive, Function.update_of_ne hid] at htr'
    exact h id tr' htr'

/-- A finalized transfer is dropped, and nothing is said of it any more. -/
theorem Each.finalizeTransfer (h : em.Each P) {status : Status} :
    (em.finalizeTransfer tr status).Each P := by
  intro id tr' htr'
  rw [liveTransfers_finalizeTransfer] at htr'
  by_cases hid : id = tr.id
  · subst hid
    rw [Function.update_self] at htr'
    cases htr'
  · rw [Function.update_of_ne hid] at htr'
    exact h id tr' htr'

/-- The transfer of `getLiveTransfer` was live, or is built from the stored one and live now. -/
theorem getLiveTransfer_cases {r : EventEnv} {id : String}
    (h : em.getLiveTransfer r id = some (tr, em')) :
    (em.liveTransfers id = some tr ∧ em' = em) ∨
      (em.liveTransfers id = none ∧ em' = em.setLive tr ∧ ∃ storage ti, r.storage = some storage ∧
        Storage.find storage id = some ti ∧
          tr = newLiveTransfer (norddropTransferToPBTransfer ti)) := by
  unfold getLiveTransfer at h
  split at h
  · rename_i hfound
    cases h
    exact .inl ⟨hfound, rfl⟩
  · rename_i hnone
    obtain ⟨storageTransfer, hload, hpair⟩ := Option.map_eq_some_iff.mp h
    cases hpair
    obtain ⟨storage, hstorage, hfind⟩ := Option.bind_eq_some_iff.mp hload
    obtain ⟨ti, hti, rfl⟩ := Option.map_eq_some_iff.mp hfind
    exact .inr ⟨hnone, rfl, storage, ti, hstorage, hti, rfl⟩

/-- The map is read before the storage, so a transfer that is not found is not in it. -/
theorem live_of_getLiveTransfer {r : EventEnv} {id : String}
    (h : em.getLiveTransfer r id = none) : em.liveTransfers id = none := by
  unfold getLiveTransfer at h
  split at h
  · cases h
  · assumption

end Each

/-! ### Events -/

/-- `finalizeFinishedTransfer`. -/
def finalizeFinishedTransfer (em : EventManager) (tr : LiveTransfer) : EventManager :=
  if isLiveTransferFinished tr && tr.direction == .incoming then
    { em with finalized := tr.id :: em.finalized }
  else em

theorem liveTransfers_finalizeFinished (em : EventManager) (tr : LiveTransfer) :
    (em.finalizeFinishedTransfer tr).liveTransfers = em.liveTransfers := by
  unfold finalizeFinishedTransfer
  split <;> rfl

/-- The handlers of the events that end a file. A file that was not transferred is also removed from
the live transfer. -/
def handleFileEnd (isRemoved : Bool) (em : EventManager) (r : EventEnv)
    (transferId fileId : String) :
    EventManager :=
  match em.getLiveTransfer r transferId with
  | none => em
  | some (tr, em) => match tr.file fileId with
    | none => em
    | some file =>
      let tr := if isRemoved then removeFileFromLiveTransfer tr file
        else tr.setFile { file with finished := true }
      (em.setLive tr).finalizeFinishedTransfer tr

/-- `handleFileDownloadedEvent`. -/
def handleFileDownloadedEvent := handleFileEnd false

/-- `handleFileUploadedEvent`. -/
def handleFileUploadedEvent := handleFileEnd false

/-- `handleFileFailedEvent`. -/
def handleFileFailedEvent := handleFileEnd true

/-- `handleFileRejectedEvent`. -/
def handleFileRejectedEvent := handleFileEnd true

/-- `handleFileProgressEvent`. -/
def handleFileProgressEvent (em : EventManager) (r : EventEnv) (transferId fileId : String)
    (transferred : UInt64) : EventManager :=
  match em.getLiveTransfer r transferId with
  | none => em
  | some (tr, em) => match tr.file fileId with
    | none => em
    | some file =>
      let tr := { tr.setFile { file with transferred } with
        totalTransferred := tr.totalTransferred + (transferred - file.transferred) }
      let em := em.setLive tr
      match em.transferSubscriptions tr.id with
      | none => em
      | some channel => em.send channel
          { transferID := transferId, status := .ongoing
            transferred :=
              if tr.totalSize > 0 then r.percent tr.totalTransferred tr.totalSize else 0 }

/-- `handleTransferFailedEvent`. -/
def handleTransferFailedEvent (em : EventManager) (r : EventEnv) (transferId : String)
    (status : Status) : EventManager :=
  match em.getLiveTransfer r transferId with
  | none => em
  | some (tr, em) => em.finalizeTransfer tr status

/-- `handleTransferFinalizedEvent`. -/
def handleTransferFinalizedEvent (em : EventManager) (r : EventEnv) (transferId : String)
    (byPeer : Bool) : EventManager :=
  match em.getLiveTransfer r transferId with
  | none => em
  | some (tr, em) =>
    if isLiveTransferFinished tr then
      match getTransferFromStorage transferId r.storage with
      | none => em
      | some storageTransfer => em.finalizeTransfer tr storageTransfer.status
    else if byPeer then em.finalizeTransfer tr .canceledByPeer
    else em.finalizeTransfer tr .canceled

/-! ### Accepting -/

/-- `updateTransferWithLiveData`. -/
def updateTransferWithLiveData (em : EventManager) (tr : Transfer) : Transfer :=
  match em.liveTransfers tr.id with
  | none => tr
  | some live =>
    { tr with
      totalTransferred := live.totalTransferred
      files := tr.files.map fun file => match live.file file.id with
        | none => file
        | some liveFile => { file with transferred := liveFile.transferred } }

/-- `getTransfer`. -/
def getTransfer (em : EventManager) (storage : Option Storage) (transferID : String) :
    Option Transfer :=
  (getTransferFromStorage transferID storage).map em.updateTransferWithLiveData

/-- The errors of `acceptTransfer`. A storage that does not load and a transfer that is not there
are one here: both come from `getTransfer`. -/
inductive AcceptError where
  | acceptDirNotFound | acceptDirIsASymlink | acceptDirIsNotADirectory
  | noPermissionsToAcceptDirectory | transferNotFound | transferAcceptOutgoing
  | transferCanceledByPeer | transferCanceledByUs | transferAlreadyAccepted | fileNotFound
  | sizeLimitExceeded
deriving DecidableEq, Repr

/-- `isFileWriteable`. -/
def isFileWriteable (fileInfo : FileInfo) (uid : Option Int) (gids : List String) : Bool :=
  match fileInfo.owner, uid with
  | some (ownerUID, ownerGID), some uid =>
    if uid = ownerUID then fileInfo.perm &&& 0o200 != 0
    else if gids.contains (toString ownerGID) then fileInfo.perm &&& 0o020 != 0
    else fileInfo.perm &&& 0o002 != 0
  | _, _ => false

/-- The checks of the directory to download to. -/
def checkDirectory (r : EventEnv) (path : String) : Except AcceptError Unit :=
  match r.lstat path with
  | none => .error .acceptDirNotFound
  | some fileInfo =>
    if fileInfo.isSymlink then .error .acceptDirIsASymlink
    else if !fileInfo.isDir then .error .acceptDirIsNotADirectory
    else match r.currentUser, r.getGroupIds with
      | some uid, some gids =>
        if isFileWriteable fileInfo uid gids then .ok ()
        else .error .noPermissionsToAcceptDirectory
      | _, _ => .error .noPermissionsToAcceptDirectory

/-- The checks of the transfer. -/
def checkTransfer (tr : Transfer) : Except AcceptError Unit :=
  if tr.direction ≠ .incoming then .error .transferAcceptOutgoing
  else if tr.status = .canceledByPeer then .error .transferCanceledByPeer
  else if tr.status = .canceled then .error .transferCanceledByUs
  else if tr.status ≠ .requested then .error .transferAlreadyAccepted
  else .ok ()

/-- The loop over the paths: a file that several of them match is listed as often. -/
def filesByPaths (tr : Transfer) : List String → Except AcceptError (List File)
  | [] => .ok []
  | filePath :: rest =>
    let acceptedFiles := getTransferFilesByPathPrefix tr filePath
    if acceptedFiles.isEmpty then .error .fileNotFound
    else match filesByPaths tr rest with
      | .error e => .error e
      | .ok files => .ok (acceptedFiles ++ files)

/-- The files whose sizes are added up: all of them if no path is given. -/
def filesToAccept (tr : Transfer) (filePaths : List String) : Except AcceptError (List File) :=
  if filePaths.isEmpty then .ok tr.files else filesByPaths tr filePaths

/-- `totalSize`, added up in 64 bits. -/
def totalSize (files : List File) : UInt64 := files.foldl (fun total file => total + file.size) 0

/-- `acceptTransfer`. -/
def acceptTransfer (em : EventManager) (r : EventEnv) (transferID path : String)
    (filePaths : List String) : Except AcceptError Transfer := do
  checkDirectory r path
  match em.getTransfer r.storage transferID with
  | none => .error .transferNotFound
  | some tr =>
    checkTransfer tr
    let files ← filesToAccept tr filePaths
    match r.statfs path with
    | none => .error .sizeLimitExceeded
    | some statfs =>
      if totalSize files > statfs.bavail * statfs.bsize.toUInt64 then .error .sizeLimitExceeded
      else .ok tr

/-- The files of a transfer for which `fileshare.Accept` is called and succeeds. -/
def acceptFiles (r : EventEnv) (tr : Transfer) (isAccepted : File → Bool) : List File :=
  tr.files.filter fun file => isAccepted file && r.accepts file.id

/-- `handleRequestReceivedEvent`. -/
def handleRequestReceivedEvent (em : EventManager) (r : EventEnv) (transferId : String) :
    EventManager :=
  match r.peer with
  | none => em
  | some peer =>
    if !peer.doIAllowFileshare then { em with rejected := transferId :: em.rejected }
    else if !peer.alwaysAcceptFiles then em
    else if em.defaultDownloadDir = "" then em
    else match em.acceptTransfer r transferId em.defaultDownloadDir [] with
      | .error _ => em
      | .ok tr => { em with
          accepted := (acceptFiles r tr fun _ => true).map (transferId, ·) ++ em.accepted }

end EventManager

/-! ### Handling events -/

/-- The events of libdrop that are not ignored. -/
inductive Event where
  | requestReceived (transferId : String)
  | fileProgress (transferId fileId : String) (transferred : UInt64)
  | fileDownloaded (transferId fileId : String)
  | fileUploaded (transferId fileId : String)
  | fileFailed (transferId fileId : String)
  | fileRejected (transferId fileId : String)
  | transferFailed (transferId : String) (status : Status)
  | transferFinalized (transferId : String) (byPeer : Bool)
deriving DecidableEq, Repr

/-- `OnEvent`. -/
def EventManager.onEvent (em : EventManager) (r : EventEnv) : Event → EventManager
  | .requestReceived transferId => em.handleRequestReceivedEvent r transferId
  | .fileProgress transferId fileId transferred =>
    em.handleFileProgressEvent r transferId fileId transferred
  | .fileDownloaded transferId fileId => em.handleFileDownloadedEvent r transferId fileId
  | .fileUploaded transferId fileId => em.handleFileUploadedEvent r transferId fileId
  | .fileFailed transferId fileId => em.handleFileFailedEvent r transferId fileId
  | .fileRejected transferId fileId => em.handleFileRejectedEvent r transferId fileId
  | .transferFailed transferId status => em.handleTransferFailedEvent r transferId status
  | .transferFinalized transferId byPeer => em.handleTransferFinalizedEvent r transferId byPeer

/-- The transfer that an event is about, with the file if the event ends one. -/
def Event.ends : Event → List (String × String)
  | .fileDownloaded transferId fileId | .fileUploaded transferId fileId
  | .fileFailed transferId fileId | .fileRejected transferId fileId => [(transferId, fileId)]
  | _ => []

def Event.transferId : Event → String
  | .requestReceived id | .fileProgress id _ _ | .fileDownloaded id _ | .fileUploaded id _
  | .fileFailed id _ | .fileRejected id _ | .transferFailed id _ | .transferFinalized id _ => id

/-- The event ends the transfer. -/
def Event.isTerminal : Event → Bool
  | .transferFailed _ _ | .transferFinalized _ _ => true
  | _ => false

namespace EventManager

/-- What an event makes of the manager. -/
inductive Handles (em : EventManager) (r : EventEnv) : Event → EventManager → Prop
  | request (id : String) (rejected : List String) (accepted : List (String × File)) :
      Handles em r (.requestReceived id) { em with rejected, accepted }
  /-- there is no such transfer -/
  | missing {ev : Event} (hlive : em.getLiveTransfer r ev.transferId = none) : Handles em r ev em
  /-- the transfer has no such file -/
  | noFile {ev : Event} {tr : LiveTransfer} {em' : EventManager}
      (hlive : em.getLiveTransfer r ev.transferId = some (tr, em')) (hev : ev.isTerminal = false) :
      Handles em r ev em'
  | fileEnd {ev : Event} {fileId : String} {tr tr' : LiveTransfer} {em' : EventManager}
      {file : LiveFile} (hlive : em.getLiveTransfer r ev.transferId = some (tr, em'))
      (hev : ev.isTerminal = false) (hends : ev.ends = [(ev.transferId, fileId)])
      (hfile : tr.file fileId = some file)
      (htr' : tr' = removeFileFromLiveTransfer tr file ∨
        tr' = tr.setFile { file with finished := true }) :
      Handles em r ev ((em'.setLive tr').finalizeFinishedTransfer tr')
  | progress {id fileId : String} {transferred : UInt64} {tr tr' : LiveTransfer}
      {em' em'' : EventManager} {file : LiveFile}
      (hlive : em.getLiveTransfer r id = some (tr, em')) (hfile : tr.file fileId = some file)
      (htr' : tr' = { tr.setFile { file with transferred } with
        totalTransferred := tr.totalTransferred + (transferred - file.transferred) })
      (hsent : em'' = em'.setLive tr' ∨ ∃ channel info, info.status = .ongoing ∧
        em'.transferSubscriptions tr'.id = some channel ∧
        em'' = (em'.setLive tr').send channel info) :
      Handles em r (.fileProgress id fileId transferred) em''
  | failed {id : String} {status : Status} {tr : LiveTransfer} {em' : EventManager}
      (hlive : em.getLiveTransfer r id = some (tr, em')) :
      Handles em r (.transferFailed id status) (em'.finalizeTransfer tr status)
  /-- the transfer is finished, and the storage does not say how -/
  | unread {id : String} {byPeer : Bool} {tr : LiveTransfer} {em' : EventManager}
      (hlive : em.getLiveTransfer r id = some (tr, em'))
      (hfinished : isLiveTransferFinished tr = true)
      (hstored : getTransferFromStorage id r.storage = none) :
      Handles em r (.transferFinalized id byPeer) em'
  | finalized {id : String} {byPeer : Bool} {tr : LiveTransfer} {em' : EventManager}
      {status : Status}
      (hlive : em.getLiveTransfer r id = some (tr, em'))
      (hstatus : if isLiveTransferFinished tr then
          (getTransferFromStorage id r.storage).map Transfer.status = some status
        else status = .canceledByPeer ∨ status = .canceled) :
      Handles em r (.transferFinalized id byPeer) (em'.finalizeTransfer tr status)

section Handles

variable (em : EventManager) (r : EventEnv)

/-- One lemma for the four events that end a file. -/
theorem handles_fileEnd {ev : Event} {isRemoved : Bool} {fileId : String}
    (hends : ev.ends = [(ev.transferId, fileId)]) (hev : ev.isTerminal = false) :
    Handles em r ev (em.handleFileEnd isRemoved r ev.transferId fileId) := by
  unfold handleFileEnd
  split
  · exact .missing ‹_›
  · split
    · exact .noFile ‹_› hev
    · cases isRemoved with
      | true => exact .fileEnd ‹_› hev hends ‹_› (.inl rfl)
      | false => exact .fileEnd ‹_› hev hends ‹_› (.inr rfl)

theorem handles_fileProgress (id fileId : String) (transferred : UInt64) :
    Handles em r (.fileProgress id fileId transferred)
      (em.handleFileProgressEvent r id fileId transferred) := by
  unfold handleFileProgressEvent
  split
  · exact .missing ‹_›
  · split
    · exact .noFile ‹_› rfl
    · dsimp only
      split
      · exact .progress ‹_› ‹_› rfl (.inl rfl)
      · exact .progress ‹_› ‹_› rfl (.inr ⟨_, _, rfl, ‹_›, rfl⟩)

theorem handles_transferFinalized (id : String) (byPeer : Bool) :
    Handles em r (.transferFinalized id byPeer) (em.handleTransferFinalizedEvent r id byPeer) := by
  unfold handleTransferFinalizedEvent
  split
  · exact .missing ‹_›
  · split
    · rename_i hfinished
      split
      · exact .unread ‹_› hfinished ‹_›
      · rename_i hstored
        exact .finalized ‹_› (by rw [if_pos hfinished, hstored]; rfl)
    · rename_i hfinished
      split
      · exact .finalized ‹_› (by rw [if_neg hfinished]; exact .inl rfl)
      · exact .finalized ‹_› (by rw [if_neg hfinished]; exact .inr rfl)

theorem handles_requestReceived (id : String) :
    Handles em r (.requestReceived id) (em.handleRequestReceivedEvent r id) := by
  unfold handleRequestReceivedEvent
  repeat' split
  all_goals exact .request id _ _

/-- Each event, by the lemma of its handler. -/
theorem handles_onEvent (ev : Event) : Handles em r ev (em.onEvent r ev) := by
  cases ev with
  | requestReceived id => exact em.handles_requestReceived r id
  | fileProgress id fileId transferred => exact em.handles_fileProgress r id fileId transferred
  | fileDownloaded id fileId | fileUploaded id fileId | fileFailed id fileId
  | fileRejected id fileId => exact em.handles_fileEnd r rfl rfl
  | transferFailed id status =>
    show Handles em r _ (em.handleTransferFailedEvent r id status)
    unfold handleTransferFailedEvent
    split
    · exact .missing ‹_›
    · exact .failed ‹_›
  | transferFinalized id byPeer => exact em.handles_transferFinalized r id byPeer

end Handles

end EventManager

end NordVPN.Fileshare
