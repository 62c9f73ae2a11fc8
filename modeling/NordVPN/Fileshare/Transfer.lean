import Mathlib.Tactic.Common

/-!
Transfers and their files, as libdrop stores them and as fileshare reads them
(`fileshare/transfer.go`, `fileshare/libdrop/libdrop.go`).

Sizes are `uint64`. Paths on the disk, the peer and the creation time are left out, and so is the
old history file: libdrop sends no events for its transfers.
-/

namespace NordVPN.Fileshare

/-- `pb.Status`; the statuses of libdrop that no modelled function looks at are kept by their
number. -/
inductive Status where
  | success | canceled | badStatus
  | requested | ongoing | finishedWithErrors | canceledByPeer | paused | pending
  | other (code : Nat)
deriving DecidableEq, Repr

/-- `pb.Direction`. -/
inductive Direction where
  | unknownDirection | incoming | outgoing
deriving DecidableEq, Repr

/-- `pb.File`. -/
structure File where
  id : String
  path : String := ""
  size : UInt64 := 0
  transferred : UInt64 := 0
  status : Status
deriving DecidableEq, Repr

/-- `pb.Transfer`. -/
structure Transfer where
  id : String
  direction : Direction
  status : Status
  files : List File
  totalSize : UInt64 := 0
  totalTransferred : UInt64 := 0
deriving DecidableEq, Repr

/-- `isFileCompleted`. -/
def isFileCompleted (file : File) : Bool :=
  file.status != .requested && file.status != .ongoing && file.status != .pending

/-- `isFileTransferred`. -/
def isFileTransferred (file : File) : Bool := !isFileCompleted file || file.status == .success

/-- `checkFileHasErrors`. -/
def checkFileHasErrors (file : File) : Bool :=
  file.status != .success && file.status != .requested && file.status != .canceled &&
    file.status != .ongoing && file.status != .pending

/-- `strings.HasPrefix(file.Path, filePath)`. -/
def File.hasPathPrefix (file : File) (filePath : String) : Bool :=
  filePath.toList.isPrefixOf file.path.toList

/-- `GetTransferFilesByPathPrefix`: all children of a directory. -/
def getTransferFilesByPathPrefix (tr : Transfer) (filePath : String) : List File :=
  tr.files.filter (·.hasPathPrefix filePath)

/-! ### The storage of libdrop -/

/-- `norddrop.IncomingPathStateKind`; `unknown` is any other type. -/
inductive IncomingPathState where
  | pending
  | started (bytesReceived : UInt64)
  | failed (status : Status) (bytesReceived : UInt64)
  | completed
  | rejected (bytesReceived : UInt64)
  | paused (bytesReceived : UInt64)
  | unknown
deriving DecidableEq, Repr

/-- `norddrop.OutgoingPathStateKind`; `unknown` is any other type. -/
inductive OutgoingPathState where
  | started (bytesSent : UInt64)
  | failed (status : Status) (bytesSent : UInt64)
  | completed
  | rejected (bytesSent : UInt64)
  | paused (bytesSent : UInt64)
  | unknown
deriving DecidableEq, Repr

/-- `norddrop.IncomingPath` and `norddrop.OutgoingPath`, by the type of their states, the oldest
first. -/
structure PathInfo (State : Type) where
  fileId : String
  relativePath : String := ""
  bytes : UInt64 := 0
  states : List State
deriving DecidableEq, Repr

/-- `norddrop.TransferKind`. -/
inductive TransferKind where
  | incoming (paths : List (PathInfo IncomingPathState))
  | outgoing (paths : List (PathInfo OutgoingPathState))
  | unknown
deriving DecidableEq, Repr

/-- `norddrop.TransferStateKind`. -/
inductive TransferState where
  | cancel (byPeer : Bool)
  | failed (status : Status)
deriving DecidableEq, Repr

/-- `norddrop.TransferInfo`. -/
structure TransferInfo where
  id : String
  kind : TransferKind
  states : List TransferState := []
deriving DecidableEq, Repr

/-- `statusFromIncomingPath`. -/
def statusFromIncomingPath (inPath : PathInfo IncomingPathState) : Status :=
  match inPath.states.getLast? with
  | none => .requested
  | some .completed => .success
  | some (.failed status _) => status
  | some (.paused _) => .paused
  | some .pending => .pending
  | some (.rejected _) => .canceled
  | some (.started _) => .ongoing
  | some .unknown => .badStatus

/-- `statusFromOutgoingPath`. -/
def statusFromOutgoingPath (outPath : PathInfo OutgoingPathState) : Status :=
  match outPath.states.getLast? with
  | none => .requested
  | some (.started _) => .ongoing
  | some (.failed status _) => status
  | some .completed => .success
  | some (.rejected _) => .canceled
  | some (.paused _) => .paused
  | some .unknown => .badStatus

/-- `transferredFromIncomingPath`. -/
def transferredFromIncomingPath (inPath : PathInfo IncomingPathState) : UInt64 :=
  inPath.states.foldl (fun transferred state => match state with
    | .started bytes | .failed _ bytes | .rejected bytes | .paused bytes => bytes
    | .completed => inPath.bytes
    | .pending | .unknown => transferred) 0

/-- `transferredFromOutgoingPath`. -/
def transferredFromOutgoingPath (outPath : PathInfo OutgoingPathState) : UInt64 :=
  outPath.states.foldl (fun transferred state => match state with
    | .started bytes | .failed _ bytes | .rejected bytes | .paused bytes => bytes
    | .completed => outPath.bytes
    | .unknown => transferred) 0

/-- `norddropIncomingPathToPBFile`. -/
def norddropIncomingPathToPBFile (inPath : PathInfo IncomingPathState) : File :=
  { id := inPath.fileId, path := inPath.relativePath, size := inPath.bytes
    status := statusFromIncomingPath inPath, transferred := transferredFromIncomingPath inPath }

/-- `norddropOutgoingPathToPBFile`. -/
def norddropOutgoingPathToPBFile (outPath : PathInfo OutgoingPathState) : File :=
  { id := outPath.fileId, path := outPath.relativePath, size := outPath.bytes
    status := statusFromOutgoingPath outPath, transferred := transferredFromOutgoingPath outPath }

/-- `directionFromTransferInfo`. -/
def directionFromTransferInfo (ti : TransferInfo) : Direction :=
  match ti.kind with
  | .outgoing _ => .outgoing
  | .incoming _ => .incoming
  | .unknown => .unknownDirection

/-- `filesFromTransferInfo`. -/
def filesFromTransferInfo (ti : TransferInfo) : List File :=
  match ti.kind with
  | .incoming paths => paths.map norddropIncomingPathToPBFile
  | .outgoing paths => paths.map norddropOutgoingPathToPBFile
  | .unknown => []

/-- `calculateTotalSizeAndTotalTransferred`. -/
def calculateTotalSizeAndTotalTransferred (allFiles : List File) : UInt64 × UInt64 :=
  allFiles.foldl (fun (totalSize, totalTransferred) file =>
    if isFileTransferred file then (totalSize + file.size, totalTransferred + file.transferred)
    else (totalSize, totalTransferred)) (0, 0)

/-- `getTransferStatusByFiles`. -/
def getTransferStatusByFiles (files : List File) : Status :=
  let allCanceled := files.all (·.status == .canceled)
  let allFinished := files.all isFileCompleted
  let hasNoErrors := !files.any checkFileHasErrors
  let hasStarted := files.any (·.status != .requested)
  if allCanceled then .canceled
  else if allFinished && hasNoErrors then .success
  else if allFinished && !hasNoErrors then .finishedWithErrors
  else if hasStarted then .ongoing
  else .requested

/-- `determineTransferStatusAndAdjustFileStatuses`: the status and the files, of which the
unfinished ones of a canceled transfer count as canceled. -/
def determineTransferStatusAndAdjustFileStatuses (libdropTransfer : TransferInfo)
    (allFiles : List File) : Status × List File :=
  match libdropTransfer.states.getLast? with
  | none => (getTransferStatusByFiles allFiles, allFiles)
  | some (.failed status) => (status, allFiles)
  | some (.cancel byPeer) =>
    let statusByFiles := getTransferStatusByFiles allFiles
    if statusByFiles = .success ∨ statusByFiles = .finishedWithErrors then (statusByFiles, allFiles)
    else (if byPeer then .canceledByPeer else .canceled,
      allFiles.map fun file => if isFileCompleted file then file else
      { file with status := .canceled })

/-- `norddropTransferToPBTransfer`. The totals are computed before the statuses are adjusted. -/
def norddropTransferToPBTransfer (ti : TransferInfo) : Transfer :=
  let allFiles := filesFromTransferInfo ti
  let (totalSize, totalTransferred) := calculateTotalSizeAndTotalTransferred allFiles
  let (status, files) := determineTransferStatusAndAdjustFileStatuses ti allFiles
  { id := ti.id, direction := directionFromTransferInfo ti, status, files, totalSize
    totalTransferred }

/-- The transfers in the storage, in the order in which libdrop lists them. -/
abbrev Storage := List TransferInfo

/-- The stored transfer of an identifier: `Load` keeps the last one. -/
def Storage.find (storage : Storage) (id : String) : Option TransferInfo :=
  storage.reverse.find? (·.id == id)

theorem Storage.id_of_find {storage : Storage} {id : String} {ti : TransferInfo}
    (h : storage.find id = some ti) : ti.id = id := by
  unfold Storage.find at h
  simpa using List.find?_some h

end NordVPN.Fileshare
