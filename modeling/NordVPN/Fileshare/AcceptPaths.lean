import NordVPN.Fileshare.Accepting

/-!
The files that a request for some paths of a transfer accepts (`Server.Accept`, `acceptTransfer`).

A path stands for a file or for a directory with all that lies beneath it. Both the check of the
request and the loop that accepts its files decide by the beginning of the text alone, so that `doc`
also stands for `document.txt`.
-/

namespace NordVPN.Fileshare

open EventManager

/-- A call on libdrop. -/
inductive FileCall where
  | accept (fileId : String)
  | cancelFile (fileId : String)
deriving DecidableEq, Repr

/-- The loop of `Server.Accept` over the files of the transfer. -/
def acceptCalls (filePaths : List String) (files : List File) : List FileCall :=
  files.map fun file => if isAccepted filePaths file then .accept file.id else .cancelFile file.id

/-! ### Paths and texts -/

/-- The path is that of the file, or of a directory that it lies beneath. -/
def names (filePath : String) (file : File) : Bool :=
  file.path == filePath || (filePath.toList ++ ['/']).isPrefixOf file.path.toList

/-- The calls for the files that the paths stand for. -/
def namedCalls (filePaths : List String) (files : List File) : List FileCall :=
  files.map fun file =>
    if filePaths.any (names · file) then .accept file.id else .cancelFile file.id

/-- The path goes on in the file's, but not with a slash. -/
def Stray (filePath : String) (file : File) : Prop :=
  ∃ c rest, file.path.toList = filePath.toList ++ c :: rest ∧ c ≠ '/'

variable {filePath : String} {file : File} {filePaths : List String} {tr : Transfer}

theorem hasPathPrefix_of_names (h : names filePath file = true) :
    file.hasPathPrefix filePath = true := by
  simp only [names, Bool.or_eq_true, beq_iff_eq, List.isPrefixOf_iff_prefix] at h
  rw [File.hasPathPrefix, List.isPrefixOf_iff_prefix]
  rcases h with h | h
  · rw [h]
  · exact (List.prefix_append _ _).trans h

theorem Stray.hasPathPrefix (h : Stray filePath file) : file.hasPathPrefix filePath = true := by
  obtain ⟨c, rest, hpath, -⟩ := h
  rw [File.hasPathPrefix, List.isPrefixOf_iff_prefix, hpath]
  exact List.prefix_append _ _

theorem names_or_stray (h : file.hasPathPrefix filePath = true) :
    names filePath file = true ∨ Stray filePath file := by
  rw [File.hasPathPrefix, List.isPrefixOf_iff_prefix] at h
  obtain ⟨rest, hrest⟩ := h
  cases rest with
  | nil =>
    refine .inl ?_
    rw [List.append_nil, String.toList_inj] at hrest
    simp [names, hrest]
  | cons c rest =>
    by_cases hslash : c = '/'
    · refine .inl ?_
      have hbegins : (filePath.toList ++ ['/']) <+: file.path.toList :=
        ⟨rest, by rw [← hrest, hslash, List.append_assoc]; rfl⟩
      simp [names, List.isPrefixOf_iff_prefix, hbegins]
    · exact .inr ⟨c, rest, hrest.symm, hslash⟩

theorem acceptCalls_eq_iff {files : List File} (hne : filePaths ≠ []) :
    acceptCalls filePaths files = namedCalls filePaths files ↔
      ∀ file ∈ files, (∃ filePath ∈ filePaths, file.hasPathPrefix filePath = true) →
        ∃ filePath ∈ filePaths, names filePath file = true := by
  have hempty : filePaths.isEmpty = false := by simpa using hne
  rw [acceptCalls, namedCalls, List.map_inj_left]
  refine forall₂_congr fun file _ => ?_
  simp only [isAccepted, hempty, Bool.false_or, List.any_eq_true]
  constructor
  · intro h hbegins
    by_contra hnot
    rw [if_pos hbegins, if_neg hnot] at h
    cases h
  · intro h
    by_cases hbegins : ∃ filePath ∈ filePaths, file.hasPathPrefix filePath = true
    · rw [if_pos hbegins, if_pos (h hbegins)]
    · refine (if_neg hbegins).trans (if_neg ?_).symm
      rintro ⟨filePath, hmem, hnames⟩
      exact hbegins ⟨filePath, hmem, hasPathPrefix_of_names hnames⟩

/-! ### Requests -/

theorem filesToAccept_eq_error (hmem : filePath ∈ filePaths)
    (hnone : getTransferFilesByPathPrefix tr filePath = []) :
    filesToAccept tr filePaths = .error .fileNotFound := by
  have herror (paths : List String) (hmem : filePath ∈ paths) :
      filesByPaths tr paths = .error .fileNotFound := by
    induction paths with
    | nil => cases hmem
    | cons path rest ih =>
      unfold filesByPaths
      dsimp only
      split
      · rfl
      · rename_i hsome
        rcases List.mem_cons.mp hmem with rfl | hmem
        · rw [hnone] at hsome
          exact absurd rfl hsome
        · rw [ih hmem]
  unfold filesToAccept
  rw [if_neg (by simpa using List.ne_nil_of_mem hmem)]
  exact herror filePaths hmem

theorem acceptTransfer_eq_fileNotFound {em : EventManager} {r : EventEnv} {transferID path : String}
    (hdirectory : checkDirectory r path = .ok ())
    (htransfer : em.getTransfer r.storage transferID = some tr) (hcheck : checkTransfer tr = .ok ())
    (hfiles : filesToAccept tr filePaths = .error .fileNotFound) :
    em.acceptTransfer r transferID path filePaths = .error .fileNotFound := by
  unfold acceptTransfer
  rw [hdirectory]
  simp only [htransfer, hcheck, hfiles, bind, Except.bind]

/-- A request for paths is refused if one of them stands for nothing, and else accepts the files
that they stand for. -/
structure AcceptsNamed (em : EventManager) (storage : Option Storage) (transferID : String)
    (tr : Transfer) (filePaths : List String) : Prop where
  refused : ∀ r path, r.storage = storage → checkDirectory r path = .ok () →
    (∃ filePath ∈ filePaths, ∀ file ∈ tr.files, names filePath file = false) →
    em.acceptTransfer r transferID path filePaths = .error .fileNotFound
  accepted : ∀ r path, r.storage = storage →
    em.acceptTransfer r transferID path filePaths = .ok tr →
    acceptCalls filePaths tr.files = namedCalls filePaths tr.files

/-- If every path is the beginning of some file's, then a file that goes on otherwise than with a
slash is also named by a path of the request, and the path it begins with names another file. -/
def StraysCovered (tr : Transfer) (filePaths : List String) : Prop :=
  (∀ filePath ∈ filePaths, getTransferFilesByPathPrefix tr filePath ≠ []) →
    ∀ filePath ∈ filePaths, ∀ file ∈ tr.files, Stray filePath file →
      (∃ other ∈ filePaths, names other file = true) ∧
      ∃ other ∈ tr.files, names filePath other = true

theorem mem_getTransferFilesByPathPrefix :
    file ∈ getTransferFilesByPathPrefix tr filePath ↔
      file ∈ tr.files ∧ file.hasPathPrefix filePath = true := List.mem_filter

/-- A request for paths accepts exactly the files they name exactly if strays are covered. -/
theorem accepts_named_iff (em : EventManager) (storage : Option Storage) (transferID : String)
    (tr : Transfer) (filePaths : List String) (hne : filePaths ≠ [])
    (htransfer : em.getTransfer storage transferID = some tr) (hcheck : checkTransfer tr = .ok ()) :
    AcceptsNamed em storage transferID tr filePaths ↔ StraysCovered tr filePaths := by
  constructor
  · intro h hfound filePath hmem file hfile hstray
    obtain ⟨files, hfiles⟩ := exists_filesToAccept.mpr hfound
    have hpass :
        em.acceptTransfer (roomyEnv storage (totalSize files)) transferID "/" filePaths = .ok tr :=
      acceptTransfer_roomyEnv htransfer hcheck hfiles
    constructor
    · refine (acceptCalls_eq_iff hne).mp (h.accepted _ _ rfl hpass) file hfile ?_
      exact ⟨filePath, hmem, hstray.hasPathPrefix⟩
    · by_contra hnone
      push Not at hnone
      have hrefused := h.refused (roomyEnv storage (totalSize files)) "/" rfl rfl
        ⟨filePath, hmem, fun other hother => by simpa using hnone other hother⟩
      rw [hpass] at hrefused
      cases hrefused
  · intro h
    constructor
    · rintro r path rfl hdirectory ⟨filePath, hmem, hnone⟩
      refine acceptTransfer_eq_fileNotFound hdirectory htransfer hcheck ?_
      by_cases hfound : ∀ filePath ∈ filePaths, getTransferFilesByPathPrefix tr filePath ≠ []
      · -- the path begins some file's, which is a stray as the path names none
        obtain ⟨file, hfile⟩ := List.exists_mem_of_ne_nil _ (hfound filePath hmem)
        obtain ⟨hfile, hbegins⟩ := mem_getTransferFilesByPathPrefix.mp hfile
        have hstray := (names_or_stray hbegins).resolve_left (by simp [hnone file hfile])
        obtain ⟨-, other, hother, hnames⟩ := h hfound filePath hmem file hfile hstray
        rw [hnone other hother] at hnames
        cases hnames
      · push Not at hfound
        obtain ⟨filePath, hmem, hnone⟩ := hfound
        exact filesToAccept_eq_error hmem hnone
    · rintro r path rfl hpass
      rw [acceptCalls_eq_iff hne]
      rintro file hfile ⟨filePath, hmem, hbegins⟩
      have hfound : ∀ filePath ∈ filePaths, getTransferFilesByPathPrefix tr filePath ≠ [] := by
        intro filePath hmem hnone
        cases hdirectory : checkDirectory r path with
        | error e =>
          rw [acceptTransfer, hdirectory] at hpass
          cases hpass
        | ok =>
          rw [acceptTransfer_eq_fileNotFound hdirectory htransfer hcheck
            (filesToAccept_eq_error hmem hnone)] at hpass
          cases hpass
      rcases names_or_stray hbegins with hnames | hstray
      · exact ⟨filePath, hmem, hnames⟩
      · exact (h hfound filePath hmem file hfile hstray).1

/-- An incoming transfer of files with these paths, which are also their identifiers. -/
def requestOf (paths : List String) : TransferInfo :=
  { id := "transfer"
    kind :=
      .incoming (paths.map fun path => { fileId := path, relativePath := path, states := [] }) }

theorem accepts_directory :
    AcceptsNamed {} (some [requestOf ["doc/a.txt", "b.txt"]]) "transfer"
      (norddropTransferToPBTransfer (requestOf ["doc/a.txt", "b.txt"])) ["doc"] := by
  refine (accepts_named_iff _ _ _ _ _ (by decide) (by decide +kernel) (by decide +kernel)).mpr ?_
  have hnone : ∀ file ∈ (norddropTransferToPBTransfer (requestOf ["doc/a.txt", "b.txt"])).files,
      file.hasPathPrefix "doc" = true → names "doc" file = true := by decide +kernel
  rintro - _ hmem file hfile ⟨c, rest, hpath, hslash⟩
  cases List.mem_singleton.mp hmem
  have hnames := hnone file hfile (Stray.hasPathPrefix ⟨c, rest, hpath, hslash⟩)
  exact ⟨⟨"doc", List.mem_cons_self, hnames⟩, file, hfile, hnames⟩

/-- The request for `doc` passes and accepts `document.txt`, with or without a directory `doc`. -/
theorem document_accepted :
    let tr := norddropTransferToPBTransfer (requestOf ["doc/a.txt", "document.txt"])
    let other := norddropTransferToPBTransfer (requestOf ["document.txt"])
    EventManager.acceptTransfer {} (roomyEnv (some [requestOf ["doc/a.txt", "document.txt"]]) 0)
        "transfer" "/home" ["doc"] = .ok tr ∧
      acceptCalls ["doc"] tr.files = [.accept "doc/a.txt", .accept "document.txt"] ∧
      namedCalls ["doc"] tr.files = [.accept "doc/a.txt", .cancelFile "document.txt"] ∧
      EventManager.acceptTransfer {} (roomyEnv (some [requestOf ["document.txt"]]) 0)
        "transfer" "/home" ["doc"] = .ok other ∧
      other.files.all (fun file => !names "doc" file) = true := by
  decide +kernel

end NordVPN.Fileshare
