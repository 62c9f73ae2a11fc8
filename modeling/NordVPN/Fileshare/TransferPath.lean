import Mathlib.Data.List.Induction
import Mathlib.Data.List.Perm.Basic

/-!
The path that is shown for a transfer (`determineTransferPath` in `fileshare/libdrop/libdrop.go`).

Both branches walk over the files with a result so far and the location that was seen last. The
branch of outgoing transfers returns the result, the branch of incoming ones returns the last
location.

The files are reduced to what says where they lie. `filepath.Base` and `filepath.Join` are given as
functions: nothing below depends on how they treat the texts.
-/

namespace NordVPN.Fileshare

/-! ### The source -/

/-- The functions of `path/filepath` that are used here. -/
structure Filepath where
  base : String → String
  join : String → String → String

/-- `norddrop.IncomingPathStateKind`, by what it says about the location. -/
inductive IncomingLocation where
  | pending (baseDir : String)
  | other
deriving DecidableEq, Repr

/-- The states of one `norddrop.IncomingPath`, the oldest first. -/
structure IncomingPath where
  states : List IncomingLocation
deriving DecidableEq, Repr

/-- `norddrop.OutgoingFileSource`. -/
inductive OutgoingFileSource where
  | basePath (basePath : String)
  | other
deriving DecidableEq, Repr

/-- `norddrop.OutgoingPath`. -/
structure OutgoingPath where
  relativePath : String
  source : OutgoingFileSource
deriving DecidableEq, Repr

/-- The variables `result` and `transferPath`. -/
structure PathWalk where
  result : String := ""
  transferPath : String := ""
deriving DecidableEq, Repr

/-- The end of the body of both loops. -/
def PathWalk.merge (walk : PathWalk) : PathWalk :=
  if walk.result = "" then { walk with result := walk.transferPath }
  else if walk.result ≠ walk.transferPath ∧ walk.transferPath ≠ "" then
    { walk with result := "multiple files" }
  else walk

/-- The loop over the states of a file. -/
def lastBaseDir (transferPath : String) (path : IncomingPath) : String :=
  path.states.foldl (fun transferPath state => match state with
    | .pending baseDir => baseDir
    | .other => transferPath) transferPath

def incomingStep (walk : PathWalk) (path : IncomingPath) : PathWalk :=
  PathWalk.merge { walk with transferPath := lastBaseDir walk.transferPath path }

/-- `determineTransferPath` of an incoming transfer. -/
def determineIncomingPath (paths : List IncomingPath) : String :=
  (paths.foldl incomingStep {}).transferPath

/-- `determineFullOutgoingPath`, the full path of the file of an outgoing path. -/
def determineFullOutgoingPath (fp : Filepath) (path : OutgoingPath) : String :=
  match path.source with
  | .basePath basePath => fp.join basePath path.relativePath
  | .other => ""

/-- `strings.Cut` at the path separator: what stands before the first one, if there is one. -/
def cutSeparator (text : String) : Option String :=
  if '/' ∈ text.toList then some (String.ofList (text.toList.takeWhile (· != '/'))) else none

/-- The location of an outgoing file; a file that names none leaves the variable as it was. -/
def outgoingLocation (fp : Filepath) (path : OutgoingPath) : Option String :=
  if fp.base path.relativePath = path.relativePath then some (determineFullOutgoingPath fp path)
  else match cutSeparator path.relativePath, path.source with
    | some dir, .basePath basePath => some (fp.join basePath dir)
    | _, _ => none

def outgoingStep (fp : Filepath) (walk : PathWalk) (path : OutgoingPath) : PathWalk :=
  PathWalk.merge { walk with transferPath := (outgoingLocation fp path).getD walk.transferPath }

/-- `determineTransferPath` of an outgoing transfer. -/
def determineOutgoingPath (fp : Filepath) (paths : List OutgoingPath) : String :=
  (paths.foldl (outgoingStep fp) {}).result

/-! ### What the path should be -/

/-- The location of a file is known if it is there and not empty. -/
def Known (location : Option String) (text : String) : Prop :=
  location = some text ∧ text ≠ ""

/-- The text that is shown does not depend on the order of the files: it is their common location,
or says that there are several. -/
def ShowsLocation {Path : Type} (location : Path → Option String) (shown : List Path → String)
    (paths : List Path) : Prop :=
  ∃ text, (∀ order : List Path, order.Perm paths → shown order = text) ∧
    (∀ common, (∃ path ∈ paths, Known (location path) common) →
      (∀ path ∈ paths, ∀ other, Known (location path) other → other = common) → text = common) ∧
    ((∃ path ∈ paths, ∃ path' ∈ paths, ∃ one other, Known (location path) one ∧
      Known (location path') other ∧ one ≠ other) → text = "multiple files")

def IncomingLocation.baseDir : IncomingLocation → Option String
  | .pending baseDir => some baseDir
  | .other => none

/-- The base directory of an incoming file: that of its last pending state. -/
def IncomingPath.location (path : IncomingPath) : Option String :=
  (path.states.filterMap IncomingLocation.baseDir).getLast?

/-! ### Incoming transfers -/

theorem lastBaseDir_eq (transferPath : String) (path : IncomingPath) :
    lastBaseDir transferPath path = path.location.getD transferPath := by
  obtain ⟨states⟩ := path
  unfold lastBaseDir IncomingPath.location
  dsimp only
  induction states using List.reverseRecOn with
  | nil => rfl
  | append_singleton states state ih =>
    rw [List.foldl_append, List.filterMap_append]
    cases state with
    | pending baseDir =>
      rw [show [IncomingLocation.pending baseDir].filterMap IncomingLocation.baseDir = [baseDir]
        from rfl, List.getLast?_concat]
      rfl
    | other =>
      rw [show [IncomingLocation.other].filterMap IncomingLocation.baseDir = [] from rfl,
        List.append_nil, ← ih]
      rfl

theorem PathWalk.transferPath_merge (walk : PathWalk) :
    walk.merge.transferPath = walk.transferPath := by
  unfold PathWalk.merge
  split
  · rfl
  · split
    · rfl
    · rfl

/-- The last location of all files is shown, whatever was seen before it. -/
theorem determineIncomingPath_eq (paths : List IncomingPath) :
    determineIncomingPath paths = ((paths.filterMap IncomingPath.location).getLast?).getD "" := by
  unfold determineIncomingPath
  induction paths using List.reverseRecOn with
  | nil => rfl
  | append_singleton paths path ih =>
    rw [List.foldl_append, List.filterMap_append]
    change (PathWalk.merge _).transferPath = _
    rw [PathWalk.transferPath_merge, lastBaseDir_eq, ih]
    cases hlocation : path.location with
    | none => rw [List.filterMap_cons_none hlocation, List.filterMap_nil, List.append_nil]; rfl
    | some baseDir =>
      rw [List.filterMap_cons_some hlocation, List.filterMap_nil, List.getLast?_concat]
      rfl

/-- The files that have a base directory have the same one. -/
def SameBaseDir (paths : List IncomingPath) : Prop :=
  ∀ path ∈ paths, ∀ path' ∈ paths, ∀ baseDir baseDir', path.location = some baseDir →
    path'.location = some baseDir' → baseDir = baseDir'

variable {paths : List IncomingPath} {locations : List String} {walk : PathWalk}

/-- A file may stand last, and then its base directory is shown. -/
theorem exists_order_shows {path : IncomingPath} (hpath : path ∈ paths) {baseDir : String}
    (hlocation : path.location = some baseDir) :
    ∃ order : List IncomingPath, order.Perm paths ∧ determineIncomingPath order = baseDir := by
  refine ⟨paths.erase path ++ [path], ?_, ?_⟩
  · exact (List.perm_append_singleton path _).trans (List.perm_cons_erase hpath).symm
  · rw [determineIncomingPath_eq, List.filterMap_append, List.filterMap_cons_some hlocation,
      List.filterMap_nil, List.getLast?_concat]
    rfl

theorem SameBaseDir.shows (h : SameBaseDir paths) {path : IncomingPath} (hpath : path ∈ paths)
    {baseDir : String}
    (hlocation : path.location = some baseDir) : determineIncomingPath paths = baseDir := by
  have hmem : baseDir ∈ paths.filterMap IncomingPath.location :=
    List.mem_filterMap.mpr ⟨path, hpath, hlocation⟩
  rw [determineIncomingPath_eq]
  cases hlast : (paths.filterMap IncomingPath.location).getLast? with
  | none =>
    rw [List.getLast?_eq_none_iff] at hlast
    rw [hlast] at hmem
    cases hmem
  | some last =>
    obtain ⟨path', hpath', hlocation'⟩ :=
      List.mem_filterMap.mp (List.mem_of_mem_getLast? hlast)
    exact h path' hpath' path hpath last baseDir hlocation' hlocation

theorem SameBaseDir.perm {order : List IncomingPath} (h : SameBaseDir paths)
    (hperm : order.Perm paths) : determineIncomingPath order = determineIncomingPath paths := by
  have horder : SameBaseDir order := fun path hpath path' hpath' =>
    h path (hperm.subset hpath) path' (hperm.subset hpath')
  by_cases hsome : ∃ path ∈ paths, ∃ baseDir, path.location = some baseDir
  · obtain ⟨path, hpath, baseDir, hlocation⟩ := hsome
    rw [h.shows hpath hlocation, horder.shows (hperm.symm.subset hpath) hlocation]
  · have hnone (files : List IncomingPath) (hsub : files ⊆ paths) :
        files.filterMap IncomingPath.location = [] := by
      rw [List.filterMap_eq_nil_iff]
      intro path hpath
      cases hlocation : path.location with
      | none => rfl
      | some baseDir => exact absurd ⟨path, hsub hpath, baseDir, hlocation⟩ hsome
    rw [determineIncomingPath_eq, determineIncomingPath_eq, hnone order hperm.subset,
      hnone paths (List.Subset.refl _)]

theorem showsLocation_incoming_iff (paths : List IncomingPath) :
    ShowsLocation IncomingPath.location determineIncomingPath paths ↔ SameBaseDir paths := by
  constructor
  · rintro ⟨text, htext, -, -⟩ path hpath path' hpath' baseDir baseDir' hlocation hlocation'
    obtain ⟨order, hperm, hshown⟩ := exists_order_shows hpath hlocation
    obtain ⟨order', hperm', hshown'⟩ := exists_order_shows hpath' hlocation'
    calc baseDir = determineIncomingPath order := hshown.symm
      _ = text := htext order hperm
      _ = determineIncomingPath order' := (htext order' hperm').symm
      _ = baseDir' := hshown'
  · intro h
    refine ⟨determineIncomingPath paths, fun order hperm => h.perm hperm, ?_, ?_⟩
    · rintro common ⟨path, hpath, hknown⟩ -
      exact h.shows hpath hknown.1
    · rintro ⟨path, hpath, path', hpath', one, other, hone, hother, hne⟩
      exact absurd (h path hpath path' hpath' one other hone.1 hother.1) hne

/-! ### Outgoing transfers -/

/-- The text for a list of known locations. -/
def summary : List String → String
  | [] => ""
  | first :: rest => if ∀ location ∈ rest, location = first then first else "multiple files"

theorem summary_common {common : String} (hmem : common ∈ locations)
    (hall : ∀ location ∈ locations, location = common) : summary locations = common := by
  cases locations with
  | nil => cases hmem
  | cons first rest =>
    obtain rfl := hall first List.mem_cons_self
    exact if_pos fun location hlocation => hall location (List.mem_cons_of_mem _ hlocation)

theorem summary_several {one other : String} (hone : one ∈ locations) (hother : other ∈ locations)
    (hne : one ≠ other) : summary locations = "multiple files" := by
  cases locations with
  | nil => cases hone
  | cons first rest =>
    refine if_neg fun hall => hne ?_
    have hfirst := List.forall_mem_cons (p := (· = first)).mpr ⟨rfl, hall⟩
    exact (hfirst one hone).trans (hfirst other hother).symm

theorem summary_perm {locations' : List String} (h : locations.Perm locations') :
    summary locations = summary locations' := by
  cases locations' with
  | nil => rw [h.eq_nil]
  | cons first rest =>
    have hmem := h.symm.subset List.mem_cons_self
    rw [summary]
    split
    · rename_i hall
      have hfirst := List.forall_mem_cons (p := (· = first)).mpr ⟨rfl, hall⟩
      exact summary_common hmem fun location hlocation => hfirst location (h.subset hlocation)
    · rename_i hnot
      push Not at hnot
      obtain ⟨other, hother, hne⟩ := hnot
      exact summary_several (h.symm.subset (List.mem_cons_of_mem _ hother)) hmem hne

/-- What the walk knows after the files with these known locations: the result sums them up, and the
location seen last is one of them, if there is one. -/
structure PathWalk.After (walk : PathWalk) (locations : List String) : Prop where
  nonempty : "" ∉ locations
  result : walk.result = summary locations
  transferPath : walk.transferPath = "" ∨ walk.transferPath ∈ locations

/-- After a first known location the result is that one, or says that there are several. -/
theorem PathWalk.After.result_cons {first : String} {rest : List String}
    (h : walk.After (first :: rest)) :
    walk.result ≠ "" ∧
      walk.result = if ∀ location ∈ rest, location = first then first else "multiple files" := by
  refine ⟨?_, h.result⟩
  rw [h.result, summary]
  split
  · exact fun hempty => h.nonempty (hempty ▸ List.mem_cons_self)
  · decide

/-- A file without a known location changes nothing, whether the variable was cleared or kept. -/
theorem PathWalk.After.skip (h : walk.After locations) {transferPath : String}
    (hkept : transferPath = "" ∨ transferPath = walk.transferPath) :
    (PathWalk.merge { walk with transferPath }).After locations := by
  have hpath : transferPath = "" ∨ transferPath ∈ locations := by
    rcases hkept with hempty | rfl
    · exact .inl hempty
    · exact h.transferPath
  refine ⟨h.nonempty, ?_, (PathWalk.transferPath_merge _).symm ▸ hpath⟩
  cases locations with
  | nil =>
    have hempty : walk.result = "" := h.result
    simpa [PathWalk.merge, hempty, summary] using hpath
  | cons first rest =>
    obtain ⟨hresult, heq⟩ := h.result_cons
    rw [PathWalk.merge, if_neg hresult, summary]
    by_cases hall : ∀ location ∈ rest, location = first
    · -- the location that was seen last is the only one
      rw [if_pos hall] at heq ⊢
      have hlast : transferPath = "" ∨ transferPath = first :=
        hpath.imp_right fun hmem => (List.mem_cons.mp hmem).elim id (hall _)
      rcases hlast with rfl | rfl <;> simp [heq]
    · rw [if_neg hall] at heq ⊢
      split
      · rfl
      · exact heq

/-- A file with a known location is added to the summary. -/
theorem PathWalk.After.add (h : walk.After locations) {transferPath : String}
    (hne : transferPath ≠ "") :
    (PathWalk.merge { walk with transferPath }).After (locations ++ [transferPath]) := by
  have hmem : transferPath ∈ locations ++ [transferPath] :=
    List.mem_append_right _ List.mem_cons_self
  refine ⟨?_, ?_, (PathWalk.transferPath_merge _).symm ▸ .inr hmem⟩
  · rw [List.mem_append, List.mem_singleton, not_or]
    exact ⟨h.nonempty, hne.symm⟩
  cases locations with
  | nil =>
    have hempty : walk.result = "" := h.result
    simp [PathWalk.merge, hempty, summary]
  | cons first rest =>
    obtain ⟨hresult, heq⟩ := h.result_cons
    simp only [List.cons_append, summary, List.forall_mem_append, List.forall_mem_singleton]
    by_cases hall : ∀ location ∈ rest, location = first
    · rw [if_pos hall] at heq
      by_cases hsame : transferPath = first
      · rw [if_pos ⟨hall, hsame⟩]
        simp [PathWalk.merge, heq, hsame]
      · rw [if_neg fun hboth => hsame hboth.2, PathWalk.merge, if_neg hresult]
        simp [heq, Ne.symm hsame, hne]
    · rw [if_neg hall] at heq
      rw [if_neg fun hboth => hall hboth.1, PathWalk.merge, if_neg hresult]
      split
      · rfl
      · exact heq

/-- The known location of an outgoing file. -/
def knownLocation (fp : Filepath) (path : OutgoingPath) : Option String :=
  (outgoingLocation fp path).filter (· ≠ "")

theorem knownLocation_eq_some {fp : Filepath} {path : OutgoingPath} {text : String} :
    knownLocation fp path = some text ↔ Known (outgoingLocation fp path) text := by
  unfold knownLocation Known
  rw [Option.filter_eq_some_iff, decide_eq_true_iff]

theorem after_outgoing (fp : Filepath) (paths : List OutgoingPath) :
    (paths.foldl (outgoingStep fp) {}).After (paths.filterMap (knownLocation fp)) := by
  induction paths using List.reverseRecOn with
  | nil => exact ⟨List.not_mem_nil, rfl, .inl rfl⟩
  | append_singleton paths path ih =>
    rw [List.foldl_append, List.filterMap_append]
    change (outgoingStep fp _ path).After _
    unfold outgoingStep
    cases hknown : knownLocation fp path with
    | some text =>
      obtain ⟨hlocation, hne⟩ := knownLocation_eq_some.mp hknown
      rw [List.filterMap_cons_some hknown, List.filterMap_nil, hlocation]
      exact ih.add hne
    | none =>
      rw [List.filterMap_cons_none hknown, List.filterMap_nil, List.append_nil]
      apply ih.skip
      cases hlocation : outgoingLocation fp path with
      | none => exact .inr rfl
      | some text =>
        by_cases hempty : text = ""
        · exact .inl hempty
        · rw [knownLocation_eq_some.mpr ⟨hlocation, hempty⟩] at hknown
          cases hknown

theorem showsLocation_outgoing (fp : Filepath) (paths : List OutgoingPath) :
    ShowsLocation (outgoingLocation fp) (determineOutgoingPath fp) paths := by
  have hmem {path : OutgoingPath} (hpath : path ∈ paths) {text : String}
      (hknown : Known (outgoingLocation fp path) text) :
      text ∈ paths.filterMap (knownLocation fp) :=
    List.mem_filterMap.mpr ⟨path, hpath, knownLocation_eq_some.mpr hknown⟩
  refine ⟨summary (paths.filterMap (knownLocation fp)), ?_, ?_, ?_⟩
  · intro order hperm
    rw [determineOutgoingPath, (after_outgoing fp order).result]
    exact summary_perm (hperm.filterMap _)
  · rintro common ⟨path, hpath, hknown⟩ hall
    apply summary_common (hmem hpath hknown)
    intro location hlocation
    obtain ⟨path', hpath', hknown'⟩ := List.mem_filterMap.mp hlocation
    exact hall path' hpath' location (knownLocation_eq_some.mp hknown')
  · rintro ⟨path, hpath, path', hpath', one, other, hone, hother, hne⟩
    exact summary_several (hmem hpath hone) (hmem hpath' hother) hne

/-- The path of an outgoing transfer is always right, that of an incoming one exactly if no two of
its files have different base directories. -/
theorem transfer_path_iff (incoming : List IncomingPath) (fp : Filepath)
    (outgoing : List OutgoingPath) :
    (ShowsLocation IncomingPath.location determineIncomingPath incoming ↔ SameBaseDir incoming) ∧
      ShowsLocation (outgoingLocation fp) (determineOutgoingPath fp) outgoing :=
  ⟨showsLocation_incoming_iff incoming, showsLocation_outgoing fp outgoing⟩

/-- Two files that are downloaded to different directories: the directory of the second is shown. -/
theorem second_directory_shown :
    let path (baseDir : String) : IncomingPath := { states := [.pending baseDir, .other] }
    determineIncomingPath [path "/tmp", path "/home"] = "/home" ∧
      determineIncomingPath [path "/home", path "/tmp"] = "/tmp" := by
  decide

end NordVPN.Fileshare
