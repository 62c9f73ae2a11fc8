import Mathlib.Algebra.Order.Ring.Nat
import Mathlib.Data.List.Perm.Basic

/-!
Which paths may be sent (`fileshare/server.go`).

Before a transfer is created, `Send` walks over the requested paths, counts the files under each of
them and stops at the first path that may not be sent. The count of a directory is a recursion with
a depth limit over the tree below it. The result is compared with what the request as a whole holds.
-/

namespace NordVPN.Fileshare

/-! ### The tree under a path -/

/-- What a path leads to. A directory that `ReadDir` cannot list shows no entries; a symbolic link
inside a directory is an entry that is no directory. -/
inductive Node where
  | file
  | unreadable
  | dir (entries : List Node)

/-- The answer of `FileInfo.IsDir`. -/
def Node.isDir : Node → Bool
  | .file => false
  | .unreadable => true
  | .dir _ => true

mutual

/-- How many directories lie one inside the other. -/
def Node.depth : Node → Nat
  | .file => 0
  | .unreadable => 1
  | .dir entries => 1 + depths entries

/-- The depth of the deepest entry. -/
def depths : List Node → Nat
  | [] => 0
  | entry :: entries => max entry.depth (depths entries)

end

mutual

/-- The number of entries that are no directories, on every level. -/
def Node.files : Node → Nat
  | .file => 1
  | .unreadable => 0
  | .dir entries => filesIn entries

/-- The number of files among the entries and below them. -/
def filesIn : List Node → Nat
  | [] => 0
  | entry :: entries => entry.files + filesIn entries

end

mutual

/-- Every directory of the tree can be listed. -/
def Node.Readable : Node → Prop
  | .file => True
  | .unreadable => False
  | .dir entries => AllReadable entries

/-- Every directory below the entries can be listed. -/
def AllReadable : List Node → Prop
  | [] => True
  | entry :: entries => entry.Readable ∧ AllReadable entries

end

/-! ### Counting -/

/-- The two ways in which a count ends early. -/
inductive CountError where
  | maxDirectoryDepthReached
  | readDir
deriving DecidableEq

mutual

/-- Number of files in a directory and its subdirectories; a negative depth is unlimited. -/
def getNumberOfFiles : Node → Int → Except CountError Nat
  | .file, maxDepth => .error (if maxDepth = 0 then .maxDirectoryDepthReached else .readDir)
  | .unreadable, maxDepth => .error (if maxDepth = 0 then .maxDirectoryDepthReached else .readDir)
  | .dir entries, maxDepth =>
    if maxDepth = 0 then .error .maxDirectoryDepthReached
    else countEntries entries (maxDepth - 1) 0

/-- The loop over the entries of one directory, with the number of files so far. -/
def countEntries : List Node → Int → Nat → Except CountError Nat
  | [], _, numberOfFiles => .ok numberOfFiles
  | entry :: entries, maxDepth, numberOfFiles =>
    if entry.isDir then
      match getNumberOfFiles entry maxDepth with
      | .error err => .error err
      | .ok nestedFiles => countEntries entries maxDepth (numberOfFiles + nestedFiles)
    else countEntries entries maxDepth (numberOfFiles + 1)

end

/-- A tree of this depth is within the limit. -/
def Within (maxDepth : Int) (depth : Nat) : Prop :=
  maxDepth < 0 ∨ (depth : Int) ≤ maxDepth

theorem within_succ {maxDepth : Int} {depth : Nat} :
    Within maxDepth (1 + depth) ↔ maxDepth ≠ 0 ∧ Within (maxDepth - 1) depth := by
  unfold Within
  omega

theorem within_max {maxDepth : Int} {first rest : Nat} :
    Within maxDepth (max first rest) ↔ Within maxDepth first ∧ Within maxDepth rest := by
  unfold Within
  omega

theorem within_zero (maxDepth : Int) : Within maxDepth 0 := by
  unfold Within
  omega

theorem Node.eq_file {node : Node} (h : ¬ node.isDir = true) : node = .file := by
  cases node with
  | file => rfl
  | unreadable => exact absurd rfl h
  | dir entries => exact absurd rfl h

mutual

/-- A directory is counted exactly if it can be listed and is within the limit. -/
theorem getNumberOfFiles_ok_iff : ∀ (node : Node) (maxDepth : Int) (count : Nat),
    node.isDir = true → (getNumberOfFiles node maxDepth = .ok count ↔
      node.Readable ∧ Within maxDepth node.depth ∧ node.files = count)
  | .file, _, _, hdir => by cases hdir
  | .unreadable, _, _, _ => by simp [getNumberOfFiles, Node.Readable]
  | .dir entries, maxDepth, count, _ => by
    rw [getNumberOfFiles, Node.Readable, Node.depth, Node.files, within_succ]
    by_cases hzero : maxDepth = 0
    · simp [hzero]
    · rw [if_neg hzero, countEntries_ok_iff entries, Nat.zero_add]
      simp [hzero]

/-- The loop adds the files of the entries still to come. -/
theorem countEntries_ok_iff : ∀ (entries : List Node) (maxDepth : Int) (sofar count : Nat),
    countEntries entries maxDepth sofar = .ok count ↔
      AllReadable entries ∧ Within maxDepth (depths entries) ∧ sofar + filesIn entries = count
  | [], maxDepth, sofar, count => by
    simp [countEntries, AllReadable, depths, filesIn, within_zero]
  | entry :: entries, maxDepth, sofar, count => by
    rw [countEntries, AllReadable, depths, filesIn, within_max, ← Nat.add_assoc]
    split
    · next hdir =>
      have hentry := fun nestedFiles => getNumberOfFiles_ok_iff entry maxDepth nestedFiles hdir
      cases hnested : getNumberOfFiles entry maxDepth with
      | error err =>
        refine iff_of_false nofun ?_
        rintro ⟨⟨hread, -⟩, ⟨hwithin, -⟩, -⟩
        cases hnested.symm.trans ((hentry _).mpr ⟨hread, hwithin, rfl⟩)
      | ok nestedFiles =>
        obtain ⟨hread, hwithin, rfl⟩ := (hentry nestedFiles).mp hnested
        dsimp only
        rw [countEntries_ok_iff entries]
        simp [hread, hwithin]
    · next hdir =>
      rw [countEntries_ok_iff entries, Node.eq_file hdir]
      simp [Node.Readable, Node.depth, Node.files, within_zero]

end

/-! ### The verdict on the paths -/

/-- The answers of `Send` about the paths of a request. -/
inductive Verdict where
  | accepted
  | fileNotFound
  | directoryTooDeep
  | tooManyFiles
  | noFiles
deriving DecidableEq

def DirDepthLimit : Int := 5

def TransferFileLimit : Nat := 1000

/-- The loop of `Send` over the paths still to come, with the number of files so far. `fs` is the
file system: what each path leads to, if it exists. -/
def sendPaths (fs : String → Option Node) : List String → Nat → Verdict
  | [], _ => .accepted
  | path :: paths, fileCount =>
    match fs path with
    | none => .fileNotFound
    | some node =>
      let counted := if node.isDir then getNumberOfFiles node DirDepthLimit else .ok 1
      match counted with
      | .error .maxDirectoryDepthReached => .directoryTooDeep
      | .error .readDir => .fileNotFound
      | .ok count =>
        if fileCount + count > TransferFileLimit then .tooManyFiles
        else if fileCount + count = 0 then .noFiles
        else sendPaths fs paths (fileCount + count)

/-- The files a path leads to. -/
def filesAt (fs : String → Option Node) (path : String) : Nat :=
  ((fs path).map Node.files).getD 0

/-- The verdict that the number of all files of the request asks for. -/
def verdictOf (total : Nat) : Verdict :=
  if total > TransferFileLimit then .tooManyFiles
  else if total = 0 then .noFiles
  else .accepted

/-- The path exists and is within the depth limit. -/
def Sendable (fs : String → Option Node) (path : String) : Prop :=
  ∃ node, fs path = some node ∧ Within DirDepthLimit node.depth

/-- Every directory under the path can be listed. -/
def ReadableAt (fs : String → Option Node) (path : String) : Prop :=
  ∃ node, fs path = some node ∧ node.Readable

variable {fs : String → Option Node}

variable {path : String} {paths : List String}

/-- One path that can be counted: the sum so far is tested before the next path is looked at. -/
theorem sendPaths_cons (hsend : Sendable fs path) (hread : ReadableAt fs path) (paths : List String)
    (fileCount : Nat) :
    sendPaths fs (path :: paths) fileCount =
      if fileCount + filesAt fs path > TransferFileLimit then .tooManyFiles
      else if fileCount + filesAt fs path = 0 then .noFiles
      else sendPaths fs paths (fileCount + filesAt fs path) := by
  obtain ⟨node, hnode, hwithin⟩ := hsend
  obtain ⟨node', hnode', hreadable⟩ := hread
  obtain rfl : node = node' := Option.some.inj (hnode.symm.trans hnode')
  have hfiles : filesAt fs path = node.files := by
    rw [filesAt, hnode]
    rfl
  have hcounted : (if node.isDir then getNumberOfFiles node DirDepthLimit else .ok 1) =
      Except.ok node.files := by
    split
    · next hdir => exact (getNumberOfFiles_ok_iff node _ _ hdir).mpr ⟨hreadable, hwithin, rfl⟩
    · next hdir => rw [Node.eq_file hdir, Node.files]
  rw [sendPaths, hnode, hfiles]
  simp only [hcounted]

/-- A path that cannot be listed ends the loop with an error of its own. -/
theorem sendPaths_unreadable (hread : ¬ ReadableAt fs path) (paths : List String)
    (fileCount : Nat) :
    sendPaths fs (path :: paths) fileCount = .fileNotFound ∨
      sendPaths fs (path :: paths) fileCount = .directoryTooDeep := by
  rw [sendPaths]
  cases hnode : fs path with
  | none => exact .inl rfl
  | some node =>
    have hreadable : ¬ node.Readable := fun h => hread ⟨node, hnode, h⟩
    have hdir : node.isDir = true := by
      by_contra h
      rw [Node.eq_file h] at hreadable
      exact hreadable trivial
    simp only [hdir, if_true]
    cases hcount : getNumberOfFiles node DirDepthLimit with
    | ok count => exact absurd ((getNumberOfFiles_ok_iff node _ count hdir).mp hcount).1 hreadable
    | error err =>
      cases err with
      | maxDirectoryDepthReached => exact .inr rfl
      | readDir => exact .inl rfl

theorem verdictOf_ne_error (total : Nat) :
    verdictOf total ≠ .fileNotFound ∧ verdictOf total ≠ .directoryTooDeep := by
  unfold verdictOf
  split
  · decide
  · split
    · decide
    · decide

/-- Once a file has been counted, the loop ends as the sum of all paths says. -/
theorem sendPaths_of_pos (hsend : ∀ path ∈ paths, Sendable fs path)
    (hread : ∀ path ∈ paths, ReadableAt fs path) :
    ∀ fileCount, 0 < fileCount → fileCount ≤ TransferFileLimit →
      sendPaths fs paths fileCount = verdictOf (fileCount + (paths.map (filesAt fs)).sum) := by
  induction paths with
  | nil =>
    intro fileCount hpos hle
    rw [sendPaths, verdictOf, if_neg, if_neg]
    · simp only [List.map_nil, List.sum_nil]
      omega
    · simp only [List.map_nil, List.sum_nil]
      omega
  | cons path paths ih =>
    intro fileCount hpos hle
    rw [sendPaths_cons (hsend path List.mem_cons_self) (hread path List.mem_cons_self),
      List.map_cons, List.sum_cons]
    have hrest := ih (fun p hp => hsend p (List.mem_cons_of_mem _ hp))
      (fun p hp => hread p (List.mem_cons_of_mem _ hp))
    by_cases hmany : fileCount + filesAt fs path > TransferFileLimit
    · rw [if_pos hmany, verdictOf, if_pos (by omega)]
    · rw [if_neg hmany, if_neg (by omega), hrest _ (by omega) (by omega), Nat.add_assoc]

/-- The whole request, judged by its first path: without files there, no other path counts. -/
theorem sendPaths_start (hsend : ∀ p ∈ path :: paths, Sendable fs p)
    (hread : ∀ p ∈ path :: paths, ReadableAt fs p) :
    sendPaths fs (path :: paths) 0 =
      if filesAt fs path = 0 then .noFiles
      else verdictOf (((path :: paths).map (filesAt fs)).sum) := by
  rw [sendPaths_cons (hsend path List.mem_cons_self) (hread path List.mem_cons_self),
    List.map_cons, List.sum_cons, Nat.zero_add]
  have hrest := sendPaths_of_pos (fun p hp => hsend p (List.mem_cons_of_mem path hp))
    (fun p hp => hread p (List.mem_cons_of_mem path hp))
  by_cases hmany : filesAt fs path > TransferFileLimit
  · rw [if_pos hmany, if_neg (by omega), verdictOf, if_pos (by omega)]
  · by_cases hzero : filesAt fs path = 0
    · rw [if_neg hmany, if_pos hzero, if_pos hzero]
    · rw [if_neg hmany, if_neg hzero, if_neg hzero, hrest _ (by omega) (by omega)]

/-! ### The order of the paths -/

/-- The request gets the verdict of its number of files, in whatever order its paths stand. -/
def AdmitsByTotal (fs : String → Option Node) (paths : List String) : Prop :=
  ∀ order : List String, order.Perm paths →
    sendPaths fs order 0 = verdictOf ((paths.map (filesAt fs)).sum)

/-- A request has files under each of its paths, or under none. -/
def EvenlyFilled (fs : String → Option Node) (paths : List String) : Prop :=
  (∀ path ∈ paths, 0 < filesAt fs path) ∨ ∀ path ∈ paths, filesAt fs path = 0

/-- Any path of a request may stand first. -/
theorem exists_perm_cons (h : path ∈ paths) : ∃ rest, (path :: rest).Perm paths :=
  ⟨paths.erase path, (List.perm_cons_erase h).symm⟩

theorem AdmitsByTotal.readable (h : AdmitsByTotal fs paths) :
    ∀ path ∈ paths, ReadableAt fs path := by
  intro path hpath
  by_contra hread
  obtain ⟨rest, hperm⟩ := exists_perm_cons hpath
  have hverdict := h _ hperm
  have hne := verdictOf_ne_error ((paths.map (filesAt fs)).sum)
  rcases sendPaths_unreadable hread rest 0 with herr | herr
  · exact hne.1 (hverdict.symm.trans herr)
  · exact hne.2 (hverdict.symm.trans herr)

theorem AdmitsByTotal.evenlyFilled (hsend : ∀ path ∈ paths, Sendable fs path)
    (h : AdmitsByTotal fs paths) :
    EvenlyFilled fs paths := by
  by_contra hmixed
  rw [EvenlyFilled, not_or] at hmixed
  obtain ⟨hempty, hfilled⟩ := hmixed
  push Not at hempty hfilled
  obtain ⟨empty, hmem, hzero⟩ := hempty
  obtain ⟨filled, hmem', hpos⟩ := hfilled
  obtain ⟨rest, hperm⟩ := exists_perm_cons hmem
  have hverdict := h _ hperm
  rw [sendPaths_start (fun p hp => hsend p (hperm.subset hp))
    (fun p hp => h.readable p (hperm.subset hp)), if_pos (by omega)] at hverdict
  -- the empty path stands first, but the other one has a file
  have hsum : 0 < (paths.map (filesAt fs)).sum :=
    List.sum_pos_iff_exists_pos_nat.mpr ⟨_, List.mem_map_of_mem hmem', Nat.pos_of_ne_zero hpos⟩
  rw [verdictOf] at hverdict
  split at hverdict
  · cases hverdict
  · rw [if_neg (by omega)] at hverdict
    cases hverdict

theorem admitsByTotal_of_evenlyFilled (hne : paths ≠ []) (hsend : ∀ path ∈ paths, Sendable fs path)
    (hread : ∀ path ∈ paths, ReadableAt fs path)
    (hfilled : EvenlyFilled fs paths) : AdmitsByTotal fs paths := by
  intro order hperm
  cases order with
  | nil => exact absurd hperm.symm.eq_nil hne
  | cons first rest =>
    have hfirst : first ∈ paths := hperm.subset List.mem_cons_self
    rw [sendPaths_start (fun p hp => hsend p (hperm.subset hp))
      (fun p hp => hread p (hperm.subset hp)), (hperm.map (filesAt fs)).sum_nat]
    rcases hfilled with hpos | hzero
    · rw [if_neg (Nat.ne_of_gt (hpos first hfirst))]
    · have hsum : (paths.map (filesAt fs)).sum = 0 := by
        rw [List.sum_eq_zero_iff_forall_eq_nat]
        intro n hn
        obtain ⟨path, hpath, rfl⟩ := List.mem_map.mp hn
        exact hzero path hpath
      rw [if_pos (hzero first hfirst), hsum]
      rfl

/-- The loop stops at the first sum that is zero, so the verdict is that of the whole request
exactly when no path without files can stand before one with files. The count of a directory is
exact within the depth limit and fails beyond it. -/
theorem send_by_total_iff (fs : String → Option Node) (paths : List String)
    (hsend : ∀ path ∈ paths, Sendable fs path) :
    (AdmitsByTotal fs paths ↔
      paths ≠ [] ∧ (∀ path ∈ paths, ReadableAt fs path) ∧ EvenlyFilled fs paths) ∧
    ∀ (node : Node) (maxDepth : Int), node.isDir = true →
      (node.Readable → Within maxDepth node.depth →
        getNumberOfFiles node maxDepth = .ok node.files) ∧
      (¬ Within maxDepth node.depth → ∃ err, getNumberOfFiles node maxDepth = .error err) := by
  constructor
  · constructor
    · intro h
      refine ⟨?_, h.readable, h.evenlyFilled hsend⟩
      rintro rfl
      cases h [] (List.Perm.refl [])
    · rintro ⟨hne, hread, hfilled⟩
      exact admitsByTotal_of_evenlyFilled hne hsend hread hfilled
  · intro node maxDepth hdir
    have hexact := fun count => getNumberOfFiles_ok_iff node maxDepth count hdir
    refine ⟨fun hread hwithin => (hexact _).mpr ⟨hread, hwithin, rfl⟩, ?_⟩
    intro hdeep
    cases hcount : getNumberOfFiles node maxDepth with
    | error err => exact ⟨err, rfl⟩
    | ok count => exact absurd ((hexact count).mp hcount).2.1 hdeep

/-- A home directory with a file, a directory with another one and an empty directory. -/
def sparseHome (path : String) : Option Node :=
  if path = "empty" then some (.dir [])
  else if path = "photos" then some (.dir [.file])
  else if path = "a.txt" then some .file
  else none

/-- Either order of a file and a directory that holds one is admitted. -/
theorem sends_file_and_directory : AdmitsByTotal sparseHome ["a.txt", "photos"] := by
  refine (send_by_total_iff sparseHome ["a.txt", "photos"] ?_).1.mpr
    ⟨by decide, ?_, .inl (by decide)⟩
  · intro path hpath
    rcases List.mem_pair.mp hpath with rfl | rfl
    · exact ⟨.file, rfl, within_zero _⟩
    · exact ⟨.dir [.file], rfl, .inr (by decide)⟩
  · intro path hpath
    rcases List.mem_pair.mp hpath with rfl | rfl
    · exact ⟨.file, rfl, trivial⟩
    · exact ⟨.dir [.file], rfl, trivial, trivial⟩

/-- Both orders of the same two paths: the file alone is enough only if it comes first. -/
theorem empty_directory_first :
    (∀ path ∈ ["a.txt", "empty"], Sendable sparseHome path) ∧
      sendPaths sparseHome ["a.txt", "empty"] 0 = .accepted ∧
      sendPaths sparseHome ["empty", "a.txt"] 0 = .noFiles := by
  refine ⟨fun path hpath => ?_, by decide, by decide⟩
  rcases List.mem_pair.mp hpath with rfl | rfl
  · exact ⟨.file, rfl, within_zero _⟩
  · exact ⟨.dir [], rfl, .inr (by decide)⟩

end NordVPN.Fileshare
