import NordVPN.Lib.Lines
import NordVPN.Lib.Runs
import NordVPN.Lib.Words
import NordVPN.Net.Netip

/-!
The hosts file (`daemon/dns/hosts.go`).

The names of the meshnet peers are written into the hosts file, one marked line for each. Every call
reads the whole file, takes the marked lines out and writes the rest back, with the new lines at its
end. The file is a text here, a list of characters.
-/

namespace NordVPN.Hosts

open Netip

/-! ### The source -/

def mark : List Char := "# NordVPN".toList

/-- `unicode.IsSpace`. -/
def isSpace (c : Char) : Bool :=
  let n := c.toNat
  (9 ≤ n && n ≤ 13) || n == 0x20 || n == 0x85 || n == 0xa0 || n == 0x1680 ||
    (0x2000 ≤ n && n ≤ 0x200a) || n == 0x2028 || n == 0x2029 || n == 0x202f || n == 0x205f ||
    n == 0x3000

/-- `Host`. -/
structure Host where
  ip : Addr
  fqdn : String
  domainNames : List String
deriving DecidableEq

/-- `Host.String`. -/
def Host.text (h : Host) : List Char :=
  h.ip.text ++ '\t' :: (h.fqdn.toList ++
    '\t' :: (['\t'].intercalate (h.domainNames.map String.toList) ++ '\t' :: mark))

/-- `bytes.HasSuffix(line, []byte(mark))`. -/
def isMarked (line : List Char) : Bool := mark.isSuffixOf line

/-- `removeHostLinesFrom`. -/
def removeHostLinesFrom (content : List Char) : List Char :=
  ['\n'].intercalate ((content.splitOn '\n').filter fun line => !isMarked line)

/-- `appendHostLines`. -/
def appendHostLines (content : List Char) (hosts : List Host) : List Char :=
  if hosts.isEmpty then content
  else Lines.trim isSpace content ++
    '\n' :: '\n' :: (['\n'].intercalate (hosts.map Host.text) ++ ['\n'])

/-- `setHostLines`. -/
def setHostLines (content : List Char) (hosts : List Host) : List Char :=
  appendHostLines (removeHostLinesFrom content) hosts

/-- A call of the setter. -/
inductive Call where
  | setHosts (hosts : List Host)
  | unsetHosts

/-- The file after a call, with the reading and the writing successful. -/
def step (file : List Char) : Call → List Char
  | .setHosts hosts => setHostLines file hosts
  | .unsetHosts => removeHostLinesFrom file

/-! ### The lines of the user and ours -/

/-- The lines that do not end in the mark. -/
def userLines (file : List Char) : List (List Char) :=
  (file.splitOn '\n').filter fun line => !isMarked line

/-- The lines that end in the mark. -/
def markedLines (file : List Char) : List (List Char) :=
  (file.splitOn '\n').filter isMarked

/-- The hosts that a call asks for. -/
def Call.hosts : Call → List Host
  | .setHosts hosts => hosts
  | .unsetHosts => []

def Host.NewlineFree (h : Host) : Prop :=
  '\n' ∉ h.fqdn.toList ∧ ∀ name ∈ h.domainNames, '\n' ∉ name.toList

def Call.NewlineFree (call : Call) : Prop := ∀ h ∈ call.hosts, h.NewlineFree

theorem isMarked_iff {line : List Char} : isMarked line = true ↔ mark <:+ line :=
  List.isSuffixOf_iff_suffix

/-- Every line the daemon writes carries its mark. -/
theorem isMarked_text (h : Host) : isMarked h.text = true := by
  rw [isMarked_iff, Host.text]
  refine ⟨h.ip.text ++ '\t' :: (h.fqdn.toList ++
    '\t' :: (['\t'].intercalate (h.domainNames.map String.toList) ++ ['\t'])), ?_⟩
  simp

theorem newline_notMem_ip (a : Addr) : '\n' ∉ a.text := by
  by_cases h : a.isValid = true
  · intro hmem
    exact Addr.forall_text (P := (· ≠ '\n')) (Addr.digitChar_ne (by decide) (by decide)) (by decide)
      (by decide) h _ hmem rfl
  · cases a with
    | invalid => decide
    | v4 a | v6 a => exact absurd rfl h

theorem Host.NewlineFree.text {h : Host} (hfree : h.NewlineFree) : '\n' ∉ h.text := by
  have hnames : '\n' ∉ ['\t'].intercalate (h.domainNames.map String.toList) := by
    apply Words.notMem_intercalate (by decide)
    intro name hname
    obtain ⟨text, htext, rfl⟩ := List.mem_map.mp hname
    exact hfree.2 text htext
  simp only [Host.text, List.mem_append, List.mem_cons, not_or]
  exact ⟨newline_notMem_ip h.ip, by decide, hfree.1, by decide, hnames, by decide, by decide⟩

/-! ### Marks that trimming may bring to the end of a line -/

/-- The mark, followed by whitespace up to the end of its line. -/
def Loose (text : List Char) : Prop :=
  ∃ before space after, text = before ++ mark ++ space ++ after ∧
    (∀ c ∈ space, isSpace c = true) ∧ (after = [] ∨ '\n' ∈ space)

/-- The line ends in the mark and whitespace. -/
def EndsLoose (line : List Char) : Prop :=
  ∃ before space, line = before ++ mark ++ space ∧ ∀ c ∈ space, isSpace c = true

variable {text : List Char}

theorem loose_iff : Loose text ↔ ∃ line ∈ text.splitOn '\n', EndsLoose line := by
  constructor
  · rintro ⟨before, space, after, rfl, hspace, hend⟩
    obtain ⟨earlier, start, rfl, hstart, hearlier⟩ := Lines.exists_last_line '\n' before
    have hmark : '\n' ∉ mark := by decide
    by_cases hnewline : '\n' ∈ space
    · obtain ⟨blank, rest, rfl, hblank⟩ := List.eq_append_cons_of_mem hnewline
      refine ⟨start ++ mark ++ blank, Lines.mem_splitOn_iff.mpr ⟨?_, earlier,
        '\n' :: (rest ++ after), by simp, hearlier, .inr ⟨_, rfl⟩⟩, start, blank, rfl, ?_⟩
      · simp only [List.mem_append, not_or]
        exact ⟨⟨hstart, hmark⟩, hblank⟩
      · intro c hc
        exact hspace c (List.mem_append_left _ hc)
    · obtain rfl : after = [] := hend.resolve_right hnewline
      refine ⟨start ++ mark ++ space, Lines.mem_splitOn_iff.mpr ⟨?_, earlier, [], by simp, hearlier,
        .inl rfl⟩, start, space, rfl, hspace⟩
      simp only [List.mem_append, not_or]
      exact ⟨⟨hstart, hmark⟩, hnewline⟩
  · rintro ⟨line, hline, start, space, rfl, hspace⟩
    obtain ⟨-, before, after, rfl, -, hafter⟩ := Lines.mem_splitOn_iff.mp hline
    rcases hafter with rfl | ⟨rest, rfl⟩
    · exact ⟨before ++ start, space, [], by simp, hspace, .inl rfl⟩
    · refine ⟨before ++ start, space ++ ['\n'], rest, by simp, ?_, .inr (by simp)⟩
      intro c hc
      rcases List.mem_append.mp hc with hc | hc
      · exact hspace c hc
      · rw [List.mem_singleton.mp hc]
        decide

/-- Trimming brings no mark to the end of a line that was not loose before. -/
theorem loose_of_trim (h : Loose (Lines.trim isSpace text)) : Loose text := by
  obtain ⟨left, right, htext, -, hright⟩ := Lines.exists_trim isSpace text
  obtain ⟨before, space, after, htrim, hspace, hend⟩ := h
  rw [htrim] at htext
  rcases hend with rfl | hnewline
  · refine ⟨left ++ before, space ++ right, [], by rw [htext]; simp, ?_, .inl rfl⟩
    intro c hc
    rcases List.mem_append.mp hc with hc | hc
    · exact hspace c hc
    · exact hright c hc
  · exact ⟨left ++ before, space, after ++ right, by rw [htext]; simp, hspace, .inr hnewline⟩

/-- A text in which no line ends in the mark, with or without whitespace after it. -/
def Clean (text : List Char) : Prop := ¬ Loose text

theorem Clean.trim (h : Clean text) : Clean (Lines.trim isSpace text) :=
  fun hloose => h (loose_of_trim hloose)

theorem Clean.not_marked {line : List Char} (h : Clean text) (hline : line ∈ text.splitOn '\n') :
    isMarked line = false := by
  rw [Bool.eq_false_iff, Ne, isMarked_iff]
  rintro ⟨start, rfl⟩
  exact h (loose_iff.mpr ⟨_, hline, start, [], (List.append_nil _).symm, fun c hc => by cases hc⟩)

theorem Clean.userLines (h : Clean text) : userLines text = text.splitOn '\n' := by
  rw [Hosts.userLines, List.filter_eq_self]
  intro line hline
  rw [h.not_marked hline]
  rfl

theorem Clean.markedLines (h : Clean text) : markedLines text = [] := by
  rw [Hosts.markedLines, List.filter_eq_nil_iff]
  intro line hline
  rw [h.not_marked hline]
  exact Bool.false_ne_true

/-- A clean text is left as it is. -/
theorem Clean.remove (h : Clean text) : removeHostLinesFrom text = text := by
  change ['\n'].intercalate (Hosts.userLines text) = text
  rw [h.userLines, List.intercalate_splitOn]

/-! ### One call -/

/-- The text of the user: the lines that are not ours, without whitespace at both ends. -/
def userText (file : List Char) : List Char :=
  Lines.trim isSpace (['\n'].intercalate (userLines file))

/-- The text of the user, a blank line and the lines of the hosts. -/
theorem setHostLines_eq (file : List Char) {hosts : List Host} (hne : hosts ≠ []) :
    setHostLines file hosts =
      userText file ++ '\n' :: '\n' :: (['\n'].intercalate (hosts.map Host.text) ++ ['\n']) := by
  rw [setHostLines, appendHostLines, if_neg]
  · rfl
  · rw [List.isEmpty_iff]
    exact hne

/-- The file after hosts were set: the lines of the user, an empty one, ours, and the end. -/
theorem splitOn_setHostLines (file : List Char) {hosts : List Host} (hne : hosts ≠ [])
    (hfree : ∀ h ∈ hosts, h.NewlineFree) :
    (setHostLines file hosts).splitOn '\n' =
      (userText file).splitOn '\n' ++ ([] :: (hosts.map Host.text ++ [[]])) := by
  have hlines : (['\n'].intercalate (hosts.map Host.text)).splitOn '\n' = hosts.map Host.text := by
    apply List.splitOn_intercalate
    · intro line hline
      obtain ⟨h, hh, rfl⟩ := List.mem_map.mp hline
      exact (hfree h hh).text
    · simpa using hne
  rw [setHostLines_eq file hne, Lines.splitOn_append_cons,
    ← List.nil_append ('\n' :: (['\n'].intercalate (hosts.map Host.text) ++ ['\n'])),
    Lines.splitOn_append_cons, Lines.splitOn_append_cons, hlines]
  rfl

theorem splitOn_append_newlines (text : List Char) :
    (text ++ ['\n', '\n']).splitOn '\n' = text.splitOn '\n' ++ [[], []] := by
  rw [Lines.splitOn_append_cons]
  rfl

theorem not_endsLoose_nil : ¬ EndsLoose [] := by
  rintro ⟨before, space, hnil, -⟩
  obtain ⟨hfront, -⟩ := List.append_eq_nil_iff.mp hnil.symm
  exact absurd (List.append_eq_nil_iff.mp hfront).2 (by decide)

/-- A file whose user text stays clean. -/
def Tidy (file : List Char) : Prop := Clean (removeHostLinesFrom file)

theorem Tidy.userText {file : List Char} (h : Tidy file) : Clean (userText file) :=
  Clean.trim h

section SetHosts

variable {file : List Char} {hosts : List Host} (h : Tidy file) (hne : hosts ≠ [])
  (hfree : ∀ host ∈ hosts, host.NewlineFree)
include h hne hfree

theorem markedLines_setHostLines : markedLines (setHostLines file hosts) = hosts.map Host.text := by
  have hours : (hosts.map Host.text).filter isMarked = hosts.map Host.text := by
    rw [List.filter_eq_self]
    intro line hline
    obtain ⟨host, -, rfl⟩ := List.mem_map.mp hline
    exact isMarked_text host
  rw [markedLines, splitOn_setHostLines file hne hfree, List.filter_append]
  rw [show ((userText file).splitOn '\n').filter isMarked = [] from h.userText.markedLines,
    List.filter_cons_of_neg (by decide), List.filter_append, hours]
  exact List.append_nil (hosts.map Host.text)

/-- Taken out again, our lines leave two ends of lines behind. -/
theorem remove_setHostLines :
    removeHostLinesFrom (setHostLines file hosts) = userText file ++ ['\n', '\n'] := by
  have hours : (hosts.map Host.text).filter (fun line => !isMarked line) = [] := by
    rw [List.filter_eq_nil_iff]
    intro line hline
    obtain ⟨host, -, rfl⟩ := List.mem_map.mp hline
    rw [isMarked_text host]
    exact Bool.false_ne_true
  rw [removeHostLinesFrom, splitOn_setHostLines file hne hfree, List.filter_append,
    show ((userText file).splitOn '\n').filter (fun line => !isMarked line) =
      (userText file).splitOn '\n' from h.userText.userLines,
    List.filter_cons_of_pos (by decide), List.filter_append, hours, List.nil_append]
  change ['\n'].intercalate ((userText file).splitOn '\n' ++ [[], []]) = _
  rw [← splitOn_append_newlines, List.intercalate_splitOn]

theorem userText_setHostLines : userText (setHostLines file hosts) = userText file := by
  have hspace : ∀ c ∈ ['\n', '\n'], isSpace c = true := by
    intro c hc
    obtain rfl : c = '\n' := by simpa using hc
    rfl
  calc userText (setHostLines file hosts)
      = Lines.trim isSpace (userText file ++ ['\n', '\n']) := by
        rw [← remove_setHostLines h hne hfree]
        rfl
    _ = Lines.trim isSpace (userText file) := Lines.trim_append hspace
    _ = userText file := Lines.trim_trim _

theorem Tidy.setHostLines : Tidy (setHostLines file hosts) := by
  rw [Tidy, remove_setHostLines h hne hfree]
  intro hloose
  obtain ⟨line, hline, hends⟩ := loose_iff.mp hloose
  rw [splitOn_append_newlines, List.mem_append] at hline
  rcases hline with hline | hline
  · exact h.userText (loose_iff.mpr ⟨line, hline, hends⟩)
  · rw [List.mem_pair, or_self] at hline
    exact not_endsLoose_nil (hline ▸ hends)

end SetHosts

theorem Tidy.removeHostLinesFrom {file : List Char} (h : Tidy file) :
    Tidy (removeHostLinesFrom file) ∧ Hosts.userText (Hosts.removeHostLinesFrom file) =
      Hosts.userText file := by
  have hremove : Hosts.removeHostLinesFrom (Hosts.removeHostLinesFrom file) =
      Hosts.removeHostLinesFrom file := Clean.remove h
  constructor
  · rw [Tidy, hremove]
    exact h
  · exact congrArg (Lines.trim isSpace) hremove

/-! ### Runs -/

/-- What every call keeps: no mark can come to the end of a line of the user, and the text of the
user is the one of the original file. -/
structure Kept (original file : List Char) : Prop where
  tidy : Tidy file
  user : userText file = userText original

theorem mem_splitOn_remove {file line : List Char}
    (h : line ∈ (removeHostLinesFrom file).splitOn '\n') :
    line = [] ∨ (line ∈ file.splitOn '\n' ∧ isMarked line = false) := by
  by_cases hnil : userLines file = []
  · change line ∈ (['\n'].intercalate (userLines file)).splitOn '\n' at h
    rw [hnil] at h
    exact .inl (List.mem_singleton.mp h)
  · have hsplit : (removeHostLinesFrom file).splitOn '\n' = userLines file := by
      apply List.splitOn_intercalate _ _ hnil
      intro other hother
      exact (Lines.mem_splitOn_iff.mp (List.mem_filter.mp hother).1).1
    rw [hsplit] at h
    obtain ⟨hline, hunmarked⟩ := List.mem_filter.mp h
    exact .inr ⟨hline, by simpa using hunmarked⟩

/-- A file in which the mark is never followed by whitespace only is tidy. -/
theorem tidy_of_original {file : List Char}
    (h : ∀ line ∈ file.splitOn '\n', ∀ before space, line = before ++ mark ++ space →
      space ≠ [] → ¬ ∀ c ∈ space, isSpace c = true) : Tidy file := by
  intro hloose
  obtain ⟨line, hline, before, space, hsplit, hspace⟩ := loose_iff.mp hloose
  rcases mem_splitOn_remove hline with rfl | ⟨hmem, hunmarked⟩
  · exact not_endsLoose_nil ⟨before, space, hsplit, hspace⟩
  · by_cases hempty : space = []
    · rw [hempty, List.append_nil] at hsplit
      rw [isMarked_iff.mpr ⟨before, hsplit.symm⟩] at hunmarked
      cases hunmarked
    · exact h line hmem before space hsplit hempty hspace

/-- Either call keeps the lines of the user and leaves the lines of its own hosts. -/
theorem kept_step {original file : List Char} (h : Kept original file) (call : Call)
    (hfree : call.NewlineFree) :
    Kept original (step file call) ∧
      markedLines (step file call) = call.hosts.map Host.text := by
  have hremoved : Kept original (removeHostLinesFrom file) ∧
      markedLines (removeHostLinesFrom file) = [] := by
    obtain ⟨htidy, huser⟩ := h.tidy.removeHostLinesFrom
    exact ⟨⟨htidy, huser.trans h.user⟩, Clean.markedLines h.tidy⟩
  cases call with
  | unsetHosts => exact hremoved
  | setHosts hosts =>
    cases hosts with
    | nil => exact hremoved
    | cons first rest =>
      have hne := List.cons_ne_nil first rest
      refine ⟨⟨h.tidy.setHostLines hne hfree, ?_⟩, markedLines_setHostLines h.tidy hne hfree⟩
      exact (userText_setHostLines h.tidy hne hfree).trans h.user

/-- Whatever calls were made, the text of the user is the original one, the next call leaves exactly
the lines it asks for, and hosts that were set before leave no trace in a file with other hosts. -/
theorem hosts_file_kept {original file : List Char}
    (horiginal : ∀ line ∈ original.splitOn '\n', ∀ before space, line = before ++ mark ++ space →
      space ≠ [] → ¬ ∀ c ∈ space, isSpace c = true)
    (h : Reaches step (fun _ call => call.NewlineFree) original file) :
    userText file = userText original ∧
    (∀ call : Call, call.NewlineFree →
      markedLines (step file call) = call.hosts.map Host.text) ∧
    ∀ hosts₁ hosts₂ : List Host, (∀ host ∈ hosts₁, host.NewlineFree) → hosts₂ ≠ [] →
      setHostLines (setHostLines file hosts₁) hosts₂ = setHostLines file hosts₂ := by
  have hkept : Kept original file :=
    h.invariant ⟨tidy_of_original horiginal, rfl⟩ fun _ call hfile hfree =>
      (kept_step hfile call hfree).1
  refine ⟨hkept.user, fun call hfree => (kept_step hkept call hfree).2, ?_⟩
  intro hosts₁ hosts₂ hfree hne
  have hfirst : Kept original (setHostLines file hosts₁) :=
    (kept_step hkept (.setHosts hosts₁) hfree).1
  rw [setHostLines_eq _ hne, setHostLines_eq _ hne, hfirst.user, hkept.user]

/-- A hosts file with one line and blanks around it. -/
def blankedHosts : List Char := " ::1 me\n\n".toList

def peerHost : Host := { ip := .ofBytes 100 64 0 2, fqdn := "p.nord", domainNames := ["p"] }

theorem peer_host_set :
    userText (step blankedHosts (.setHosts [peerHost])) = userText blankedHosts ∧
      markedLines (step blankedHosts (.setHosts [peerHost])) = [peerHost.text] := by
  have hfree : Call.NewlineFree (.setHosts [peerHost]) := by
    intro host hhost
    rw [List.mem_singleton.mp hhost]
    exact ⟨by decide, by decide⟩
  have horiginal : ∀ line ∈ blankedHosts.splitOn '\n', ∀ before space,
      line = before ++ mark ++ space → space ≠ [] → ¬ ∀ c ∈ space, isSpace c = true := by
    intro line hline before space hsplit
    have hmark : '#' ∈ line := by
      rw [hsplit]
      exact List.mem_append_left _ (List.mem_append_right _ (by decide))
    have hnone : ∀ line ∈ blankedHosts.splitOn '\n', '#' ∉ line := by decide
    exact absurd hmark (hnone line hline)
  exact ⟨(hosts_file_kept horiginal (.tail _ .refl hfree)).1,
    (hosts_file_kept horiginal .refl).2.1 _ hfree⟩

end NordVPN.Hosts
