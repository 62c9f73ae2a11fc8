import NordVPN.Servers.Names

/-!
Finding a peer by what the user calls it (`meshnet/server.go`).

`getPeerWithIdentifier` writes the identifier in lower case and compares it with the names of each
peer in turn, with the host name and the nickname regardless of case, and with the public key as it
is. `MakePeerMaps` enters each peer under all its names, in lower case; a later peer takes over a
name from an earlier one.

Host names and nicknames are names of the domain name system, and public keys are written in base
64: both are ASCII.
-/

namespace NordVPN.Meshnet

open Servers

/-! ### The source -/

/-- The identifiers of a `mesh.MachinePeer`. The text of an identifier is in lower case. -/
structure NamedPeer where
  id : String
  hostname : String
  publicKey : String
  nickname : String
  id_lower : IsLower id
  id_ne : id ≠ ""
  hostname_ascii : IsAscii hostname
  publicKey_ascii : IsAscii publicKey
  nickname_ascii : IsAscii nickname
deriving DecidableEq

section

variable (u : CaseTables)

/-- The comparison that `getPeerWithIdentifier` makes. -/
def NamedPeer.answers (p : NamedPeer) (id : String) : Bool :=
  p.id == id || u.equalFold p.hostname id || p.publicKey == id || u.equalFold p.nickname id

/-- `getPeerWithIdentifier`. -/
def getPeerWithIdentifier (id : String) (peers : List NamedPeer) : Option NamedPeer :=
  if id = "" then none else peers.find? (·.answers u (u.lower id))

/-- `pb.Peer`. -/
structure PbPeer where
  pubkey : String
  ip : String
  hostname : String
  nickname : String
deriving DecidableEq, Repr

/-- `strings.TrimSuffix`. -/
def trimSuffix (s suffix : String) : String :=
  if suffix.toList.isSuffixOf s.toList then
    String.ofList (s.toList.take (s.length - suffix.length))
  else s

/-- The names under which a peer is entered, in the order of the source. -/
def PbPeer.names (peer : PbPeer) : List String :=
  [u.lower peer.ip, u.lower peer.hostname, u.lower (trimSuffix peer.hostname ".nord")] ++
    if peer.nickname = "" then [] else [u.lower peer.nickname, u.lower peer.nickname ++ ".nord"]

/-- A map with one value under several keys. -/
def enter (m : String → Option PbPeer) (keys : List String) (peer : PbPeer) :
    String → Option PbPeer :=
  keys.foldl (fun m key => Function.update m key (some peer)) m

/-- `MakePeerMaps`. -/
def makePeerMaps (external localPeers : List PbPeer) :
    (String → Option PbPeer) × (String → Option PbPeer) :=
  ((external ++ localPeers).foldl (fun m peer => enter m [peer.pubkey] peer) fun _ => none,
    (external ++ localPeers).foldl (fun m peer => enter m (peer.names u) peer) fun _ => none)

/-! ### Identifiers -/

/-- What a peer may be called: its id, host name or nickname in any letter case, or its public key.
-/
def NamedPeer.IsCalled (p : NamedPeer) (v : String) : Prop :=
  (IsAscii v ∧ (u.lower v = p.id ∨ u.lower v = u.lower p.hostname ∨
    (p.nickname ≠ "" ∧ u.lower v = u.lower p.nickname))) ∨ v = p.publicKey

/-- The texts in lower case under which the comparison finds a peer: a public key with capitals is
none of them. -/
def NamedPeer.labels (p : NamedPeer) : List String :=
  [p.id, u.lower p.hostname] ++ (if p.nickname = "" then [] else [u.lower p.nickname]) ++
    if u.lower p.publicKey = p.publicKey then [p.publicKey] else []

/-- Every peer is found by each of its identifiers. -/
def Resolves (peers : List NamedPeer) : Prop :=
  ∀ p ∈ peers, ∀ v, p.IsCalled u v → getPeerWithIdentifier u v peers = some p

/-- No two peers share a label, and the public key in lower case is a label of its peer: the key
itself, or another of its names. -/
structure Unmistakable (peers : List NamedPeer) : Prop where
  named : ∀ p ∈ peers, p.hostname ≠ "" ∧ p.publicKey ≠ ""
  key : ∀ p ∈ peers, u.lower p.publicKey ∈ p.labels u
  apart : ∀ p ∈ peers, ∀ q ∈ peers, p ≠ q → ∀ w ∈ p.labels u, w ∉ q.labels u

end

variable {u : CaseTables} {p : NamedPeer} {v w : String}

theorem lower_eq_empty : u.lower v = "" ↔ v = "" := by
  rw [CaseTables.lower, String.ofList_eq_empty_iff, List.map_eq_nil_iff, String.toList_eq_nil_iff]

theorem equalFold_comm (s t : String) : u.equalFold s t = u.equalFold t s :=
  Bool.beq_comm

theorem mem_labels : w ∈ p.labels u ↔ w = p.id ∨ w = u.lower p.hostname ∨
    (p.nickname ≠ "" ∧ w = u.lower p.nickname) ∨
      (u.lower p.publicKey = p.publicKey ∧ w = p.publicKey) := by
  unfold NamedPeer.labels
  by_cases hnick : p.nickname = ""
  · by_cases hkey : u.lower p.publicKey = p.publicKey
    · simp [hnick, hkey]
    · simp [hnick, hkey]
  · by_cases hkey : u.lower p.publicKey = p.publicKey
    · simp [hnick, hkey]
    · simp [hnick, hkey]

/-- The comparison with a text in lower case that is not empty. -/
theorem answers_iff (hw : IsLower w) (hne : w ≠ "") : p.answers u w = true ↔ w ∈ p.labels u := by
  have hfold {name : String} (hname : IsAscii name) :
      u.equalFold name w = true ↔ w = u.lower name := by
    rw [equalFold_comm, equalFold_iff hw hname]
  simp only [NamedPeer.answers, Bool.or_eq_true, beq_iff_eq, hfold p.hostname_ascii,
    hfold p.nickname_ascii, mem_labels]
  constructor
  · rintro (((hid | hhost) | hkey) | hnick)
    · exact .inl hid.symm
    · exact .inr (.inl hhost)
    · refine .inr (.inr (.inr ⟨?_, hkey.symm⟩))
      rw [hkey]
      exact lower_of_isLower hw
    · -- an empty nickname is no name
      refine .inr (.inr (.inl ⟨?_, hnick⟩))
      intro hempty
      rw [hempty, lower_eq_empty.mpr rfl] at hnick
      exact hne hnick
  · rintro (hid | hhost | ⟨-, hnick⟩ | ⟨-, hkey⟩)
    · exact .inl (.inl (.inl hid.symm))
    · exact .inl (.inl (.inr hhost))
    · exact .inr hnick
    · exact .inl (.inr hkey.symm)

theorem isLower_label (h : w ∈ p.labels u) : IsLower w := by
  rcases mem_labels.mp h with rfl | rfl | ⟨-, rfl⟩ | ⟨hkey, rfl⟩
  · exact p.id_lower
  · exact isLower_lower p.hostname_ascii
  · exact isLower_lower p.nickname_ascii
  · rw [← hkey]
    exact isLower_lower p.publicKey_ascii

/-- A label is itself a way to call the peer. -/
theorem isCalled_label (h : w ∈ p.labels u) : p.IsCalled u w := by
  have hlower := isLower_label h
  have hsame : u.lower w = w := lower_of_isLower hlower
  rcases mem_labels.mp h with hid | hhost | ⟨hnick, hname⟩ | ⟨-, hkey⟩
  · exact .inl ⟨hlower.isAscii, .inl (hsame.trans hid)⟩
  · exact .inl ⟨hlower.isAscii, .inr (.inl (hsame.trans hhost))⟩
  · exact .inl ⟨hlower.isAscii, .inr (.inr ⟨hnick, hsame.trans hname⟩)⟩
  · exact .inr hkey

theorem lower_isLower_of_called (h : p.IsCalled u v) : IsLower (u.lower v) := by
  rcases h with ⟨hascii, -⟩ | rfl
  · exact isLower_lower hascii
  · exact isLower_lower p.publicKey_ascii

variable {peers : List NamedPeer}

/-- A call that is answered names a peer that has it as a label. -/
theorem mem_labels_of_found (hcalled : p.IsCalled u v)
    (h : getPeerWithIdentifier u v peers = some p) : u.lower v ∈ p.labels u := by
  unfold getPeerWithIdentifier at h
  split at h
  · cases h
  · rename_i hne
    have hanswers : p.answers u (u.lower v) = true := by
      simpa using List.find?_some h
    exact (answers_iff (lower_isLower_of_called hcalled) (mt lower_eq_empty.mp hne)).mp hanswers

theorem Resolves.unmistakable (h : Resolves u peers) : Unmistakable u peers := by
  have hempty {p : NamedPeer} : getPeerWithIdentifier u "" peers ≠ some p := by
    rw [getPeerWithIdentifier, if_pos rfl]
    intro hnone
    cases hnone
  refine ⟨?_, ?_, ?_⟩
  · intro p hp
    constructor
    · intro hhost
      refine hempty (h p hp "" (.inl ⟨by decide, .inr (.inl ?_)⟩))
      rw [hhost]
    · intro hkey
      exact hempty (h p hp "" (.inr hkey.symm))
  · intro p hp
    exact mem_labels_of_found (.inr rfl) (h p hp p.publicKey (.inr rfl))
  · intro p hp q hq hne w hw hw'
    have hfound := h p hp w (isCalled_label hw)
    rw [h q hq w (isCalled_label hw')] at hfound
    exact hne (Option.some.inj hfound).symm

theorem Unmistakable.resolves (h : Unmistakable u peers) : Resolves u peers := by
  intro p hp v hcalled
  obtain ⟨hhost, hkey⟩ := h.named p hp
  have hlabel : u.lower v ∈ p.labels u := by
    rcases hcalled with ⟨-, hid | hname | hnick⟩ | rfl
    · exact mem_labels.mpr (.inl hid)
    · exact mem_labels.mpr (.inr (.inl hname))
    · exact mem_labels.mpr (.inr (.inr (.inl hnick)))
    · exact h.key p hp
  have hne : u.lower v ≠ "" := by
    intro hempty
    rw [hempty] at hlabel
    rcases mem_labels.mp hlabel with hid | hname | ⟨hnick, hname⟩ | ⟨-, hpublic⟩
    · exact p.id_ne hid.symm
    · exact hhost (lower_eq_empty.mp hname.symm)
    · exact hnick (lower_eq_empty.mp hname.symm)
    · exact hkey hpublic.symm
  have hanswers (q : NamedPeer) : q.answers u (u.lower v) = true ↔ u.lower v ∈ q.labels u :=
    answers_iff (lower_isLower_of_called hcalled) hne
  rw [getPeerWithIdentifier, if_neg (mt lower_eq_empty.mpr hne)]
  cases hfind : peers.find? (·.answers u (u.lower v)) with
  | none => exact absurd ((hanswers p).mpr hlabel) (List.find?_eq_none.mp hfind p hp)
  | some q =>
    -- the first peer that answers has the label, and no other one has
    have hq : u.lower v ∈ q.labels u := (hanswers q).mp (by simpa using List.find?_some hfind)
    by_contra hdiffers
    have hpq : p ≠ q := fun heq => hdiffers (by rw [heq])
    exact h.apart p hp q (List.mem_of_find?_eq_some hfind) hpq _ hlabel hq

/-! ### Maps -/

theorem enter_apply (m : String → Option PbPeer) (keys : List String)
    (peer : PbPeer) (key : String) :
    enter m keys peer key = if key ∈ keys then some peer else m key := by
  induction keys generalizing m with
  | nil => rfl
  | cons first keys ih =>
    change enter (Function.update m first (some peer)) keys peer key = _
    rw [ih]
    by_cases hkeys : key ∈ keys
    · rw [if_pos hkeys, if_pos (List.mem_cons_of_mem _ hkeys)]
    · by_cases hfirst : key = first
      · subst hfirst
        rw [if_neg hkeys, if_pos List.mem_cons_self, Function.update_self]
      · rw [if_neg hkeys, if_neg (by simp [hfirst, hkeys]), Function.update_of_ne hfirst]

/-- A key that only one of the peers has leads to it, whatever was entered around it. -/
theorem foldl_enter {keysOf : PbPeer → List String} {all : List PbPeer} {peer : PbPeer}
    (hpeer : peer ∈ all) {key : String} (hkey : key ∈ keysOf peer)
    (honly : ∀ other ∈ all, key ∈ keysOf other → other = peer) :
    all.foldl (fun m peer => enter m (keysOf peer) peer) (fun _ => none) key = some peer := by
  induction all using List.reverseRecOn with
  | nil => cases hpeer
  | append_singleton all last ih =>
    rw [List.foldl_append]
    change enter _ (keysOf last) last key = some peer
    rw [enter_apply]
    split
    · rename_i hlast
      rw [honly last (List.mem_append_right _ List.mem_cons_self) hlast]
    · rename_i hlast
      apply ih
      · rcases List.mem_append.mp hpeer with hmem | hmem
        · exact hmem
        · exact absurd (List.mem_singleton.mp hmem ▸ hkey) hlast
      · intro other hother
        exact honly other (List.mem_append_left _ hother)

/-- The identifiers of a list of peers all lead to their peers exactly if no two peers share a label
and the public keys are among the labels. In the maps a name or a public key that no other peer has
leads to its peer. -/
theorem peer_identifiers_iff (u : CaseTables) :
    (∀ peers : List NamedPeer, Resolves u peers ↔ Unmistakable u peers) ∧
    ∀ external localPeers : List PbPeer, ∀ peer ∈ external ++ localPeers,
      ((∀ other ∈ external ++ localPeers, other.pubkey = peer.pubkey → other = peer) →
        (makePeerMaps u external localPeers).1 peer.pubkey = some peer) ∧
      ∀ name ∈ peer.names u,
        (∀ other ∈ external ++ localPeers, name ∈ other.names u → other = peer) →
          (makePeerMaps u external localPeers).2 name = some peer := by
  refine ⟨fun peers => ⟨Resolves.unmistakable, Unmistakable.resolves⟩, ?_⟩
  intro external localPeers peer hpeer
  constructor
  · intro honly
    apply foldl_enter hpeer List.mem_cons_self
    intro other hother hkey
    exact honly other hother (List.mem_singleton.mp hkey).symm
  · intro name hname honly
    exact foldl_enter hpeer hname honly

/-- A peer with a capital in its public key. -/
def keyedPeer : NamedPeer where
  id := "0a"
  hostname := "Laptop.nord"
  publicKey := "aB="
  nickname := ""
  id_lower := by decide
  id_ne := by decide
  hostname_ascii := by decide
  publicKey_ascii := by decide
  nickname_ascii := by decide

/-- It is found by its host name, but not by its public key. -/
theorem key_with_capital_missed :
    getPeerWithIdentifier .ascii "LAPTOP.nord" [keyedPeer] = some keyedPeer ∧
      keyedPeer.IsCalled .ascii "aB=" ∧ getPeerWithIdentifier .ascii "aB=" [keyedPeer] = none :=
  ⟨by decide, .inr rfl, by decide⟩

end NordVPN.Meshnet
