import NordVPN.ExitNode.Allowlist

/-!
A reset depends on its last arguments only.

Old lines are removed by rewriting the text of the listing. Which line a rewritten text
deletes depends on the words of the lines, but each delete that succeeds takes one line
with the comment; when none is left over, only the arguments matter.
-/

namespace NordVPN.ExitNode

open NordVPN.Netip Networker Prog

theorem carries_masqueradeLine (peerAddress : String) :
    carries msqRuleComment (masqueradeLine peerAddress) = true := by
  have hcomment : Words.contains msqRuleComment msqRuleComment = true := by decide
  simp [carries, masqueradeLine, hcomment]

theorem carries_of_mem_transientLines {peers : List TrafficPeer} {names : List InterfaceName}
    {killswitch : Bool} {l : Line} (h : l ∈ transientLines peers names killswitch) :
    carries transientFilterRuleComment l = true := by
  exact forall_transientLines (P := (carries transientFilterRuleComment · = true)) killswitch
    (fun peer _ => carries_transientTail ["-s", peer.ip.toString] .accept)
    (fun peer _ subnet _ => carries_transientTail ["-s", peer.ip.toString, "-d", subnet.toString] _)
    (fun subnet _ => carries_transientTail ["-s", meshSrcSubnet, "-d", subnet.toString] .drop)
    (fun name _ => carries_transientTail ["-o", name.text] .drop) l h

/-- After a reset, the lines with its comments are exactly those it made. -/
theorem filter_afterReset (peers : List TrafficPeer) (names : List InterfaceName)
    (killswitch : Bool) (t : Tables) :
    ((afterReset peers names killswitch t).lines .forward).filter
        (carries transientFilterRuleComment) =
      (transientLines peers names killswitch).reverse ∧
    ((afterReset peers names killswitch t).lines .postrouting).filter (carries msqRuleComment) =
      masqueradeLines peers := by
  have hforward : (afterReset peers names killswitch t).lines .forward =
      (transientLines peers names killswitch).reverse ++
        (t.lines .forward).filter (!carries transientFilterRuleComment ·) := Tables.set_same _ _ _
  have hnat : (afterReset peers names killswitch t).lines .postrouting =
      (t.lines .postrouting).filter (!carries msqRuleComment ·) ++ masqueradeLines peers := by
    rw [afterReset, Tables.set_other _ _ (by decide), Tables.set_same]
  have hrest (comment : String) (ls : List Line) :
      (ls.filter (!carries comment ·)).filter (carries comment) = [] := by
    simp [List.filter_filter]
  rw [hforward, hnat, List.filter_append, List.filter_append, hrest, hrest, List.append_nil,
    List.nil_append]
  constructor
  · refine List.filter_eq_self.mpr fun l hl => ?_
    exact carries_of_mem_transientLines (List.mem_reverse.mp hl)
  · refine List.filter_eq_self.mpr fun l hl => ?_
    obtain ⟨peer, -, rfl⟩ := List.mem_map.mp hl
    exact carries_masqueradeLine _

/-- The lines that a successful `ResetPeers` leaves. -/
theorem wp_resetPeers {r : Env} (peers : List MachinePeer)
    (lanAvailable killswitch : Bool) (s : State) :
    wp (resetPeers peers lanAvailable killswitch) r any (fun x t => x = .ok () →
      (t.tables.lines .forward).filter (carries transientFilterRuleComment) =
        (transientLines (trafficPeers peers lanAvailable) s.server.interfaceNames
          killswitch).reverse ∧
      (t.tables.lines .postrouting).filter (carries msqRuleComment) =
        masqueradeLines (trafficPeers peers lanAvailable)) s := by
  refine wp_update_bind.mpr ⟨trivial, ?_⟩
  refine wp_bind.mpr (wp_bind.mpr (wp_state.mpr (wp_pure.mpr ?_)))
  rw [onOk_ok]
  refine wp_seqOk (effect_resetPeersTraffic _ _ isWord_trafficPeers _) fun _ t ht => ?_
  have htables := ht.2.1 rfl
  obtain ⟨hforward, hnat⟩ := filter_afterReset (trafficPeers peers lanAvailable)
    s.server.interfaceNames killswitch s.tables
  rw [← htables] at hforward hnat
  obtain ⟨hdisable, henable⟩ := shows_serverAllowlist (r := r)
    (p := carries transientFilterRuleComment) fun _ _ _ h => carries_transient_allowlistLine h
  refine wp_post ((hdisable.seq <| Keeps.when fun _ => (shows_setServer _).seq <|
    henable) t ⟨rfl, rfl⟩) fun x u hu _ => ?_
  exact ⟨hu.1.trans hforward, (congrArg _ hu.2).trans hnat⟩

/-- **A reset depends on its last arguments only.** Whatever the tables, the peers and the
allowlists were before, and whatever words stand in the lines that are there, two
resets with the same arguments on the same interfaces that return `nil` end with the
same transient and the same masquerading lines, in the same order: those of the
peers given. No line with their comments is left over. -/
theorem reset_depends_on_arguments (peers : List MachinePeer) (lanAvailable killswitch : Bool)
    (names : List InterfaceName) {s₁ s₂ : State} (r₁ r₂ : Env)
    (hnames₁ : s₁.server.interfaceNames = names) (hnames₂ : s₂.server.interfaceNames = names)
    (h₁ : s₁.returns ⟨.resetPeers peers lanAvailable killswitch, r₁⟩ = .ok ())
    (h₂ : s₂.returns ⟨.resetPeers peers lanAvailable killswitch, r₂⟩ = .ok ()) :
    let t₁ := (s₁.step ⟨.resetPeers peers lanAvailable killswitch, r₁⟩).tables
    let t₂ := (s₂.step ⟨.resetPeers peers lanAvailable killswitch, r₂⟩).tables
    (t₁.lines .forward).filter (carries transientFilterRuleComment) =
        (t₂.lines .forward).filter (carries transientFilterRuleComment) ∧
      (t₁.lines .postrouting).filter (carries msqRuleComment) =
        (t₂.lines .postrouting).filter (carries msqRuleComment) ∧
      (t₁.lines .forward).filter (carries transientFilterRuleComment) =
        (transientLines (trafficPeers peers lanAvailable) names killswitch).reverse ∧
      (t₁.lines .postrouting).filter (carries msqRuleComment) =
        masqueradeLines (trafficPeers peers lanAvailable) := by
  obtain ⟨hforward₁, hnat₁⟩ := (wp_resetPeers peers lanAvailable killswitch s₁).2 h₁
  obtain ⟨hforward₂, hnat₂⟩ := (wp_resetPeers peers lanAvailable killswitch s₂).2 h₂
  rw [hnames₁] at hforward₁
  rw [hnames₂] at hforward₂
  exact ⟨hforward₁.trans hforward₂.symm, hnat₁.trans hnat₂.symm, hforward₁, hnat₁⟩

/-! ### Resets that succeed -/

/-- A word that is not changed when a printed line is rewritten. -/
def IsPlain (w : String) : Prop := Words.IsWord w ∧ Words.contains w "-A" = false

instance (w : String) : Decidable (IsPlain w) := inferInstanceAs (Decidable (_ ∧ _))

/-- Lines of plain words can be deleted by their printed texts. -/
theorem tidy_of_plain {c : Chain} {comment : String} {ls : List Line}
    (h : ∀ l ∈ ls, carries comment l = true → ∀ w ∈ l, IsPlain w) : Tidy c comment ls := by
  intro l hl hcarries
  have hplain := h l hl hcarries
  have hsame : l.map (Words.replaceAll · "-A" "-D") = l := by
    conv_rhs => rw [← List.map_id l]
    exact List.map_congr_left fun w hw => Words.replaceAll_of_not_contains (hplain w hw).2
  rw [replaceAll_printed, hsame, Words.split_join (List.cons_ne_nil _ _)]
  simp only [List.forall_mem_cons]
  exact ⟨by decide, isWord_chain c, fun w hw => (hplain w hw).1⟩

theorem plain_network {p : Prefix} (hblank : ' ' ∉ p.text) (hdash : '-' ∉ p.text) :
    IsPlain p.toString := by
  have htext : p.toString.toList = p.text := String.toList_ofList
  have hmark : '-' ∈ "-A".toList := by decide
  refine ⟨isWord_network hblank, ?_⟩
  rw [Bool.eq_false_iff, Ne, Words.contains_iff, htext]
  exact fun h => hdash (h.subset hmark)

theorem plain_transientTail {ws : List String} (h : ∀ w ∈ ws, IsPlain w) (v : Verdict) :
    ∀ w ∈ ws ++ transientTail v, IsPlain w := by
  have htail : ∀ w ∈ transientTail v, IsPlain w := by
    cases v <;> decide
  exact List.forall_mem_append.mpr ⟨h, htail⟩

section Plain

variable {peers : List TrafficPeer} {names : List InterfaceName}
  (hpeers : ∀ peer ∈ peers, ' ' ∉ peer.ip.text ∧ '-' ∉ peer.ip.text)
  (hnames : ∀ name ∈ names, Words.contains name.text "-A" = false)
include hpeers hnames

theorem plain_transientLines (killswitch : Bool) :
    ∀ l ∈ transientLines peers names killswitch, ∀ w ∈ l, IsPlain w := by
  have hflags : IsPlain "-s" ∧ IsPlain "-d" ∧ IsPlain "-o" ∧ IsPlain meshSrcSubnet := by
    decide
  obtain ⟨hs, hd, ho, hmesh⟩ := hflags
  have hsubnet : ∀ subnet ∈ privateSubnets, IsPlain subnet.toString := by decide
  have hip (peer : TrafficPeer) (h : peer ∈ peers) : IsPlain peer.ip.toString :=
    plain_network (hpeers peer h).1 (hpeers peer h).2
  refine forall_transientLines killswitch (fun peer hpeer => ?_) (fun peer hpeer subnet hmem => ?_)
    (fun subnet hmem => ?_) fun name hname => ?_
  · exact plain_transientTail (by simp [hs, hip peer hpeer]) .accept
  · exact plain_transientTail (by simp [hs, hd, hip peer hpeer, hsubnet subnet hmem]) .accept
  · exact plain_transientTail (by simp [hs, hd, hmesh, hsubnet subnet hmem]) .drop
  · have hplain : IsPlain name.text := ⟨name.isWord, hnames name hname⟩
    exact plain_transientTail (by simp [ho, hplain]) .drop

/-- After a reset, the next one can delete its lines. -/
theorem resettable_afterReset (killswitch : Bool) (t : Tables) :
    Resettable (afterReset peers names killswitch t) := by
  obtain ⟨hforward, hnat⟩ := filter_afterReset peers names killswitch t
  refine ⟨tidy_of_plain fun l hl hcarries => ?_, tidy_of_plain fun l hl hcarries => ?_⟩
  · have hmem := List.mem_filter.mpr ⟨hl, hcarries⟩
    rw [hnat] at hmem
    obtain ⟨peer, hpeer, rfl⟩ := List.mem_map.mp hmem
    have hip := hpeers peer (List.mem_filter.mp hpeer).1
    have hfixed : ∀ w ∈ ["-s", "!", "-d", meshSrcSubnet, "-j", "MASQUERADE", "-m", "comment",
      "--comment", msqRuleComment], IsPlain w := by decide
    simp only [List.forall_mem_cons] at hfixed
    simp [masqueradeLine, hfixed, plain_network hip.1 hip.2]
  · have hmem := List.mem_filter.mpr ⟨hl, hcarries⟩
    rw [hforward, List.mem_reverse] at hmem
    exact plain_transientLines hpeers hnames killswitch l hmem

end Plain

/-- Allowlist lines are of no concern to a reset. -/
theorem resettable_allowlistReset (en : Server) (lanAvailable : Bool) (removed added : List String)
    {t : Tables} (h : Resettable t) :
    Resettable (allowlistReset en lanAvailable removed added t) := by
  refine ⟨h.1, fun l hl hcarries => h.2 l ?_ hcarries⟩
  rw [allowlistReset, insertAll_forward, List.mem_append, List.mem_reverse, eraseAll,
    Tables.set_same, ← List.diff_eq_foldl] at hl
  rcases hl with hl | hl
  · split at hl
    · cases hl
    · obtain ⟨a, d, p, hwords, rfl⟩ := mem_allowlistLines hl
      rw [carries_transient_allowlistLine hwords] at hcarries
      cases hcarries
  · exact List.diff_subset _ _ hl

section Succeeds

variable {r : Env} (hr : r.Works) {s : State} {peers : List MachinePeer}
  {lanAvailable killswitch : Bool}
include hr

theorem wp_resetPeers_of_works (s : State) :
    wp (resetPeers peers lanAvailable killswitch) r any
      (ResetLeaves { s.server with peers } s.tables lanAvailable killswitch) s := by
  refine wp_update_bind.mpr ⟨trivial, ?_⟩
  exact wp_resetPeersRules hr lanAvailable killswitch _

/-- A reset with working commands returns `nil`. -/
theorem returns_resetPeers (h : Resettable s.tables)
    (hreadable : Readable s.server.allowlistManager.allowlist) :
    s.returns ⟨.resetPeers peers lanAvailable killswitch, r⟩ = .ok () :=
  (wp_resetPeers_of_works hr s).2.2 h hreadable

theorem server_resetPeers
    (hok : s.returns ⟨.resetPeers peers lanAvailable killswitch, r⟩ = .ok ()) :
    (s.step ⟨.resetPeers peers lanAvailable killswitch, r⟩).server =
      { s.server with peers }.refreshed lanAvailable :=
  ((wp_resetPeers_of_works hr s).2.1 hok).1

/-- And so does the next one, unless the text `-A` stands in the name of an interface. -/
theorem resettable_resetPeers
    (hok : s.returns ⟨.resetPeers peers lanAvailable killswitch, r⟩ = .ok ())
    (hnames : ∀ name ∈ s.server.interfaceNames, Words.contains name.text "-A" = false) :
    Resettable (s.step ⟨.resetPeers peers lanAvailable killswitch, r⟩).tables := by
  obtain ⟨-, removed, added, -, -, htables⟩ := (wp_resetPeers_of_works hr s).2.1 hok
  rw [State.step, Op.exec, htables]
  refine resettable_allowlistReset _ _ _ _ (resettable_afterReset (fun peer hpeer => ?_) hnames _ _)
  obtain ⟨machine, hmachine, rfl⟩ := List.mem_map.mp hpeer
  have hvalid := (List.mem_filter.mp hmachine).2
  exact ⟨Prefix.blank_single hvalid, Prefix.dash_single hvalid⟩

end Succeeds

/-- A peer with all permissions. -/
def samplePeer : MachinePeer :=
  { publicKey := "peer", address := .ofBytes 100 64 0 9, doIAllowRouting := true,
    doIAllowLocalNetwork := true }

def sampleInterface : InterfaceName := ⟨"eth0", by decide⟩

def freshServer : State := newServer [sampleInterface] {} emptyTables

/-- A server that has been reset with another peer, with the kill switch on. -/
def usedServer : State :=
  freshServer.step ⟨.resetPeers [{ samplePeer with address := .ofBytes 100 64 0 7 }] true true,
    .working⟩

theorem reset_depends_on_arguments_sample :
    usedServer.returns ⟨.resetPeers [samplePeer] true false, .working⟩ = .ok () ∧
      freshServer.returns ⟨.resetPeers [samplePeer] true false, .working⟩ = .ok () ∧
      ((usedServer.step ⟨.resetPeers [samplePeer] true false, .working⟩).tables.lines
        .postrouting).filter (carries msqRuleComment) =
        masqueradeLines (trafficPeers [samplePeer] true) := by
  have hempty : Resettable freshServer.tables := ⟨List.forall_mem_nil _, List.forall_mem_nil _⟩
  have hnames : ∀ name ∈ freshServer.server.interfaceNames,
      Words.contains name.text "-A" = false := by decide
  have hbefore : freshServer.returns ⟨.resetPeers [{ samplePeer with
      address := .ofBytes 100 64 0 7 }] true true, .working⟩ = .ok () :=
    returns_resetPeers Env.working_works hempty (List.forall_mem_nil _)
  have hserver : usedServer.server = { freshServer.server with
      peers := [{ samplePeer with address := .ofBytes 100 64 0 7 }] } := by
    rw [usedServer, server_resetPeers Env.working_works hbefore, Server.refreshed, if_pos rfl]
  have hused : usedServer.returns ⟨.resetPeers [samplePeer] true false, .working⟩ = .ok () := by
    refine returns_resetPeers Env.working_works ?_ ?_
    · exact resettable_resetPeers Env.working_works hbefore hnames
    · rw [hserver]
      exact List.forall_mem_nil _
  have hfresh : freshServer.returns ⟨.resetPeers [samplePeer] true false, .working⟩ = .ok () :=
    returns_resetPeers Env.working_works hempty (List.forall_mem_nil _)
  have hname : usedServer.server.interfaceNames = [sampleInterface] := by rw [hserver]; rfl
  exact ⟨hused, hfresh, (reset_depends_on_arguments [samplePeer] true false [sampleInterface]
    .working .working hname rfl hused hfresh).2.2.2⟩

end NordVPN.ExitNode
