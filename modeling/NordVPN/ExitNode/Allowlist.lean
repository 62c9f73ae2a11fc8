import NordVPN.ExitNode.Reset
import NordVPN.ExitNode.Server
import NordVPN.Lib.Decimal

/-!
The allowlist lines among the others.

Allowlist lines are built from addresses, subnets that parse and port numbers. None of
these texts can hold a comment of the other lines, so the lines of a reset and those
of the allowlist come and go without touching each other.
-/

namespace NordVPN.ExitNode

open NordVPN.Netip Networker Prog

/-! ### The words of an allowlist line -/

/-- What `allowlistToFirewall` builds its lines from. -/
structure AllowlistWords (address : Addr) (destination portType : String) : Prop where
  valid : address.isValid = true
  destination : 'n' ∉ destination.toList
  portType : portType ∈ ["", "tcp", "udp"]

theorem not_contains {w comment : String} (hcomment : 'n' ∈ comment.toList)
    (hw : 'n' ∉ w.toList) : Words.contains w comment = false := by
  rw [Bool.eq_false_iff, Ne, Words.contains_iff]
  exact fun h => hw (h.subset hcomment)

theorem toString_not_mem (a : Addr) (h : a.isValid = true) : 'n' ∉ a.toString.toList := by
  rw [Addr.toString, String.toList_ofList]
  intro hmem
  exact Addr.forall_text (P := (· ≠ 'n')) (Addr.digitChar_ne (by decide) (by decide)) (by decide)
    (by decide) h _ hmem rfl

theorem int_not_mem (i : Int) : 'n' ∉ (toString i).toList :=
  Decimal.notMem_repr (by decide) (by decide) i

theorem rangeText_not_mem (range : PortRange) : 'n' ∉ (rangeText range).toList := by
  unfold rangeText
  split
  · exact int_not_mem _
  · simp only [String.toList_append, List.mem_append, not_or]
    exact ⟨⟨int_not_mem _, by decide⟩, int_not_mem _⟩

theorem subnet_not_mem {subnet : String} {p : Prefix} (h : parsePrefix subnet = some p) :
    'n' ∉ subnet.toList := by
  intro hmem
  exact absurd (isAddrChar_of_parsePrefix h 'n' hmem) (by decide)

section

variable {address : Addr} {destination portType : String}

/-- An allowlist line carries no comment that its fixed words do not contain. -/
theorem carries_allowlistLine {comment : String} (hcomment : 'n' ∈ comment.toList)
    (hfixed : ∀ w ∈ ["-s", "-j", "ACCEPT", "-m", "comment", "--comment", meshAllowlistRuleComment,
      "-d", "-p", "tcp", "udp", "--dport"], Words.contains w comment = false)
    (h : AllowlistWords address destination portType) :
    carries comment (allowlistLine address destination portType) = false := by
  have haddress := not_contains hcomment (toString_not_mem address h.valid)
  have hdestination := not_contains hcomment h.destination
  simp only [List.forall_mem_cons] at hfixed
  have hports := h.portType
  simp only [List.mem_cons, List.not_mem_nil, or_false] at hports
  rcases hports with rfl | rfl | rfl <;>
    simp [carries, allowlistLine, haddress, hdestination, hfixed]

theorem carries_transient_allowlistLine (h : AllowlistWords address destination portType) :
    carries transientFilterRuleComment (allowlistLine address destination portType) = false :=
  carries_allowlistLine (by decide) (by decide) h

/-- A line is inserted or deleted, according to the flag. -/
def Operation.command (op : Operation) (l : Line) : Command :=
  match op with
  | .remove => .delete .forward l
  | .add => .insert .forward l

theorem readCommand_allowlistLine (op : Operation) (address : Addr)
    (destination portType : String) :
    readCommand (op.flag :: "FORWARD" :: allowlistLine address destination portType) =
      some (op.command (allowlistLine address destination portType)) := by
  cases op <;> rfl

end

/-! ### Lines that the allowlist leaves alone -/

section Frame

variable {r : Env} {p : Line → Bool} {kept : List Line} {nat : List Line}

/-- The forwarded lines that satisfy `p`, and the `nat` lines. -/
def Shows (p : Line → Bool) (kept nat : List Line) (s : State) : Prop :=
  (s.tables.lines .forward).filter p = kept ∧ s.tables.lines .postrouting = nat

theorem shows_setServer (f : Server → Server) : Keeps r any (Shows p kept nat) (setServer f) :=
  Keeps.assign fun _ h => h

theorem shows_executeLine (op : Operation) {l : Line} (hp : p l = false)
    {args : List String} (hread : readCommand args = some (op.command l)) :
    Keeps r any (Shows p kept nat) (execute args) := by
  intro s hs
  refine wp_execute hread (fun tables output hexec => ?_) (fun _ _ => hs) fun _ => hs
  cases op with
  | add =>
    cases hexec
    refine ⟨?_, hs.2⟩
    rw [Tables.insert, Tables.set_same, List.filter_cons, if_neg (by simp [hp])]
    exact hs.1
  | remove =>
    simp only [Operation.command, Tables.execute] at hexec
    split at hexec
    · cases hexec
      refine ⟨?_, hs.2⟩
      have hnot : l ∉ (s.tables.lines .forward).filter p := by simp [hp]
      rw [Tables.erase, Tables.set_same, ← List.erase_filter, List.erase_of_not_mem hnot]
      exact hs.1
    · cases hexec

theorem shows_allowlistRuleToFirewall
    (hp : ∀ a d t, AllowlistWords a d t → p (allowlistLine a d t) = false)
    (peers : List MachinePeer) (op : Operation) {destination portType : String}
    (hdestination : 'n' ∉ destination.toList) (hport : portType ∈ ["", "tcp", "udp"]) :
    Keeps r any (Shows p kept nat)
      (allowlistRuleToFirewall peers op destination portType) := by
  refine Keeps.forEach fun peer _ => Keeps.when fun hgets => ?_
  have hvalid : peer.address.isValid = true := by
    simp only [getsLine, Bool.and_eq_true] at hgets
    exact hgets.1.2
  exact (shows_executeLine op (hp _ _ _ ⟨hvalid, hdestination, hport⟩)
    (readCommand_allowlistLine op _ _ _)).tolerate.mapError

theorem protocol_of_portRanges {allowlist : Allowlist} {pair : String × PortRange}
    (h : pair ∈ portRanges allowlist) : pair.1 ∈ ["tcp", "udp"] := by
  obtain ⟨entry, hentry, hpair⟩ := List.mem_flatMap.mp h
  obtain ⟨range, -, rfl⟩ := List.mem_map.mp hpair
  simp only [List.mem_cons, List.not_mem_nil, or_false] at hentry
  rcases hentry with rfl | rfl <;> simp

/-- Whatever fails, lines that satisfy `p` stay as they are if no allowlist line does. -/
theorem shows_allowlistToFirewall
    (hp : ∀ a d t, AllowlistWords a d t → p (allowlistLine a d t) = false)
    (allowlist : Allowlist) (peers : List MachinePeer) (op : Operation) :
    Keeps r any (Shows p kept nat) (allowlistToFirewall allowlist peers op) := by
  refine Keeps.env.seq <| Keeps.state.seq <|
    (Keeps.forEach fun subnet _ => ?_).seq <| Keeps.forEach fun pair hpair => ?_
  · unfold allowlistSubnet
    cases hparse : parsePrefix subnet with
    | none => exact Keeps.fail _
    | some parsed =>
      have hrule : Keeps r any (Shows p kept nat)
          (allowlistRuleToFirewall peers op subnet "") :=
        shows_allowlistRuleToFirewall hp peers op (subnet_not_mem hparse) List.mem_cons_self
      refine Keeps.when fun _ => ?_
      cases op with
      | add => exact hrule.mapError
      | remove => exact hrule.ignore
  · exact (shows_allowlistRuleToFirewall hp peers op (rangeText_not_mem _)
      (List.mem_cons_of_mem _ (protocol_of_portRanges hpair))).mapError

/-- Enabling or disabling the allowlist of the server. -/
theorem shows_serverAllowlist
    (hp : ∀ a d t, AllowlistWords a d t → p (allowlistLine a d t) = false) :
    Keeps r any (Shows p kept nat) disableAllowlist ∧
      Keeps r any (Shows p kept nat) enableAllowlist :=
  ⟨(Keeps.state.seq <| Keeps.pure _).seq <| shows_allowlistToFirewall hp _ _ _,
    (Keeps.state.seq <| Keeps.pure _).seq <| shows_allowlistToFirewall hp _ _ _⟩

end Frame

/-! ### The lines of an allowlist -/

/-- The lines of one destination. -/
def destinationLines (peers : List MachinePeer) (destination portType : String) : List Line :=
  peers.flatMap fun peer =>
    if getsLine portType peer then [allowlistLine peer.address destination portType] else []

/-- Only the subnets of local networks have lines. -/
def subnetLines (peers : List MachinePeer) (subnet : String) : List Line :=
  match parsePrefix subnet with
  | none => []
  | some parsed =>
    if parsed.addr.isPrivate || parsed.addr.isLinkLocalUnicast then destinationLines peers subnet ""
    else []

/-- The lines `allowlistToFirewall` adds or removes if it meets the subnets in this order. -/
def allowlistLines (allowlist : Allowlist) (peers : List MachinePeer) (subnets : List String) :
    List Line :=
  subnets.flatMap (subnetLines peers) ++
    (portRanges allowlist).flatMap fun pair => destinationLines peers (rangeText pair.2) pair.1

/-- All subnets are well formed. -/
def Readable (allowlist : Allowlist) : Prop :=
  ∀ subnet ∈ allowlist.subnets, (parsePrefix subnet).isSome = true

theorem mem_destinationLines {peers : List MachinePeer} {destination portType : String} {l : Line}
    (hdestination : 'n' ∉ destination.toList) (hport : portType ∈ ["", "tcp", "udp"])
    (h : l ∈ destinationLines peers destination portType) :
    ∃ a d t, AllowlistWords a d t ∧ l = allowlistLine a d t := by
  obtain ⟨peer, -, hl⟩ := List.mem_flatMap.mp h
  split at hl
  · rename_i hgets
    simp only [getsLine, Bool.and_eq_true] at hgets
    exact ⟨_, _, _, ⟨hgets.1.2, hdestination, hport⟩, List.mem_singleton.mp hl⟩
  · cases hl

theorem mem_allowlistLines {allowlist : Allowlist} {peers : List MachinePeer}
    {subnets : List String} {l : Line} (h : l ∈ allowlistLines allowlist peers subnets) :
    ∃ a d t, AllowlistWords a d t ∧ l = allowlistLine a d t := by
  rcases List.mem_append.mp h with h | h
  · obtain ⟨subnet, -, hl⟩ := List.mem_flatMap.mp h
    unfold subnetLines at hl
    cases hparse : parsePrefix subnet with
    | none => simp [hparse] at hl
    | some parsed =>
      simp only [hparse] at hl
      split at hl
      · exact mem_destinationLines (subnet_not_mem hparse) List.mem_cons_self hl
      · cases hl
  · obtain ⟨pair, hpair, hl⟩ := List.mem_flatMap.mp h
    exact mem_destinationLines (rangeText_not_mem _)
      (List.mem_cons_of_mem _ (protocol_of_portRanges hpair)) hl

/-- Each line is deleted once, if it is there. -/
def eraseAll (ls : List Line) (t : Tables) : Tables :=
  t.set .forward (ls.foldl List.erase (t.lines .forward))

namespace Operation

def apply : Operation → List Line → Tables → Tables
  | .remove => eraseAll
  | .add => insertAll

theorem apply_nil (op : Operation) (t : Tables) : op.apply [] t = t := by
  cases op <;> exact Tables.set_self t .forward

theorem apply_append (op : Operation) (ls ls' : List Line) (t : Tables) :
    op.apply (ls ++ ls') t = op.apply ls' (op.apply ls t) := by
  cases op with
  | add => exact insertAll_append ls ls' t
  | remove => simp [apply, eraseAll, Tables.set_set, List.foldl_append]

theorem foldl_apply {α : Type} (op : Operation) (lines : α → List Line) (xs : List α) (t : Tables) :
    xs.foldl (fun t x => op.apply (lines x) t) t = op.apply (xs.flatMap lines) t := by
  induction xs generalizing t with
  | nil => exact (apply_nil op t).symm
  | cons x xs ih => rw [List.foldl_cons, ih, List.flatMap_cons, apply_append]

end Operation

section Working

variable {r : Env} (hr : r.Works)
include hr

variable (peers : List MachinePeer) (op : Operation)

theorem effect_allowlistCommand {args : List String} {l : Line}
    (hread : readCommand args = some (op.command l)) :
    Effect r (tolerate isMissingRule (execute args)) (op.apply [l]) := by
  cases op with
  | remove =>
    rw [← mapError_id (execute args)]
    exact effect_tolerateDelete hread (by decide) (by decide)
  | add =>
    intro s
    refine wp_tolerate.mpr (wp_post (effect_insert hread s) fun x t ht => ?_)
    cases ht.2.2 hr trivial
    exact ht

theorem effect_allowlistRuleToFirewall (destination portType : String) :
    Effect r (allowlistRuleToFirewall peers op destination portType)
      (op.apply (destinationLines peers destination portType)) := by
  refine Effect.congr (Effect.forEach peers fun peer _ => ((effect_allowlistCommand hr op
    (readCommand_allowlistLine op peer.address destination portType)).mapError
      (GoError.wrap "calling iptables")).when (getsLine portType peer)) fun t => ?_
  rw [destinationLines, ← Operation.foldl_apply]
  congr 1
  funext t peer
  split
  · rfl
  · exact (op.apply_nil t).symm

theorem effect_allowlistSubnet (subnet : String) :
    EffectOn r (fun _ => (parsePrefix subnet).isSome = true) (allowlistSubnet peers op subnet)
      (op.apply (subnetLines peers subnet)) := by
  have hrule := effect_allowlistRuleToFirewall hr peers op subnet ""
  cases hparse : parsePrefix subnet with
  | none =>
    simp only [allowlistSubnet, hparse]
    exact fun _ => wp_fail.mpr ⟨rfl, nofun, fun _ h => nomatch h⟩
  | some parsed =>
    intro s
    simp only [allowlistSubnet, subnetLines, hparse]
    refine wp_when.mpr ⟨fun hlocal => ?_, fun hother => ?_⟩
    · rw [if_pos hlocal]
      cases op with
      | add =>
        have hcontext := hrule.mapError (GoError.wrap "adding allowlist rule to firewall")
        exact wp_post (hcontext s) fun x t ht => ⟨ht.1, ht.2.1, fun hr _ => ht.2.2 hr trivial⟩
      | remove =>
        refine wp_ignore.mpr (wp_post (hrule s) fun x t ht => ?_)
        exact ⟨ht.1, fun _ => ht.2.1 (ht.2.2 hr trivial), fun _ _ => rfl⟩
    · rw [if_neg (by simp [hother])]
      exact ⟨rfl, fun _ => (op.apply_nil _).symm, fun _ _ => rfl⟩

/-- What `allowlistToFirewall` does: the subnets come in some order. -/
theorem wp_allowlistToFirewall (allowlist : Allowlist) (peers : List MachinePeer) (op : Operation)
    (s : State) :
    wp (allowlistToFirewall allowlist peers op) r any (fun x t =>
      t.server = s.server ∧
      (x = .ok () → ∃ subnets, subnets.Perm allowlist.subnets ∧
        t.tables = op.apply (allowlistLines allowlist peers subnets) s.tables) ∧
      (Readable allowlist → x = .ok ())) s := by
  have horder := r.rangeOrder_perm s.calls allowlist.subnets
  have hsubnets := EffectOn.forEach (r.rangeOrder s.calls allowlist.subnets)
    fun subnet _ => effect_allowlistSubnet hr peers op subnet
  have hports := Effect.forEach (portRanges allowlist) fun pair _ =>
    (effect_allowlistRuleToFirewall hr peers op (rangeText pair.2) pair.1).mapError
      (GoError.wrap "adding allowlist rule to firewall")
  simp only [allowlistToFirewall, wp_bind, wp_env, wp_state, onOk_ok]
  rw [← wp_bind]
  refine wp_post (hsubnets.seq hports (fun _ _ => trivial) s) fun x t ht => ⟨ht.1, fun hx => ?_, ?_⟩
  · refine ⟨_, horder, (ht.2.1 hx).trans ?_⟩
    rw [Function.comp_apply, op.foldl_apply, op.foldl_apply, allowlistLines, op.apply_append]
  · exact fun hreadable => ht.2.2 hr fun subnet h => hreadable subnet (horder.mem_iff.mp h)

/-- The same for the allowlist and the peers of the manager: `disableAllowlist` if `op`
is `remove`, `enableAllowlist` if it is `add`. -/
theorem wp_managerAllowlist (s : State) :
    wp (do
      let en ← server
      allowlistToFirewall en.allowlistManager.allowlist en.allowlistManager.peers op) r
      any (fun x t => t.server = s.server ∧
        (x = .ok () → ∃ subnets, subnets.Perm s.server.allowlistManager.allowlist.subnets ∧
          t.tables = op.apply (allowlistLines s.server.allowlistManager.allowlist
            s.server.allowlistManager.peers subnets) s.tables) ∧
        (Readable s.server.allowlistManager.allowlist → x = .ok ())) s := by
  simp only [server, wp_bind, wp_state, wp_pure, onOk_ok]
  exact wp_allowlistToFirewall hr _ _ _ _

end Working

/-- Peers without an address are left out, so the texts of the others are words. -/
theorem isWord_trafficPeers {peers : List MachinePeer} {lanAvailable : Bool} :
    ∀ peer ∈ trafficPeers peers lanAvailable, ' ' ∉ peer.ip.text := by
  intro peer hpeer
  obtain ⟨machine, hmachine, rfl⟩ := List.mem_map.mp hpeer
  exact Prefix.blank_single (List.mem_filter.mp hmachine).2

/-! ### What `resetPeers` does -/

/-- The manager follows the peers of the server if the own network is not available. -/
def Server.refreshed (en : Server) (lanAvailable : Bool) : Server :=
  if lanAvailable then en
  else { en with allowlistManager := { en.allowlistManager with peers := en.peers } }

/-- The allowlist lines of the old peers go, those of the new peers come. -/
def allowlistReset (en : Server) (lanAvailable : Bool) (removed added : List String)
    (t : Tables) : Tables :=
  insertAll
    (if lanAvailable then [] else allowlistLines en.allowlistManager.allowlist en.peers added)
    (eraseAll (allowlistLines en.allowlistManager.allowlist en.allowlistManager.peers removed) t)

/-- What a reset of the rules in the tables leaves, and when it succeeds. -/
def ResetLeaves (en : Server) (tables : Tables) (lanAvailable killswitch : Bool)
    (x : Except Error Unit) (t : State) : Prop :=
  (x = .ok () → t.server = en.refreshed lanAvailable ∧
    ∃ removed added, removed.Perm en.allowlistManager.allowlist.subnets ∧
      added.Perm en.allowlistManager.allowlist.subnets ∧
      t.tables = allowlistReset en lanAvailable removed added
        (afterReset (trafficPeers en.peers lanAvailable) en.interfaceNames killswitch tables)) ∧
  (Resettable tables → Readable en.allowlistManager.allowlist → x = .ok ())

theorem wp_resetPeersRules {r : Env} (hr : r.Works) (lanAvailable killswitch : Bool) (s : State) :
    wp (resetPeersRules lanAvailable killswitch) r any
      (ResetLeaves s.server s.tables lanAvailable killswitch) s := by
  refine wp_bind.mpr (wp_bind.mpr (wp_state.mpr (wp_pure.mpr ?_)))
  rw [onOk_ok]
  refine wp_seq (effect_resetPeersTraffic _ _ isWord_trafficPeers s) (fun _ t ht => ?_)
    fun e t ht => ⟨nofun, fun hreset _ => nomatch ht.2.2 hr hreset⟩
  obtain ⟨hserver, htables, -⟩ := ht
  replace htables := htables rfl
  refine wp_seq (wp_managerAllowlist hr .remove t) (fun _ u hu => ?_) fun e u hu =>
    ⟨nofun, fun _ hreadable => nomatch hu.2.2 (hserver ▸ hreadable)⟩
  obtain ⟨hserver', hremoved, -⟩ := hu
  obtain ⟨removed, hperm, hremoved⟩ := hremoved rfl
  rw [hserver] at hserver' hperm hremoved
  refine wp_when.mpr ⟨fun hlan => ?_, fun hlan => ?_⟩
  · refine wp_update_bind.mpr ⟨trivial, ?_⟩
    refine wp_post (wp_managerAllowlist hr .add _) fun x v hv =>
      ⟨fun hx => ?_, fun _ hreadable => ?_⟩
    · obtain ⟨added, hperm', hadded⟩ := hv.2.1 hx
      have hfalse : lanAvailable = false := by simpa using hlan
      rw [hserver'] at hperm' hadded
      refine ⟨?_, removed, added, hperm, hperm', ?_⟩
      · rw [hv.1, hserver', Server.refreshed, hfalse]
        rfl
      · rw [hadded, allowlistReset, ← htables, hfalse]
        exact congrArg _ hremoved
    · refine hv.2.2 ?_
      rw [hserver']
      exact hreadable
  · have htrue : lanAvailable = true := by simpa using hlan
    refine ⟨fun _ => ⟨?_, removed, removed, hperm, hperm, ?_⟩, fun _ _ => rfl⟩
    · rw [hserver', Server.refreshed, htrue]
      rfl
    · rw [allowlistReset, ← htables, htrue, if_pos rfl, insertAll_nil]
      exact hremoved

end NordVPN.ExitNode
