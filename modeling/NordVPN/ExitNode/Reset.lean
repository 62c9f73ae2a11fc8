import NordVPN.ExitNode.Effects

/-!
What a successful reset leaves in the tables.

Whatever the tables were, after `resetPeersTraffic` the lines with the exit node's
comments are those of the peers it was given, in an order that only depends on them,
and the other lines are as they were.
-/

namespace NordVPN.ExitNode

open NordVPN.Netip Prog

/-! ### The lines of a reset -/

/-- The words that end a transient line. -/
def transientTail (v : Verdict) : List String :=
  ["-j", v.text, "-m", "comment", "--comment", transientFilterRuleComment]

/-- Everything from a peer. -/
def routeLine (ip : Prefix) : Line := ["-s", ip.toString] ++ transientTail .accept

/-- From a peer to a private network. -/
def localLine (ip subnet : Prefix) : Line :=
  ["-s", ip.toString, "-d", subnet.toString] ++ transientTail .accept

/-- From the meshnet to a private network. -/
def privateBlockLine (subnet : Prefix) : Line :=
  ["-s", meshSrcSubnet, "-d", subnet.toString] ++ transientTail .drop

/-- Everything that leaves through an interface. -/
def physicalLine (name : InterfaceName) : Line := ["-o", name.text] ++ transientTail .drop

def masqueradeLine (peerAddress : String) : Line :=
  ["-s", peerAddress, "!", "-d", meshSrcSubnet, "-j", "MASQUERADE", "-m", "comment", "--comment",
    msqRuleComment]

/-- The lines above the blocks of the private networks and interfaces. -/
def localLines (killswitch : Bool) (peer : TrafficPeer) : List Line :=
  if peer.localNetwork then
    if peer.routing && !killswitch then [routeLine peer.ip]
    else privateSubnets.map (localLine peer.ip)
  else []

/-- The lines below them. -/
def routeLines (killswitch : Bool) (peer : TrafficPeer) : List Line :=
  if peer.routing && (!peer.localNetwork || killswitch) then [routeLine peer.ip] else []

/-- The lines a reset inserts, the first one first. -/
def transientLines (peers : List TrafficPeer) (names : List InterfaceName) (killswitch : Bool) :
    List Line :=
  peers.flatMap (routeLines killswitch) ++ (privateSubnets.map privateBlockLine ++
    ((if killswitch then names.map physicalLine else []) ++
      peers.flatMap (localLines killswitch)))

/-- The four kinds of lines a reset inserts. -/
theorem forall_transientLines {P : Line → Prop} {peers : List TrafficPeer}
    {names : List InterfaceName} (killswitch : Bool)
    (route : ∀ peer ∈ peers, P (routeLine peer.ip))
    (lan : ∀ peer ∈ peers, ∀ subnet ∈ privateSubnets, P (localLine peer.ip subnet))
    (block : ∀ subnet ∈ privateSubnets, P (privateBlockLine subnet))
    (physical : ∀ name ∈ names, P (physicalLine name)) :
    ∀ l ∈ transientLines peers names killswitch, P l := by
  intro l hl
  simp only [transientLines, List.mem_append, List.mem_flatMap, List.mem_map] at hl
  rcases hl with ⟨peer, hpeer, hl⟩ | ⟨subnet, hsubnet, rfl⟩ | hl | ⟨peer, hpeer, hl⟩
  · unfold routeLines at hl
    split at hl
    · exact List.mem_singleton.mp hl ▸ route peer hpeer
    · cases hl
  · exact block subnet hsubnet
  · split at hl
    · obtain ⟨name, hname, rfl⟩ := List.mem_map.mp hl
      exact physical name hname
    · cases hl
  · unfold localLines at hl
    split at hl
    · split at hl
      · exact List.mem_singleton.mp hl ▸ route peer hpeer
      · obtain ⟨subnet, hsubnet, rfl⟩ := List.mem_map.mp hl
        exact lan peer hpeer subnet hsubnet
    · cases hl

def masqueradeLines (peers : List TrafficPeer) : List Line :=
  (peers.filter (·.routing)).map fun peer => masqueradeLine peer.ip.toString

/-- The tables after a successful reset. -/
def afterReset (peers : List TrafficPeer) (names : List InterfaceName) (killswitch : Bool)
    (t : Tables) : Tables :=
  (t.set .postrouting ((t.lines .postrouting).filter (!carries msqRuleComment ·) ++
      masqueradeLines peers)).set .forward
    ((transientLines peers names killswitch).reverse ++
      (t.lines .forward).filter (!carries transientFilterRuleComment ·))

/-! ### Insertions -/

/-- Lines inserted one after the other. -/
def insertAll (ls : List Line) (t : Tables) : Tables :=
  t.set .forward (ls.reverse ++ t.lines .forward)

theorem insertAll_nil (t : Tables) : insertAll [] t = t := Tables.set_self t .forward

theorem insertAll_append (ls ls' : List Line) (t : Tables) :
    insertAll (ls ++ ls') t = insertAll ls' (insertAll ls t) := by
  simp [insertAll, Tables.set_set]

@[simp] theorem insertAll_forward (ls : List Line) (t : Tables) :
    (insertAll ls t).lines .forward = ls.reverse ++ t.lines .forward :=
  Tables.set_same t .forward _

/-- Whenever `m` returns `nil` it has inserted `ls`. -/
def Inserts (r : Env) (m : Exit Unit) (ls : List Line) : Prop := Effect r m (insertAll ls)

namespace Inserts

variable {r : Env} {m m' : Exit Unit} {ls ls' : List Line}

theorem mapError (hm : Inserts r m ls) (h : Error → Error) : Inserts r (Prog.mapError h m) ls :=
  Effect.mapError hm h

theorem seq (hm : Inserts r m ls) (hm' : Inserts r m' ls') :
    Inserts r (m >>= fun _ => m') (ls ++ ls') :=
  (Effect.seq hm hm').congr fun t => (insertAll_append ls ls' t).symm

theorem when (hm : Inserts r m ls) (c : Bool) :
    Inserts r (Prog.when c m) (if c then ls else []) := by
  cases c with
  | false => exact Effect.skip.congr fun t => (insertAll_nil t).symm
  | true => exact hm

theorem ite {c : Prop} [Decidable c] (hm : Inserts r m ls) (hm' : Inserts r m' ls') :
    Inserts r (if c then m else m') (if c then ls else ls') := by
  split
  · exact hm
  · exact hm'

theorem forEach {α : Type} {body : α → Exit Unit} {lines : α → List Line} (xs : List α)
    (h : ∀ x ∈ xs, Inserts r (body x) (lines x)) :
    Inserts r (Prog.forEach body xs) (xs.flatMap lines) := by
  induction xs with
  | nil => exact Effect.skip.congr fun t => (insertAll_nil t).symm
  | cons x xs ih =>
    rw [List.flatMap_cons]
    exact (h x List.mem_cons_self).seq (ih fun y hy => h y (List.mem_cons_of_mem x hy))

end Inserts

theorem executeText_join {ws : List String} (hne : ws ≠ []) (h : ∀ w ∈ ws, Words.IsWord w) :
    executeText (Words.join ws) = execute ws := by
  rw [executeText, Words.split_join hne h]

section

variable {r : Env}

theorem inserts_words (ws : List String) {l : Line} (hne : ws ≠ []) (h : ∀ w ∈ ws, Words.IsWord w)
    (hread : readCommand ws = some (.insert .forward l)) :
    Inserts r (executeText (Words.join ws)) [l] := by
  rw [executeText_join hne h]
  exact effect_insert hread

theorem isWord_network {p : Prefix} (h : ' ' ∉ p.text) : Words.IsWord p.toString := by
  rwa [Words.IsWord, Prefix.toString, String.toList_ofList]

variable {subnet : Prefix}

theorem isWord_privateSubnet (h : subnet ∈ privateSubnets) :
    ' ' ∉ subnet.text := by
  revert h subnet
  decide

/-- A command that inserts one line of words. -/
theorem inserts_text {l : Line} (h : ∀ w ∈ l, Words.IsWord w)
    (hread : readCommand (["-t", "filter", "-I", "FORWARD"] ++ l) = some (.insert .forward l)) :
    Inserts r (executeText (Words.join (["-t", "filter", "-I", "FORWARD"] ++ l))) [l] :=
  inserts_words _ (List.cons_ne_nil _ _) (List.forall_mem_append.mpr ⟨by decide, h⟩) hread

section Lines

variable {ip : Prefix} (hip : ' ' ∉ ip.text)
include hip

theorem inserts_route : Inserts r (modifyPeerTraffic ip "-I" true true) [routeLine ip] := by
  refine (inserts_text (l := routeLine ip) ?_ rfl).mapError _
  simp only [routeLine, List.forall_mem_append, List.forall_mem_cons]
  exact ⟨⟨by decide, isWord_network hip, by simp⟩, by decide⟩

theorem inserts_local : Inserts r (allowLocalNetworkAccess ip "-I")
    (privateSubnets.map (localLine ip)) := by
  rw [List.map_eq_flatMap]
  refine Inserts.forEach privateSubnets fun subnet hsubnet =>
    (inserts_text (l := localLine ip subnet) ?_ rfl).mapError _
  simp only [localLine, List.forall_mem_append, List.forall_mem_cons]
  exact ⟨⟨by decide, isWord_network hip, by decide, isWord_network (isWord_privateSubnet hsubnet),
    by simp⟩, by decide⟩

end Lines

variable (peers : List TrafficPeer) (names : List InterfaceName) (killswitch : Bool)

theorem inserts_physical : Inserts r (blockPhysicalForwarding names) (names.map physicalLine) := by
  rw [List.map_eq_flatMap]
  refine Inserts.forEach names fun name _ =>
    (inserts_text (l := physicalLine name) ?_ rfl).mapError _
  simp only [physicalLine, List.forall_mem_append, List.forall_mem_cons]
  exact ⟨⟨by decide, name.isWord, by simp⟩, by decide⟩

/-! ### The block of the private networks -/

/-- One turn of `refreshPrivateSubnetsBlock`: a line that is there is deleted first. -/
def refreshLine (l : Line) (t : Tables) : Tables := (t.erase .forward l).insert .forward l

/-- Deleting a line that is not there is no error. -/
theorem effect_deletePrivateBlock (h : subnet ∈ privateSubnets) :
    Effect r (tolerate isMissingRule (modifyPeerTraffic subnet "-D" false false))
      (Tables.erase .forward (privateBlockLine subnet)) := by
  have hwords : ∀ w ∈ ["-t", "filter", "-D", "FORWARD"] ++ privateBlockLine subnet,
      Words.IsWord w := by
    simp only [privateBlockLine, List.forall_mem_append, List.forall_mem_cons]
    exact ⟨by decide, ⟨by decide, by decide, by decide, isWord_network (isWord_privateSubnet h),
      by simp⟩, by decide⟩
  have hrun : modifyPeerTraffic subnet "-D" false false = context "iptables modifying rule"
      (execute (["-t", "filter", "-D", "FORWARD"] ++ privateBlockLine subnet)) := by
    have hne : ["-t", "filter", "-D", "FORWARD"] ++ privateBlockLine subnet ≠ [] :=
      List.cons_ne_nil _ _
    rw [← executeText_join hne hwords]
    rfl
  rw [hrun]
  exact effect_tolerateDelete rfl (by decide) (by decide)

theorem inserts_privateBlock (h : subnet ∈ privateSubnets) :
    Inserts r (modifyPeerTraffic subnet "-I" false false) [privateBlockLine subnet] := by
  refine (inserts_text (l := privateBlockLine subnet) ?_ rfl).mapError _
  simp only [privateBlockLine, List.forall_mem_append, List.forall_mem_cons]
  exact ⟨⟨by decide, by decide, by decide, isWord_network (isWord_privateSubnet h), by simp⟩,
    by decide⟩

theorem effect_refreshPrivateSubnetsBlock : Effect r refreshPrivateSubnetsBlock fun t =>
    privateSubnets.foldl (fun t subnet => refreshLine (privateBlockLine subnet) t) t :=
  Effect.forEach privateSubnets fun _ h => ((effect_deletePrivateBlock h).mapError _).seq
    ((inserts_privateBlock h).mapError _)

/-- On a chain without them, the lines are simply inserted. -/
theorem foldl_refreshLine (ls : List Line) (hnodup : ls.Nodup) (t : Tables)
    (h : ∀ l ∈ ls, l ∉ t.lines .forward) :
    ls.foldl (fun t l => refreshLine l t) t = insertAll ls t := by
  induction ls generalizing t with
  | nil => exact (insertAll_nil t).symm
  | cons l ls ih =>
    rw [List.nodup_cons] at hnodup
    have hone : refreshLine l t = insertAll [l] t := by
      have habsent := h l List.mem_cons_self
      rw [refreshLine, Tables.erase, List.erase_of_not_mem habsent, Tables.set_self]
      rfl
    rw [List.foldl_cons, hone, ih hnodup.2, ← insertAll_append, List.singleton_append]
    intro x hx
    rw [insertAll_forward, List.reverse_singleton, List.singleton_append, List.mem_cons, not_or]
    exact ⟨fun heq => hnodup.1 (heq ▸ hx), h x (List.mem_cons_of_mem l hx)⟩

/-! ### The whole reset -/

theorem effect_clearMasquerading : EffectOn r
    (fun t => Tidy .postrouting msqRuleComment (t.lines .postrouting)) clearMasquerading
    fun t => t.set .postrouting ((t.lines .postrouting).filter (!carries msqRuleComment ·)) :=
  effect_clearLines isMark_masquerade rfl fun _ => rfl

theorem effect_clearExitnodeForwardRules : EffectOn r
    (fun t => Tidy .forward transientFilterRuleComment (t.lines .forward)) clearExitnodeForwardRules
    fun t => t.set .forward ((t.lines .forward).filter (!carries transientFilterRuleComment ·)) :=
  effect_clearLines (isMark_transient .forward) rfl fun _ => rfl

theorem effect_enableMasquerading {peerAddress : String} (h : Words.IsWord peerAddress) :
    Effect r (enableMasquerading peerAddress)
      (Tables.append .postrouting (masqueradeLine peerAddress)) := by
  have hne : ["-t", "nat", "-A", "POSTROUTING"] ++ masqueradeLine peerAddress ≠ [] :=
    List.cons_ne_nil _ _
  have hwords : ∀ w ∈ ["-t", "nat", "-A", "POSTROUTING"] ++ masqueradeLine peerAddress,
      Words.IsWord w := by
    simp only [masqueradeLine, List.forall_mem_append, List.forall_mem_cons]
    refine ⟨by decide, by decide, h, ?_⟩
    decide
  have hrun : Effect r (executeText (Words.join
      (["-t", "nat", "-A", "POSTROUTING"] ++ masqueradeLine peerAddress)))
      (Tables.append .postrouting (masqueradeLine peerAddress)) := by
    rw [executeText_join hne hwords]
    exact effect_append rfl
  exact hrun.mapError _

/-- The masquerading loop appends a line for every peer with routing. -/
theorem foldl_masquerade (t : Tables) :
    peers.foldl (fun t peer => (if peer.routing = true then
      Tables.append .postrouting (masqueradeLine peer.ip.toString) else id) t) t =
      t.set .postrouting (t.lines .postrouting ++ masqueradeLines peers) := by
  induction peers generalizing t with
  | nil => simp [masqueradeLines, Tables.set_self]
  | cons peer peers ih =>
    rw [List.foldl_cons, ih]
    cases hrouting : peer.routing with
    | false => simp [masqueradeLines, hrouting]
    | true => simp [masqueradeLines, hrouting, Tables.append, Tables.set_set]

theorem carries_transientTail (ws : List String) (v : Verdict) :
    carries transientFilterRuleComment (ws ++ transientTail v) = true := by
  have htail : carries transientFilterRuleComment (transientTail v) = true := by
    cases v <;> decide
  rw [carries, List.any_append, Bool.or_eq_true]
  exact .inr htail

/-- The block of the private networks is not among the lines of peers. -/
theorem privateBlockLine_not_mem (subnet : Prefix) :
    privateBlockLine subnet ∉ peers.flatMap (routeLines killswitch) := by
  intro h
  obtain ⟨peer, -, hpeer⟩ := List.mem_flatMap.mp h
  unfold routeLines at hpeer
  split at hpeer
  · have hthird := congrArg (·[2]?) (List.mem_singleton.mp hpeer)
    simp [privateBlockLine, routeLine, transientTail] at hthird
  · cases hpeer

/-- The steps of a reset on the tables, put together. -/
theorem insertAll_reset (t : Tables)
    (h : ∀ l ∈ t.lines .forward, carries transientFilterRuleComment l = false) :
    insertAll (peers.flatMap (localLines killswitch))
      (insertAll (if killswitch = true then names.map physicalLine else [])
        (privateSubnets.foldl (fun t subnet => refreshLine (privateBlockLine subnet) t)
          (insertAll (peers.flatMap (routeLines killswitch)) t))) =
      insertAll (transientLines peers names killswitch) t := by
  have hblock : privateSubnets.foldl (fun t subnet => refreshLine (privateBlockLine subnet) t)
      (insertAll (peers.flatMap (routeLines killswitch)) t) =
      insertAll (privateSubnets.map privateBlockLine)
        (insertAll (peers.flatMap (routeLines killswitch)) t) := by
    have hnodup : (privateSubnets.map privateBlockLine).Nodup := by decide
    rw [← foldl_refreshLine _ hnodup, List.foldl_map]
    intro l hl hmem
    obtain ⟨subnet, -, rfl⟩ := List.mem_map.mp hl
    rw [insertAll_forward, List.mem_append, List.mem_reverse] at hmem
    rcases hmem with hmem | hmem
    · exact privateBlockLine_not_mem peers killswitch subnet hmem
    · have hcarries := carries_transientTail ["-s", meshSrcSubnet, "-d", subnet.toString] .drop
      exact Bool.false_ne_true ((h _ hmem).symm.trans hcarries)
  rw [hblock, ← insertAll_append, ← insertAll_append, ← insertAll_append, transientLines]

/-- Tables whose marked lines can be deleted by their printed texts. -/
def Resettable (t : Tables) : Prop :=
  Tidy .postrouting msqRuleComment (t.lines .postrouting) ∧
    Tidy .forward transientFilterRuleComment (t.lines .forward)

theorem effect_resetPeersTraffic {peers : List TrafficPeer}
    (hpeers : ∀ peer ∈ peers, ' ' ∉ peer.ip.text) :
    EffectOn r Resettable (resetPeersTraffic peers names killswitch)
      (afterReset peers names killswitch) := by
  have hroutes (peer : TrafficPeer) (h : peer ∈ peers) :=
    (inserts_route (r := r) (hpeers peer h)).mapError
      (GoError.wrap "adding rule while resetting peers traffic for peer")
  have hroute : Inserts r _ (peers.flatMap (routeLines killswitch)) :=
    Inserts.forEach peers fun peer h => (hroutes peer h).when
      (peer.routing && (!peer.localNetwork || killswitch))
  have hlocal : Inserts r _ (peers.flatMap (localLines killswitch)) :=
    Inserts.forEach peers fun peer h => Inserts.when (Inserts.ite (hroutes peer h)
      ((inserts_local (hpeers peer h)).mapError
        (GoError.wrap "adding rules to access local network while resetting peers traffic")))
      peer.localNetwork
  have hphysical := ((inserts_physical (r := r) names).mapError (GoError.wrap
    "adding killswitch physical forwarding block rules while resetting peers traffic")).when
      killswitch
  have hmasquerade := Effect.forEach (r := r) peers fun peer h => ((effect_enableMasquerading
    (isWord_network (hpeers peer h))).mapError (GoError.wrap "enabling masquerading for peer")).when
      peer.routing
  have hblock := Effect.mapError (effect_refreshPrivateSubnetsBlock (r := r))
    (GoError.wrap "refreshing private subnets block while resetting peers traffic")
  have hinserts := Effect.seq hroute (Effect.seq hblock (Effect.seq hphysical
    (Effect.seq hlocal hmasquerade)))
  refine EffectOn.congr (EffectOn.seq ((effect_clearMasquerading.mapError _).weaken
    fun _ => And.left) (EffectOn.seq (effect_clearExitnodeForwardRules.mapError _) hinserts
      fun _ _ => trivial) fun t ht => ?_) fun t => ?_
  · rw [Tables.set_other _ _ (by decide)]
    exact ht.2
  · simp only [Function.comp_apply, foldl_masquerade]
    rw [insertAll_reset]
    · refine Tables.ext (funext fun d => ?_) rfl
      cases d <;> simp [afterReset, insertAll, Tables.set]
    · intro l hl
      rw [Tables.set_same] at hl
      simpa using (List.mem_filter.mp hl).2

end

end NordVPN.ExitNode
