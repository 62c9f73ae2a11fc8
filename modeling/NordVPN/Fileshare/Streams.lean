import NordVPN.Fileshare.EventManager
import NordVPN.Lib.Runs

/-!
The progress streams of transfers (`Subscribe`, `startTransferStatusStream`).

A transfer has one channel at a time, the one subscribed last. Its reader gets the final status if
the event that ends the transfer finds the channel and is not given up before it is used; a channel
that was replaced, or made after the end, is never closed.
-/

namespace NordVPN.Fileshare

/-! ### Streams -/

/-- The final statuses that a stream passes on. -/
def Status.isReported : Status → Bool
  | .success | .finishedWithErrors | .canceledByPeer | .canceled => true
  | _ => false

/-- The loop of `startTransferStatusStream`: the statuses sent to the client, and whether it has
returned. A status that is neither ongoing nor one of the final ones is not passed on. -/
def startTransferStatusStream : List TransferProgressInfo → Bool → List Status × Bool
  | [], closed => ([], closed)
  | info :: rest, closed =>
    if info.status = .ongoing then
      let (sent, returned) := startTransferStatusStream rest closed
      (.ongoing :: sent, returned)
    else if info.status.isReported then ([info.status], true)
    else startTransferStatusStream rest closed

namespace Channel

/-- The channel is open, and its reader has only seen progress. -/
structure Open (c : Channel) : Prop where
  notClosed : c.closed = false
  progress : ∀ info ∈ c.received, info.status = .ongoing

/-- The channel is closed, after one final message. -/
structure Ended (c : Channel) : Prop where
  closed : c.closed = true
  received : ∃ progress info, c.received = progress ++ [info] ∧
    (∀ info ∈ progress, info.status = .ongoing) ∧ info.status.isReported = true

/-- The messages other than progress. -/
def finals (c : Channel) : List TransferProgressInfo := c.received.filter (·.status != .ongoing)

end Channel

variable {status : Status}

theorem ne_ongoing_of_isReported (h : status.isReported = true) :
    status ≠ .ongoing := by
  rintro rfl
  cases h

theorem stream_of_progress {progress : List TransferProgressInfo} {info : TransferProgressInfo}
    {closed : Bool} (hprogress : ∀ info ∈ progress, info.status = .ongoing)
    (hinfo : info.status.isReported = true) :
    startTransferStatusStream (progress ++ [info]) closed =
      (progress.map (fun _ => .ongoing) ++ [info.status], true) := by
  induction progress with
  | nil =>
    rw [List.nil_append]
    unfold startTransferStatusStream
    rw [if_neg (ne_ongoing_of_isReported hinfo), if_pos hinfo]
    rfl
  | cons first progress ih =>
    rw [List.cons_append]
    unfold startTransferStatusStream
    rw [if_pos (hprogress first List.mem_cons_self),
      ih fun info h => hprogress info (List.mem_cons_of_mem _ h)]
    rfl

/-- The reader got one final message before the channel was closed, and its stream has sent one
final status and returned. -/
structure Channel.Finished (c : Channel) : Prop where
  closed : c.closed = true
  finals : c.finals.length = 1
  sent : ((startTransferStatusStream c.received c.closed).1.filter (· != .ongoing)).length = 1
  returned : (startTransferStatusStream c.received c.closed).2 = true

theorem Channel.Ended.finished {c : Channel} (h : c.Ended) : c.Finished := by
  obtain ⟨hclosed, progress, info, hreceived, hprogress, hinfo⟩ := h
  have hne := ne_ongoing_of_isReported hinfo
  have hnone : progress.filter (·.status != .ongoing) = [] :=
    List.filter_eq_nil_iff.mpr fun info h => by simp [hprogress info h]
  have hsent : (progress.map fun _ => Status.ongoing).filter (· != .ongoing) = [] := by
    simp
  constructor
  · exact hclosed
  · simp [Channel.finals, hreceived, List.filter_append, hnone, hne]
  · rw [hreceived, stream_of_progress hprogress hinfo, List.filter_append, hsent]
    simp [hne]
  · rw [hreceived, stream_of_progress hprogress hinfo]

/-! ### Subscriptions -/

/-- A transfer's channel is open, and every other channel has ended. -/
structure Wired (subscriptions : String → Option Nat) (channels : List Channel) : Prop where
  current : ∀ id n, subscriptions id = some n →
    ∃ c, channels[n]? = some c ∧ c.transferID = id ∧ c.Open
  known : ∀ n c, channels[n]? = some c →
    (c.Open ∧ subscriptions c.transferID = some n) ∨ c.Ended

section Wired

variable {subscriptions : String → Option Nat} {channels : List Channel} {id : String} {n : Nat}

/-- A change of one channel and of the subscription of its transfer. -/
theorem Wired.change (h : Wired subscriptions channels) {subscriptions' : String → Option Nat}
    {channels' : List Channel} (hsubs : ∀ id' ≠ id, subscriptions' id' = subscriptions id')
    (hchannels : ∀ m ≠ n, channels'[m]? = channels[m]?)
    (hlinked : ∀ id' m, subscriptions id' = some m → (id' = id ↔ m = n))
    (hnew : ∃ c, channels'[n]? = some c ∧ (c.Open ∧ c.transferID = id ∧ subscriptions' id = some n ∨
      c.Ended ∧ subscriptions' id = none)) : Wired subscriptions' channels' := by
  obtain ⟨new, hnew, hend⟩ := hnew
  constructor
  · intro id' m hm
    by_cases hid' : id' = id
    · subst hid'
      obtain ⟨hopen, hid, hsub⟩ := hend.resolve_right fun h => by simp [h.2] at hm
      obtain rfl := Option.some.inj (hsub.symm.trans hm)
      exact ⟨new, hnew, hid, hopen⟩
    · rw [hsubs id' hid'] at hm
      obtain ⟨c, hc, hcid, hcopen⟩ := h.current id' m hm
      exact ⟨c, (hchannels m fun hmn => hid' ((hlinked id' m hm).mpr hmn)).trans hc, hcid, hcopen⟩
  · intro m c hc
    by_cases hmn : m = n
    · subst hmn
      obtain rfl := Option.some.inj (hnew.symm.trans hc)
      refine hend.imp (fun h => ⟨h.1, ?_⟩) And.left
      rw [h.2.1, h.2.2]
    · rw [hchannels m hmn] at hc
      refine (h.known m c hc).imp_left fun hknown => ⟨hknown.1, ?_⟩
      rw [hsubs _ fun heq => hmn ((hlinked _ m hknown.2).mp heq)]
      exact hknown.2

theorem Wired.subscribe (h : Wired subscriptions channels) (hid : subscriptions id = none) :
    Wired (Function.update subscriptions id (some channels.length))
      (channels ++ [{ transferID := id }]) := by
  refine h.change (n := channels.length) (fun _ hne => Function.update_of_ne hne _ _)
    (fun m hm => ?_)
    (fun id' m hm => ?_)
      ⟨_, List.getElem?_concat_length, .inl ⟨⟨rfl, fun _ hmem => nomatch hmem⟩, rfl,
      Function.update_self ..⟩⟩
  · rw [List.getElem?_append]
    grind
  · obtain ⟨c, hc, -⟩ := h.current id' m hm
    refine iff_of_false (fun heq => ?_) (Nat.ne_of_lt (List.getElem?_eq_some_iff.mp hc).1)
    rw [heq, hid] at hm
    cases hm

/-- The channel of a transfer changes: it stays open, or it ends and the transfer has none any
more. -/
theorem Wired.modify (h : Wired subscriptions channels) {subscriptions' : String → Option Nat}
    {f : Channel → Channel} (hid : subscriptions id = some n)
    (hsubs : ∀ id' ≠ id, subscriptions' id' = subscriptions id')
    (hf : ∀ c, c.Open → c.transferID = id →
      (f c).Open ∧ (f c).transferID = id ∧ subscriptions' id = some n ∨
        (f c).Ended ∧ subscriptions' id = none) : Wired subscriptions' (channels.modify n f) := by
  obtain ⟨c, hc, hcid, hcopen⟩ := h.current id n hid
  refine h.change hsubs (fun m hmn => ?_) (fun id' m hm => ⟨?_, ?_⟩) ⟨f c, ?_, hf c hcopen hcid⟩
  · simp [hmn.symm]
  · rintro rfl
    exact Option.some.inj (hm.symm.trans hid)
  · rintro rfl
    obtain ⟨c', hc', rfl, -⟩ := h.current id' m hm
    rw [← hcid, Option.some.inj (hc.symm.trans hc')]
  · simp [hc]

end Wired

/-! ### The event manager -/

/-- The channels are wired, and a live transfer is kept under its own identifier. -/
structure EventManager.Streams (em : EventManager) : Prop where
  wired : Wired em.transferSubscriptions em.channels
  keyed : ∀ id tr, em.liveTransfers id = some tr → tr.id = id

section Streams

variable {em em' : EventManager} {r : EventEnv} {tr : LiveTransfer} {id : String}

theorem EventManager.Streams.setLive (h : em.Streams) : (em.setLive tr).Streams :=
  ⟨h.wired, EventManager.Each.setLive h.keyed rfl⟩

/-- What `getLiveTransfer` leaves. -/
theorem getLiveTransfer_streams (h : em.Streams)
    (hlive : em.getLiveTransfer r id = some (tr, em')) :
    tr.id = id ∧ em'.Streams ∧ em'.transferSubscriptions = em.transferSubscriptions := by
  rcases EventManager.getLiveTransfer_cases hlive with
    ⟨hfound, rfl⟩ | ⟨-, rfl, storage, ti, -, hti, rfl⟩
  · exact ⟨h.keyed id tr hfound, h, rfl⟩
  · refine ⟨?_, h.setLive, rfl⟩
    unfold newLiveTransfer
    rw [addFiles_id]
    exact Storage.id_of_find hti

theorem EventManager.Streams.send_progress (h : em.Streams) {channel : Nat}
    (hid : em.transferSubscriptions id = some channel) {info : TransferProgressInfo}
    (hinfo : info.status = .ongoing) : (em.send channel info).Streams := by
  refine ⟨h.wired.modify hid (fun _ _ => rfl) fun c hc hcid =>
    .inl ⟨⟨hc.notClosed, fun info' hmem => ?_⟩, hcid, hid⟩, h.keyed⟩
  rcases List.mem_append.mp hmem with hmem | hmem
  · exact hc.progress info' hmem
  · rw [List.mem_singleton.mp hmem]
    exact hinfo

/-- The end of a transfer closes its channel, after the final status. -/
theorem EventManager.Streams.finalizeTransfer (h : em.Streams)
    (hstatus : em.transferSubscriptions tr.id ≠ none → status.isReported = true) :
    (em.finalizeTransfer tr status).Streams ∧
    (em.finalizeTransfer tr status).transferSubscriptions =
      Function.update em.transferSubscriptions tr.id none := by
  have hkeyed : (em.finalizeTransfer tr status).Each fun id tr => tr.id = id :=
    EventManager.Each.finalizeTransfer h.keyed
  unfold EventManager.finalizeTransfer at hkeyed ⊢
  cases hsub : em.transferSubscriptions tr.id with
  | none =>
    simp only [hsub] at hkeyed ⊢
    refine ⟨⟨h.wired, hkeyed⟩, ?_⟩
    rw [← hsub, Function.update_eq_self]
  | some channel =>
    simp only [hsub] at hkeyed ⊢
    refine ⟨⟨?_, hkeyed⟩, trivial⟩
    have hend : Wired (Function.update em.transferSubscriptions tr.id none)
        (em.channels.modify channel fun c =>
          { c with
            received := c.received ++ [{ transferID := tr.id, status }], closed := true }) := by
      refine h.wired.modify hsub (fun _ hne => Function.update_of_ne hne _ _) fun c hc _ =>
        .inr ⟨⟨rfl, c.received, _, rfl, hc.progress, ?_⟩, Function.update_self ..⟩
      exact hstatus (by simp [hsub])
    simpa [EventManager.send, EventManager.closeChannel, List.modify_modify_eq, Function.comp_def]
      using hend

theorem streams_finalizeFinished (h : em.Streams) :
    (em.finalizeFinishedTransfer tr).Streams ∧
    (em.finalizeFinishedTransfer tr).transferSubscriptions = em.transferSubscriptions := by
  unfold EventManager.finalizeFinishedTransfer
  split
  · exact ⟨⟨h.wired, h.keyed⟩, rfl⟩
  · exact ⟨h, rfl⟩

/-- The live transfer can be had, and the status that ends it is passed on by the stream. -/
structure EndsWell (em : EventManager) (r : EventEnv) (id : String)
    (reported : LiveTransfer → Prop) : Prop where
  found : em.liveTransfers id ≠ none ∨ getTransferFromStorage id r.storage ≠ none
  reported : ∀ tr em', em.getLiveTransfer r id = some (tr, em') → reported tr

theorem EndsWell.getLive {reported : LiveTransfer → Prop} (h : EndsWell em r id reported) :
    em.getLiveTransfer r id ≠ none := by
  unfold EventManager.getLiveTransfer
  split
  · exact Option.some_ne_none _
  · rename_i hnone
    rcases h.found with hlive | hstored
    · exact absurd hnone hlive
    · exact fun hmap => hstored (Option.map_eq_none_iff.mp hmap)

/-- The condition on the event that ends a transfer with a channel: a failure has a status that is
passed on, and if the live transfer is finished, so has the stored one. -/
def Event.EndsStream (em : EventManager) (r : EventEnv) : Event → Prop
  | .transferFailed id status => em.transferSubscriptions id ≠ none →
      EndsWell em r id fun _ => status.isReported = true
  | .transferFinalized id _ => em.transferSubscriptions id ≠ none →
      EndsWell em r id fun tr => isLiveTransferFinished tr = true →
        ∃ stored, getTransferFromStorage id r.storage = some stored ∧
        stored.status.isReported = true
  | _ => True

/-- The transfer that an event ends. -/
def Event.ended : Event → List String
  | .transferFailed id _ | .transferFinalized id _ => [id]
  | _ => []

theorem Event.mem_ended {ev : Event} :
    id ∈ ev.ended ↔ ev.isTerminal = true ∧ id = ev.transferId := by
  cases ev <;> simp [Event.ended, Event.isTerminal, Event.transferId]

/-- A live transfer that had to be built for the end of the transfer leaves the channels alone. -/
theorem streams_end (h : em.Streams) (hlive : em.getLiveTransfer r id = some (tr, em'))
    (hstatus : em.transferSubscriptions id ≠ none → status.isReported = true) :
    (em'.finalizeTransfer tr status).Streams ∧
    (em'.finalizeTransfer tr status).transferSubscriptions =
      Function.update em.transferSubscriptions id none := by
  obtain ⟨rfl, hstreams, hsame⟩ := getLiveTransfer_streams h hlive
  rw [← hsame] at hstatus ⊢
  exact hstreams.finalizeTransfer hstatus

/-- The channels after an event: those of the transfer that it ends are gone. -/
theorem streams_onEvent {ev : Event} (h : em.Streams) (hends : ev.EndsStream em r) :
    (em.onEvent r ev).Streams ∧ (em.onEvent r ev).transferSubscriptions =
      if ev.isTerminal then Function.update em.transferSubscriptions ev.transferId none
      else em.transferSubscriptions := by
  have hget {tr : LiveTransfer} {em' : EventManager}
      (hlive : em.getLiveTransfer r ev.transferId = some (tr, em')) :=
        getLiveTransfer_streams h hlive
  have hunsubscribed (hnone : em.transferSubscriptions ev.transferId = none) :
      em.transferSubscriptions =
        if ev.isTerminal then Function.update em.transferSubscriptions ev.transferId none
        else em.transferSubscriptions := by
    rw [← hnone, Function.update_eq_self, ite_self]
  have hhandles := em.handles_onEvent r ev
  generalize em.onEvent r ev = after at hhandles
  cases hhandles with
  | request => exact ⟨⟨h.wired, h.keyed⟩, rfl⟩
  | missing hlive =>
    refine ⟨h, ?_⟩
    cases ev with
    | transferFailed | transferFinalized =>
      exact hunsubscribed (by_contra fun hsub => (hends hsub).getLive hlive)
    | _ => rfl
  | noFile hlive hev =>
    obtain ⟨-, hstreams, hsame⟩ := hget hlive
    rw [hev]
    exact ⟨hstreams, hsame⟩
  | fileEnd hlive hev =>
    obtain ⟨-, hstreams, hsame⟩ := hget hlive
    rw [hev, if_neg Bool.false_ne_true, ← hsame]
    exact streams_finalizeFinished hstreams.setLive
  | progress hlive hfile htr' hsent =>
    obtain ⟨-, hstreams, hsame⟩ := hget hlive
    rcases hsent with rfl | ⟨channel, info, hinfo, hchannel, rfl⟩
    · exact ⟨hstreams.setLive, hsame⟩
    · exact ⟨hstreams.setLive.send_progress hchannel hinfo, hsame⟩
  | @failed id status tr em' hlive =>
    exact streams_end h hlive fun hsub => (hends hsub).reported tr em' hlive
  | @unread id byPeer tr em' hlive hfinished hnone =>
    obtain ⟨-, hstreams, hsame⟩ := hget hlive
    refine ⟨hstreams, hsame.trans (hunsubscribed ?_)⟩
    by_contra hsub
    obtain ⟨stored, hstored, -⟩ := (hends hsub).reported tr _ hlive hfinished
    rw [hnone] at hstored
    cases hstored
  | @finalized id byPeer tr em' status hlive hstatus =>
    refine streams_end h hlive fun hsub => ?_
    split at hstatus
    · obtain ⟨stored, hstored, hreported⟩ := (hends hsub).reported tr em' hlive ‹_›
      rw [hstored] at hstatus
      rw [← Option.some.inj hstatus]
      exact hreported
    · rcases hstatus with rfl | rfl
      · rfl
      · rfl

end Streams

/-! ### Runs -/

/-- The event manager, and the transfers whose last event was handled. -/
structure StreamState where
  em : EventManager := {}
  ended : List String := []

inductive StreamMove where
  /-- a request subscribes to its transfer -/
  | subscribe (id : String)
  | event (ev : Event) (r : EventEnv)

def StreamState.step (s : StreamState) : StreamMove → StreamState
  | .subscribe id => { s with em := s.em.subscribe id }
  | .event ev r => { em := s.em.onEvent r ev, ended := ev.ended ++ s.ended }

/-- The condition on a step: a transfer is subscribed to once, before its end, and its end can be
reported. -/
def StreamState.Orderly (s : StreamState) : StreamMove → Prop
  | .subscribe id => s.em.transferSubscriptions id = none ∧ id ∉ s.ended
  | .event ev r => ev.EndsStream s.em r

/-- What every run keeps. -/
structure StreamState.Kept (s : StreamState) : Prop where
  streams : s.em.Streams
  ended : ∀ id ∈ s.ended, s.em.transferSubscriptions id = none

theorem kept_step {s : StreamState} {move : StreamMove} (h : s.Kept) (horderly : s.Orderly move) :
    (s.step move).Kept := by
  cases move with
  | subscribe id =>
    refine ⟨⟨h.streams.wired.subscribe horderly.1, h.streams.keyed⟩, fun id' hid' => ?_⟩
    have hne : id' ≠ id := fun heq => horderly.2 (heq ▸ hid')
    exact (Function.update_of_ne hne _ _).trans (h.ended id' hid')
  | event ev r =>
    obtain ⟨hstreams, hsubs⟩ := streams_onEvent h.streams horderly
    refine ⟨hstreams, fun id hid => (congrFun hsubs id).trans ?_⟩
    rcases List.mem_append.mp hid with hid | hid
    · obtain ⟨hterminal, rfl⟩ := Event.mem_ended.mp hid
      rw [if_pos hterminal, Function.update_self]
    · have hnone := h.ended id hid
      split
      · by_cases heq : id = ev.transferId
        · rw [heq, Function.update_self]
        · rw [Function.update_of_ne heq, hnone]
      · exact hnone

/-- Every stream of a transfer whose last event was handled has ended with one final status, if the
transfer was subscribed to once and in time, and its end could be reported. -/
theorem streams_end_with_one_status {s : StreamState}
    (h : Reaches StreamState.step StreamState.Orderly {} s) {id : String} (hended : id ∈ s.ended)
    {c : Channel} (hc : c ∈ s.em.channels) (hid : c.transferID = id) : c.Finished := by
  have hstart : StreamState.Kept {} :=
    ⟨⟨⟨fun _ _ hn => (nomatch hn), fun _ _ hn => (nomatch hn)⟩, fun _ _ htr => (nomatch htr)⟩,
      fun _ hid => (nomatch hid)⟩
  have hkept : s.Kept := h.invariant hstart fun _ _ ht hc => kept_step ht hc
  obtain ⟨n, hn⟩ := List.getElem?_of_mem hc
  rcases hkept.streams.wired.known n c hn with ⟨-, hsub⟩ | hended
  · rw [hid, hkept.ended id hended] at hsub
    cases hsub
  · exact hended.finished

/-- A transfer of one file that is done. -/
def doneTransfer : TransferInfo :=
  { id := "transfer", kind := .incoming [{ fileId := "a", states := [.completed] }] }

/-- The state after the moves, the latest first. -/
def afterMoves (moves : List StreamMove) : StreamState := runAll StreamState.step {} moves

/-- The end of the transfer, with the storage at that time. -/
def finalizedMove (storage : Option Storage) : StreamMove :=
  .event (.transferFinalized "transfer" false) { storage }

theorem one_stream_ends :
    Channel.Finished { transferID := "transfer", closed := true
                       received := [{ transferID := "transfer", status := .success }] } := by
  have horderly : AllMeet StreamState.step StreamState.Orderly {}
      [finalizedMove (some [doneTransfer]), .subscribe "transfer"] := by
    refine ⟨⟨trivial, rfl, fun h => nomatch h⟩, fun _ => ⟨.inr (by decide), ?_⟩⟩
    intro tr em' _ _
    exact ⟨_, rfl, by decide⟩
  exact streams_end_with_one_status (reaches_runAll horderly) (by decide) (by decide) rfl

/-- A stream is left without an end if its channel is replaced, if it is made after the end, if the
storage does not load at the end, and it returns without a final status if the transfer failed with
one that is not passed on. -/
theorem stream_without_end :
    ({ transferID := "transfer" } : Channel) ∈
      (afterMoves [finalizedMove (some [doneTransfer]), .subscribe "transfer",
        .subscribe "transfer"]).em.channels ∧
    ({ transferID := "transfer" } : Channel) ∈
      (afterMoves [.subscribe "transfer", finalizedMove (some [doneTransfer])]).em.channels ∧
    ({ transferID := "transfer" } : Channel) ∈
      (afterMoves [finalizedMove none, .subscribe "transfer"]).em.channels ∧
    ¬ Channel.Finished { transferID := "transfer" } ∧
    (afterMoves [.event (.transferFailed "transfer" (.other 15)) { storage := some [doneTransfer] },
      .subscribe "transfer"]).em.channels.map
        (fun c => startTransferStatusStream c.received c.closed) = [([], true)] := by
  refine ⟨by decide, by decide, by decide, ?_, by decide⟩
  exact fun hfinished => nomatch hfinished.closed

end NordVPN.Fileshare
