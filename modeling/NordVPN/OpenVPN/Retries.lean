import NordVPN.OpenVPN.Start

/-!
Counting failed attempts while a connection is set up (`stage1Handler`).

Authentication failures and timeouts are counted in one substate, which is advanced by a failure
only from the values of its own kind. It is set back after the third failure, but neither at the
start of a connection nor when one succeeds. So the kind that comes first is counted alone, and a
count begun in an earlier connection goes on.
-/

namespace NordVPN.OpenVPN

open NordVPN.Vpn

/-! ### Failures and other ends -/

/-- The failures that are counted. -/
inductive Failure where
  | auth | timeout
deriving DecidableEq, Repr

namespace Failure

/-- The error after the third failure. -/
def error : Failure → HandlerError
  | .auth => .accountExpired
  | .timeout => .serverTimeout

def other : Failure → Failure
  | .auth => .timeout
  | .timeout => .auth

end Failure

/-- The failure that an event reports. -/
def Event.failure : Event → Option Failure
  | .state newState description _ =>
    if stringToState newState = .reconnecting then
      if description = "auth-failure" then some .auth
      else if description = "server_poll" then some .timeout
      else none
    else none
  | _ => none

/-- How an event ends the run for another reason: with an error, or connected. -/
def Event.ending (r : Lookup) : Event → Option (Option HandlerError)
  | .fatal => some (some .fatal)
  | .password text auth => if needsAuth text && !auth then some (some .auth) else none
  | .state newState _ localTunnelAddr =>
    match stringToState newState with
    | .exiting => some (some .exited)
    | .connected =>
      match r.parseAddr localTunnelAddr with
      | none => some (some .parseAddr)
      | some ip => match r.find ip with
        | none => some (some .findTunnel)
        | some _ => some none
    | _ => none
  | .other => none

/-- The failures up to the first event that ends the run for another reason. -/
def failures (r : Lookup) : List Event → List Failure
  | [] => []
  | event :: events =>
    if (event.ending r).isSome then []
    else event.failure.toList ++ failures r events

/-! ### Runs by the way of counting -/

/-- The number of events that a run handles and how it ends, when `next` counts the failures and has
no next value after the last one. -/
def runCounting {κ : Type} (next : κ → Failure → Option κ) (r : Lookup) :
    κ → List Event → Nat × Option HandlerError
  | _, [] => (0, some .context)
  | count, event :: events =>
    match event.ending r with
    | some result => (1, result)
    | none =>
      match event.failure with
      | none => Prod.map Nat.succ id (runCounting next r count events)
      | some failure =>
        match next count failure with
        | none => (1, some failure.error)
        | some count => Prod.map Nat.succ id (runCounting next r count events)

/-- The failures of each kind that are left until the run ends. -/
structure Tally where
  auth : Nat := 3
  timeout : Nat := 3
deriving DecidableEq, Repr

/-- Each kind is counted by itself. -/
def Tally.next (tally : Tally) : Failure → Option Tally
  | .auth => if tally.auth ≤ 1 then none else some { tally with auth := tally.auth - 1 }
  | .timeout => if tally.timeout ≤ 1 then none else some { tally with timeout := tally.timeout - 1 }

/-- The counting of `stage1Handler`. -/
def nextSubstate (substate : Substate) (failure : Failure) : Option Substate :=
  match failure, substate with
  | .auth, .unknown => some .authFluke
  | .auth, .authFluke => some .authBad
  | .auth, .authBad => none
  | .timeout, .unknown => some .timeoutFluke
  | .timeout, .timeoutFluke => some .timeout
  | .timeout, .timeout => none
  | _, substate => some substate

/-- The number of events that `stage1Handler` takes from the channel. -/
def stage1Handled (r : Lookup) (w : World) : List Event → Nat
  | [] => 0
  | event :: events =>
    if (stage1Event r w event).2 = .next then stage1Handled r (stage1Event r w event).1 events + 1
    else 1

section

variable {r : Lookup} {w : World} {event : Event}

theorem substate_setState (arg : String) : (w.setState arg).ovpn.substate = w.ovpn.substate := by
  grind [World.setState, World.publishOnce]

/-- The verdict of a run that ends so. -/
def Verdict.ofResult : Option HandlerError → Verdict
  | none => .done
  | some err => .failed err

/-- The error that a run ends with. -/
def Verdict.result : Verdict → Option HandlerError
  | .failed err => some err
  | .next | .done => none

theorem stage1Event_ending {result : Option HandlerError} (h : event.ending r = some result) :
    (stage1Event r w event).2 = .ofResult result := by
  cases event <;> grind [stage1Event, Event.ending, Verdict.ofResult]

theorem countReconnect_other {description : String} (substate : Substate)
    (hauth : description ≠ "auth-failure") (htimeout : description ≠ "server_poll") :
    countReconnect description substate = (substate, none) := by
  unfold countReconnect
  rw [if_neg hauth, if_neg htimeout]

theorem stage1Event_quiet (hending : event.ending r = none) (hfailure : event.failure = none) :
    (stage1Event r w event).2 = .next ∧
      (stage1Event r w event).1.ovpn.substate = w.ovpn.substate := by
  cases event <;> grind [stage1Event, Event.ending, Event.failure, countReconnect_other,
    substate_setState, World.setSubstate]

/-- The counting in the source, by kinds of failures. -/
theorem countReconnect_eq {description : String} {failure : Failure} (substate : Substate)
    (h : (if description = "auth-failure" then some Failure.auth
      else if description = "server_poll" then some .timeout else none) = some failure) :
    (countReconnect description substate).2 =
        (if nextSubstate substate failure = none then some failure.error else none) ∧
      ∀ substate', nextSubstate substate failure = some substate' →
        (countReconnect description substate).1 = substate' := by
  unfold countReconnect
  split at h
  · cases h
    rw [if_pos ‹_›]
    cases substate <;> refine ⟨rfl, ?_⟩ <;> intro _ hnext <;> cases hnext <;> rfl
  · split at h
    · cases h
      rw [if_neg ‹_›, if_pos ‹_›]
      cases substate <;> refine ⟨rfl, ?_⟩ <;> intro _ hnext <;> cases hnext <;> rfl
    · cases h

theorem stage1Event_failure {failure : Failure} (h : event.failure = some failure) :
    (nextSubstate w.ovpn.substate failure = none →
      (stage1Event r w event).2 = .failed failure.error) ∧
    ∀ substate, nextSubstate w.ovpn.substate failure = some substate →
      (stage1Event r w event).2 = .next ∧
        (stage1Event r w event).1.ovpn.substate = substate := by
  cases event with
  | fatal | password text auth | other => cases h
  | state newState description localTunnelAddr =>
    dsimp only [Event.failure] at h
    split at h
    · rename_i hstate
      obtain ⟨herr, hnext⟩ := countReconnect_eq w.ovpn.substate h
      simp only [stage1Event, hstate, substate_setState]
      constructor
      · intro hnone
        rw [if_pos hnone] at herr
        simp only [herr]
      · intro substate hsome
        rw [if_neg (by rw [hsome]; exact Option.some_ne_none substate)] at herr
        simp only [herr]
        exact ⟨trivial, hnext substate hsome⟩
    · cases h

theorem stage1Handler_cons (events : List Event) :
    (stage1Handler r w (event :: events)).2 =
      if (stage1Event r w event).2 = .next then
        (stage1Handler r (stage1Event r w event).1 events).2
      else (stage1Event r w event).2.result := by
  rw [stage1Handler]
  split <;> rename_i hround <;> rw [hround] <;> rfl

/-- The handler counts by the substate it finds. -/
theorem stage1_eq_runCounting (r : Lookup) (w : World) (events : List Event) :
    (stage1Handled r w events, (stage1Handler r w events).2) =
      runCounting nextSubstate r w.ovpn.substate events := by
  induction events generalizing w with
  | nil => rfl
  | cons event events ih =>
    rw [stage1Handler_cons, stage1Handled]
    have hon {substate : Substate} (hnext : (stage1Event r w event).2 = .next)
        (hsubstate : (stage1Event r w event).1.ovpn.substate = substate) :
        (if (stage1Event r w event).2 = .next then
          stage1Handled r (stage1Event r w event).1 events + 1 else 1,
        if (stage1Event r w event).2 = .next then
          (stage1Handler r (stage1Event r w event).1 events).2
        else (stage1Event r w event).2.result) =
          Prod.map Nat.succ id (runCounting nextSubstate r substate events) := by
      rw [← hsubstate, ← ih, if_pos hnext, if_pos hnext]
      rfl
    cases hending : event.ending r with
    | some result =>
      rw [stage1Event_ending hending]
      simp only [runCounting, hending]
      cases result <;> rfl
    | none =>
      cases hfailure : event.failure with
      | none =>
        obtain ⟨hnext, hsubstate⟩ := stage1Event_quiet (w := w) hending hfailure
        simp only [runCounting, hending, hfailure]
        exact hon hnext hsubstate
      | some failure =>
        obtain ⟨hlast, hmore⟩ := stage1Event_failure (r := r) (w := w) hfailure
        cases hcount : nextSubstate w.ovpn.substate failure with
        | none =>
          rw [hlast hcount]
          simp only [runCounting, hending, hfailure, hcount]
          rfl
        | some substate =>
          obtain ⟨hnext, hsubstate⟩ := hmore substate hcount
          simp only [runCounting, hending, hfailure, hcount]
          exact hon hnext hsubstate

end

/-! ### Counting afresh -/

/-- The kind of failure that a substate has begun to count, with the number it still waits for. -/
def awaited : Substate → Option (Failure × Nat)
  | .unknown => none
  | .authFluke => some (.auth, 2)
  | .authBad => some (.auth, 1)
  | .timeoutFluke => some (.timeout, 2)
  | .timeout => some (.timeout, 1)

/-- The failures of a kind that are left in a tally. -/
def Tally.left (tally : Tally) : Failure → Nat
  | .auth => tally.auth
  | .timeout => tally.timeout

section Compare

variable {r : Lookup} {substate : Substate} {tally : Tally} {kind : Failure} {m : Nat}

theorem Failure.other_ne : kind.other ≠ kind := by
  cases kind <;> decide

theorem Failure.eq_or_eq_other (failure kind : Failure) :
    failure = kind ∨ failure = kind.other := by
  cases failure <;> cases kind <;> decide

theorem nextSubstate_other (h : awaited substate = some (kind, m)) :
    nextSubstate substate kind.other = some substate := by
  cases substate <;> cases h <;> rfl

theorem nextSubstate_last (h : awaited substate = some (kind, m)) (hm : m ≤ 1) :
    nextSubstate substate kind = none := by
  cases substate <;> cases h <;> first | rfl | omega

theorem nextSubstate_more (h : awaited substate = some (kind, m)) (hm : 1 < m) :
    ∃ substate', nextSubstate substate kind = some substate' ∧
      awaited substate' = some (kind, m - 1) := by
  cases substate <;> cases h <;> first | exact ⟨_, rfl, rfl⟩ | omega

theorem awaited_pos (h : awaited substate = some (kind, m)) : 0 < m := by
  cases substate <;> cases h <;> decide

theorem Tally.next_last (h : tally.left kind ≤ 1) : tally.next kind = none := by
  cases kind <;> exact if_pos h

theorem Tally.next_more (h : 1 < tally.left kind) :
    ∃ tally' : Tally, tally.next kind = some tally' ∧ tally'.left kind = tally.left kind - 1 ∧
      tally'.left kind.other = tally.left kind.other := by
  cases kind <;> exact ⟨_, if_neg (Nat.not_le.mpr h), rfl, rfl⟩

theorem other_other : kind.other.other = kind := by
  cases kind <;> rfl

theorem map_succ_inj {a b : Nat × Option HandlerError} :
    Prod.map Nat.succ id a = Prod.map Nat.succ id b ↔ a = b :=
  (Nat.succ_injective.prodMap Function.injective_id).eq_iff

/-- A run that handles no event has waited until the context was done. -/
theorem result_of_handled_zero {κ : Type} {next : κ → Failure → Option κ} {count : κ}
    {events : List Event} (h : (runCounting next r count events).1 = 0) :
    (runCounting next r count events).2 = some .context := by
  cases events with
  | nil => rfl
  | cons event events => grind [runCounting]

/-- A run that ends with this failure is not one that goes on. -/
theorem last_ne_more {κ : Type} {next : κ → Failure → Option κ} {count : κ} {events : List Event}
    {failure : Failure} :
    (1, some failure.error) ≠ Prod.map Nat.succ id (runCounting next r count events) := by
  intro h
  have hzero := result_of_handled_zero (Nat.succ.inj (congrArg Prod.fst h)).symm
  have herror := (congrArg Prod.snd h).trans hzero
  cases failure <;> cases herror

/-- The failure at which the counting ends, with the number of those before it. -/
def lastFailure {κ : Type} (next : κ → Failure → Option κ) :
    κ → List Failure → Option (Nat × Failure)
  | _, [] => none
  | count, failure :: rest =>
    match next count failure with
    | none => some (0, failure)
    | some count => (lastFailure next count rest).map (Prod.map Nat.succ id)

section

variable {κ : Type} {next : κ → Failure → Option κ} {count count' : κ} {failure : Failure}
  {rest : List Failure}

theorem lastFailure_last (h : next count failure = none) :
    lastFailure next count (failure :: rest) = some (0, failure) := by
  rw [lastFailure]
  simp only [h]

theorem lastFailure_more (h : next count failure = some count') :
    lastFailure next count (failure :: rest) =
      (lastFailure next count' rest).map (Prod.map Nat.succ id) := by
  rw [lastFailure]
  simp only [h]

end

theorem map_lastFailure_inj {a b : Option (Nat × Failure)} :
    a.map (Prod.map Nat.succ id) = b.map (Prod.map Nat.succ id) ↔ a = b :=
  (Option.map_injective (Nat.succ_injective.prodMap Function.injective_id)).eq_iff

theorem first_ne_later {failure : Failure} {a : Option (Nat × Failure)} :
    some (0, failure) ≠ a.map (Prod.map Nat.succ id) := by
  intro h
  cases a with
  | none => cases h
  | some last => cases h

/-- Two ways of counting end a run alike exactly if they end at the same failure, or at none. -/
theorem runCounting_eq_iff {κ κ' : Type} {next : κ → Failure → Option κ}
    {next' : κ' → Failure → Option κ'} (count : κ) (count' : κ') (events : List Event) :
    runCounting next r count events = runCounting next' r count' events ↔
      lastFailure next count (failures r events) = lastFailure next' count'
        (failures r events) := by
  induction events generalizing count count' with
  | nil => exact iff_of_true rfl rfl
  | cons event events ih =>
    cases hending : event.ending r with
    | some result => simp [runCounting, failures, hending, lastFailure]
    | none =>
      cases hfailure : event.failure with
      | none =>
        simp only [runCounting, failures, hending, hfailure, map_succ_inj]
        exact ih count count'
      | some failure =>
        simp only [runCounting, failures, hending, hfailure, Option.isSome_none, Bool.false_eq_true,
          if_false, Option.toList_some, List.singleton_append, lastFailure]
        cases next count failure <;> cases next' count' failure
        · exact iff_of_true rfl rfl
        · exact iff_of_false last_ne_more first_ne_later
        · exact iff_of_false last_ne_more.symm first_ne_later.symm
        · rw [map_succ_inj, map_lastFailure_inj]
          exact ih _ _

variable {d j : Nat} {fs : List Failure}

/-- In no beginning of the list are `j` failures of the other kind used up before `m` of the kind
are, and where the tally has `d` more of the kind left, neither are used up. -/
def EndAlike (kind : Failure) (m d j : Nat) (fs : List Failure) : Prop :=
  ∀ n, ((fs.take n).count kind.other = j → d = 0 ∧ m ≤ (fs.take n).count kind) ∧
    ((fs.take n).count kind = m → d = 0)

theorem endAlike_kind (hm : 0 < m) (hj : 0 < j) :
    EndAlike kind m d j (kind :: fs) ↔ EndAlike kind (m - 1) d j fs := by
  refine Nat.and_forall_add_one.symm.trans ?_
  simp only [List.take_zero, List.count_nil, List.take_succ_cons, List.count_cons_self,
    List.count_cons_of_ne Failure.other_ne.symm]
  refine (and_iff_right (by omega)).trans (forall_congr' fun n => ?_)
  omega

theorem endAlike_other (hm : 0 < m) (hj : 0 < j) :
    EndAlike kind m d j (kind.other :: fs) ↔ EndAlike kind m d (j - 1) fs := by
  refine Nat.and_forall_add_one.symm.trans ?_
  simp only [List.take_zero, List.count_nil, List.take_succ_cons, List.count_cons_self,
    List.count_cons_of_ne Failure.other_ne]
  refine (and_iff_right (by omega)).trans (forall_congr' fun n => ?_)
  omega

theorem endAlike_ahead (hm : 0 < m) (hd : 0 < d) (hj : 0 < j) :
    EndAlike kind m d j fs ↔ fs.count kind < m ∧ fs.count kind.other < j := by
  induction fs generalizing m j with
  | nil => simp [EndAlike, hm.ne, hj.ne, hm, hj]
  | cons failure fs ih =>
    rcases failure.eq_or_eq_other kind with rfl | rfl
    · rw [endAlike_kind hm hj, List.count_cons_self, List.count_cons_of_ne Failure.other_ne.symm]
      rcases Nat.lt_or_ge 1 m with hlt | hle
      · rw [ih (by omega) hj]
        omega
      · exact iff_of_false (fun h => hd.ne' ((h 0).2 (by simp; omega))) (by omega)
    · rw [endAlike_other hm hj, List.count_cons_self, List.count_cons_of_ne Failure.other_ne]
      rcases Nat.lt_or_ge 1 j with hlt | hle
      · rw [ih hm (by omega)]
        omega
      · exact iff_of_false (fun h => hd.ne' ((h 0).1 (by simp; omega)).1) (by omega)

/-- A substate that has begun to count a kind, of which the tally has `d` more left. -/
theorem lastFailure_alike (hawaited : awaited substate = some (kind, m))
    (hkind : tally.left kind = m + d) (hother : tally.left kind.other = j) (hj : 0 < j) :
    lastFailure nextSubstate substate fs = lastFailure Tally.next tally fs ↔
      EndAlike kind m d j fs := by
  have hpos := awaited_pos hawaited
  induction fs generalizing substate tally m j with
  | nil => exact iff_of_true rfl fun n => by simp [hpos.ne, hj.ne]
  | cons failure fs ih =>
    rcases failure.eq_or_eq_other kind with rfl | rfl
    · rw [endAlike_kind hpos hj]
      rcases Nat.lt_or_ge 1 m with hm | hm
      · obtain ⟨substate', hnext, hawaited'⟩ := nextSubstate_more hawaited hm
        obtain ⟨tally', htally, hkind', hother'⟩ :=
          Tally.next_more (show 1 < tally.left failure by omega)
        rw [lastFailure_more hnext, lastFailure_more htally, map_lastFailure_inj]
        exact ih hawaited' (by omega) (hother'.trans hother) hj (by omega)
      · rw [lastFailure_last (nextSubstate_last hawaited hm)]
        rcases Nat.eq_zero_or_pos d with rfl | hd
        · rw [lastFailure_last (Tally.next_last (by omega))]
          exact iff_of_true rfl fun n => by omega
        · obtain ⟨tally', htally, _⟩ :=
          Tally.next_more (show 1 < tally.left failure by omega)
          rw [lastFailure_more htally]
          exact iff_of_false first_ne_later fun h => hd.ne' ((h 0).2 (by simp; omega))
    · rw [endAlike_other hpos hj, lastFailure_more (nextSubstate_other hawaited)]
      rcases Nat.lt_or_ge 1 j with hlt | hle
      · obtain ⟨tally', htally, hother', hkind'⟩ := Tally.next_more (hother.symm ▸ hlt)
        rw [other_other] at hkind'
        rw [lastFailure_more htally, map_lastFailure_inj]
        exact ih hawaited (hkind'.trans hkind) (by omega) (by omega) hpos
      · rw [lastFailure_last (Tally.next_last (hother.symm ▸ hle))]
        refine iff_of_false first_ne_later.symm fun h => ?_
        have := ((h 0).1 (by simp; omega)).2
        simp at this
        omega

/-- When the run counts as if it were the first one: it begins without a count and the kind of
failure that comes first has its third before the other kind has, or it goes on with a count and
there are too few failures of either kind to end it. -/
def CountsAfresh : Substate → List Failure → Prop
  | .unknown, fs => ∀ first, fs.head? = some first →
      ∀ n, (fs.take n).count first.other = 3 → 3 ≤ (fs.take n).count first
  | .authFluke, fs => fs.count .auth < 2 ∧ fs.count .timeout < 3
  | .authBad, fs => fs.count .auth < 1 ∧ fs.count .timeout < 3
  | .timeoutFluke, fs => fs.count .timeout < 2 ∧ fs.count .auth < 3
  | .timeout, fs => fs.count .timeout < 1 ∧ fs.count .auth < 3

theorem lastFailure_eq_iff (substate : Substate) (fs : List Failure) :
    lastFailure nextSubstate substate fs = lastFailure Tally.next {} fs ↔
      CountsAfresh substate fs := by
  have hahead (kind : Failure) {m : Nat} (h : awaited substate = some (kind, m)) (hm : m < 3) :
      lastFailure nextSubstate substate fs = lastFailure Tally.next {} fs ↔
        fs.count kind < m ∧ fs.count kind.other < 3 := by
    have hleft (failure : Failure) : Tally.left {} failure = 3 := by
      cases failure <;> rfl
    rw [lastFailure_alike h (d := 3 - m) (by rw [hleft]; omega) (hleft kind.other) (by decide)]
    exact endAlike_ahead (awaited_pos h) (by omega) (by decide)
  cases substate with
  | unknown =>
    cases fs with
    | nil =>
      refine iff_of_true rfl ?_
      intro first hfirst
      cases hfirst
    | cons first fs =>
      have hhead : CountsAfresh .unknown (first :: fs) ↔
          EndAlike first 3 0 3 (first :: fs) := by
        simp [CountsAfresh, EndAlike]
      rw [hhead, endAlike_kind (by decide) (by decide)]
      obtain ⟨substate', hnext, hawaited⟩ : ∃ substate', nextSubstate .unknown first =
          some substate' ∧ awaited substate' = some (first, 2) := by
        cases first <;> exact ⟨_, rfl, rfl⟩
      obtain ⟨tally', htally, hkind, hother⟩ : ∃ tally' : Tally, Tally.next {} first = some tally' ∧
          tally'.left first = 2 ∧ tally'.left first.other = 3 := by
        cases first <;> exact ⟨_, rfl, rfl, rfl⟩
      rw [lastFailure_more hnext, lastFailure_more htally, map_lastFailure_inj]
      exact lastFailure_alike hawaited hkind hother (by decide)
  | authFluke => exact hahead .auth rfl (by decide)
  | authBad => exact hahead .auth rfl (by decide)
  | timeoutFluke => exact hahead .timeout rfl (by decide)
  | timeout => exact hahead .timeout rfl (by decide)

end Compare

/-- After any history, a run of the handler handles as many events and ends in the same way as one
that counts three failures of each kind from the start, exactly if it counts afresh. -/
theorem retries_counted_afresh_iff (r : Lookup) (w : World) (events : List Event) :
    (stage1Handled r w events, (stage1Handler r w events).2) = runCounting Tally.next r {} events ↔
      CountsAfresh w.ovpn.substate (failures r events) := by
  rw [stage1_eq_runCounting, runCounting_eq_iff, lastFailure_eq_iff]

/-- A reconnection with this description. -/
def reconnecting (description : String) : Event := .state "RECONNECTING" description ""

/-- One authentication failure before the first connection: the next connection ends at its second
one. Three timeouts after an authentication failure do not end a connection at all. -/
theorem failures_of_earlier_connection :
    let r : Lookup := { parseAddr := fun _ => some .invalid, find := fun _ => some {} }
    let w := (stage1Handler r {} [reconnecting "auth-failure", .state "CONNECTED" "" ""]).1
    let auth := reconnecting "auth-failure"
    let timeout := reconnecting "server_poll"
    (stage1Handler r w [auth, auth]).2 = some .accountExpired ∧
      (stage1Handler r {} [auth, timeout, timeout, timeout]).2 = some .context := by
  decide

end NordVPN.OpenVPN
