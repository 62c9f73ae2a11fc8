import NordVPN.Daemon.Balance

/-!
Auto-connect (`autoconnectServer` and `StartAutoConnect` of `daemon/jobs.go`).

`StartAutoConnect` calls `Connect` with a stream of its own until it succeeds. Most failures of
`Connect` are payloads and not errors, and of the payloads the stream knows one.
-/

namespace NordVPN.Daemon

open NordVPN.Netip NordVPN.Networker NordVPN.Servers Prog

/-- `internal.CodeFailure`. -/
def codeFailure : Nat := 3000

/-- The payloads that `autoconnectServer.Send` takes for a failure. -/
def Reply.isFailure : Reply → Bool
  | .failure => true
  | .selection code => code == codeFailure
  | _ => false

/-- One turn of the loop: how everything around the daemon behaves, and what else happens to the
daemon while the loop waits for it. -/
structure Attempt where
  env : DaemonEnv
  /-- `cm.Load` of `StartAutoConnect` itself succeeds -/
  loads : Bool := true
  /-- another connect is being executed, so that `TryExecuteWith` refuses this one -/
  busy : Bool := false
  meanwhile : Rpc → Rpc := id

/-- The request `Connect`. -/
def Attempt.connect (a : Attempt) : RpcM (List Reply) :=
  if a.busy then pure [.nothingToDo] else Daemon.connect

/-- How a turn ends, and the loop if it is left: with `nil`, or with the error of `cm.Load`. -/
inductive AutoConnect where
  | returnsNil | returnsError | retries
deriving DecidableEq, Repr

/-- `netw.IsVPNActive`. -/
def Attempt.isVPNActive (a : Attempt) (s : Rpc) : Outcome Rpc Error Bool :=
  onNetw isConnectedToVPN a.env s

def Attempt.turn (a : Attempt) (s : Rpc) : AutoConnect × Rpc :=
  let active := a.isVPNActive s
  if active.result = .ok true then (.returnsNil, active.final)
  else if !a.loads then (.returnsError, active.final)
  else
    let connected := a.connect a.env active.final
    match connected.result with
    | .ok payloads =>
      (if payloads.any Reply.isFailure then .retries else .returnsNil, connected.final)
    | .error _ => (.retries, connected.final)

/-- `StartAutoConnect` over the given attempts; it still retries when they are used up. -/
def startAutoConnect : List Attempt → Rpc → AutoConnect
  | [], _ => .retries
  | a :: rest, s =>
    match a.turn (a.meanwhile s) with
    | (.retries, t) => startAutoConnect rest t
    | (outcome, _) => outcome

/-- The attempts that `StartAutoConnect` makes, each with the daemon as it finds it. -/
def attemptsMade : List Attempt → Rpc → List (Attempt × Rpc)
  | [], _ => []
  | a :: rest, s => (a, a.meanwhile s) ::
    match a.turn (a.meanwhile s) with
    | (.retries, t) => attemptsMade rest t
    | _ => []

/-! ### What `connect` reports -/

/-- What `netw.Start` returns to `connect` once a server is chosen, if it gets that far. -/
def startFor (r : DaemonEnv) (s : Rpc) (cfg : Config) (server : Server) :
    Option (Except Error Unit) :=
  let endpoint : Option Endpoint := if cfg.ipv6 then some (defaultEndpoint r.resolves server.ips)
    else server.ipv4.map newIPv4Endpoint
  let permitted := when cfg.ipv6 (ignore (onNetw Api.permitIPv6)) r s
  endpoint.bind fun e => e.ip.map fun ip =>
    (Api.start cfg.credentials { ip, hostname := server.hostname } cfg.allowlist
      (connectNameservers s cfg server) true r.netw permitted.final.netw).result

section Connect

variable {r : DaemonEnv} {s : Rpc} {cfg : Config} {server : Server}

/-- What `connect` reports of the start of the networker. -/
def startReport (r : DaemonEnv) : Except Error Unit → List Reply
  | .ok _ => [.connecting, .connected]
  | .error _ => [.connecting, if r.canceled then .disconnected else .failure]

theorem result_connectTo {ip : Addr} :
    (connectTo cfg server ip r s).result =
      .ok (startReport r
        (Api.start cfg.credentials { ip, hostname := server.hostname } cfg.allowlist
        (connectNameservers s cfg server) true r.netw s.netw).result) := by
  suffices h : wp (connectTo cfg server ip) r any (fun x _ => x = .ok (startReport r
      (Api.start cfg.credentials { ip, hostname := server.hostname } cfg.allowlist
        (connectNameservers s cfg server) true r.netw s.netw).result)) s from h.2
  apply wp_connectTo
  refine ⟨fun _ _ => trivial, ?_⟩
  cases (Api.start cfg.credentials { ip, hostname := server.hostname } cfg.allowlist
    (connectNameservers s cfg server) true r.netw s.netw).result with
  | error e => rfl
  | ok u => exact wp_when.mpr ⟨fun _ => ⟨fun _ _ => trivial, rfl⟩, fun _ => rfl⟩

theorem result_connectServer :
    (connectServer cfg server r s).result =
      match startFor r s cfg server with
      | none => .error errUnhandled
      | some x => .ok (startReport r x) := by
  suffices h : wp (connectServer cfg server) r any (fun x _ => x =
      match startFor r s cfg server with
      | none => .error errUnhandled
      | some x => .ok (startReport r x)) s from h.2
  have hpermitted : (when cfg.ipv6 (ignore (onNetw Api.permitIPv6)) r s).result = .ok () := by
    cases cfg.ipv6 <;> rfl
  have hnameservers : (when cfg.ipv6 (ignore (onNetw Api.permitIPv6)) r s).final.nameservers =
      s.nameservers := by
    cases cfg.ipv6 <;> rfl
  refine wp_env_bind.mpr ?_
  unfold startFor
  generalize (if cfg.ipv6 then some (defaultEndpoint r.resolves server.ips)
    else server.ipv4.map newIPv4Endpoint) = endpoint
  refine wp_seq (P := fun x t => x = .ok () ∧
    t = (when cfg.ipv6 (ignore (onNetw Api.permitIPv6)) r s).final)
    ⟨fun _ _ => trivial, hpermitted, rfl⟩ ?_ ?_
  · rintro _ _ ⟨-, rfl⟩
    cases endpoint with
    | none => exact wp_fail.mpr rfl
    | some endpoint =>
      refine wp_update_bind.mpr ⟨trivial, ?_⟩
      cases hip : endpoint.ip with
      | none => exact wp_fail.mpr (by simp [hip])
      | some ip =>
        refine ⟨fun _ _ => trivial, result_connectTo.trans ?_⟩
        simp [hip, connectNameservers, hnameservers]
  · rintro e _ ⟨he, -⟩
    cases he

/-- The settings that `connect` works with; an error of `cm.Load` is only logged. -/
def loadedConfig (r : DaemonEnv) (s : Rpc) : Config := if r.loads then s.cfg else newConfig

/-- What `connect` reports: an error, or the payloads that it has sent. -/
def connectReport (r : DaemonEnv) (s : Rpc) : Except Error (List Reply) :=
  if r.isLoggedIn then
    match r.isVPNExpired with
    | none => .ok [.tokenRenewError]
    | some true => .ok [.accountExpired]
    | some false =>
      match r.selectServer (loadedConfig r s) with
      | .error (.code code) => .ok [.selection code]
      | .error (.error e) => .error e
      | .ok server =>
        match startFor r s (loadedConfig r s) server with
        | none => .error errUnhandled
        | some x => .ok (startReport r x)
  else .error errNotLoggedIn

theorem result_connect : (connect r s).result = connectReport r s := by
  suffices h : wp connect r any (fun x _ => x = connectReport r s) s from h.2
  unfold connectReport
  refine wp_env_bind.mpr ?_
  refine wp_ite.mpr ⟨fun hlogged => wp_fail.mpr ?_, fun hlogged => ?_⟩
  · have hlogged : r.isLoggedIn = false := by simpa using hlogged
    simp [hlogged]
  · have hlogged : r.isLoggedIn = true := by simpa using hlogged
    simp only [hlogged, if_true]
    cases r.isVPNExpired with
    | none => exact wp_pure.mpr rfl
    | some expired =>
      cases expired with
      | true => exact wp_pure.mpr rfl
      | false =>
        refine wp_bind.mpr (wp_load.mpr ?_)
        rw [onOk_ok]
        change wp (match r.selectServer (loadedConfig r s) with
          | .error (.code code) => pure [.selection code]
          | .error (.error e) => fail e
          | .ok server => connectServer (loadedConfig r s) server) r _ _ s
        split
        · exact wp_pure.mpr rfl
        · exact wp_fail.mpr rfl
        · exact ⟨fun _ _ => trivial, result_connectServer⟩

end Connect

/-! ### The attempts -/

/-- What `netw.Start` returns in a `Connect`, if it is called. -/
def Attempt.starts (a : Attempt) (s : Rpc) : Option (Except Error Unit) :=
  if a.busy || !a.env.isLoggedIn || a.env.isVPNExpired ≠ some false then none
  else match a.env.selectServer (loadedConfig a.env s) with
    | .ok server => startFor a.env s (loadedConfig a.env s) server
    | .error _ => none

/-- `Connect` ends without a connection, without an error and without the one payload that counts as
a failure: another connect is being executed, the subscription could not be checked or has
expired, no server could be chosen, or the connect was cancelled. -/
def Attempt.FailsQuietly (a : Attempt) (s : Rpc) : Prop :=
  a.busy = true ∨
  (a.env.isLoggedIn = true ∧ a.env.isVPNExpired ≠ some false) ∨
  (a.env.isLoggedIn = true ∧ a.env.isVPNExpired = some false ∧
    ∃ code, a.env.selectServer (loadedConfig a.env s) = .error (.code code) ∧ code ≠ codeFailure) ∨
  (a.env.canceled = true ∧ ∃ e, a.starts s = some (.error e))

section Attempts

variable {a : Attempt} {s : Rpc}

/-- `Connect` counts as a success if the networker has started or the attempt fails quietly. -/
theorem connect_counts_iff :
    (∃ payloads, (a.connect a.env s).result = .ok payloads ∧ payloads.any Reply.isFailure = false) ↔
      a.starts s = some (.ok ()) ∨ a.FailsQuietly s := by
  unfold Attempt.connect Attempt.FailsQuietly Attempt.starts
  cases hbusy : a.busy with
  | true => exact iff_of_true ⟨[.nothingToDo], rfl, rfl⟩ (.inr (.inl rfl))
  | false =>
    simp only [Bool.false_eq_true, if_false, result_connect, connectReport]
    cases hlogged : a.env.isLoggedIn with
    | false => simp
    | true =>
      cases hexpired : a.env.isVPNExpired with
      | none => simp [Reply.isFailure]
      | some expired =>
        cases expired with
        | true => simp [Reply.isFailure]
        | false =>
          cases hselect : a.env.selectServer (loadedConfig a.env s) with
          | error e =>
            cases e with
            | code code => simp [Reply.isFailure]
            | error e => simp
          | ok server =>
            cases hstart : startFor a.env s (loadedConfig a.env s) server with
            | none => simp [hstart]
            | some x =>
              cases x with
              | ok => simp [hstart, startReport, Reply.isFailure]
              | error e =>
                cases hcanceled : a.env.canceled <;>
                  simp [hstart, startReport, Reply.isFailure, hcanceled]

/-- The VPN was active before the attempt, or `netw.Start` has returned `nil` in it. -/
def Attempt.Connected (a : Attempt) (s : Rpc) : Prop :=
  (a.isVPNActive s).result = .ok true ∨ a.starts (a.isVPNActive s).final = some (.ok ())

/-- The attempt is made with no VPN active and fails quietly. -/
def Attempt.Misleads (a : Attempt) (s : Rpc) : Prop :=
  (a.isVPNActive s).result ≠ .ok true ∧ a.loads = true ∧
    a.FailsQuietly (a.isVPNActive s).final

theorem turn_returnsNil_iff : (a.turn s).1 = .returnsNil ↔
    (a.isVPNActive s).result = .ok true ∨ (a.loads = true ∧
      (a.starts (a.isVPNActive s).final = some (.ok ()) ∨
        a.FailsQuietly (a.isVPNActive s).final)) := by
  rw [← connect_counts_iff]
  unfold Attempt.turn
  by_cases hactive : (a.isVPNActive s).result = .ok true
  · simp [hactive]
  · cases hloads : a.loads with
    | false => simp [hactive]
    | true =>
      simp only [hactive, if_false, Bool.not_true, Bool.false_eq_true, false_or, true_and]
      cases (a.connect a.env (a.isVPNActive s).final).result with
      | error e => simp
      | ok payloads =>
        constructor
        · intro h
          refine ⟨payloads, rfl, ?_⟩
          by_contra hany
          rw [Bool.not_eq_false] at hany
          simp only [hany, if_true] at h
          cases h
        · rintro ⟨_, ⟨⟩, hany⟩
          simp [hany]

theorem loads_of_returnsError (h : (a.turn s).1 = .returnsError) : a.loads = false := by
  by_contra hloads
  unfold Attempt.turn at h
  rw [Bool.not_eq_false] at hloads
  simp only [hloads, Bool.not_true, Bool.false_eq_true, if_false] at h
  split at h
  · cases h
  · split at h
    · split at h <;> cases h
    · cases h

theorem Attempt.FailsQuietly.starts_ne (h : a.FailsQuietly s) : a.starts s ≠ some (.ok ()) := by
  rcases h with hbusy | ⟨-, hexpired⟩ | ⟨-, -, code, hselect, -⟩ | ⟨-, e, hstarts⟩
  · simp [Attempt.starts, hbusy]
  · simp [Attempt.starts, hexpired]
  · simp [Attempt.starts, hselect]
  · simp [hstarts]

/-- An attempt that fails quietly is taken for a success, and is none. -/
theorem Attempt.Misleads.returnsNil (h : a.Misleads s) :
    (a.turn s).1 = .returnsNil ∧ ¬ a.Connected s := by
  obtain ⟨hactive, hloads, hquiet⟩ := h
  constructor
  · exact turn_returnsNil_iff.2 (.inr ⟨hloads, .inr hquiet⟩)
  · rintro (hactive' | hstarts)
    · exact hactive hactive'
    · exact hquiet.starts_ne hstarts

/-- The loop is left in the attempt that was made last. -/
theorem getLast_attemptsMade {attempts : List Attempt} {outcome : AutoConnect}
    (h : startAutoConnect attempts s = outcome) (hleft : outcome ≠ .retries) :
    ∃ a t, (attemptsMade attempts s).getLast? = some (a, t) ∧ (a.turn t).1 = outcome := by
  induction attempts generalizing s with
  | nil => exact absurd h.symm hleft
  | cons a rest ih =>
    unfold startAutoConnect at h
    unfold attemptsMade
    split at h
    · next t hturn =>
      obtain ⟨b, u, hlast, hb⟩ := ih h
      refine ⟨b, u, ?_, hb⟩
      rw [hturn, List.getLast?_cons, hlast]
      rfl
    · next x t hx hturn =>
      subst h
      refine ⟨a, a.meanwhile s, ?_, by rw [hturn]⟩
      cases x with
      | retries => exact absurd rfl hleft
      | returnsNil | returnsError => rw [hturn]; rfl

/-- An attempt that returns is the last one. -/
theorem getLast_of_mem {attempts : List Attempt} {p : Attempt × Rpc}
    (hmem : p ∈ attemptsMade attempts s) (hleft : (p.1.turn p.2).1 ≠ .retries) :
    (attemptsMade attempts s).getLast? = some p ∧
      startAutoConnect attempts s = (p.1.turn p.2).1 := by
  induction attempts generalizing s with
  | nil => cases hmem
  | cons a rest ih =>
    unfold attemptsMade at hmem ⊢
    unfold startAutoConnect
    rcases hturn : a.turn (a.meanwhile s) with ⟨outcome, t⟩
    rw [hturn] at hmem
    cases outcome with
    | retries =>
      rcases List.mem_cons.1 hmem with rfl | hrest
      · exact absurd (congrArg Prod.fst hturn) hleft
      · obtain ⟨hlast, hstart⟩ := ih hrest
        exact ⟨by rw [List.getLast?_cons, hlast]; rfl, hstart⟩
    | returnsNil | returnsError =>
      obtain rfl := List.mem_singleton.1 hmem
      exact ⟨rfl, by rw [hturn]⟩

end Attempts

/-- Auto-connect stops only when connected, and otherwise goes on or returns the error of the
settings, unless one of its attempts fails with anything but an error or `CodeFailure`. -/
theorem auto_connect_stops_connected_iff (attempts : List Attempt) (s : Rpc) :
    ((startAutoConnect attempts s = .returnsNil →
        ∃ a t, (attemptsMade attempts s).getLast? = some (a, t) ∧ a.Connected t) ∧
      (startAutoConnect attempts s = .returnsError →
        ∃ a t, (attemptsMade attempts s).getLast? = some (a, t) ∧ a.loads = false)) ↔
      ∀ p ∈ attemptsMade attempts s, ¬ p.1.Misleads p.2 := by
  constructor
  · rintro ⟨hnil, -⟩ p hp hmisleads
    obtain ⟨hreturns, hnot⟩ := hmisleads.returnsNil
    obtain ⟨hlast, hstart⟩ := getLast_of_mem hp (by simp [hreturns])
    obtain ⟨a, t, hlast', hconnected⟩ := hnil (hstart.trans hreturns)
    rw [hlast] at hlast'
    cases hlast'
    exact hnot hconnected
  · intro hall
    constructor
    · intro hnil
      obtain ⟨a, t, hlast, hturn⟩ := getLast_attemptsMade hnil (by simp)
      refine ⟨a, t, hlast, ?_⟩
      have hnot := hall (a, t) (List.mem_of_getLast? hlast)
      rcases turn_returnsNil_iff.1 hturn with hactive | ⟨hloads, hstarts | hquiet⟩
      · exact .inl hactive
      · exact .inr hstarts
      · by_cases hactive : (a.isVPNActive t).result = .ok true
        · exact .inl hactive
        · exact absurd ⟨hactive, hloads, hquiet⟩ hnot
    · intro herror
      obtain ⟨a, t, hlast, hturn⟩ := getLast_attemptsMade herror (by simp)
      exact ⟨a, t, hlast, loads_of_returnsError hturn⟩

/-- The subscription has expired. -/
def expiredAttempt : Attempt := { env := { DaemonEnv.working {} with isVPNExpired := some true } }

/-- Auto-connect takes the refusal for a connection and stops. -/
theorem auto_connect_stops_on_expired_account :
    startAutoConnect [expiredAttempt] (.startUp newConfig 0) = .returnsNil ∧
      (expiredAttempt.isVPNActive (.startUp newConfig 0)).result = .ok false ∧
      expiredAttempt.starts (expiredAttempt.isVPNActive (.startUp newConfig 0)).final = none :=
  ⟨rfl, rfl, rfl⟩

end NordVPN.Daemon
