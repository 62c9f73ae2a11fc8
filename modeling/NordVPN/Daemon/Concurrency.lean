import NordVPN.Daemon.Consistency
import NordVPN.Daemon.Ports
import NordVPN.Lib.LastWriter

/-!
Settings requests that run at the same time.

The atomic steps of a request are the load of the settings, each call on the networker and
`SaveWith`. `SaveWith` changes the settings that are stored when it runs, but some handlers write
values into them that they loaded before. An update is lost if another request changes such a value
in between.
-/

namespace NordVPN.Daemon

open NordVPN.Netip NordVPN.Networker Prog

/-! ### Fields -/

/-- The fields of the settings; every allowlisted subnet and port is one. `rest` stands for the
fields that none of the requests writes. -/
inductive Field where
  | technology | autoConnect | lanDiscovery
  | id | serverTag | country | city | group
  | protocol | threatProtectionLite | obfuscate | dns | postquantumVpn
  | subnet (s : String) | tcpPort (p : Int) | udpPort (p : Int)
  | rest

namespace Field

/-- The values of a field. -/
def Val : Field → Type
  | technology => Technology
  | autoConnect | lanDiscovery | threatProtectionLite | obfuscate | postquantumVpn => Bool
  | id => Int
  | serverTag | country | city => String
  | group => ServerGroup
  | protocol => Protocol
  | dns => List String
  | subnet _ | tcpPort _ | udpPort _ => Bool
  | rest => (Bool × Bool × Bool × Bool × Bool × Bool) × String × Addr × List (Int × Credentials)

def get : (f : Field) → Config → f.Val
  | technology, c => c.technology
  | autoConnect, c => c.autoConnect
  | lanDiscovery, c => c.lanDiscovery
  | id, c => c.autoConnectData.id
  | serverTag, c => c.autoConnectData.serverTag
  | country, c => c.autoConnectData.country
  | city, c => c.autoConnectData.city
  | group, c => c.autoConnectData.group
  | protocol, c => c.autoConnectData.protocol
  | threatProtectionLite, c => c.autoConnectData.threatProtectionLite
  | obfuscate, c => c.autoConnectData.obfuscate
  | dns, c => c.autoConnectData.dns
  | postquantumVpn, c => c.autoConnectData.postquantumVpn
  | subnet s, c => decide (s ∈ c.allowlist.subnets)
  | tcpPort p, c => decide (p ∈ c.allowlist.ports.tcp)
  | udpPort p, c => decide (p ∈ c.allowlist.ports.udp)
  | rest, c => ((c.firewall, c.routing, c.mesh, c.killSwitch, c.ipv6, c.virtualLocation),
      c.meshPrivateKey, c.meshDevice, c.tokensData)

end Field

instance (startPort endPort port : Int) : Decidable (Asked startPort endPort port) :=
  inferInstanceAs (Decidable (if endPort = 0 then port = startPort
    else startPort ≤ port ∧ port ≤ endPort))

/-- The fields that an allowlist request is asked to change. -/
def AllowlistRequest.asks : AllowlistRequest → Field → Bool
  | .subnet s, .subnet s' => s == s'
  | .ports _ isTcp startPort endPort, .tcpPort p => isTcp && Asked startPort endPort p
  | .ports isUdp _ startPort endPort, .udpPort p => isUdp && Asked startPort endPort p
  | _, _ => false

namespace Request

/-- The requests that are looked at. -/
def isConcurrent : Request → Bool
  | .setAutoConnect _ _ | .setAllowlist _ | .unsetAllowlist _ | .setLANDiscovery _ | .setDNS _
  | .setThreatProtectionLite _ | .setProtocol _ | .setObfuscate _ | .setTechnology _
  | .setPostQuantum _ => true
  | _ => false

/-- The fields that a request is asked to change, and those that it resets with them: NordLynx
resets the protocol and obfuscation, nameservers reset threat protection, threat protection resets
the nameservers, and LAN discovery the local subnets. -/
def asks : Request → Field → Bool
  | .setTechnology _, .technology => true
  | .setTechnology technology, .protocol | .setTechnology technology, .obfuscate =>
    technology == .nordlynx
  | .setProtocol _, .protocol => true
  | .setObfuscate _, .obfuscate => true
  | .setPostQuantum _, .postquantumVpn => true
  | .setDNS _, .dns => true
  | .setDNS dns, .threatProtectionLite => !dns.isEmpty
  | .setThreatProtectionLite _, .threatProtectionLite => true
  | .setThreatProtectionLite enabled, .dns => enabled
  | .setLANDiscovery _, .lanDiscovery => true
  | .setLANDiscovery enabled, .subnet s => enabled && !keepsUnderDiscovery s
  | .setAllowlist request, f | .unsetAllowlist request, f => request.asks f
  | .setAutoConnect _ _, .autoConnect => true
  | .setAutoConnect enabled _, .serverTag | .setAutoConnect enabled _, .country
  | .setAutoConnect enabled _, .city | .setAutoConnect enabled _, .group => enabled
  | _, _ => false

/-- The fields into which a request writes what it loaded. -/
def rewrites : Request → Field → Bool
  | .setTechnology _, .protocol | .setTechnology _, .obfuscate => true
  | .setDNS _, .threatProtectionLite => true
  | .setLANDiscovery _, .subnet _ => true
  | .setAllowlist _, .subnet _ | .setAllowlist _, .tcpPort _ | .setAllowlist _, .udpPort _
  | .unsetAllowlist _, .subnet _ | .unsetAllowlist _, .tcpPort _
  | .unsetAllowlist _, .udpPort _ => true
  | .setAutoConnect enabled _, .id | .setAutoConnect enabled _, .protocol
  | .setAutoConnect enabled _, .threatProtectionLite | .setAutoConnect enabled _, .obfuscate
  | .setAutoConnect enabled _, .dns | .setAutoConnect enabled _, .postquantumVpn
  | .setAutoConnect enabled _, .subnet _ | .setAutoConnect enabled _, .tcpPort _
  | .setAutoConnect enabled _, .udpPort _ => enabled
  | _, _ => false

/-- The fields that the request writes back without having been asked to change them are stored as
it loaded them. Threat protection that is switched off resets the nameservers too, so there are
none. -/
def Fresh (request : Request) (loaded current : Config) : Prop :=
  (∀ f, request.rewrites f = true → request.asks f = false → f.get current = f.get loaded) ∧
  (request = .setThreatProtectionLite false → current.autoConnectData.dns = [])

end Request

/-! ### Interleavings -/

/-- How far a request has come. -/
inductive Phase where
  | waiting
  /-- the settings are loaded, and these calls are left before they are saved -/
  | calling (loaded : Config) (plan : Plan) (calls : List NetwCall)
  /-- the settings are saved -/
  | saved (plan : Plan) (calls : List Networker.Op)
  | hung
  | answered (reply : Reply)

/-- The settings that a request loaded which saves next. -/
def Phase.saving : Phase → Option Config
  | .calling loaded _ [] => some loaded
  | _ => none

/-- The daemon with its running requests, and the requests that saved settings, the latest first,
with the settings they left. -/
structure Shared (ι : Type) where
  rpc : Rpc
  phase : ι → Phase
  log : List (ι × Config)

/-- No request has begun. -/
def Shared.start (ι : Type) (rpc : Rpc) : Shared ι := { rpc, phase := fun _ => .waiting, log := [] }

/-- The load of the settings, with the decision on them. -/
def Request.begin (request : Request) (r : DaemonEnv) (s : Rpc) : Phase :=
  match if r.loads then none else request.loadError r with
  | some reply => .answered reply
  | none =>
    let cfg := if r.loads then s.cfg else newConfig
    match request.decide r s cfg with
    | .answer reply => .answered reply
    | .hang => .hung
    | .proceed plan => .calling cfg plan plan.before

section Interleavings

variable {ι : Type} [DecidableEq ι]

/-- The next atomic step of the request `i`. -/
def Shared.advance (requests : ι → Request) (s : Shared ι) (move : ι × DaemonEnv) : Shared ι :=
  let (i, r) := move
  let goTo (rpc : Rpc) (p : Phase) : Shared ι :=
    { s with rpc, phase := Function.update s.phase i p }
  match s.phase i with
  | .waiting => goTo s.rpc ((requests i).begin r s.rpc)
  | .calling loaded plan (c :: rest) =>
    let x := onNetw c.op.exec r s.rpc
    match x.result, c.onError with
    | .error e, some onError => goTo x.final (.answered (onError e))
    | _, _ => goTo x.final (.calling loaded plan rest)
  | .calling _ plan [] =>
    let x := saveWith plan.save r s.rpc
    match x.result with
    | .ok true => { goTo x.final (.saved plan plan.after) with log := (i, x.final.cfg) :: s.log }
    | _ => goTo x.final (.answered plan.saveError)
  | .saved plan (op :: rest) => goTo (onNetw op.exec r s.rpc).final (.saved plan rest)
  | .saved plan [] =>
    let x := answerDone plan.done r s.rpc
    match x.result with
    | .ok reply => goTo x.final (.answered reply)
    | .error _ => s
  | .hung | .answered _ => s

/-- The writes of the requests that saved settings. -/
def Shared.writes (requests : ι → Request) (s : Shared ι) : List (Write Config Field) :=
  s.log.map fun (i, c) => ⟨(requests i).asks, c⟩

end Interleavings

/-! ### What the handlers write -/

/-- The request is answered with success. -/
def Done.Succeeds : Done → Prop
  | .reply answer => answer.isSuccess = true
  | .byActive answer => ∀ active, (answer active).isSuccess = true

/-- A plan of the request that was made on the settings `loaded`. -/
structure Plan.Follows (request : Request) (loaded : Config) (plan : Plan) : Prop where
  /-- what the request was not asked to change stays as it is stored -/
  keeps : ∀ c, request.Fresh loaded c → ∀ f, request.asks f = false → f.get (plan.save c) = f.get c
  /-- a call that ends the request does not end it with success -/
  refuses : ∀ call ∈ plan.before, ∀ onError, call.onError = some onError →
    ∀ e, (onError e).isSuccess = false
  saveError : plan.saveError.isSuccess = false
  done : plan.done.Succeeds

def Decision.Follows (request : Request) (loaded : Config) : Decision → Prop
  | .answer reply => reply.isSuccess = false
  | .hang => True
  | .proceed plan => plan.Follows request loaded

variable {request : Request}

theorem Decision.Follows.guard {loaded : Config} {c : Prop} [Decidable c] {reply : Reply}
    {d : Decision} (hreply : reply.isSuccess = false) (h : ¬c → d.Follows request loaded) :
    (if c then .answer reply else d).Follows request loaded := by
  split
  · exact hreply
  · exact h ‹_›

section Handlers

variable {r : DaemonEnv} {s : Rpc} {loaded : Config}

theorem follows_setTechnology {technology : Technology} :
    (setTechnology r technology loaded).Follows (.setTechnology technology) loaded := by
  unfold setTechnology
  refine .guard rfl fun _ => ?_
  split
  · exact rfl
  · refine .guard rfl fun _ => ⟨fun c hc f hf => ?_, fun _ h => (nomatch h), rfl, fun _ => rfl⟩
    have hother (h : Request.asks (.setTechnology technology) .protocol = false) :
        technology ≠ .nordlynx := by simpa [Request.asks] using h
    cases f with
    | technology => cases hf
    | protocol => exact (if_neg (hother hf)).trans (hc.1 .protocol rfl hf).symm
    | obfuscate => exact (if_neg (hother hf)).trans (hc.1 .obfuscate rfl hf).symm
    | _ => rfl

theorem follows_setProtocol {protocol : Protocol} :
    (setProtocol protocol loaded).Follows (.setProtocol protocol) loaded := by
  refine .guard rfl fun _ => .guard rfl fun _ =>
    ⟨fun c _ f hf => ?_, fun _ h => (nomatch h), rfl, ?_⟩
  · cases f with
    | protocol => cases hf
    | _ => rfl
  · intro active
    cases active <;> rfl

variable {enabled remove : Bool}

theorem follows_setObfuscate :
    (setObfuscate s enabled loaded).Follows (.setObfuscate enabled) loaded := by
  refine .guard rfl fun _ => .guard rfl fun _ => .guard rfl fun _ =>
    ⟨fun c _ f hf => ?_, fun _ h => (nomatch h), rfl, fun _ => rfl⟩
  cases f with
  | obfuscate => cases hf
  | _ => rfl

theorem follows_setPostQuantum :
    (setPostQuantum enabled loaded).Follows (.setPostQuantum enabled) loaded := by
  refine .guard rfl fun _ => .guard rfl fun _ => .guard rfl fun _ =>
    ⟨fun c _ f hf => ?_, fun _ h => (nomatch h), rfl, rfl⟩
  cases f with
  | postquantumVpn => cases hf
  | _ => rfl

theorem follows_setDNS {dns : List String} :
    (setDNS s dns loaded).Follows (.setDNS dns) loaded := by
  refine .guard rfl fun _ => .guard rfl fun _ => .guard rfl fun _ =>
    ⟨fun c hc f hf => ?_, ?_, rfl, ?_⟩
  · cases f with
    | dns => cases hf
    | threatProtectionLite =>
      have hnil : dns = [] := by simpa [Request.asks] using hf
      subst hnil
      exact (Bool.and_true _).trans (hc.1 .threatProtectionLite rfl rfl).symm
    | _ => rfl
  · refine List.forall_mem_singleton.mpr ?_
    rintro _ ⟨⟩ _
    rfl
  · dsimp only
    split <;> rfl

theorem follows_setThreatProtectionLite :
    (setThreatProtectionLite s enabled loaded).Follows
      (.setThreatProtectionLite enabled) loaded := by
  refine .guard rfl fun _ => ⟨fun c hc f hf => ?_, ?_, rfl, ?_⟩
  · cases f with
    | threatProtectionLite => cases hf
    | dns =>
      obtain rfl : enabled = false := hf
      exact (hc.2 rfl).symm
    | _ => rfl
  · refine List.forall_mem_singleton.mpr ?_
    rintro _ ⟨⟩ _
    rfl
  · dsimp only
    split <;> rfl

theorem follows_setLANDiscovery :
    (setLANDiscovery enabled loaded).Follows (.setLANDiscovery enabled) loaded := by
  refine .guard rfl fun _ => ⟨fun c hc f hf => ?_, ?_, rfl, ?_⟩
  · cases f with
    | lanDiscovery => cases hf
    | subnet subnet =>
      refine Eq.trans ?_ (hc.1 (.subnet subnet) rfl hf).symm
      -- a subnet that is not reset is kept by the filter
      cases enabled with
      | false => rfl
      | true =>
        have hkept : keepsUnderDiscovery subnet = true := by simpa [Request.asks] using hf
        exact decide_eq_decide.mpr (List.mem_filter.trans (and_iff_left hkept))
    | _ => rfl
  · intro call hcall onError h e
    rcases List.mem_pair.mp hcall with rfl | rfl
    · cases h
    · cases h
      rfl
  · dsimp only
    split <;> rfl

theorem follows_setAutoConnect {serverTag : String} :
    (setAutoConnect r s enabled serverTag loaded).Follows
      (.setAutoConnect enabled serverTag) loaded := by
  refine .guard rfl fun _ => .guard rfl fun _ => ?_
  split
  · rename_i hoff
    obtain rfl : enabled = false := by simpa using hoff
    refine ⟨fun c _ f hf => ?_, fun _ h => (nomatch h), rfl, rfl⟩
    cases f with
    | autoConnect => cases hf
    | _ => rfl
  · rename_i hon
    obtain rfl : enabled = true := by simpa using hon
    refine .guard rfl fun _ => .guard rfl fun _ => ?_
    split
    rename_i country city group _
    split
    · rfl
    · rfl
    · refine ⟨fun c hc f hf => ?_, fun _ h => (nomatch h), rfl, rfl⟩
      cases f with
      | autoConnect | serverTag | country | city | group => cases hf
      | technology | lanDiscovery | rest => rfl
      | id | protocol | threatProtectionLite | obfuscate | dns | postquantumVpn
      | subnet _ | tcpPort _ | udpPort _ => exact (hc.1 _ rfl hf).symm

theorem mem_of_updateChosen {turns : Nat} {startPort endPort : Int} {chosen : Bool}
    {ports new : List Int}
    (h : updateChosen turns startPort endPort remove chosen ports = some (.ok new)) {x : Int}
    (hx : (chosen && decide (Asked startPort endPort x)) = false) : x ∈ new ↔ x ∈ ports := by
  unfold updateChosen at h
  cases chosen with
  | false =>
    cases h
    rfl
  | true => exact mem_of_updatePorts h (of_decide_eq_false hx)

/-- The entries that an allowlist request does not name stay as they were loaded. -/
theorem get_of_getNewAllowlist {turns : Nat} {request : AllowlistRequest} {allowlist : Allowlist}
    (h : getNewAllowlist turns loaded request remove = some (.ok allowlist)) (f : Field)
    (hf : request.asks f = false) :
    f.get (loaded.withData fun d => { d with allowlist }) = f.get loaded := by
  cases request with
  | subnet subnet =>
    unfold getNewAllowlist at h
    dsimp only at h
    split at h
    · cases h
    · split at h
      · cases h
      · cases h
        cases f with
        | subnet other =>
          have hne : other ≠ subnet := by
            rintro rfl
            simp [AllowlistRequest.asks] at hf
          apply decide_eq_decide.mpr
          cases remove with
          | true => exact mem_updateKeys_delete.trans (and_iff_left (by simpa using hne))
          | false => exact mem_updateKeys_insert.trans (or_iff_left (by simpa using hne))
        | _ => rfl
  | ports isUdp isTcp startPort endPort =>
    rw [getNewAllowlist_ports] at h
    split at h
    · cases h
    · cases h
    · rename_i udp hudp
      split at h
      · cases h
      · cases h
      · rename_i tcp htcp
        cases h
        cases f with
        | tcpPort port => exact decide_eq_decide.mpr (mem_of_updateChosen htcp hf)
        | udpPort port => exact decide_eq_decide.mpr (mem_of_updateChosen hudp hf)
        | _ => rfl

/-- Both allowlist requests write the whole allowlist. -/
theorem follows_updateAllowlist {request : AllowlistRequest} {full : Request}
    (hasks : ∀ f, full.asks f = request.asks f)
    (hrewrites : ∀ s p, full.rewrites (.subnet s) = true ∧ full.rewrites (.tcpPort p) = true ∧
      full.rewrites (.udpPort p) = true) :
    (updateAllowlist r request remove loaded).Follows full loaded := by
  unfold updateAllowlist
  split
  · trivial
  · exact not_isSuccess_of_refused ‹_›
  · rename_i allowlist hallowlist
    refine ⟨fun c hc f hf => ?_, ?_, rfl, rfl⟩
    · have hget := get_of_getNewAllowlist hallowlist f ((hasks f).symm.trans hf)
      cases f with
      | subnet s => exact hget.trans (hc.1 _ (hrewrites s 0).1 hf).symm
      | tcpPort p => exact hget.trans (hc.1 _ (hrewrites "" p).2.1 hf).symm
      | udpPort p => exact hget.trans (hc.1 _ (hrewrites "" p).2.2 hf).symm
      | _ => rfl
    · refine List.forall_mem_singleton.mpr ?_
      rintro _ ⟨⟩ _
      rfl

/-- Every request that is looked at follows its own fields. -/
theorem decide_follows (h : request.isConcurrent = true) :
    (request.decide r s loaded).Follows request loaded := by
  cases request with
  | setTechnology technology => exact follows_setTechnology
  | setProtocol protocol => exact follows_setProtocol
  | setObfuscate enabled => exact follows_setObfuscate
  | setPostQuantum enabled => exact follows_setPostQuantum
  | setDNS dns => exact follows_setDNS
  | setThreatProtectionLite enabled => exact follows_setThreatProtectionLite
  | setLANDiscovery enabled => exact follows_setLANDiscovery
  | setAutoConnect enabled serverTag => exact follows_setAutoConnect
  | setAllowlist request =>
    exact follows_updateAllowlist (fun _ => rfl) fun _ _ => ⟨rfl, rfl, rfl⟩
  | unsetAllowlist request =>
    exact follows_updateAllowlist (fun _ => rfl) fun _ _ => ⟨rfl, rfl, rfl⟩
  | setIpv6 | setFirewall | setKillSwitch | setRouting | enableMeshnet | disableMeshnet
  | setDefaults => cases h

end Handlers

/-! ### Runs -/

/-- What the phase of a request says: how it goes on, and whether it has saved settings. -/
def Phase.Agrees (request : Request) (hasSaved : Prop) : Phase → Prop
  | .waiting | .hung => ¬hasSaved
  | .calling loaded plan calls => ¬hasSaved ∧ plan.Follows request loaded ∧ calls ⊆ plan.before
  | .saved plan _ => hasSaved ∧ plan.done.Succeeds
  | .answered reply => reply.isSuccess = true ↔ hasSaved

variable {r : DaemonEnv} {s : Rpc}

theorem begin_agrees (hrequest : request.isConcurrent = true) {hasSaved : Prop} (h : ¬hasSaved) :
    (request.begin r s).Agrees request hasSaved := by
  have hanswered {reply : Reply} (hreply : reply.isSuccess = false) :
      (Phase.answered reply).Agrees request hasSaved :=
    ⟨fun hsuccess => absurd (hreply.symm.trans hsuccess) Bool.false_ne_true, fun hs => absurd hs h⟩
  unfold Request.begin
  split
  · rename_i reply hload
    apply hanswered
    split at hload
    · cases hload
    · cases request with
      | setLANDiscovery enabled | setAllowlist request | unsetAllowlist request =>
        cases hload
        rfl
      | enableMeshnet | disableMeshnet | setDefaults => cases hrequest
      | _ => cases hload
  · have hfollows : (request.decide r s (if r.loads then s.cfg else newConfig)).Follows request
        (if r.loads then s.cfg else newConfig) := decide_follows hrequest
    dsimp only
    split
    · rename_i hdecide
      rw [hdecide] at hfollows
      exact hanswered hfollows
    · exact h
    · rename_i hdecide
      rw [hdecide] at hfollows
      exact ⟨h, hfollows, fun _ hc => hc⟩

theorem cfg_onNetw {α : Type} {m : Netw α} : (onNetw m r s).final.cfg = s.cfg :=
  (keeps_cfg_onNetw s rfl).2

theorem saveWith_spec {f : Config → Config} :
    (saveWith f r s).result = .ok r.saves ∧
    (saveWith f r s).final = if r.saves then { s with cfg := f s.cfg } else s := by
  have hwp : wp (saveWith f) r any
      (fun x t => x = .ok r.saves ∧ t = if r.saves then { s with cfg := f s.cfg } else s) s := by
    simp only [saveWith, wp_bind, wp_env, onOk_ok]
    split
    · rename_i hsaves
      simp only [any, wp_bind, wp_update, onOk_ok, wp_pure, hsaves, true_and, and_self]
    · rename_i hsaves
      simp only [wp_pure, hsaves, true_and]
  exact hwp.2

theorem wp_answerDone {done : Done} (h : done.Succeeds) :
    wp (answerDone done) r any
      (fun x t => t.cfg = s.cfg ∧ ∀ reply, x = .ok reply → reply.isSuccess = true) s := by
  cases done with
  | reply reply =>
    refine wp_pure.mpr ⟨rfl, ?_⟩
    rintro _ ⟨⟩
    exact h
  | byActive reply =>
    refine wp_seq (keeps_cfg_onNetw s rfl) ?_ fun e t ht => ⟨ht, nofun⟩
    intro active t ht
    refine wp_pure.mpr ⟨ht, ?_⟩
    rintro _ ⟨⟩
    exact h active

section Runs

variable {ι : Type} {requests : ι → Request} {s₀ : Rpc} {s : Shared ι}

/-- What every interleaving keeps. -/
structure Shared.Kept (requests : ι → Request) (s₀ : Rpc) (s : Shared ι) : Prop where
  settled : Write.Settled Field.get s₀.cfg (s.writes requests) s.rpc.cfg
  phases : ∀ i, (s.phase i).Agrees (requests i) (i ∈ s.log.map Prod.fst)

variable [DecidableEq ι]

/-- A step that saves nothing. -/
theorem Shared.Kept.goTo (h : s.Kept requests s₀) {rpc : Rpc} (hcfg : rpc.cfg = s.rpc.cfg) {i : ι}
    {p : Phase} (hp : p.Agrees (requests i) (i ∈ s.log.map Prod.fst)) :
    Shared.Kept requests s₀ { s with rpc, phase := Function.update s.phase i p } := by
  constructor
  · intro f
    exact (congrArg f.get hcfg).trans (h.settled f)
  · intro j
    by_cases hj : j = i
    · subst hj
      simpa using hp
    · simpa [Function.update_of_ne hj] using h.phases j

/-- A step that saves the settings `c`. -/
theorem Shared.Kept.save (h : s.Kept requests s₀) {rpc : Rpc} {i : ι} {plan : Plan}
    (hkeep : ∀ f, (requests i).asks f = false → f.get rpc.cfg = f.get s.rpc.cfg)
    (hdone : plan.done.Succeeds) :
    Shared.Kept requests s₀ { s with
      rpc, phase := Function.update s.phase i (.saved plan plan.after), log :=
        (i, rpc.cfg) :: s.log } := by
  constructor
  · exact h.settled.write hkeep
  · intro j
    by_cases hj : j = i
    · subst hj
      dsimp only
      rw [Function.update_self]
      exact ⟨List.mem_cons_self, hdone⟩
    · have hmem : (j ∈ ((i, rpc.cfg) :: s.log).map Prod.fst) = (j ∈ s.log.map Prod.fst) := by
        simp [hj]
      simpa only [Function.update_of_ne hj, hmem] using h.phases j

/-- A request saves only while what it writes back is stored as it loaded it. -/
def FreshStep (requests : ι → Request) (s : Shared ι) (move : ι × DaemonEnv) : Prop :=
  ∀ loaded, (s.phase move.1).saving = some loaded → (requests move.1).Fresh loaded s.rpc.cfg

theorem kept_advance (hrequests : ∀ i, (requests i).isConcurrent = true) (h : s.Kept requests s₀)
    {move : ι × DaemonEnv} (hfresh : FreshStep requests s move) :
    (s.advance requests move).Kept requests s₀ := by
  obtain ⟨i, r⟩ := move
  have hphase := h.phases i
  unfold Shared.advance
  dsimp only
  split
  · -- the request begins
    rename_i hwaiting
    rw [hwaiting] at hphase
    exact h.goTo rfl (begin_agrees (hrequests i) hphase)
  · -- a call before the save
    rename_i loaded plan c rest hcalling
    rw [hcalling] at hphase
    obtain ⟨hunsaved, hfollows, hbefore⟩ := hphase
    split
    · rename_i e onError _ honError
      refine h.goTo cfg_onNetw ⟨fun hsuccess => ?_, fun hs => absurd hs hunsaved⟩
      rw [hfollows.refuses c (hbefore List.mem_cons_self) onError honError e] at hsuccess
      cases hsuccess
    · exact h.goTo cfg_onNetw ⟨hunsaved, hfollows, fun d hd => hbefore (List.mem_cons_of_mem c hd)⟩
  · -- the save
    rename_i loaded plan hcalling
    rw [hcalling] at hphase
    obtain ⟨hunsaved, hfollows, -⟩ := hphase
    obtain ⟨hresult, hfinal⟩ := saveWith_spec (f := plan.save) (r := r) (s := s.rpc)
    rw [hresult, hfinal]
    cases r.saves with
    | true =>
      have hsaving := congrArg Phase.saving hcalling
      exact h.save (hfollows.keeps _ (hfresh loaded hsaving)) hfollows.done
    | false =>
      refine h.goTo rfl ⟨fun hsuccess => ?_, fun hs => absurd hs hunsaved⟩
      rw [hfollows.saveError] at hsuccess
      cases hsuccess
  · -- a call after the save
    rename_i hsaved
    rw [hsaved] at hphase
    exact h.goTo cfg_onNetw hphase
  · rename_i plan hsaved
    rw [hsaved] at hphase
    obtain ⟨hcfg, hreply⟩ := (wp_answerDone (r := r) (s := s.rpc) hphase.2).2
    split
    · rename_i reply hresult
      exact h.goTo hcfg ⟨fun _ => hphase.1, fun _ => hreply reply hresult⟩
    · exact h
  · exact h
  · exact h

end Runs

/-- Auto-connect and the post-quantum VPN are switched on. -/
def twoRequests : Bool → Request
  | false => .setAutoConnect true ""
  | true => .setPostQuantum true

/-- The state after the steps of the two requests, the latest first. -/
def interleave (moves : List Bool) : Shared Bool :=
  runAll (Shared.advance twoRequests) (Shared.start Bool (Rpc.startUp newConfig 0xe1f1))
    (moves.map (·, calmEnv))

end NordVPN.Daemon
