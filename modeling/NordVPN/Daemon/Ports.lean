import NordVPN.Daemon.Allowlist

/-!
Requests that allowlist ports, or take them off the list.

The end of a range is compared with its start only. A removal is safe all the same: every port of
the range has to be on the list, so the range ends where the list does. A request that adds a range
is not: what it adds may lie above the largest port, and its loop may take as many turns as there
are numbers, or more.
-/

namespace NordVPN.Daemon

open NordVPN.Networker

/-! ### The loops -/

theorem wrap64_of_mem {n : Int} (hlow : -2 ^ 63 ≤ n) (hhigh : n < 2 ^ 63) : wrap64 n = n := by
  unfold wrap64
  omega

theorem wrap64_le (n : Int) : wrap64 n ≤ 2 ^ 63 - 1 := by
  unfold wrap64
  omega

/-- The ports of an allowlist. -/
def ValidPorts (ports : List Int) : Prop :=
  ∀ port ∈ ports, allowlistMinPort ≤ port ∧ port ≤ allowlistMaxPort

variable {ports : List Int} {turns : Nat} {port stop x start startPort endPort : Int}
  {remove : Bool} {code : Reply}

/-- The loop of a removal ends at the latest after the largest port, and tells whether the whole
range is on the list. -/
theorem hasPorts_spec (hports : ValidPorts ports) (hlow : 1 ≤ port) (hhigh : port ≤ 65536)
    (hturns : 65536 < port + turns) :
    ∃ present, hasPorts ports turns port stop = some present ∧
      (present = true ↔ ∀ x, port ≤ x → x ≤ stop → x ∈ ports) := by
  induction turns generalizing port with
  | zero => omega
  | succ turns ih =>
    unfold hasPorts
    by_cases hstop : port ≤ stop
    · rw [if_pos hstop]
      by_cases hmem : port ∈ ports
      · have hmax := (hports port hmem).2
        unfold allowlistMaxPort at hmax
        rw [if_pos (List.contains_iff_mem.mpr hmem), wrap64_of_mem (by omega) (by omega)]
        have hnext : 1 ≤ port + 1 := by omega
        obtain ⟨present, hloop, hiff⟩ := ih hnext (by omega) (by omega)
        refine ⟨present, hloop, hiff.trans ⟨fun h x hx => ?_, fun h x hx => h x (by omega)⟩⟩
        rcases hx.eq_or_lt with rfl | hx
        · exact fun _ => hmem
        · exact h x (by omega)
      · rw [if_neg (by simpa using hmem)]
        exact ⟨false, rfl, nofun, fun h => absurd (h port le_rfl hstop) hmem⟩
    · rw [if_neg hstop]
      exact ⟨true, rfl, fun _ x hx hx' => absurd (hx.trans hx') hstop, fun _ => rfl⟩

theorem portsFrom_of_lt (hlow : 1 ≤ port) (hhigh : port + turns < 2 ^ 63)
    (h : stop < port + turns) : ∃ range, portsFrom turns port stop = some range := by
  induction turns generalizing port with
  | zero =>
    unfold portsFrom
    exact ⟨[], if_neg (by omega)⟩
  | succ turns ih =>
    unfold portsFrom
    by_cases hstop : port ≤ stop
    · rw [if_pos hstop, wrap64_of_mem (by omega) (by omega)]
      have hnext : 1 ≤ port + 1 := by omega
      obtain ⟨range, hloop⟩ := ih hnext (by omega) (by omega)
      rw [hloop]
      exact ⟨port :: range, rfl⟩
    · exact ⟨[], if_neg hstop⟩

theorem portsFrom_of_le (hlow : 1 ≤ port) (hhigh : port + turns < 2 ^ 63)
    (h : port + turns ≤ stop) : portsFrom turns port stop = none := by
  induction turns generalizing port with
  | zero =>
    unfold portsFrom
    rw [if_pos (by omega)]
  | succ turns ih =>
    unfold portsFrom
    rw [if_pos (by omega), wrap64_of_mem (by omega) (by omega), ih (by omega) (by omega) (by omega)]
    rfl

/-- Up to the largest number, or above it, the loop never ends. -/
theorem portsFrom_max (turns : Nat) (hstop : 2 ^ 63 - 1 ≤ stop)
    (h : port ≤ 2 ^ 63 - 1) : portsFrom turns port stop = none := by
  induction turns generalizing port with
  | zero =>
    unfold portsFrom
    rw [if_pos (h.trans hstop)]
  | succ turns ih =>
    unfold portsFrom
    rw [if_pos (h.trans hstop), ih (wrap64_le _)]
    rfl

/-- What a loop that ends has listed. -/
theorem mem_portsFrom {range : List Int} (hlow : 1 ≤ port) (hhigh : port ≤ 2 ^ 63 - 1)
    (h : portsFrom turns port stop = some range) :
    x ∈ range ↔ port ≤ x ∧ x ≤ stop := by
  have hstop : stop < 2 ^ 63 - 1 := by
    by_contra hstop
    rw [portsFrom_max turns (by omega) hhigh] at h
    cases h
  induction turns generalizing port range with
  | zero =>
    unfold portsFrom at h
    split at h
    · cases h
    · cases h
      rw [List.mem_nil_iff, false_iff]
      omega
  | succ turns ih =>
    unfold portsFrom at h
    split at h
    · rw [wrap64_of_mem (by omega) (by omega)] at h
      obtain ⟨ports, hports, rfl⟩ := Option.map_eq_some_iff.mp h
      have hnext : 1 ≤ port + 1 := by omega
      have hrest : x ∈ ports ↔ port + 1 ≤ x ∧ x ≤ stop := ih hnext (by omega) hports
      rw [List.mem_cons, hrest]
      omega
    · cases h
      rw [List.mem_nil_iff, false_iff]
      omega

/-! ### One protocol -/

/-- The ports that a request names. -/
def Asked (startPort endPort port : Int) : Prop :=
  if endPort = 0 then port = startPort else startPort ≤ port ∧ port ≤ endPort

/-- The new ports are valid, and they differ from the old ones by those that were asked for. -/
def Updated (remove : Bool) (startPort endPort : Int) (old new : List Int) : Prop :=
  ValidPorts new ∧ ∀ port, port ∈ new ↔
    if remove then port ∈ old ∧ ¬ Asked startPort endPort port
    else port ∈ old ∨ Asked startPort endPort port

theorem getPortsInARange_of_lt (hlow : 1 ≤ start) (hhigh : start + 1 + turns < 2 ^ 63)
    (h : stop < start + 1 + turns) : ∃ range, getPortsInARange turns start stop = some range := by
  unfold getPortsInARange
  rw [wrap64_of_mem (by omega) (by omega)]
  have hnext : 1 ≤ start + 1 := by omega
  obtain ⟨range, hloop⟩ := portsFrom_of_lt hnext hhigh h
  rw [hloop]
  exact ⟨start :: range, rfl⟩

theorem getPortsInARange_of_le (hlow : 1 ≤ start) (hhigh : start + 1 + turns < 2 ^ 63)
    (h : start + 1 + turns ≤ stop) :
    getPortsInARange turns start stop = none := by
  unfold getPortsInARange
  rw [wrap64_of_mem (by omega) (by omega), portsFrom_of_le (by omega) hhigh h]
  rfl

/-- The loop ends before the largest number, so it lists the ports that were asked for. -/
theorem mem_getPortsInARange {range : List Int} (hlow : 1 ≤ start) (hhigh : start ≤ 65535)
    (hend : stop = 0 ∨ start ≤ stop) (h : getPortsInARange turns start stop = some range) :
    x ∈ range ↔ Asked start stop x := by
  unfold getPortsInARange at h
  rw [wrap64_of_mem (by omega) (by omega)] at h
  obtain ⟨ports, hports, rfl⟩ := Option.map_eq_some_iff.mp h
  have hnext : 1 ≤ start + 1 := by omega
  rw [List.mem_cons, mem_portsFrom hnext (by omega) hports, Asked]
  split <;> omega

theorem bounds_of_arePortsValid
    (h : arePortsValid turns startPort endPort ports remove = some none) :
    1 ≤ startPort ∧ startPort ≤ 65535 ∧ (endPort = 0 ∨ startPort ≤ endPort) := by
  unfold arePortsValid allowlistMinPort allowlistMaxPort at h
  split at h
  · cases h
  · rename_i hstart
    split at h
    · cases h
    · rename_i hend
      simp only [Bool.or_eq_true, Bool.and_eq_true, decide_eq_true_eq, bne_iff_ne] at hstart hend
      omega

/-- An accepted request leaves the ports that it does not name as they are. -/
theorem mem_of_updatePorts {new : List Int}
    (h : updatePorts turns startPort endPort remove ports = some (.ok new))
    (hx : ¬ Asked startPort endPort x) : x ∈ new ↔ x ∈ ports := by
  unfold updatePorts at h
  split at h
  · cases h
  · cases h
  · rename_i hvalid
    obtain ⟨hlow, hhigh, hend⟩ := bounds_of_arePortsValid hvalid
    obtain ⟨range, hrange, hnew⟩ := Option.map_eq_some_iff.mp h
    obtain rfl : updateKeys remove ports range = new := by injection hnew
    have hnot : x ∉ range := fun hmem => hx ((mem_getPortsInARange hlow hhigh hend hrange).mp hmem)
    cases remove with
    | true => simp only [mem_updateKeys_delete, hnot, not_false_eq_true, and_true]
    | false => simp only [mem_updateKeys_insert, hnot, or_false]

/-- The loop of the check ends, and a removal passes only if the whole range is on the list. -/
theorem arePortsValid_cases (startPort endPort : Int) (remove : Bool) (hports : ValidPorts ports)
    (hturns : 65536 ≤ turns) :
    ∃ verdict, arePortsValid turns startPort endPort ports remove = some verdict ∧
      (verdict = none → remove = true → ∀ x, startPort ≤ x → x ≤ endPort → x ∈ ports) := by
  unfold arePortsValid
  split
  · exact ⟨_, rfl, nofun⟩
  · rename_i hstart
    simp only [Bool.or_eq_true, decide_eq_true_eq, not_or, not_lt, gt_iff_lt] at hstart
    unfold allowlistMinPort allowlistMaxPort at hstart
    split
    · exact ⟨_, rfl, nofun⟩
    · have hloop :
        ∃ present, (if remove then hasPorts ports turns startPort endPort else some true) =
          some present ∧ (present = true → remove = true →
            ∀ x, startPort ≤ x → x ≤ endPort → x ∈ ports) := by
        cases remove with
        | false => exact ⟨true, rfl, nofun⟩
        | true =>
          have hspec :
            ∃ present, hasPorts ports turns startPort endPort = some present ∧ (present = true ↔
              ∀ x, startPort ≤ x → x ≤ endPort → x ∈ ports) :=
            hasPorts_spec hports hstart.1 (by omega) (by omega)
          obtain ⟨present, hloop, hiff⟩ := hspec
          exact ⟨present, hloop, fun h _ => hiff.mp h⟩
      obtain ⟨present, hloop, hpresent⟩ := hloop
      rw [hloop]
      cases present with
      | false => exact ⟨_, rfl, nofun⟩
      | true =>
        simp only [Option.bind_eq_bind, Option.bind_some, Bool.not_true,
          Bool.false_eq_true, if_false]
        split
        · exact ⟨_, rfl, nofun⟩
        · exact ⟨_, rfl, fun _ => hpresent rfl⟩

/-- The condition under which a request is safe for a protocol: it removes ports, its start is
refused, or its end is a port. -/
def Safe (remove : Bool) (startPort endPort : Int) : Prop :=
  remove = true ∨ ¬ (1 ≤ startPort ∧ startPort ≤ 65535) ∨ endPort ≤ 65535

theorem updatePorts_of_safe (hports : ValidPorts ports) (hsafe : Safe remove startPort endPort) :
    ∃ result, updatePorts 65536 startPort endPort remove ports = some result ∧
      ∀ new, result = .ok new → Updated remove startPort endPort ports new := by
  obtain ⟨verdict, hverdict, hvalid⟩ := arePortsValid_cases startPort endPort remove hports le_rfl
  unfold updatePorts
  rw [hverdict]
  cases verdict with
  | some code => exact ⟨_, rfl, nofun⟩
  | none =>
    obtain ⟨hlow, hhigh, hend⟩ := bounds_of_arePortsValid hverdict
    have hmax : endPort ≤ 65535 := by
      rcases hsafe with hremove | hstart | hmax
      · -- the last port of the range is on the list
        rcases hend with rfl | hend
        · omega
        · exact (hports endPort (hvalid rfl hremove endPort hend le_rfl)).2
      · exact absurd ⟨hlow, hhigh⟩ hstart
      · exact hmax
    have hlt : endPort < startPort + 1 + (65536 : Nat) := by omega
    obtain ⟨range, hrange⟩ := getPortsInARange_of_lt hlow (by omega) hlt
    have hasked (x : Int) : x ∈ range ↔ Asked startPort endPort x :=
      mem_getPortsInARange hlow hhigh hend hrange
    refine ⟨_, congrArg (Option.map _) hrange, ?_⟩
    rintro new ⟨⟩
    have hnew (port : Int) : port ∈ updateKeys remove ports range ↔
        if remove then port ∈ ports ∧ ¬ Asked startPort endPort port
        else port ∈ ports ∨ Asked startPort endPort port := by
      cases remove with
      | true => rw [mem_updateKeys_delete, hasked, if_pos rfl]
      | false => rw [mem_updateKeys_insert, hasked, if_neg Bool.false_ne_true]
    refine ⟨fun port hport => ?_, hnew⟩
    rw [hnew] at hport
    split at hport
    · exact hports port hport.1
    · rcases hport with hport | hport
      · exact hports port hport
      · unfold Asked at hport
        unfold allowlistMinPort allowlistMaxPort
        split at hport <;> omega

/-- A range that ends above the largest port takes too long, or it is added as it is. -/
theorem updatePorts_of_not_safe (hsafe : ¬ Safe remove startPort endPort) :
    remove = false ∧ ∀ result, updatePorts 65536 startPort endPort remove ports = some result →
      ∃ new, result = .ok new ∧ 65536 ∈ new := by
  unfold Safe at hsafe
  push Not at hsafe
  obtain ⟨hremove, ⟨hlow, hhigh⟩, hend⟩ := hsafe
  obtain rfl : remove = false := by simpa using hremove
  refine ⟨rfl, fun result hresult => ?_⟩
  have hvalid : arePortsValid 65536 startPort endPort ports false = some none := by
    unfold arePortsValid allowlistMinPort allowlistMaxPort
    rw [if_neg (by simp; omega), if_neg (by simp; omega)]
    simp
    omega
  unfold updatePorts at hresult
  rw [hvalid] at hresult
  rcases lt_or_ge endPort (startPort + 1 + (65536 : Nat)) with hlt | hge
  · obtain ⟨range, hrange⟩ := getPortsInARange_of_lt hlow (by omega) hlt
    simp only [hrange, Option.map_some, Option.some.injEq] at hresult
    refine ⟨_, hresult.symm, mem_updateKeys_insert.mpr (.inr ?_)⟩
    rw [mem_getPortsInARange hlow hhigh (.inr (by omega)) hrange, Asked, if_neg (by omega)]
    omega
  · rw [getPortsInARange_of_le hlow (by omega) hge] at hresult
    cases hresult

/-! ### Requests -/

/-- The request is processed in at most 65536 turns of each loop, and if it is accepted, the ports
of the chosen protocols change as asked. -/
def PortsRequestSound (cfg : Config) (isUdp isTcp : Bool) (startPort endPort : Int)
    (remove : Bool) :
    Prop :=
  ∃ result, getNewAllowlist 65536 cfg (.ports isUdp isTcp startPort endPort) remove = some result ∧
    ∀ allowlist, result = .ok allowlist →
      allowlist.subnets = cfg.allowlist.subnets ∧
      (if isUdp then Updated remove startPort endPort cfg.allowlist.ports.udp allowlist.ports.udp
        else allowlist.ports.udp = cfg.allowlist.ports.udp) ∧
      (if isTcp then Updated remove startPort endPort cfg.allowlist.ports.tcp allowlist.ports.tcp
        else allowlist.ports.tcp = cfg.allowlist.ports.tcp)

/-- One half of a request: the ports of a protocol, if it is chosen. -/
def updateChosen (turns : Nat) (startPort endPort : Int) (remove chosen : Bool) (ports : List Int) :
    Option (Except Reply (List Int)) :=
  if chosen then updatePorts turns startPort endPort remove ports else some (.ok ports)

theorem getNewAllowlist_ports {cfg : Config} {isUdp isTcp : Bool} :
    getNewAllowlist turns cfg (.ports isUdp isTcp startPort endPort) remove =
      match updateChosen turns startPort endPort remove isUdp cfg.allowlist.ports.udp with
      | none => none
      | some (.error code) => some (.error code)
      | some (.ok udp) =>
        match updateChosen turns startPort endPort remove isTcp cfg.allowlist.ports.tcp with
        | none => none
        | some (.error code) => some (.error code)
        | some (.ok tcp) => some (.ok { cfg.allowlist with ports := { tcp, udp } }) := rfl

theorem not_isSuccess_of_arePortsValid
        (h : arePortsValid turns startPort endPort ports remove = some (some code)) :
    code.isSuccess = false := by
  unfold arePortsValid at h
  split at h
  · cases h
    rfl
  · split at h
    · cases h
      rfl
    · obtain ⟨present, -, h⟩ := Option.bind_eq_some_iff.mp h
      split at h
      · cases h
        rfl
      · split at h
        · cases h
          rfl
        · cases h

theorem not_isSuccess_of_updateChosen {chosen : Bool}
    (h : updateChosen turns startPort endPort remove chosen ports = some (.error code)) :
    code.isSuccess = false := by
  unfold updateChosen updatePorts at h
  split at h
  · split at h
    · cases h
    · rename_i hvalid
      cases h
      exact not_isSuccess_of_arePortsValid hvalid
    · obtain ⟨range, -, hrange⟩ := Option.map_eq_some_iff.mp h
      cases hrange
  · cases h

/-- A refused request is not answered with success. -/
theorem not_isSuccess_of_refused {cfg : Config} {request : AllowlistRequest}
    (h : getNewAllowlist turns cfg request remove = some (.error code)) :
    code.isSuccess = false := by
  cases request with
  | subnet subnet =>
    unfold getNewAllowlist at h
    dsimp only at h
    split at h
    · cases h
      rfl
    · split at h
      · rename_i hvalid
        cases h
        unfold isSubnetValid at hvalid
        split at hvalid
        · cases hvalid
          rfl
        · split at hvalid
          · cases hvalid
            rfl
          · cases hvalid
      · cases h
  | ports isUdp isTcp startPort endPort =>
    rw [getNewAllowlist_ports] at h
    split at h
    · cases h
    · rename_i hudp
      cases h
      exact not_isSuccess_of_updateChosen hudp
    · split at h
      · cases h
      · rename_i htcp
        cases h
        exact not_isSuccess_of_updateChosen htcp
      · cases h

theorem updateChosen_of_safe (chosen : Bool) (hports : ValidPorts ports)
    (hsafe : chosen = true → Safe remove startPort endPort) :
    ∃ result, updateChosen 65536 startPort endPort remove chosen ports = some result ∧
      ∀ new, result = .ok new →
        if chosen then Updated remove startPort endPort ports new else new = ports := by
  cases chosen with
  | true => exact updatePorts_of_safe hports (hsafe rfl)
  | false =>
    refine ⟨_, rfl, ?_⟩
    rintro new ⟨⟩
    rfl

/-- A request for ports is sound exactly if it chooses no protocol, removes ports, has a start that
is refused or an end that is a port. -/
theorem ports_request_sound_iff (cfg : Config) (isUdp isTcp : Bool) (startPort endPort : Int)
    (remove : Bool) (hudp : ValidPorts cfg.allowlist.ports.udp)
    (htcp : ValidPorts cfg.allowlist.ports.tcp) :
    PortsRequestSound cfg isUdp isTcp startPort endPort remove ↔
      (isUdp = false ∧ isTcp = false) ∨ Safe remove startPort endPort := by
  unfold PortsRequestSound
  rw [getNewAllowlist_ports]
  constructor
  · rintro ⟨result, hresult, hsound⟩
    by_contra h
    push Not at h
    obtain ⟨hchosen, hsafe⟩ := h
    have hunsafe {chosen : Bool} {ports : List Int} {result : Except Reply (List Int)}
        (h : updateChosen 65536 startPort endPort remove chosen ports = some result) :
        ∃ new, result = .ok new ∧
          (chosen = true → ¬ Updated remove startPort endPort ports new) := by
      cases chosen with
      | false => exact ⟨ports, (Option.some.inj h).symm, nofun⟩
      | true =>
        obtain ⟨new, rfl, hnew⟩ := (updatePorts_of_not_safe hsafe).2 result h
        exact ⟨new, rfl, fun _ hupdated => absurd (hupdated.1 65536 hnew).2 (by decide)⟩
    split at hresult
    · cases hresult
    · rename_i hcode
      obtain ⟨_, ⟨⟩, -⟩ := hunsafe hcode
    · rename_i udp hupdate
      split at hresult
      · cases hresult
      · rename_i hcode
        obtain ⟨_, ⟨⟩, -⟩ := hunsafe hcode
      · rename_i tcp hupdate'
        cases hresult
        obtain ⟨-, hudp', htcp'⟩ := hsound _ rfl
        obtain ⟨_, ⟨⟩, hnot⟩ := hunsafe hupdate
        obtain ⟨_, ⟨⟩, hnot'⟩ := hunsafe hupdate'
        cases isUdp with
        | true => exact hnot rfl hudp'
        | false =>
          obtain rfl : isTcp = true := by simpa using hchosen rfl
          exact hnot' rfl htcp'
  · intro hsafe
    have hchosen (chosen : Bool) (h : isUdp = false ∧ isTcp = false → chosen = false) :
        chosen = true → Safe remove startPort endPort := by
      intro hc
      rcases hsafe with hnone | hsafe
      · exact absurd (h hnone) (by simp [hc])
      · exact hsafe
    obtain ⟨udp, hupdate, hudp'⟩ := updateChosen_of_safe isUdp hudp (hchosen isUdp fun h => h.1)
    obtain ⟨tcp, hupdate', htcp'⟩ := updateChosen_of_safe isTcp htcp (hchosen isTcp fun h => h.2)
    rw [hupdate, hupdate']
    cases udp with
    | error code => exact ⟨_, rfl, nofun⟩
    | ok udp =>
      cases tcp with
      | error code => exact ⟨_, rfl, nofun⟩
      | ok tcp =>
        refine ⟨_, rfl, ?_⟩
        rintro allowlist ⟨⟩
        exact ⟨rfl, hudp' udp rfl, htcp' tcp rfl⟩

theorem sound_for_web_ports : PortsRequestSound newConfig false true 80 443 false :=
  (ports_request_sound_iff newConfig false true 80 443 false (fun _ h => nomatch h)
    fun _ h => nomatch h).mpr (.inr (.inr (.inr (by decide))))

/-- A range may end above the largest port, and up to the largest number it is never finished. -/
theorem port_out_of_range_accepted :
    (∃ allowlist, getNewAllowlist 65536 newConfig (.ports true false 65535 65536) false =
      some (.ok allowlist) ∧ 65536 ∈ allowlist.ports.udp) ∧
    ∀ turns, getNewAllowlist turns newConfig (.ports true false 1 (2 ^ 63 - 1)) false = none := by
  refine ⟨⟨_, rfl, by decide⟩, fun turns => ?_⟩
  have hrange : getPortsInARange turns 1 (2 ^ 63 - 1) = none := by
    unfold getPortsInARange
    rw [portsFrom_max turns le_rfl (wrap64_le _)]
    rfl
  have hvalid : arePortsValid turns 1 (2 ^ 63 - 1) [] false = some none := rfl
  have hupdate :
      updateChosen turns 1 (2 ^ 63 - 1) false true newConfig.allowlist.ports.udp = none := by
    change updatePorts turns 1 (2 ^ 63 - 1) false [] = none
    unfold updatePorts
    rw [hvalid, hrange]
    rfl
  rw [getNewAllowlist_ports, hupdate]

end NordVPN.Daemon
