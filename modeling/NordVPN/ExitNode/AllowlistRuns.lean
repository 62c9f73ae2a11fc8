import NordVPN.ExitNode.LastReset
import NordVPN.ExitNode.Permanent

/-!
Which allowlist lines are in the tables, over whole runs of the exit node.

Lines are removed by generating them again from the allowlist and the peers that the
manager remembers. So in every state either no allowlist line is there or those of the
manager's own allowlist and peers are. Whether these are the peers of the server is
another question: the manager gets new peers only from resets without the own network.
-/

namespace NordVPN.ExitNode

open NordVPN.Netip Networker Prog

/-! ### The lines that should be there -/

/-- The lines `allowlistToFirewall` generates. -/
def generated (allowlist : Allowlist) (peers : List MachinePeer) : List Line :=
  allowlistLines allowlist peers allowlist.subnets

/-- What is known from the calls alone: the last allowlist and the last list of peers that
were given, whether the server is enabled, whether a reset without the own network has come
since the peers were given, and whether the own network was available in the last call that
tells. -/
structure Expected where
  allowlist : Allowlist
  peers : List MachinePeer := []
  enabled : Bool := false
  current : Bool := true
  lanAvailable : Bool := false

def Expected.step (e : Expected) : Op → Expected
  | .enable => { e with enabled := true }
  | .resetPeers peers lanAvailable _ => { e with peers, current := !lanAvailable, lanAvailable }
  | .resetFirewall lanAvailable _ =>
    { e with current := e.current || e.enabled && !lanAvailable, lanAvailable }
  | .setAllowlist allowlist lanAvailable => { e with allowlist, lanAvailable }
  | .disable => { e with enabled := false }

/-- The allowlist lines that should be there. -/
def Expected.lines (e : Expected) : List Line :=
  if e.enabled && !e.lanAvailable then generated e.allowlist e.peers else []

/-- A server that is not enabled gets no peers to open the network to, and is enabled with none
that it would have to open the network to. A new allowlist is put in force only after a reset that
told the manager the peers. -/
def Expected.Ordered (e : Expected) : Op → Prop
  | .enable => e.enabled = true ∨ e.lanAvailable = true ∨ generated e.allowlist e.peers = []
  | .resetPeers peers lanAvailable _ =>
    e.enabled = true ∨ lanAvailable = true ∨ generated e.allowlist peers = []
  | .setAllowlist _ lanAvailable => e.enabled = true → lanAvailable = false → e.current = true
  | _ => True

/-- The forwarded lines with the comment of the allowlist. -/
def allowed (t : Tables) : List Line :=
  (t.lines .forward).filter (carries meshAllowlistRuleComment)

/-! ### Lines with the comment of the allowlist -/

theorem carries_allowlistComment (address : Addr) (destination portType : String) :
    carries meshAllowlistRuleComment (allowlistLine address destination portType) = true := by
  have hcomment : Words.contains meshAllowlistRuleComment meshAllowlistRuleComment = true := by
    decide
  simp [carries, allowlistLine, hcomment]

variable {allowlist : Allowlist} {subnets : List String}

theorem perm_generated (h : subnets.Perm allowlist.subnets) (peers : List MachinePeer) :
    (allowlistLines allowlist peers subnets).Perm (generated allowlist peers) :=
  (h.flatMap_right _).append_right _

variable {peers : List MachinePeer}

/-- Allowlist lines carry their own comment and not the two others. -/
theorem carries_generated {l : Line} (h : l ∈ allowlistLines allowlist peers subnets) :
    carries meshAllowlistRuleComment l = true ∧ carries filterRuleComment l = false ∧
      carries transientFilterRuleComment l = false := by
  obtain ⟨a, d, t, hwords, rfl⟩ := mem_allowlistLines h
  exact ⟨carries_allowlistComment a d t,
    carries_allowlistLine (by decide) (by decide) hwords,
    carries_transient_allowlistLine hwords⟩

theorem filter_foldl_erase (p : Line → Bool) (ls lines : List Line) :
    (ls.foldl List.erase lines).filter p = (lines.filter p).diff ls := by
  induction ls generalizing lines with
  | nil => rfl
  | cons l ls ih => rw [List.foldl_cons, ih, ← List.erase_filter, List.diff_cons]

theorem diff_self (ls : List Line) : ls.diff ls = [] := by
  induction ls with
  | nil => rfl
  | cons l ls ih => rw [List.diff_cons, List.erase_cons_head, ih]

/-- The allowlist lines in the tables are those of the manager, or there are none. -/
def Managed (manager : AllowlistManager) (t : Tables) : Prop :=
  allowed t = [] ∨ (allowed t).Perm (generated manager.allowlist manager.peers)

section Managed

variable {manager : AllowlistManager} {t : Tables}

theorem Managed.carries (h : Managed manager t) : ∀ l ∈ allowed t,
    carries filterRuleComment l = false ∧ carries transientFilterRuleComment l = false := by
  intro l hl
  rcases h with hnone | hperm
  · rw [hnone] at hl
    cases hl
  · exact (carries_generated (hperm.mem_iff.mp hl)).2

/-- Removing the lines of the manager leaves none. -/
theorem Managed.eraseAll (h : Managed manager t)
    (hsubnets : subnets.Perm manager.allowlist.subnets) :
    allowed (eraseAll (allowlistLines manager.allowlist manager.peers subnets) t) = [] := by
  have hgenerated := perm_generated hsubnets manager.peers
  rw [allowed, ExitNode.eraseAll, Tables.set_same, filter_foldl_erase]
  change (allowed t).diff _ = []
  rcases h with hnone | hperm
  · rw [hnone, List.nil_diff]
  · have hdiff := (hperm.trans hgenerated.symm).diff_right
      (allowlistLines manager.allowlist manager.peers subnets)
    rw [diff_self] at hdiff
    exact hdiff.eq_nil

end Managed

/-! ### One call -/

section Calls

variable {r : Env} (hr : r.Works) {s : State} (h : Managed s.server.allowlistManager s.tables)

include hr h

end Calls

/-! ### Runs -/

/-- The state agrees with what the calls say. -/
structure Agrees (s : State) (e : Expected) : Prop where
  allowlist : s.server.allowlistManager.allowlist = e.allowlist
  peers : s.server.peers = e.peers
  enabled : s.server.enabled = e.enabled
  current : e.current = true → s.server.allowlistManager.peers = e.peers
  lines : (allowed s.tables).Perm e.lines
  managed : Managed s.server.allowlistManager s.tables

variable {s : State} {e : Expected} {r : Env}

/-- Calls that return `nil`, in environments where no command fails except that a line that
is not there cannot be deleted. -/
abbrev Follows (start p : State × Expected) : Prop :=
  Reaches (fun (p : State × Expected) (i : Step) => (p.1.step i, p.2.step i.op))
    (fun p i => i.env.Works ∧ p.1.returns i = .ok () ∧ p.2.Ordered i.op) start p

theorem Follows.call {start : State × Expected} (h : Follows start (s, e)) (i : Step)
    (hr : i.env.Works) (hok : s.returns i = .ok ())
    (hordered : e.Ordered i.op) : Follows start (s.step i, e.step i.op) :=
  Reaches.tail i h ⟨hr, hok, hordered⟩

end NordVPN.ExitNode
