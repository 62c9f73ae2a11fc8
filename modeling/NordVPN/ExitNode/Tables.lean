import NordVPN.Lib.Words
import NordVPN.Networker.State

/-!
The `iptables` command as the exit node runs it (`meshnet/exitnode`).

A line of a chain is the list of words it was added with: `-S` prints it as
`-A <chain> <words>`, and `-D` with the same words deletes the first such line. Any
command may fail; one that deletes a line that is not there does, with the message
the exit node looks for.
-/

namespace NordVPN.ExitNode

open NordVPN.Netip Networker

inductive Verdict where
  | accept | drop
deriving DecidableEq, Repr

def Verdict.text : Verdict → String
  | .accept => "ACCEPT"
  | .drop => "DROP"

/-- The chains of the table `filter`, and the one of `nat` that is used. -/
inductive Chain where
  | input | forward | output | postrouting
deriving DecidableEq, Repr

namespace Chain

def text : Chain → String
  | .input => "INPUT"
  | .forward => "FORWARD"
  | .output => "OUTPUT"
  | .postrouting => "POSTROUTING"

def table : Chain → String
  | .postrouting => "nat"
  | _ => "filter"

def filterChains : List Chain := [.input, .forward, .output]

def named (table name : String) : Option Chain :=
  (filterChains ++ [postrouting]).find? fun c => c.table == table && c.text == name

end Chain

abbrev Line := List String

@[ext]
structure Tables where
  lines : Chain → List Line
  policy : Chain → Verdict

namespace Tables

def set (t : Tables) (c : Chain) (ls : List Line) : Tables :=
  { t with lines := fun d => if d = c then ls else t.lines d }

variable (t : Tables) (c : Chain) (ls : List Line)

@[simp] theorem set_same : (t.set c ls).lines c = ls :=
  if_pos rfl

theorem set_other {c d : Chain} (h : d ≠ c) : (t.set c ls).lines d = t.lines d :=
  if_neg h

theorem set_self : t.set c (t.lines c) = t := by
  refine Tables.ext (funext fun d => ?_) rfl
  by_cases h : d = c
  · rw [h, set_same]
  · rw [set_other t _ h]

theorem set_set (ls' : List Line) : (t.set c ls).set c ls' = t.set c ls' := by
  refine Tables.ext (funext fun d => ?_) rfl
  by_cases h : d = c
  · rw [h, set_same, set_same]
  · rw [set_other _ _ h, set_other _ _ h, set_other _ _ h]

def insert (c : Chain) (l : Line) (t : Tables) : Tables := t.set c (l :: t.lines c)

def append (c : Chain) (l : Line) (t : Tables) : Tables := t.set c (t.lines c ++ [l])

/-- Without the first line of these words, if there is one. -/
def erase (c : Chain) (l : Line) (t : Tables) : Tables := t.set c ((t.lines c).erase l)

end Tables

/-! ### Commands -/

inductive Command where
  | insert (c : Chain) (l : Line)
  | append (c : Chain) (l : Line)
  | delete (c : Chain) (l : Line)
  | list (c : Chain)
  | listFilter
  | display (c : Chain)

def readAction (table : String) : List String → Option Command
  | "-I" :: chain :: "1" :: l => (Chain.named table chain).map (Command.insert · l)
  | "-I" :: chain :: l => (Chain.named table chain).map (Command.insert · l)
  | "-A" :: chain :: l => (Chain.named table chain).map (Command.append · l)
  | "-D" :: chain :: l => (Chain.named table chain).map (Command.delete · l)
  | ["-S"] => if table = "filter" then some .listFilter else none
  | ["-S", chain] => (Chain.named table chain).map Command.list
  | ["-L", chain, "-v", "-n"] => (Chain.named table chain).map Command.display
  | _ => none

/-- The arguments of `iptables`; the default table is `filter`. -/
def readCommand : List String → Option Command
  | "-t" :: table :: args => readAction table args
  | args => readAction "filter" args

/-- A line as `iptables -S` prints it. -/
def printed (c : Chain) (l : Line) : String := Words.join ("-A" :: c.text :: l)

def printedPolicy (c : Chain) (v : Verdict) : String := Words.join ["-P", c.text, v.text]

/-- The output of `iptables -S <chain>`, line by line. -/
def Tables.printed (t : Tables) (c : Chain) : List String :=
  printedPolicy c (t.policy c) :: (t.lines c).map (ExitNode.printed c)

/-- The options of a line with their values. -/
def options : Line → List (String × String)
  | "!" :: flag :: value :: ws => ("! " ++ flag, value) :: options ws
  | flag :: value :: ws => (flag, value) :: options ws
  | _ => []

/-- `strings.TrimSuffix(network, "/32")`. -/
def trimHost (network : String) : String :=
  if "/32".toList.isSuffixOf network.toList then
    String.ofList (network.toList.take (network.toList.length - 3))
  else network

/-- A line as `iptables -L -v -n` prints it, with its counters at zero. Columns of
other matches, which hold no network and no comment, are left out. -/
def displayed (l : Line) : String :=
  let value (flag default : String) : String := ((options l).lookup flag).getD default
  Words.join (["0", "0", value "-j" "", value "-p" "all", "--", value "-i" "*", value "-o" "*",
    trimHost (value "-s" "0.0.0.0/0"), trimHost (value "-d" "0.0.0.0/0")] ++
    match (options l).lookup "--comment" with
    | some comment => ["/*", comment, "*/"]
    | none => [])

/-- The output of `iptables -L <chain> -v -n`, line by line. -/
def Tables.displayed (t : Tables) (c : Chain) : List String :=
  Words.join ["Chain", c.text, "(policy", (t.policy c).text, "0", "packets,", "0", "bytes)"] ::
    " pkts bytes target     prot opt in     out     source               destination" ::
      (t.lines c).map ExitNode.displayed

/-- `missingRuleMessage`. -/
def missingRuleMessage : String := "Bad rule (does a matching rule exist in that chain?)"

/-- What a command does and prints, or what it prints when it fails. -/
def Tables.execute (t : Tables) : Command → Except String (Tables × List String)
  | .insert c l => .ok (t.insert c l, [])
  | .append c l => .ok (t.append c l, [])
  | .delete c l => if l ∈ t.lines c then .ok (t.erase c l, []) else .error missingRuleMessage
  | .list c => .ok (t, t.printed c)
  | .listFilter => .ok (t, Chain.filterChains.flatMap t.printed)
  | .display c => .ok (t, t.displayed c)

/-! ### The exit node's state -/

/-- `dev_valid_name` of the kernel. -/
def isValidName (name : String) : Bool :=
  name != "" && name.length < 16 && name != "." && name != ".." &&
    name.toList.all fun c => c != '/' && c != ':' && !c.isWhitespace

/-- The name of a network interface. -/
structure InterfaceName where
  text : String
  valid : isValidName text = true
deriving DecidableEq

theorem InterfaceName.isWord (name : InterfaceName) : Words.IsWord name.text := by
  intro hblank
  have hvalid := name.valid
  simp only [isValidName, Bool.and_eq_true, List.all_eq_true] at hvalid
  exact absurd (hvalid.2 ' ' hblank).2 (by decide)

/-- `allowlistManager`. -/
structure AllowlistManager where
  allowlist : Allowlist
  peers : List MachinePeer := []

/-- `Server`. -/
structure Server where
  interfaceNames : List InterfaceName
  peers : List MachinePeer := []
  allowlistManager : AllowlistManager
  enabled : Bool := false

structure State where
  tables : Tables
  server : Server
  calls : Nat := 0

/-- `fails n args`: the command with number `n` fails. `rangeOrder` is the order in which
a Go map is ranged over. -/
structure Env where
  fails : Nat → List String → Bool
  sysctlFails : Nat → Bool
  rangeOrder : Nat → List String → List String
  rangeOrder_perm : ∀ n keys, (rangeOrder n keys).Perm keys

/-- Everything succeeds. -/
def Env.working : Env where
  fails _ _ := false
  sysctlFails _ := false
  rangeOrder _ keys := keys
  rangeOrder_perm _ _ := .refl _

abbrev Exit := Prog Env State Error

/-- The output of a command that fails for another reason. -/
def commandFailed : String := "exit status 4"

/-- `commandFunc("iptables", args...)`. The error carries what the command printed. -/
def iptables (args : List String) : Exit (List String) := do
  let r ← Prog.env
  let s ← Prog.state
  Prog.update fun s => { s with calls := s.calls + 1 }
  if r.fails s.calls args then Prog.fail (.external commandFailed)
  else match readCommand args with
    | none => Prog.fail (.external commandFailed)
    | some command =>
      match s.tables.execute command with
      | .error output => Prog.fail (.external output)
      | .ok (tables, output) => do
        Prog.update fun s => { s with tables }
        pure output

/-- A command given as one text: `commandFunc("iptables", strings.Split(args, " ")...)`. -/
def iptablesText (args : String) : Exit (List String) := iptables (Words.split args)

section

open Prog

variable {r : Env} {s : State} {args : List String} {Q : Except Error (List String) → State → Prop}

/-- A command that is understood, outcome by outcome. -/
theorem wp_iptables {command : Command} (hread : readCommand args = some command)
    (done : ∀ tables output, s.tables.execute command = .ok (tables, output) →
      Q (.ok output) { s with tables, calls := s.calls + 1 })
    (refused : ∀ output, s.tables.execute command = .error output →
      Q (.error (.external output)) { s with calls := s.calls + 1 })
    (failed : r.fails s.calls args = true →
      Q (.error (.external commandFailed)) { s with calls := s.calls + 1 }) :
    wp (iptables args) r any Q s := by
  simp only [iptables, wp_bind, wp_env, wp_state, wp_update, onOk_ok, hread]
  refine ⟨trivial, wp_ite.mpr ⟨fun h => wp_fail.mpr (failed h), fun _ => ?_⟩⟩
  cases hexec : s.tables.execute command with
  | error output => exact wp_fail.mpr (refused output hexec)
  | ok result =>
    simp only [wp_bind, wp_update, onOk_ok]
    exact ⟨trivial, wp_pure.mpr (done result.1 result.2 hexec)⟩

end

end NordVPN.ExitNode
