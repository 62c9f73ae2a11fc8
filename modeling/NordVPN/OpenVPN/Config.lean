import NordVPN.Daemon.Config
import NordVPN.Lib.Words

/-!
The configuration file of the OpenVPN process (`daemon/vpn/openvpn/config.go`).

The template gives a text. `addExtraParameters` merges the enforced parameters into its lines, but
assigns the result to its own argument: the caller goes on with the text it had. So the file has the
parameters only if the template already has them.
-/

namespace NordVPN.OpenVPN

open NordVPN.Netip NordVPN.Daemon

/-! ### Merging -/

/-- `strings.Split(text, "\n")`. -/
def splitLines (text : String) : List String := (text.toList.splitOn '\n').map String.ofList

/-- The regular expressions that are used: a text followed by `.*$`, or by `$`. In a line without a
line break the first finds the text anywhere, the second at the end. -/
inductive Pattern where
  | anywhere (text : String)
  | atEnd (text : String)
deriving DecidableEq, Repr

/-- `reg.MatchString`. -/
def Pattern.matches (pattern : Pattern) (line : String) : Bool :=
  match pattern with
  | .anywhere text => Words.contains line text
  | .atEnd text => text.toList.isSuffixOf line.toList

/-- `addOrReplaceArgument`. -/
def addOrReplaceArgument (args : List String) (newArg : String) (regex : Pattern) : List String :=
  let replaced := args.map fun arg => if regex.matches arg then newArg else arg
  if args.any regex.matches then replaced else replaced ++ [newArg]

/-- A parameter that is enforced, and the lines it replaces. -/
structure Parameter where
  arg : String
  regex : Pattern
deriving DecidableEq, Repr

def ignoreIfconfig : Parameter :=
  ⟨"pull-filter ignore \"ifconfig-ipv6\"", .anywhere "pull-filter ignore \"ifconfig-ipv6\""⟩

def ignoreRoute : Parameter :=
  ⟨"pull-filter ignore \"route-ipv6\"", .anywhere "pull-filter ignore \"route-ipv6\""⟩

def ping : Parameter := ⟨"ping 15", .anywhere "ping "⟩

def pingRestart : Parameter := ⟨"ping-restart 0", .anywhere "ping-restart "⟩

def pingTimerRem : Parameter := ⟨"ping-timer-rem", .atEnd "ping-timer-rem"⟩

def protoUdp6 : Parameter := ⟨"proto udp6", .atEnd "proto udp6"⟩

def protoTcp6 : Parameter := ⟨"proto tcp6", .atEnd "proto tcp6"⟩

/-- The parameters in the order in which they are merged; `none` for an unknown protocol. -/
def parameters (serverIP : Addr) (protocol : Protocol) : Option (List Parameter) :=
  let common := [ignoreRoute, ping, pingRestart, pingTimerRem]
  if serverIP.is6 then
    match protocol with
    | .udp => some (common ++ [protoUdp6])
    | .tcp => some (common ++ [protoTcp6])
    | .unknown => none
  else some (ignoreIfconfig :: common)

/-- The lines that `addExtraParameters` computes and drops. -/
def mergeParameters (args : List String) (parameters : List Parameter) : List String :=
  parameters.foldl (fun args p => addOrReplaceArgument args p.arg p.regex) args

/-- `addExtraParameters`: the text that the caller has afterwards, which is the one it gave. -/
def addExtraParameters (data : String) (serverIP : Addr) (protocol : Protocol) : Option String :=
  (parameters serverIP protocol).map fun parameters =>
    let _ := mergeParameters (splitLines data) parameters
    data

/-! ### The file -/

/-- What the file system and the template answer. -/
structure ConfigEnv where
  /-- `FileRead` of the template, by `obfuscated` -/
  template : Bool → Option String
  generateConfig : Addr → String → String → Option String
  fileExists : Bool := false
  fileUnlock : Bool := true
  fileCreate : Bool := true
  write : Bool := true
  close : Bool := true

inductive ConfigError where
  | serverVersion | gettingIdentifier | readingTemplate | generating | addingParameters
  | unlocking | creating | writing | closing
deriving DecidableEq, Repr

/-- `getConfigIdentifier`. -/
def getConfigIdentifier (protocol : Protocol) (obfuscated : Bool) : Option String :=
  match protocol with
  | .udp => some (if obfuscated then "openvpn_xor_udp" else "openvpn_udp")
  | .tcp => some (if obfuscated then "openvpn_xor_tcp" else "openvpn_tcp")
  | .unknown => none

/-- Writing the text to `openVPNConfigFileName`. -/
def writeConfigFile (r : ConfigEnv) (out : String) : Except ConfigError String :=
  if r.fileExists then
    if r.fileUnlock then
      if r.write then .ok out else .error .writing
    else .error .unlocking
  else if r.fileCreate then
    if r.write then
      if r.close then .ok out else .error .closing
    else .error .writing
  else .error .creating

/-- `generateConfigFile`: the content of the file if it returns `nil`. -/
def generateConfigFile (r : ConfigEnv) (protocol : Protocol) (serverIP : Addr) (obfuscated : Bool) :
    Except ConfigError String :=
  match getConfigIdentifier protocol obfuscated with
  | none => .error .gettingIdentifier
  | some identifier => match r.template obfuscated with
    | none => .error .readingTemplate
    | some template => match r.generateConfig serverIP identifier template with
      | none => .error .generating
      | some text => match addExtraParameters text serverIP protocol with
        | none => .error .addingParameters
        | some out => writeConfigFile r out

/-- `setOpenVPNConfig`. -/
def setOpenVPNConfig (r : ConfigEnv) (protocol : Protocol) (serverIP : Addr) (obfuscated : Bool)
    (serverVersion : String) : Except ConfigError String :=
  if serverVersion = "" then .error .serverVersion
  else generateConfigFile r protocol serverIP obfuscated

/-- The text that the template gives for the server. -/
def ConfigEnv.templateText (r : ConfigEnv) (protocol : Protocol) (serverIP : Addr)
    (obfuscated : Bool) : Option String := do
  let identifier ← getConfigIdentifier protocol obfuscated
  let template ← r.template obfuscated
  r.generateConfig serverIP identifier template

/-! ### Enforcement -/

/-- The words of a line: OpenVPN separates them by blanks and tabs. -/
def optionWords (line : String) : List String :=
  ((line.toList.splitOnP fun c => c == ' ' || c == '\t').filter (· ≠ [])).map String.ofList

/-- The line gives `ping` or `ping-restart` another argument. -/
def conflicts (line : String) : Bool :=
  match optionWords line with
  | name :: args => (name == "ping" && args != ["15"]) || (name == "ping-restart" && args != ["0"])
  | [] => false

/-- The lines that the file has to have. -/
def requiredLines (serverIP : Addr) (protocol : Protocol) : List String :=
  [ignoreRoute.arg, ping.arg, pingRestart.arg, pingTimerRem.arg] ++
  (if serverIP.is4 then [ignoreIfconfig.arg] else []) ++
  (if serverIP.is6 then
    match protocol with
    | .udp => [protoUdp6.arg]
    | .tcp => [protoTcp6.arg]
    | .unknown => []
  else [])

/-- The lines have the parameters, and none that contradicts them. -/
structure Carries (serverIP : Addr) (protocol : Protocol) (lines : List String) : Prop where
  required : ∀ line ∈ requiredLines serverIP protocol, line ∈ lines
  noConflict : ∀ line ∈ lines, conflicts line = false

/-- The file enforces the parameters, and keeps the other lines of the text in order. -/
structure Enforces (serverIP : Addr) (protocol : Protocol) (text file : String) : Prop
    extends Carries serverIP protocol (splitLines file) where
  keeps : ((splitLines text).filter fun line =>
    !conflicts line && !(requiredLines serverIP protocol).contains line).Sublist (splitLines file)

theorem eq_of_writeConfigFile {r : ConfigEnv} {out file : String}
    (h : writeConfigFile r out = .ok file) : file = out := by
  unfold writeConfigFile at h
  split_ifs at h <;> (cases h; rfl)

/-- The file is the text that the template gave. -/
theorem file_eq_text {r : ConfigEnv} {protocol : Protocol} {serverIP : Addr} {obfuscated : Bool}
    {text file : String} (htext : r.templateText protocol serverIP obfuscated = some text)
    (h : generateConfigFile r protocol serverIP obfuscated = .ok file) : file = text := by
  obtain ⟨identifier, hidentifier, htext⟩ := Option.bind_eq_some_iff.mp htext
  obtain ⟨template, htemplate, htext⟩ := Option.bind_eq_some_iff.mp htext
  simp only [generateConfigFile, hidentifier, htemplate, htext] at h
  split at h
  · cases h
  · rename_i out hout
    obtain ⟨_, -, rfl⟩ := Option.map_eq_some_iff.mp hout
    exact eq_of_writeConfigFile h

/-- The file that is written enforces the parameters exactly if the text of the template already has
them, and no line that contradicts them. -/
theorem config_file_enforces_iff {r : ConfigEnv} {protocol : Protocol} {serverIP : Addr}
    {obfuscated : Bool} {text file : String}
    (htext : r.templateText protocol serverIP obfuscated = some text)
    (h : generateConfigFile r protocol serverIP obfuscated = .ok file) :
    Enforces serverIP protocol text file ↔ Carries serverIP protocol (splitLines text) := by
  obtain rfl := file_eq_text htext h
  constructor
  · exact fun henforces => henforces.toCarries
  · exact fun hcarries => ⟨hcarries, List.filter_sublist⟩

/-- A template that gives the text to every server. -/
def fixedTemplate (text : String) : ConfigEnv where
  template _ := some ""
  generateConfig _ _ _ := some text

/-- A text with the five parameters of a server with an IPv4 address. -/
def carryingText : String :=
  "client\nping 15\nping-restart 0\nping-timer-rem\npull-filter ignore \"route-ipv6\"\n" ++
  "pull-filter ignore \"ifconfig-ipv6\""

theorem carrying_template_enforces : Enforces (.v4 0x0a050002) .udp carryingText carryingText := by
  have hfile : generateConfigFile (fixedTemplate carryingText) .udp (.v4 0x0a050002) false =
    .ok carryingText := rfl
  apply (config_file_enforces_iff rfl hfile).mpr
  constructor
  · decide +kernel
  · decide +kernel

/-- The template leaves the parameters to the daemon, and so the file has none of them. -/
theorem parameters_not_written :
    generateConfigFile (fixedTemplate "client\nping 10") .udp (.v4 0x0a050002) false =
      .ok "client\nping 10" ∧
    ¬ Enforces (.v4 0x0a050002) .udp "client\nping 10" "client\nping 10" :=
  ⟨rfl, fun h => absurd (h.required "ping 15") (by decide)⟩

end NordVPN.OpenVPN
