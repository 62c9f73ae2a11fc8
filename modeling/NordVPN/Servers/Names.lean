import Mathlib.Data.List.DropRight
import NordVPN.Servers.Server

/-!
Names of places and servers as the daemon compares them (`internal/string.go`,
`config/server_groups.go`, `nstrings`).

The case tables of package `unicode` are a parameter: only their values on ASCII are fixed. A name
that went through `SnakeCase` or `Title` is ASCII, so the tables matter for tags and host names
only.
-/

namespace NordVPN.Servers

open NordVPN.Daemon

/-! ### Case -/

/-- The tables behind `strings.ToLower`, `strings.ToUpper` and `strings.EqualFold`. -/
structure CaseTables where
  toLower : Char → Char
  toUpper : Char → Char
  /-- one character of each orbit of `unicode.SimpleFold` -/
  fold : Char → Char
  toLower_ascii : ∀ c, c.toNat < 128 → toLower c = c.toLower
  toUpper_ascii : ∀ c, c.toNat < 128 → toUpper c = c.toUpper
  fold_ascii : ∀ c, c.toNat < 128 → fold c = c.toLower

namespace CaseTables

/-- `strings.ToLower`. -/
def lower (u : CaseTables) (s : String) : String := String.ofList (s.toList.map u.toLower)

/-- `strings.ToUpper`. -/
def upper (u : CaseTables) (s : String) : String := String.ofList (s.toList.map u.toUpper)

/-- `strings.EqualFold`. -/
def equalFold (u : CaseTables) (s t : String) : Bool := s.toList.map u.fold == t.toList.map u.fold

/-- The tables without the characters outside ASCII. -/
def ascii : CaseTables where
  toLower := Char.toLower
  toUpper := Char.toUpper
  fold := Char.toLower
  toLower_ascii _ _ := rfl
  toUpper_ascii _ _ := rfl
  fold_ascii _ _ := rfl

end CaseTables

/-! ### Lower case

On ASCII texts `EqualFold` compares what `ToLower` makes of them.
-/

/-- An ASCII text without capitals. -/
def IsLower (s : String) : Prop := ∀ c ∈ s.toList, c.toNat < 128 ∧ c.toLower = c

/-- An ASCII text. -/
def IsAscii (s : String) : Prop := ∀ c ∈ s.toList, c.toNat < 128

instance (s : String) : Decidable (IsLower s) := List.decidableBAll _ s.toList

instance (s : String) : Decidable (IsAscii s) := List.decidableBAll _ s.toList

section Lower

theorem toLower_of_ascii : ∀ c : Char, c.toNat < 128 →
    c.toLower.toNat < 128 ∧ c.toLower.toLower = c.toLower := by
  have hall : ∀ n < 128, (Char.ofNat n).toLower.toNat < 128 ∧
      (Char.ofNat n).toLower.toLower = (Char.ofNat n).toLower := by decide
  intro c hc
  have h := hall c.toNat hc
  rwa [Char.ofNat_toNat] at h

variable {u : CaseTables} {s t : String}

theorem isLower_lower (h : IsAscii s) : IsLower (u.lower s) := by
  intro c hc
  rw [CaseTables.lower, String.toList_ofList] at hc
  obtain ⟨d, hd, rfl⟩ := List.mem_map.mp hc
  rw [u.toLower_ascii d (h d hd)]
  exact toLower_of_ascii d (h d hd)

theorem IsLower.isAscii (h : IsLower s) : IsAscii s := fun c hc => (h c hc).1

theorem map_of_isLower {f : Char → Char} (hf : ∀ c, c.toNat < 128 → f c = c.toLower)
    (h : IsLower s) : s.toList.map f = s.toList := by
  have heq : s.toList.map f = s.toList.map id :=
    List.map_congr_left fun c hc => (hf c (h c hc).1).trans (h c hc).2
  rw [heq, List.map_id]

theorem lower_of_isLower (h : IsLower s) : u.lower s = s := by
  rw [CaseTables.lower, map_of_isLower u.toLower_ascii h, String.ofList_toList]

/-- `EqualFold` compares ASCII texts in lower case. -/
theorem equalFold_ascii (hs : IsAscii s) (ht : IsAscii t) :
    u.equalFold s t = true ↔ u.lower s = u.lower t := by
  have hfold {x : String} (hx : IsAscii x) : x.toList.map u.fold = x.toList.map u.toLower :=
    List.map_congr_left fun c hc =>
      (u.fold_ascii c (hx c hc)).trans (u.toLower_ascii c (hx c hc)).symm
  rw [CaseTables.equalFold, hfold hs, hfold ht, beq_iff_eq, CaseTables.lower, CaseTables.lower]
  constructor
  · exact congrArg String.ofList
  · intro h
    rw [← String.toList_ofList (l := s.toList.map u.toLower), h, String.toList_ofList]

/-- `EqualFold` with a text in lower case. -/
theorem equalFold_iff (hs : IsLower s) (ht : IsAscii t) :
    u.equalFold s t = true ↔ s = u.lower t := by
  rw [equalFold_ascii hs.isAscii ht, lower_of_isLower hs]

end Lower

/-! ### Names -/

/-- The characters that `notAlphanumeric` leaves. -/
def isAlphanumeric (c : Char) : Bool := c.isAlphanum || c == ' ' || c == '-' || c == '_'

/-- `RemoveNonAlphanumeric`. -/
def removeNonAlphanumeric (name : String) : String :=
  String.ofList (name.toList.filter isAlphanumeric)

/-- The words of a name between its blanks. -/
def words (name : List Char) : List (List Char) := (name.splitOn ' ').filter fun v => !v.isEmpty

/-- `SnakeCase`. What `RemoveNonAlphanumeric` leaves is ASCII. -/
def snakeCase (name : String) : String :=
  let lower :=
    (words (removeNonAlphanumeric name).toList).flatMap fun v => v.map Char.toLower ++ ['_']
  String.ofList (lower.rdropWhile (· == '_'))

/-- `cases.Title` with `NoLower` on ASCII: the first letter after a break is a capital. -/
def titleFrom : Bool → List Char → List Char
  | _, [] => []
  | midWord, c :: cs =>
    if c.isAlpha then (if midWord then c else c.toUpper) :: titleFrom true cs
    else c :: titleFrom (midWord && !(c == ' ' || c == '-')) cs

/-- `Title`. -/
def title (name : String) : String :=
  let fields := [' '].intercalate (words (removeNonAlphanumeric name).toList)
  String.ofList ((titleFrom false fields).map fun c => if c == ' ' then '_' else c)

example : snakeCase "Bosnia & Herzegovina" = "bosnia_herzegovina" := by decide
example : title "New york" = "New_York" := by decide

/-- `config.GroupMap`. -/
def groupMap : List (String × ServerGroup) :=
  [("double_vpn", .doubleVPN), ("onion_over_vpn", .onionOverVPN), ("dedicated_ip", .dedicatedIP),
    ("standard_vpn_servers", .standardVPNServers), ("p2p", .p2p), ("europe", .europe),
    ("the_americas", .theAmericas), ("asia_pacific", .asiaPacific),
    ("africa_the_middle_east_and_india", .africaMiddleEastIndia),
    ("obfuscated_servers", .obfuscated)]

/-- `groupConvert`. -/
def groupConvert (group : String) : ServerGroup :=
  (groupMap.lookup (snakeCase group)).getD .undefined

/-- `nstrings.BoolFromString`. -/
def boolFromString (u : CaseTables) (arg : String) : Option Bool :=
  let arg := u.lower arg
  if ["0", "false", "disable", "disabled", "off"].contains arg then some false
  else if ["1", "true", "enable", "enabled", "on"].contains arg then some true
  else none

/-! ### Servers -/

namespace Server

/-- `Country`. -/
def country (s : Server) : Option Location := s.locations.head?

/-- `getSpecificationsForIdentifier`. -/
def specificationsForIdentifier (s : Server) (identifier : String) : List String :=
  ((s.specifications.find? fun spec => spec.identifier == identifier).map (·.values)).getD []

/-- `IsVirtualLocation`. -/
def isVirtualLocation (u : CaseTables) (s : Server) : Bool :=
  match (s.specificationsForIdentifier "virtual_location").head? with
  | none => false
  | some value => (boolFromString u value).getD false

def inGroup (group : ServerGroup) (s : Server) : Bool := s.groups.any fun g => g.id == group

/-- `isDedicatedIP`. -/
def isDedicatedIP (s : Server) : Bool := s.inGroup .dedicatedIP

end Server

/-- The code of a country in the keys of its servers. -/
def keyCode (code : String) : String := if snakeCase code = "gb" then "uk" else snakeCase code

/-- `generateKeys` for a server of that country; it fails without one. -/
def generateKeys (u : CaseTables) (country : Location) (server : Server) : List String :=
  [snakeCase country.name, keyCode country.code,
    snakeCase country.name ++ " " ++ snakeCase country.city.name,
    keyCode country.code ++ " " ++ snakeCase country.city.name,
    snakeCase country.city.name, u.lower server.hostnameID] ++
    server.groups.map fun group => snakeCase group.title

end NordVPN.Servers
