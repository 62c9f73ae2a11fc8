import NordVPN.Networker.Combined

/-!
The names of firewall rules.

Names of meshnet rules are composed at run time from a peer's key and address, the
others are constants. They share the one memory of the firewall service, so it has
to be known that they do not clash: the text of an address has no dash, which makes
a composed name readable from its end.
-/

namespace NordVPN.Networker

open NordVPN.Netip

/-! ### Names of the rules of one peer -/

/-- The rules a peer can have. -/
inductive PeerRule where
  | allow | blockLan | fileshare
deriving DecidableEq

/-- What stands between key and address in the name of the rule. -/
def PeerRule.infixText : PeerRule → String
  | .allow => "-allow-rule-"
  | .blockLan => "-block-lan-rule-"
  | .fileshare => "-allow-fileshare-rule-"

def peerRuleName (kind : PeerRule) (publicKey : String) (address : Addr) : String :=
  publicKey ++ kind.infixText ++ address.toString

theorem allowIncomingName_eq (publicKey : String) (address : Addr) :
    allowIncomingName publicKey address = peerRuleName .allow publicKey address := rfl

theorem blockLanName_eq (publicKey : String) (address : Addr) :
    blockLanName publicKey address = peerRuleName .blockLan publicKey address := rfl

/-- A name read backwards from its last dash. -/
def stem (name : String) : List Char := name.toList.reverse.dropWhile (· != '-')

/-- What follows the last dash of a name, read backwards. -/
def tip (name : String) : List Char := name.toList.reverse.takeWhile (· != '-')

section

variable (kind : PeerRule) (publicKey : String) (address : Addr)

theorem toList_peerRuleName : (peerRuleName kind publicKey address).toList.reverse =
    address.text.reverse ++ (kind.infixText.toList.reverse ++ publicKey.toList.reverse) := by
  simp [peerRuleName, Addr.toString]

theorem dash_reverse_text : ∀ c ∈ address.text.reverse, (c != '-') = true := by
  intro c hc
  rw [bne_iff_ne]
  rintro rfl
  exact address.dash_text (List.mem_reverse.mp hc)

theorem stem_peerRuleName : stem (peerRuleName kind publicKey address) =
    kind.infixText.toList.reverse ++ publicKey.toList.reverse := by
  rw [stem, toList_peerRuleName, List.dropWhile_append_of_pos (dash_reverse_text address)]
  cases kind <;> rfl

theorem tip_peerRuleName : tip (peerRuleName kind publicKey address) = address.text.reverse := by
  rw [tip, toList_peerRuleName, List.takeWhile_append_of_pos (dash_reverse_text address)]
  cases kind <;> simp [PeerRule.infixText]

end

/-- The name of a peer's rule determines the kind of the rule, the key and the text of
the address. -/
theorem peerRuleName_inj {kind kind' : PeerRule} {publicKey publicKey' : String}
    {address address' : Addr}
    (h : peerRuleName kind publicKey address = peerRuleName kind' publicKey' address') :
    kind = kind' ∧ publicKey = publicKey' ∧ address.toString = address'.toString := by
  have hstem := congrArg stem h
  rw [stem_peerRuleName, stem_peerRuleName] at hstem
  have hkind : kind = kind' := by
    have := congrArg (List.take 7) hstem
    cases kind <;> cases kind' <;> first | rfl | exact absurd this (by simp [PeerRule.infixText])
  subst hkind
  refine ⟨rfl, String.toList_inj.mp (List.reverse_injective (List.append_cancel_left hstem)), ?_⟩
  have htip := congrArg tip h
  rw [tip_peerRuleName, tip_peerRuleName] at htip
  rw [Addr.toString, Addr.toString, List.reverse_injective htip]

section

variable {publicKey publicKey' : String} {address address' : Addr}

theorem allowIncomingName_ne_blockLan :
    allowIncomingName publicKey address ≠ blockLanName publicKey' address' :=
  fun h => nomatch (@peerRuleName_inj .allow .blockLan _ _ _ _ h).1

theorem allowFileshareName_ne_allow :
    allowFileshareName publicKey address ≠ allowIncomingName publicKey' address' :=
  fun h => nomatch (@peerRuleName_inj .fileshare .allow _ _ _ _ h).1

theorem allowFileshareName_ne_blockLan :
    allowFileshareName publicKey address ≠ blockLanName publicKey' address' :=
  fun h => nomatch (@peerRuleName_inj .fileshare .blockLan _ _ _ _ h).1

/-- Two rules of one peer go together: the name of one determines that of the other. -/
theorem allowIncomingName_eq_iff :
    allowIncomingName publicKey address = allowIncomingName publicKey' address' ↔
      blockLanName publicKey address = blockLanName publicKey' address' := by
  constructor <;> intro h
  · obtain ⟨-, hkey, haddr⟩ := @peerRuleName_inj .allow .allow _ _ _ _ h
    rw [blockLanName, blockLanName, hkey, haddr]
  · obtain ⟨-, hkey, haddr⟩ := @peerRuleName_inj .blockLan .blockLan _ _ _ _ h
    rw [allowIncomingName, allowIncomingName, hkey, haddr]

end

/-! ### Meshnet names and constant names -/

/-- The names that `netw.rules` keeps track of. -/
inductive MeshName : String → Prop where
  | block : MeshName meshBlockName
  | established : MeshName meshEstablishedName
  | denyDNS : MeshName denyDNSName
  | peer (kind : PeerRule) (publicKey : String) (address : Addr) :
      MeshName (peerRuleName kind publicKey address)

def killSwitchNames : List String := ["drop-fw", "drop", "api_allowlist"]

def ipv6Names : List String :=
  ["vpn_allowlist_icmp6_errors", "vpn_allowlist_icmp6_address", "vpn_allowlist_icmp6_multicast",
    "vpn_allowlist_dhcp6_in", "vpn_allowlist_dhcp6_out"]

/-- The names of the rules that `netw.rules` does not keep track of. -/
def untrackedNames : List String := killSwitchNames ++ allowlistRuleNames ++ ipv6Names

variable (kind : PeerRule) (publicKey : String) (address : Addr)

/-- The name of a peer's rule ends, before its address, with `-rule-`. -/
theorem take_stem_peerRuleName :
    (stem (peerRuleName kind publicKey address)).take 6 = "-elur-".toList := by
  rw [stem_peerRuleName]
  cases kind <;> simp [PeerRule.infixText]

/-- A name that does not end with `-rule-` before its last part is no peer's. -/
theorem peerRuleName_ne {name : String} (h : (stem name).take 6 ≠ "-elur-".toList)
    (kind : PeerRule) (publicKey : String) (address : Addr) :
    peerRuleName kind publicKey address ≠ name := by
  rintro rfl
  exact h (take_stem_peerRuleName kind publicKey address)

theorem MeshName.not_untracked {name : String} (h : MeshName name) : name ∉ untrackedNames := by
  cases h with
  | block => decide
  | established => decide
  | denyDNS => decide
  | peer kind publicKey address =>
    intro hmem
    have hconst : ∀ n ∈ untrackedNames, (stem n).take 6 ≠ "-elur-".toList := by decide
    exact hconst _ hmem (take_stem_peerRuleName kind publicKey address)

theorem peerRuleName_ne_denyDNS : peerRuleName kind publicKey address ≠ denyDNSName :=
  peerRuleName_ne (by decide) kind publicKey address

theorem peerRuleName_ne_meshBlock : peerRuleName kind publicKey address ≠ meshBlockName :=
  peerRuleName_ne (by decide) kind publicKey address

theorem peerRuleName_ne_meshEstablished :
    peerRuleName kind publicKey address ≠ meshEstablishedName :=
  peerRuleName_ne (by decide) kind publicKey address

/-- The meshnet names other than that of the rule against DNS leaks. -/
def PeerName (name : String) : Prop := MeshName name ∧ name ≠ denyDNSName

theorem PeerName.block : PeerName meshBlockName := ⟨.block, by decide⟩

theorem PeerName.established : PeerName meshEstablishedName := ⟨.established, by decide⟩

theorem PeerName.peer : PeerName (peerRuleName kind publicKey address) :=
  ⟨.peer _ _ _, peerRuleName_ne_denyDNS _ _ _⟩

theorem peerRuleName_ne_empty : peerRuleName kind publicKey address ≠ "" :=
  peerRuleName_ne (by decide) kind publicKey address

end NordVPN.Networker
