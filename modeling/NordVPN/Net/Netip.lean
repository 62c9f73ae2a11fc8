import Mathlib.Data.BitVec

/-!
Go's `net/netip` as far as the daemon uses it: addresses, prefixes, their text
form and `ParsePrefix`, after the toolchain `src/go.mod` names (go 1.22.2).

Addresses carry no IPv6 zone: meshnet addresses belong to `100.64.0.0/10`, and
`ParsePrefix` rejects zones.
-/

namespace NordVPN.Netip

/-- `netip.Addr`. The zero value `Addr{}` is `invalid`. -/
inductive Addr where
  | invalid
  | v4 (bits : BitVec 32)
  | v6 (bits : BitVec 128)
deriving DecidableEq, Repr

variable {a : Addr}

namespace Addr

def isValid : Addr → Bool
  | .invalid => false
  | _ => true

def is4 : Addr → Bool
  | .v4 _ => true
  | _ => false

def is6 : Addr → Bool
  | .v6 _ => true
  | _ => false

def bitLen : Addr → Nat
  | .invalid => 0
  | .v4 _ => 32
  | .v6 _ => 128

/-- The unspecified address of either family. -/
def isUnspecified : Addr → Bool
  | .invalid => false
  | .v4 a => a == 0
  | .v6 a => a == 0

def ofBytes (a b c d : Nat) : Addr := .v4 (BitVec.ofNat 32 (((a * 256 + b) * 256 + c) * 256 + d))

def isPrivate : Addr → Bool
  | .invalid => false
  | .v4 a => a.toNat / 2 ^ 24 == 10 || a.toNat / 2 ^ 20 == 172 * 16 + 1 ||
      a.toNat / 2 ^ 16 == 192 * 256 + 168
  | .v6 a => a.toNat / 2 ^ 121 == 0xfc / 2

def isLinkLocalUnicast : Addr → Bool
  | .invalid => false
  | .v4 a => a.toNat / 2 ^ 16 == 169 * 256 + 254
  | .v6 a => a.toNat / 2 ^ 118 == 0xfe80 / 64

/-! ### Text form -/

/-- Dotted decimal. -/
def text4 (n : Nat) : List Char :=
  Nat.toDigits 10 (n / 2 ^ 24 % 256) ++ '.' :: (Nat.toDigits 10 (n / 2 ^ 16 % 256) ++
    '.' :: (Nat.toDigits 10 (n / 2 ^ 8 % 256) ++ '.' :: Nat.toDigits 10 (n % 256)))

/-- The eight 16-bit groups of an IPv6 address, first group first. -/
def groups (n : Nat) : List Nat :=
  (List.range 8).map fun i => n / 2 ^ (16 * (7 - i)) % 2 ^ 16

/-- The number of zero groups a list starts with. -/
def zeroRun : List Nat → Nat
  | 0 :: gs => zeroRun gs + 1
  | _ => 0

/-- Start and length of the first longest run of zero groups. -/
def longestRun (gs : List Nat) : Nat × Nat :=
  (List.range gs.length).foldl
    (fun best i => if best.2 < zeroRun (gs.drop i) then (i, zeroRun (gs.drop i)) else best) (0, 0)

/-- Groups in hexadecimal, separated by colons. -/
def hexGroups : List Nat → List Char
  | [] => []
  | [g] => Nat.toDigits 16 g
  | g :: gs => Nat.toDigits 16 g ++ ':' :: hexGroups gs

/-- Hexadecimal groups, with the longest run of two or more zero groups elided. -/
def text6 (n : Nat) : List Char :=
  if n / 2 ^ 32 = 0xffff then "::ffff:".toList ++ text4 (n % 2 ^ 32)
  else
    let gs := groups n
    let run := longestRun gs
    if 2 ≤ run.2 then hexGroups (gs.take run.1) ++ ':' :: ':' :: hexGroups (gs.drop (run.1 + run.2))
    else hexGroups gs

/-- `Addr.String`. -/
def text : Addr → List Char
  | .invalid => "invalid IP".toList
  | .v4 a => text4 a.toNat
  | .v6 a => text6 a.toNat

def toString (a : Addr) : String := String.ofList a.text

/-! The text of a valid address is made of digits, dots and colons. -/

section Characters

variable {P : Char → Prop} (hdigit : ∀ d, P (Nat.digitChar d)) (hdot : P '.') (hcolon : P ':')
include hdigit

theorem forall_toDigitsCore (b fuel n : Nat) (ds : List Char) (h : ∀ c ∈ ds, P c) :
    ∀ c ∈ Nat.toDigitsCore b fuel n ds, P c := by
  induction fuel generalizing n ds with
  | zero => exact h
  | succ fuel ih =>
    have hd : ∀ c ∈ (n % b).digitChar :: ds, P c := List.forall_mem_cons.mpr ⟨hdigit _, h⟩
    simp only [Nat.toDigitsCore]
    split
    · exact hd
    · exact ih _ _ hd

theorem forall_toDigits (b n : Nat) : ∀ c ∈ Nat.toDigits b n, P c :=
  forall_toDigitsCore hdigit b _ _ _ (List.forall_mem_nil _)

include hdot in
theorem forall_text4 (n : Nat) : ∀ c ∈ text4 n, P c := by
  simp only [text4, List.forall_mem_append, List.forall_mem_cons]
  exact ⟨forall_toDigits hdigit _ _, hdot, forall_toDigits hdigit _ _, hdot,
    forall_toDigits hdigit _ _, hdot, forall_toDigits hdigit _ _⟩

include hcolon in
theorem forall_hexGroups (gs : List Nat) : ∀ c ∈ hexGroups gs, P c := by
  fun_induction hexGroups gs with
  | case1 => exact List.forall_mem_nil _
  | case2 g => exact forall_toDigits hdigit 16 g
  | case3 g gs _ ih =>
    simp only [List.forall_mem_append, List.forall_mem_cons]
    exact ⟨forall_toDigits hdigit 16 g, hcolon, ih⟩

include hdot hcolon

theorem forall_text6 (n : Nat) : ∀ c ∈ text6 n, P c := by
  have hgroups := forall_hexGroups hdigit hcolon
  unfold text6
  split
  · have hf : P 'f' := hdigit 15
    refine List.forall_mem_append.mpr ⟨?_, forall_text4 hdigit hdot _⟩
    simp [hcolon, hf]
  · dsimp only
    split
    · simp only [List.forall_mem_append, List.forall_mem_cons]
      exact ⟨hgroups _, hcolon, hcolon, hgroups _⟩
    · exact hgroups _

theorem forall_text (h : a.isValid = true) : ∀ c ∈ a.text, P c := by
  cases a with
  | invalid => cases h
  | v4 a => exact forall_text4 hdigit hdot _
  | v6 a => exact forall_text6 hdigit hdot hcolon _

end Characters

/-- From 16 on, `Nat.digitChar` gives a star. -/
theorem digitChar_ne {c : Char} (hstar : c ≠ '*') (h : ∀ d < 16, Nat.digitChar d ≠ c) (d : Nat) :
    Nat.digitChar d ≠ c := by
  rcases Nat.lt_or_ge d 16 with hd | hd
  · exact h d hd
  · obtain ⟨k, rfl⟩ := Nat.exists_eq_add_of_le' hd
    exact hstar.symm

theorem dash_text (a : Addr) : '-' ∉ a.text := by
  by_cases h : a.isValid = true
  · intro hmem
    exact forall_text (P := (· ≠ '-')) (digitChar_ne (by decide) (by decide)) (by decide)
      (by decide) h _ hmem rfl
  · cases a with
    | invalid => decide
    | v4 a | v6 a => exact absurd rfl h

end Addr

/-- `netip.Prefix`. The zero value is `Prefix{}`: no address and no bits. -/
structure Prefix where
  addr : Addr
  bitsPlusOne : Nat
deriving DecidableEq, Repr

namespace Prefix

/-- `netip.Prefix{}`, the prefix that stands for no restriction. -/
def zero : Prefix := ⟨.invalid, 0⟩

/-- `netip.PrefixFrom`: out-of-range bits give an invalid prefix of that address. -/
def ofAddr (ip : Addr) (bits : Nat) : Prefix :=
  ⟨ip, if ip.isValid && bits ≤ ip.bitLen then bits + 1 else 0⟩

/-- The prefix of one address only: `netip.PrefixFrom(address, address.BitLen())`. -/
def single (ip : Addr) : Prefix := ofAddr ip ip.bitLen

def isValid (p : Prefix) : Bool := p.bitsPlusOne != 0

def bits (p : Prefix) : Nat := p.bitsPlusOne - 1

/-- `Prefix.Contains`: families never mix. -/
def contains (p : Prefix) (ip : Addr) : Bool :=
  p.isValid && match p.addr, ip with
    | .v4 a, .v4 b => a.toNat / 2 ^ (32 - p.bits) == b.toNat / 2 ^ (32 - p.bits)
    | .v6 a, .v6 b => a.toNat / 2 ^ (128 - p.bits) == b.toNat / 2 ^ (128 - p.bits)
    | _, _ => false

/-- `Prefix.Masked`: the bits beyond the prefix are cleared. -/
def masked (p : Prefix) : Prefix :=
  { p with
    addr := match p.addr with
      | .v4 a => .v4 (BitVec.ofNat 32 (a.toNat / 2 ^ (32 - p.bits) * 2 ^ (32 - p.bits)))
      | .v6 a => .v6 (BitVec.ofNat 128 (a.toNat / 2 ^ (128 - p.bits) * 2 ^ (128 - p.bits)))
      | .invalid => .invalid }

def text (p : Prefix) : List Char :=
  if p.isValid then p.addr.text ++ '/' :: Nat.toDigits 10 p.bits else "invalid Prefix".toList

def toString (p : Prefix) : String := String.ofList p.text

theorem single_ne_zero (h : a.isValid = true) : single a ≠ zero := by
  intro heq
  have : a = .invalid := congrArg Prefix.addr heq
  rw [this] at h
  exact absurd h (by decide)

theorem not_mem_single (h : a.isValid = true) {c : Char} (hdigit : ∀ d, Nat.digitChar d ≠ c)
    (hmark : c ∉ ['.', ':', '/']) : c ∉ (single a).text := by
  simp only [List.mem_cons, List.not_mem_nil, or_false, not_or] at hmark
  obtain ⟨hdot, hcolon, hslash⟩ := hmark
  have hvalid : (single a).isValid = true := by
    simp [single, ofAddr, isValid, h]
  rw [text, if_pos hvalid, List.mem_append, List.mem_cons, not_or, not_or]
  exact ⟨fun hm => Addr.forall_text (P := (· ≠ c)) hdigit (Ne.symm hdot)
    (Ne.symm hcolon) h _ hm rfl,
    hslash, fun hm => Addr.forall_toDigits (P := (· ≠ c)) hdigit _ _ _ hm rfl⟩

/-- The prefix of a valid address is printed as one word. -/
theorem blank_single (h : a.isValid = true) : ' ' ∉ (single a).text :=
  not_mem_single h (Addr.digitChar_ne (by decide) (by decide)) (by decide)

theorem dash_single (h : a.isValid = true) : '-' ∉ (single a).text :=
  not_mem_single h (Addr.digitChar_ne (by decide) (by decide)) (by decide)

end Prefix

/-! ### Parsing -/

/-- Digits of a decimal field, most significant first. -/
def digitsVal (ds : List Char) : Nat := ds.foldl (fun n c => n * 10 + (c.toNat - '0'.toNat)) 0

/-- An octet: decimal digits, no leading zero, at most 255. -/
def parseOctet (ds : List Char) : Option Nat :=
  if ds.isEmpty || ds.any (fun c => !c.isDigit) || (1 < ds.length && ds.head? == some '0') ||
      255 < digitsVal ds then none
  else some (digitsVal ds)

/-- `parseIPv4`: four octets separated by dots. -/
def parse4 (s : List Char) : Option Nat :=
  match (s.splitOn '.').map parseOctet with
  | [some a, some b, some c, some d] => some (((a * 256 + b) * 256 + c) * 256 + d)
  | _ => none

def hexVal (c : Char) : Option Nat :=
  if c.isDigit then some (c.toNat - '0'.toNat)
  else if 'a' ≤ c ∧ c ≤ 'f' then some (c.toNat - 'a'.toNat + 10)
  else if 'A' ≤ c ∧ c ≤ 'F' then some (c.toNat - 'A'.toNat + 10)
  else none

/-- The hexadecimal number a text starts with, its digit count and the rest. -/
def takeHex : List Char → Nat → Nat → Nat × Nat × List Char
  | [], acc, off => (acc, off, [])
  | c :: cs, acc, off =>
    match hexVal c with
    | some v => takeHex cs (acc * 16 + v) (off + 1)
    | none => (acc, off, c :: cs)

/-- The loop of `parseIPv6`: `done` holds the groups read so far and `ellipsis` the
position of `::` among them. `room` is the number of groups still missing, the
loop's bound. -/
def parse6Loop : Nat → List Char → List Nat → Option Nat → Option (List Nat × Option Nat)
  | 0, s, done, ellipsis => if s.isEmpty then some (done, ellipsis) else none
  | room + 1, s, done, ellipsis =>
    match takeHex s 0 0 with
    | (acc, off, rest) =>
      if off = 0 ∨ 4 < off then none
      else match rest with
        | '.' :: _ =>
          -- a trailing IPv4 address fills the last two groups
          if (ellipsis.isNone && done.length != 6) || room = 0 then none
          else (parse4 s).map fun n => (done ++ [n / 2 ^ 16, n % 2 ^ 16], ellipsis)
        | [] => some (done ++ [acc], ellipsis)
        | ':' :: [] => none
        | ':' :: ':' :: more =>
          if ellipsis.isSome then none
          else if more.isEmpty then some (done ++ [acc], some (done.length + 1))
          else parse6Loop room more (done ++ [acc]) (some (done.length + 1))
        | ':' :: more => parse6Loop room more (done ++ [acc]) ellipsis
        | _ => none

/-- `parseIPv6` for texts without a zone. -/
def parse6 (s : List Char) : Option Nat :=
  let read := match s with
    | ':' :: ':' :: rest =>
        if rest.isEmpty then some ([], some 0) else parse6Loop 8 rest [] (some 0)
    | _ => parse6Loop 8 s [] none
  match read with
  | none => none
  | some (gs, ellipsis) =>
    let full := match ellipsis with
      | none => if gs.length = 8 then some gs else none
      | some e =>
        -- the ellipsis stands for at least one group of zeros
        if gs.length < 8 then some (gs.take e ++ List.replicate (8 - gs.length) 0 ++ gs.drop e)
        else none
    full.map fun gs => gs.foldl (fun n g => n * 2 ^ 16 + g) 0

/-- `ParseAddr`: the first of `.`, `:` and `%` decides the family. -/
def parseAddr (s : List Char) : Option Addr :=
  match s.find? (fun c => c == '.' || c == ':' || c == '%') with
  | some '.' => (parse4 s).map fun n => .v4 (BitVec.ofNat 32 n)
  | some ':' => (parse6 s).map fun n => .v6 (BitVec.ofNat 128 n)
  | _ => none

/-- The text before and after the last slash. -/
def cutLastSlash (s : List Char) : Option (List Char × List Char) :=
  match s.reverse.span (· != '/') with
  | (tail, '/' :: head) => some (head.reverse, tail.reverse)
  | _ => none

/-- `netip.ParsePrefix`. The number of bits is decimal without leading zeros and
at most the length of the address. -/
def parsePrefix (s : String) : Option Prefix := do
  let (head, tail) ← cutLastSlash s.toList
  let ip ← parseAddr head
  if tail.isEmpty || tail.any (fun c => !c.isDigit) ||
    (1 < tail.length && tail.head? == some '0') ||
      ip.bitLen < digitsVal tail then none
  else some (Prefix.ofAddr ip (digitsVal tail))

example : parsePrefix "10.0.0.0/8" = some (Prefix.ofAddr (Addr.ofBytes 10 0 0 0) 8) := by decide
example : parsePrefix "10.0.0.0/08" = none := by decide
example : (parsePrefix "fe80::1/64").map Prefix.toString = some "fe80::1/64" := by decide

/-- `net.ParseCIDR`, the prefix it returns with the address as it was written. It cuts at the
first slash, and its number of bits may have leading zeros. -/
def parseCIDR (s : String) : Option Prefix :=
  match s.toList.span (· != '/') with
  | (head, '/' :: tail) => do
    let ip ← parseAddr head
    if tail.isEmpty || tail.any (fun c => !c.isDigit) || ip.bitLen < digitsVal tail then none
    else some (Prefix.ofAddr ip (digitsVal tail))
  | _ => none

example : parseCIDR "10.0.0.0/08" = some (Prefix.ofAddr (Addr.ofBytes 10 0 0 0) 8) := by decide
example : parseCIDR "10.0.0.0/8/8" = none := by decide

/-! A text that parses is made of digits, hexadecimal letters and separators. -/

def isAddrChar (c : Char) : Bool := (hexVal c).isSome || c == '.' || c == ':' || c == '/'

theorem isAddrChar_of_isDigit {c : Char} (h : c.isDigit = true) : isAddrChar c = true := by
  simp [isAddrChar, hexVal, h]

theorem mem_intercalate {x c : Char} {ls : List (List Char)} (h : c ∈ [x].intercalate ls) :
    c = x ∨ ∃ l ∈ ls, c ∈ l := by
  induction ls with
  | nil => cases h
  | cons l ls ih =>
    cases ls with
    | nil => exact .inr ⟨l, List.mem_cons_self, by simpa [List.intercalate] using h⟩
    | cons l' ls =>
      have hsplit : [x].intercalate (l :: l' :: ls) = l ++ x :: [x].intercalate (l' :: ls) := by
        simp [List.intercalate]
      rw [hsplit, List.mem_append, List.mem_cons] at h
      rcases h with h | h | h
      · exact .inr ⟨l, List.mem_cons_self, h⟩
      · exact .inl h
      · rcases ih h with h | ⟨m, hm, h⟩
        · exact .inl h
        · exact .inr ⟨m, List.mem_cons_of_mem l hm, h⟩

theorem isDigit_of_parseOctet {ds : List Char} {n : Nat} (h : parseOctet ds = some n) :
    ∀ c ∈ ds, c.isDigit = true := by
  intro c hc
  by_contra hdigit
  have hany : ds.any (fun c => !c.isDigit) = true :=
    List.any_eq_true.mpr ⟨c, hc, by simpa using hdigit⟩
  simp [parseOctet, hany] at h

variable {s : List Char}

theorem isAddrChar_of_parse4 {n : Nat} (h : parse4 s = some n) :
    ∀ c ∈ s, isAddrChar c = true := by
  intro c hc
  have hpieces : ∀ l ∈ s.splitOn '.', ∃ m, parseOctet l = some m := by
    unfold parse4 at h
    split at h
    · rename_i a b c d hmap
      intro l hl
      have hmem : parseOctet l ∈ (s.splitOn '.').map parseOctet := List.mem_map_of_mem hl
      rw [hmap] at hmem
      simp only [List.mem_cons, List.not_mem_nil, or_false] at hmem
      rcases hmem with h | h | h | h
      · exact ⟨a, h⟩
      · exact ⟨b, h⟩
      · exact ⟨c, h⟩
      · exact ⟨d, h⟩
    · cases h
  have hjoin : ['.'].intercalate (s.splitOn '.') = s := List.intercalate_splitOn '.'
  rw [← hjoin] at hc
  rcases mem_intercalate hc with rfl | ⟨l, hl, hcl⟩
  · decide
  · obtain ⟨m, hm⟩ := hpieces l hl
    exact isAddrChar_of_isDigit (isDigit_of_parseOctet hm c hcl)

theorem isAddrChar_of_takeHex {P : Char → Prop} (hP : ∀ c, isAddrChar c = true → P c)
    {rest : List Char} {acc off acc' off' : Nat} (h : takeHex s acc off = (acc', off', rest))
    (hrest : ∀ c ∈ rest, P c) : ∀ c ∈ s, P c := by
  induction s generalizing acc off with
  | nil => exact List.forall_mem_nil _
  | cons c cs ih =>
    unfold takeHex at h
    split at h
    · rename_i v hv
      refine List.forall_mem_cons.mpr ⟨hP c (by simp [isAddrChar, hv]), ih h⟩
    · cases h
      exact hrest

theorem isAddrChar_of_parse6Loop {room : Nat} {gs : List Nat} {e : Option Nat}
    {result : List Nat × Option Nat} (h : parse6Loop room s gs e = some result) :
    ∀ c ∈ s, isAddrChar c = true := by
  induction room generalizing s gs e with
  | zero =>
    unfold parse6Loop at h
    split at h
    · rename_i hempty
      rw [List.isEmpty_iff.mp hempty]
      exact List.forall_mem_nil _
    · cases h
  | succ room ih =>
    unfold parse6Loop at h
    split at h
    rename_i acc off rest htake
    have hhex := isAddrChar_of_takeHex (fun _ => id) htake
    have hcolon : isAddrChar ':' = true := by decide
    split at h
    · cases h
    · split at h
      · split at h
        · cases h
        · obtain ⟨n, hn, -⟩ := Option.map_eq_some_iff.mp h
          exact isAddrChar_of_parse4 hn
      · exact hhex (List.forall_mem_nil _)
      · cases h
      · rename_i more _
        refine hhex (List.forall_mem_cons.mpr ⟨hcolon, List.forall_mem_cons.mpr ⟨hcolon, ?_⟩⟩)
        split at h
        · cases h
        · split at h
          · rename_i hempty
            rw [List.isEmpty_iff.mp hempty]
            exact List.forall_mem_nil _
          · exact ih h
      · exact hhex (List.forall_mem_cons.mpr ⟨hcolon, ih h⟩)
      · cases h

theorem isAddrChar_of_parse6 {n : Nat} (h : parse6 s = some n) :
    ∀ c ∈ s, isAddrChar c = true := by
  unfold parse6 at h
  dsimp only at h
  have hcolon : isAddrChar ':' = true := by decide
  split at h
  · cases h
  · rename_i gs e hread
    split at hread
    · rename_i rest
      refine List.forall_mem_cons.mpr ⟨hcolon, List.forall_mem_cons.mpr ⟨hcolon, ?_⟩⟩
      split at hread
      · rename_i hempty
        rw [List.isEmpty_iff.mp hempty]
        exact List.forall_mem_nil _
      · exact isAddrChar_of_parse6Loop hread
    · exact isAddrChar_of_parse6Loop hread

theorem isAddrChar_of_parseAddr (h : parseAddr s = some a) :
    ∀ c ∈ s, isAddrChar c = true := by
  unfold parseAddr at h
  split at h
  · obtain ⟨n, hn, -⟩ := Option.map_eq_some_iff.mp h
    exact isAddrChar_of_parse4 hn
  · obtain ⟨n, hn, -⟩ := Option.map_eq_some_iff.mp h
    exact isAddrChar_of_parse6 hn
  · cases h

theorem append_of_cutLastSlash {head tail : List Char} (h : cutLastSlash s = some (head, tail)) :
    s = head ++ '/' :: tail := by
  unfold cutLastSlash at h
  split at h
  · rename_i t hd hspan
    cases h
    have happend := List.takeWhile_append_dropWhile (p := (· != '/')) (l := s.reverse)
    rw [List.span_eq_takeWhile_dropWhile, Prod.mk.injEq] at hspan
    rw [hspan.1, hspan.2] at happend
    have hreverse := congrArg List.reverse happend
    simpa using hreverse.symm
  · cases h

theorem isAddrChar_of_parsePrefix {s : String} {p : Prefix} (h : parsePrefix s = some p) :
    ∀ c ∈ s.toList, isAddrChar c = true := by
  unfold parsePrefix at h
  obtain ⟨⟨head, tail⟩, hcut, h⟩ := Option.bind_eq_some_iff.mp h
  obtain ⟨ip, hip, h⟩ := Option.bind_eq_some_iff.mp h
  rw [append_of_cutLastSlash hcut]
  refine List.forall_mem_append.mpr ⟨isAddrChar_of_parseAddr hip,
    List.forall_mem_cons.mpr ⟨by decide, fun c hc => ?_⟩⟩
  by_contra hno
  have hany : tail.any (fun c => !c.isDigit) = true := List.any_eq_true.mpr
    ⟨c, hc, by simpa using fun hd => hno (isAddrChar_of_isDigit hd)⟩
  simp [hany] at h

theorem cutLastSlash_append {head tail : List Char} (h : '/' ∉ tail) :
    cutLastSlash (head ++ '/' :: tail) = some (head, tail) := by
  have hall : ∀ c ∈ tail.reverse, (c != '/') = true := by
    intro c hc
    rw [bne_iff_ne]
    rintro rfl
    exact h (List.mem_reverse.mp hc)
  have hspan : (head ++ '/' :: tail).reverse.span (· != '/') =
      (tail.reverse, '/' :: head.reverse) := by
    rw [List.span_eq_takeWhile_dropWhile]
    simp [List.takeWhile_append_of_pos hall, List.dropWhile_append_of_pos hall]
  rw [cutLastSlash, hspan]
  simp

/-! `ParseCIDR` accepts what `ParsePrefix` does, and leading zeros in the number of bits. -/

/-- The text after the first slash. -/
def bitsText (s : String) : List Char := (s.toList.dropWhile (· != '/')).tail

/-- The number of bits has a leading zero. -/
def paddedBits (s : String) : Bool := 1 < (bitsText s).length && (bitsText s).head? == some '0'

theorem parsePrefix_of_parseCIDR {s : String} {p : Prefix} (h : parseCIDR s = some p) :
    parsePrefix s = if paddedBits s then none else some p := by
  unfold parseCIDR at h
  split at h
  · rename_i head tail hspan
    obtain ⟨ip, hip, h⟩ := Option.bind_eq_some_iff.mp h
    split at h
    · cases h
    · rename_i hbits
      rw [List.span_eq_takeWhile_dropWhile, Prod.mk.injEq] at hspan
      have htext : s.toList = head ++ '/' :: tail := by
        rw [← hspan.1, ← hspan.2, List.takeWhile_append_dropWhile]
      have htail : bitsText s = tail := by rw [bitsText, hspan.2, List.tail_cons]
      simp only [Bool.or_eq_true, not_or, Bool.not_eq_true, decide_eq_false_iff_not] at hbits
      obtain ⟨⟨hempty, hdigits⟩, hlength⟩ := hbits
      have hslash : '/' ∉ tail := by
        intro hmem
        have hany : tail.any (fun c => !c.isDigit) = true :=
          List.any_eq_true.mpr ⟨'/', hmem, by decide⟩
        rw [hdigits] at hany
        cases hany
      rw [parsePrefix, htext, cutLastSlash_append hslash, paddedBits, htail]
      simp only [Option.bind_eq_bind, Option.bind_some, hip, hempty, hdigits, hlength,
        decide_false, Bool.false_or, Bool.or_false]
      rw [Option.some.inj h]
  · cases h

end NordVPN.Netip
