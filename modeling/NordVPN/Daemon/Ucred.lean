import NordVPN.Lib.Decimal

/-!
The credentials of the caller as text.

`AuthType` prints the process, user and group id of the process on the other side of the socket and
`StringToUcred` reads them again. The user and the group id are unsigned, yet all three are read as
signed 32-bit numbers, so that ids from 2147483648 on are printed and not read back.
-/

namespace NordVPN

/-- `unix.Ucred`; the process id is signed. -/
structure Ucred where
  pid : BitVec 32
  uid : BitVec 32
  gid : BitVec 32
deriving DecidableEq, Repr

/-- `strconv.ParseInt(s, 10, 32)`. -/
def parseInt32 (s : List Char) : Option Int :=
  (Decimal.atoi s).bind fun v => if -2147483648 ≤ v ∧ v < 2147483648 then some v else none

/-- `AuthType`. -/
def Ucred.authType (u : Ucred) : String :=
  u.pid.toInt.repr ++ ":" ++ (u.uid.toNat : Int).repr ++ ":" ++ (u.gid.toNat : Int).repr

/-- `StringToUcred`. -/
def stringToUcred (ucredStr : String) : Except String Ucred :=
  let invalid := .error ("invalid ucred string: " ++ ucredStr)
  match ucredStr.toList.splitOn ':' with
  | [pidStr, uidStr, gidStr] =>
    match parseInt32 pidStr, parseInt32 uidStr, parseInt32 gidStr with
    | some pid, some uid, some gid => .ok ⟨.ofInt 32 pid, .ofInt 32 uid, .ofInt 32 gid⟩
    | _, _, _ => invalid
  | _ => invalid

/-- The text gives no negative user or group id. -/
def NoNegativeId (ucredStr : String) : Prop :=
  ∀ idStr ∈ (ucredStr.toList.splitOn ':').tail, ∀ id, parseInt32 idStr = some id → 0 ≤ id

theorem splitOn_authType (u : Ucred) : u.authType.toList.splitOn ':' =
    [u.pid.toInt.repr.toList, (u.uid.toNat : Int).repr.toList,
      (u.gid.toNat : Int).repr.toList] := by
  have htext : u.authType.toList = [':'].intercalate
      [u.pid.toInt.repr.toList, (u.uid.toNat : Int).repr.toList,
        (u.gid.toNat : Int).repr.toList] := by
    simp [Ucred.authType, List.intercalate]
  have hcolon (v : Int) : ':' ∉ v.repr.toList := Decimal.notMem_repr (by decide) (by decide) v
  rw [htext]
  exact List.splitOn_intercalate _ (by simp [hcolon]) (by simp)

theorem parseInt32_repr {v : Int} (hlow : -9223372036854775808 ≤ v)
    (hhigh : v < 9223372036854775808) : parseInt32 v.repr.toList =
      if -2147483648 ≤ v ∧ v < 2147483648 then some v else none := by
  rw [parseInt32, Decimal.atoi_repr hlow hhigh, Option.bind_some]

/-- What `AuthType` prints is read back unless the user or the group id is too large for a signed
number. -/
theorem stringToUcred_authType (u : Ucred) : stringToUcred u.authType =
    if u.uid.toNat < 2147483648 ∧ u.gid.toNat < 2147483648 then .ok u
    else .error ("invalid ucred string: " ++ u.authType) := by
  have hid (id : BitVec 32) : parseInt32 (id.toNat : Int).repr.toList =
      if id.toNat < 2147483648 then some (id.toNat : Int) else none := by
    have := id.isLt
    rw [parseInt32_repr (by omega) (by omega)]
    exact if_congr (by omega) rfl rfl
  have hpid : parseInt32 u.pid.toInt.repr.toList = some u.pid.toInt := by
    have hlow : -2147483648 ≤ u.pid.toInt := u.pid.le_toInt
    have hhigh : u.pid.toInt < 2147483648 := u.pid.toInt_lt
    rw [parseInt32_repr (by omega) (by omega), if_pos ⟨hlow, hhigh⟩]
  simp only [stringToUcred, splitOn_authType, hpid, hid]
  by_cases huid : u.uid.toNat < 2147483648 <;> by_cases hgid : u.gid.toNat < 2147483648 <;>
    simp [huid, hgid]

/-- What is accepted has three ids in the range of a signed 32-bit number. -/
theorem stringToUcred_ok {s : String} {u : Ucred} (h : stringToUcred s = .ok u) :
    ∃ pidStr uidStr gidStr uid gid, s.toList.splitOn ':' = [pidStr, uidStr, gidStr] ∧
      parseInt32 uidStr = some uid ∧ parseInt32 gidStr = some gid ∧
      u.uid = .ofInt 32 uid ∧ u.gid = .ofInt 32 gid := by
  unfold stringToUcred at h
  split at h
  · rename_i pidStr uidStr gidStr hsplit
    split at h
    · rename_i pid uid gid _ huid hgid
      cases h
      exact ⟨pidStr, uidStr, gidStr, uid, gid, hsplit, huid, hgid, rfl, rfl⟩
    · cases h
  · cases h

/-- A number that is read is in range, and as an unsigned number it is small if it is not negative.
-/
theorem toNat_parseInt32 {idStr : List Char} {id : Int} (h : parseInt32 idStr = some id) :
    (BitVec.ofInt 32 id).toNat < 2147483648 ↔ 0 ≤ id := by
  obtain ⟨v, -, hrange⟩ := Option.bind_eq_some_iff.mp h
  split at hrange
  · cases hrange
    rw [BitVec.toNat_ofInt]
    omega
  · cases hrange

/-- Credentials survive the text exactly when both unsigned ids are below 2147483648, and the ids of
an accepted text survive printing exactly when it gives no negative id. -/
theorem ucred_roundTrip (u : Ucred) (s : String) :
    (stringToUcred u.authType = .ok u ↔ u.uid.toNat < 2147483648 ∧ u.gid.toNat < 2147483648) ∧
      ∀ v, stringToUcred s = .ok v → (stringToUcred v.authType = .ok v ↔ NoNegativeId s) := by
  have hprinted (v : Ucred) : stringToUcred v.authType = .ok v ↔
      v.uid.toNat < 2147483648 ∧ v.gid.toNat < 2147483648 := by
    rw [stringToUcred_authType]
    split <;> simp_all
  refine ⟨hprinted u, ?_⟩
  intro v hv
  obtain ⟨pidStr, uidStr, gidStr, uid, gid, hsplit, huid, hgid, hvuid, hvgid⟩ := stringToUcred_ok hv
  rw [hprinted, hvuid, hvgid, toNat_parseInt32 huid, toNat_parseInt32 hgid]
  simp [NoNegativeId, hsplit, huid, hgid]

/-- User id 2147483648 is printed and refused, and so is the id that `-1` is read as. -/
theorem large_uid_refused :
    stringToUcred (Ucred.authType ⟨1, 2147483648, 100⟩) =
        .error "invalid ucred string: 1:2147483648:100" ∧
      stringToUcred "1:-1:100" = .ok ⟨1, 4294967295, 100⟩ ∧
      stringToUcred (Ucred.authType ⟨1, 4294967295, 100⟩) =
        .error "invalid ucred string: 1:4294967295:100" := by
  decide +kernel

end NordVPN
