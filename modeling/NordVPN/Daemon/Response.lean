import Mathlib.Algebra.Order.Ring.Nat

/-!
The validation of API responses (`daemon/response/validate.go`).

The key holder signs the concatenation of the time until which a response may be accepted and the
digest of its body. Nothing stands between the two, so the pair can be read back from the signed
bytes only because a digest has a fixed length.

Texts are lists of bytes, as they come in headers. The hash function, the base64 decoder and the
signature scheme are parameters.
-/

namespace NordVPN.Response

abbrev Bytes := List UInt8

/-- A text of the source, which is in ASCII. -/
def ascii (s : String) : Bytes := s.toList.map fun c => UInt8.ofNat c.toNat

/-- How a call can end other than with a value. -/
inductive Fault where
  | error (text : Bytes)
  | panic
deriving DecidableEq, Repr

/-- `ssh.Signature`. -/
structure Signature where
  format : Bytes
  blob : Bytes
deriving DecidableEq

/-- `ssh.PublicKey`. -/
structure PublicKey where
  verify : Bytes → Signature → Except Bytes Unit

structure Crypto where
  /-- `sha256.Sum256` -/
  sha256 : Bytes → Vector UInt8 32
  /-- `base64.StdEncoding.DecodeString` -/
  decodeString : Bytes → Except Bytes Bytes

/-- `http.Header`: the values under each canonical name. -/
abbrev Header := List (Bytes × List Bytes)

/-- `headers.Get`: the first value, empty if there is none. -/
def Header.get (headers : Header) (name : Bytes) : Bytes :=
  ((headers.lookup name).bind List.head?).getD []

/-- A check that ends the call with an error. -/
def require (cond : Prop) [Decidable cond] (text : Bytes) : Except Fault Unit :=
  if cond then .ok () else .error (.error text)

/-- A value that may be missing. -/
def orFail {α : Type} (text : Bytes) : Option α → Except Fault α
  | some a => .ok a
  | none => .error (.error text)

/-- `fmt.Errorf("text%w", err)` around an error. -/
def describe {α : Type} (text : Bytes) : Except Fault α → Except Fault α
  | .error (.error cause) => .error (.error (text ++ cause))
  | x => x

/-- What a library returns: a value or an error. -/
def returned {α : Type} : Except Bytes α → Except Fault α
  | .ok a => .ok a
  | .error text => .error (.error text)

/-- `parts[i]`. -/
def index (parts : List Bytes) (i : Nat) : Except Fault Bytes :=
  match parts[i]? with
  | some part => .ok part
  | none => .error .panic

/-- `strings.Trim(s, "\"")`. -/
def trimQuotes (s : Bytes) : Bytes :=
  ((s.dropWhile (· = 34)).reverse.dropWhile (· = 34)).reverse

/-- The loop of `parseKeyVal`. A missing key reads as the empty text. -/
def parsePairs (keyVal : Bytes → Bytes) : List Bytes → Except Fault (Bytes → Bytes)
  | [] => .ok keyVal
  | pair :: pairs => do
    let parts := pair.splitOn 61
    require (parts.length = 2) (ascii "invalid key-value format")
    let quotedVar ← index parts 1
    let key ← index parts 0
    parsePairs (Function.update keyVal key (trimQuotes quotedVar)) pairs

/-- `parseKeyVal`. -/
def parseKeyVal (str : Bytes) : Except Fault (Bytes → Bytes) :=
  parsePairs (fun _ => []) (str.splitOn 44)

/-- `getSignAlgoName`. -/
def getSignAlgoName (name : Bytes) : Bytes :=
  if name = ascii "rsa-sha256" then ascii "rsa-sha2-256" else []

def hexDigit (n : UInt8) : UInt8 := if n < 10 then 48 + n else 87 + n

/-- `fmt.Sprintf("%x", sum)`. -/
def hex (sum : Bytes) : Bytes := sum.flatMap fun b => [hexDigit (b / 16), hexDigit (b % 16)]

/-- `getSHA256Hash`. -/
def getSHA256Hash (c : Crypto) (data : Bytes) : Bytes := hex (c.sha256 data).toList

/-- `getHashFunction`. -/
def getHashFunction (c : Crypto) (name : Bytes) : Option (Bytes → Bytes) :=
  if name = ascii "sha256" then some (getSHA256Hash c) else none

/-- The value of decimal digits, if that is what they are. -/
def parseDigits : Bytes → Option Nat
  | [] => none
  | digits => if digits.all fun d => 48 ≤ d && d ≤ 57 then
      some (digits.foldl (fun n d => 10 * n + (d.toNat - 48)) 0) else none

/-- `strconv.ParseInt(s, 10, 64)`. -/
def parseInt : Bytes → Option Int
  | 45 :: digits => (parseDigits digits).bind fun n => if n ≤ 2 ^ 63 then some (-n) else none
  | 43 :: digits => (parseDigits digits).bind fun n => if n < 2 ^ 63 then some n else none
  | digits => (parseDigits digits).bind fun n => if n < 2 ^ 63 then some n else none

/-- A successful status. -/
def isSuccess (code : Int) : Bool := 200 ≤ code && code < 300

/-- `Validate`. -/
def validate (c : Crypto) (pubKeys : Bytes → Option PublicKey) (now : Int) (code : Int)
    (headers : Header) (body : Bytes) : Except Fault Unit := do
  let xDigest := headers.get (ascii "X-Digest")
  let xAuthorization := headers.get (ascii "X-Authorization")
  let xAcceptBefore := headers.get (ascii "X-Accept-Before")
  let xSignature := headers.get (ascii "X-Signature")
  require (¬ (xDigest = [] ∨ xAuthorization = [] ∨ xAcceptBefore = [] ∨ xSignature = []))
    (ascii "some of X-Digest, X-Authorization headers are missing")
  let keyVal ← describe (ascii "parsing X-Authorization header: ") (parseKeyVal xAuthorization)
  let algo := keyVal (ascii "algorithm")
  let parts := algo.splitOn 45
  require (parts.length = 2) (ascii "invalid format of X-Authorization header")
  let hashName ← index parts 1
  let hashFunc ← orFail (ascii "unknown hashing algorithm " ++ hashName)
    (getHashFunction c hashName)
  let signAlgoName := getSignAlgoName algo
  require (signAlgoName ≠ []) (ascii "unknown signature algorithm name " ++ algo)
  require (¬ (xDigest ≠ hashFunc body ∧ (isSuccess code = true ∨ xDigest ≠ hashFunc [])))
    (ascii "X-Digest value does not match the checksum of response body")
  let acceptBeforeUnix ← orFail (ascii "parsing X-Accept-Before header") (parseInt xAcceptBefore)
  require (¬ now > acceptBeforeUnix)
    (ascii "X-Accept-Before UNIX value is lower than current local time")
  let keyID := keyVal (ascii "key-id")
  let publicKey ← orFail (ascii "pub key '" ++ keyID ++ ascii "' is not known") (pubKeys keyID)
  let signature ← describe (ascii "base64 decoding error: ") (returned (c.decodeString xSignature))
  returned (publicKey.verify (xAcceptBefore ++ xDigest) ⟨signAlgoName, signature⟩)

/-! ### Digests -/

/-- The value of a hexadecimal digit. -/
def unhexDigit (d : UInt8) : UInt8 := if d < 58 then d - 48 else d - 87

theorem unhex_hex (b : UInt8) :
    16 * unhexDigit (hexDigit (b / 16)) + unhexDigit (hexDigit (b % 16)) = b := by
  have h : ∀ n : Fin 256, 16 * unhexDigit (hexDigit (UInt8.ofFin n / 16)) +
      unhexDigit (hexDigit (UInt8.ofFin n % 16)) = UInt8.ofFin n := by decide +kernel
  exact h b.toFin

theorem length_hex (sum : Bytes) : (hex sum).length = 2 * sum.length := by
  induction sum with
  | nil => rfl
  | cons b sum ih =>
    rw [hex, List.flatMap_cons, List.length_append, ← hex, ih, List.length_cons]
    change 2 + 2 * sum.length = 2 * (sum.length + 1)
    omega

/-- Two sums with the same digits are the same. -/
theorem hex_injective : Function.Injective hex := by
  intro sum sum' h
  induction sum generalizing sum' with
  | nil =>
    cases sum' with
    | nil => rfl
    | cons b' sum' => cases h
  | cons b sum ih =>
    cases sum' with
    | nil => cases h
    | cons b' sum' =>
      obtain ⟨hhigh, h⟩ := List.cons.inj h
      obtain ⟨hlow, h⟩ := List.cons.inj h
      rw [ih h, ← unhex_hex b, ← unhex_hex b', hhigh, hlow]

theorem length_getSHA256Hash (c : Crypto) (data : Bytes) : (getSHA256Hash c data).length = 64 := by
  rw [getSHA256Hash, length_hex, Vector.length_toList]

/-- The time and the digest can be read back from the bytes that are signed. -/
theorem signed_bytes_unique {c : Crypto} {time time' data data' : Bytes}
    (h : time' ++ getSHA256Hash c data' = time ++ getSHA256Hash c data) :
    time' = time ∧ getSHA256Hash c data' = getSHA256Hash c data := by
  apply List.append_inj' h
  rw [length_getSHA256Hash, length_getSHA256Hash]

/-- Where the sum tells two bodies apart, its text does. -/
theorem getSHA256Hash_injOn {c : Crypto} {bodies : Set Bytes} (h : Set.InjOn c.sha256 bodies) :
    Set.InjOn (getSHA256Hash c) bodies := by
  intro data hdata data' hdata' heq
  apply h hdata hdata'
  exact Vector.toList_inj.mp (hex_injective heq)

/-! ### What the steps of a call do -/

section Steps

variable {α β : Type} {x : Except Fault α} {f : α → Except Fault β} {text : Bytes}

/-- A chain of checks succeeds only if each of them does. -/
theorem bind_ok {b : β} (h : (x >>= f) = .ok b) : ∃ a, x = .ok a ∧ f a = .ok b := by
  cases x with
  | error fault => cases h
  | ok a => exact ⟨a, rfl, h⟩

/-- A call panics only where one of its steps does. -/
theorem bind_ne_panic (hx : x ≠ .error .panic) (hf : ∀ a, x = .ok a → f a ≠ .error .panic) :
    (x >>= f) ≠ .error .panic := by
  cases x with
  | error fault =>
    intro h
    obtain rfl : fault = .panic := Except.error.inj h
    exact hx rfl
  | ok a => exact hf a rfl

theorem require_ok {cond : Prop} [Decidable cond] {u : Unit} (h : require cond text = .ok u) :
    cond := by
  by_contra hnot
  rw [require, if_neg hnot] at h
  cases h

theorem require_ne_panic {cond : Prop} [Decidable cond] : require cond text ≠ .error .panic := by
  unfold require
  split <;> exact nofun

theorem orFail_ok {o : Option α} {a : α} (h : orFail text o = .ok a) : o = some a := by
  cases o with
  | none => cases h
  | some b => rw [Except.ok.inj h]

theorem orFail_ne_panic {o : Option α} : orFail text o ≠ .error .panic := by
  cases o <;> exact nofun

theorem describe_ne_panic (h : x ≠ .error .panic) : describe text x ≠ .error .panic := by
  cases x with
  | ok a => exact nofun
  | error fault =>
    cases fault with
    | error cause => exact nofun
    | panic => exact absurd rfl h

theorem returned_ne_panic {x : Except Bytes α} : returned x ≠ .error .panic := by
  cases x <;> exact nofun

theorem returned_ok {x : Except Bytes α} {a : α} (h : returned x = .ok a) : x = .ok a := by
  cases x with
  | error text => cases h
  | ok b => rw [Except.ok.inj h]

/-- An index within the bounds does not panic. -/
theorem index_ne_panic {parts : List Bytes} {i : Nat} (h : i < parts.length) :
    index parts i ≠ .error .panic := by
  rw [index, List.getElem?_eq_getElem h]
  exact nofun

end Steps

/-- The length of each pair is checked before it is indexed. -/
theorem parsePairs_ne_panic (keyVal : Bytes → Bytes) (pairs : List Bytes) :
    parsePairs keyVal pairs ≠ .error .panic := by
  induction pairs generalizing keyVal with
  | nil => exact nofun
  | cons pair pairs ih =>
    apply bind_ne_panic require_ne_panic
    intro _ hlength
    have htwo := require_ok hlength
    apply bind_ne_panic (index_ne_panic (by omega))
    intro quotedVar _
    apply bind_ne_panic (index_ne_panic (by omega))
    intro key _
    exact ih _

section Validate

variable {c : Crypto} {pubKeys : Bytes → Option PublicKey} {now code : Int} {headers : Header}
  {body : Bytes}

/-- No header of a response, however malformed, makes the check panic. -/
theorem validate_ne_panic : validate c pubKeys now code headers body ≠ .error .panic := by
  apply bind_ne_panic require_ne_panic
  intro _ _
  apply bind_ne_panic (describe_ne_panic (parsePairs_ne_panic _ _))
  intro keyVal _
  apply bind_ne_panic require_ne_panic
  intro _ hlength
  have htwo := require_ok hlength
  apply bind_ne_panic (index_ne_panic (by omega))
  intro hashName _
  apply bind_ne_panic orFail_ne_panic
  intro hashFunc _
  apply bind_ne_panic require_ne_panic
  intro _ _
  apply bind_ne_panic require_ne_panic
  intro _ _
  apply bind_ne_panic orFail_ne_panic
  intro acceptBeforeUnix _
  apply bind_ne_panic require_ne_panic
  intro _ _
  apply bind_ne_panic orFail_ne_panic
  intro publicKey _
  apply bind_ne_panic (describe_ne_panic returned_ne_panic)
  intro signature _
  exact returned_ne_panic

/-- What an accepted response has. -/
theorem validate_ok (h : validate c pubKeys now code headers body = .ok ()) :
    ∃ keyID publicKey acceptBeforeUnix signature,
      pubKeys keyID = some publicKey ∧
      parseInt (headers.get (ascii "X-Accept-Before")) = some acceptBeforeUnix ∧
      now ≤ acceptBeforeUnix ∧
      (headers.get (ascii "X-Digest") = getSHA256Hash c body ∨
        isSuccess code = false ∧ headers.get (ascii "X-Digest") = getSHA256Hash c []) ∧
      publicKey.verify (headers.get (ascii "X-Accept-Before") ++ headers.get (ascii "X-Digest"))
        signature = .ok () := by
  obtain ⟨_, -, h⟩ := bind_ok h
  obtain ⟨keyVal, -, h⟩ := bind_ok h
  obtain ⟨_, -, h⟩ := bind_ok h
  obtain ⟨hashName, -, h⟩ := bind_ok h
  obtain ⟨hashFunc, hhash, h⟩ := bind_ok h
  obtain ⟨_, -, h⟩ := bind_ok h
  obtain ⟨_, hdigest, h⟩ := bind_ok h
  obtain ⟨acceptBeforeUnix, htime, h⟩ := bind_ok h
  obtain ⟨_, hnow, h⟩ := bind_ok h
  obtain ⟨publicKey, hkey, h⟩ := bind_ok h
  obtain ⟨signature, -, h⟩ := bind_ok h
  have hfunc : getSHA256Hash c = hashFunc := by
    have hsome := orFail_ok hhash
    unfold getHashFunction at hsome
    split at hsome
    · exact Option.some.inj hsome
    · cases hsome
  refine ⟨_, publicKey, acceptBeforeUnix, _, orFail_ok hkey, orFail_ok htime,
    Int.not_lt.mp (require_ok hnow), ?_, returned_ok h⟩
  have hmatch := require_ok hdigest
  rw [← hfunc] at hmatch
  by_cases hbody : headers.get (ascii "X-Digest") = getSHA256Hash c body
  · exact .inl hbody
  · right
    rw [not_and, not_or, not_not, Bool.not_eq_true] at hmatch
    exact hmatch hbody

end Validate

/-- **Accepted responses are authentic.** The key holder signed what is accepted: the time until
which it may be, which is not over, and the digest of its body, or of the empty one for a status of
failure. No other time and digest give the same signed bytes, and no other of the bodies between
which the hash function distinguishes has that digest. -/
theorem accepted_response_authentic (c : Crypto) (pubKeys : Bytes → Option PublicKey)
    (signed : PublicKey → Bytes → Prop)
    (hunforgeable : ∀ keyID publicKey, pubKeys keyID = some publicKey → ∀ message signature,
      publicKey.verify message signature = .ok () → signed publicKey message)
    (bodies : Set Bytes) (hcollision : Set.InjOn c.sha256 bodies) (now code : Int)
    (headers : Header) (body : Bytes) (hbody : body ∈ bodies) (hempty : [] ∈ bodies) :
    validate c pubKeys now code headers body ≠ .error .panic ∧
    (validate c pubKeys now code headers body = .ok () →
      ∃ keyID publicKey acceptBeforeUnix signedBody,
        pubKeys keyID = some publicKey ∧
        parseInt (headers.get (ascii "X-Accept-Before")) = some acceptBeforeUnix ∧
        now ≤ acceptBeforeUnix ∧
        (signedBody = body ∨ isSuccess code = false ∧ signedBody = []) ∧
        headers.get (ascii "X-Digest") = getSHA256Hash c signedBody ∧
        signed publicKey (headers.get (ascii "X-Accept-Before") ++ getSHA256Hash c signedBody) ∧
        ∀ time data, time ++ getSHA256Hash c data =
            headers.get (ascii "X-Accept-Before") ++ getSHA256Hash c signedBody →
          time = headers.get (ascii "X-Accept-Before") ∧
          getSHA256Hash c data = getSHA256Hash c signedBody ∧
          (data ∈ bodies → data = signedBody)) := by
  refine ⟨validate_ne_panic, fun h => ?_⟩
  obtain ⟨keyID, publicKey, acceptBeforeUnix, signature, hkey, htime, hnow, hdigest, hverify⟩ :=
    validate_ok h
  obtain ⟨signedBody, hmem, hwhich, hsigned⟩ : ∃ signedBody ∈ bodies,
      (signedBody = body ∨ isSuccess code = false ∧ signedBody = []) ∧
        headers.get (ascii "X-Digest") = getSHA256Hash c signedBody := by
    rcases hdigest with hdigest | ⟨hcode, hdigest⟩
    · exact ⟨body, hbody, .inl rfl, hdigest⟩
    · exact ⟨[], hempty, .inr ⟨hcode, rfl⟩, hdigest⟩
  rw [hsigned] at hverify
  refine ⟨keyID, publicKey, acceptBeforeUnix, signedBody, hkey, htime, hnow, hwhich, hsigned,
    hunforgeable keyID publicKey hkey _ signature hverify, ?_⟩
  intro time data hbytes
  obtain ⟨htime', hdata⟩ := signed_bytes_unique hbytes
  exact ⟨htime', hdata, fun hin => getSHA256Hash_injOn hcollision hin hmem hdata⟩

/-! ### A response that is accepted -/

/-- A digest, read as one number. -/
def digest (n : Nat) : Vector UInt8 32 := Vector.ofFn fun i => UInt8.ofNat (n / 256 ^ (31 - i.1))

/-- The digests of two texts, and one signature. -/
def sampleCrypto : Crypto where
  sha256 data :=
    if data = ascii "ok" then
      digest 0x2689367b205c16ce32ed4200942b8b8b1e262dfc70d9bc9fbc77c49699a4f1df
    else digest 0xe3b0c44298fc1c149afbf4c8996fb92427ae41e4649b934ca495991b7852b855
  decodeString s :=
    if s = ascii "c2lnbmF0dXJl" then .ok (ascii "signature")
    else .error (ascii "illegal base64 data at input byte 0")

def sampleMessage : Bytes := ascii "1700000000" ++ getSHA256Hash sampleCrypto (ascii "ok")

def sampleKey : PublicKey where
  verify message _ :=
    if message = sampleMessage then .ok () else .error (ascii "ssh: signature did not verify")

def sampleKeys (keyID : Bytes) : Option PublicKey :=
  if keyID = ascii "rsa-key-1" then some sampleKey else none

def sampleHeaders : Header :=
  [(ascii "X-Digest", [getSHA256Hash sampleCrypto (ascii "ok")]),
   (ascii "X-Authorization", [ascii "key-id=\"rsa-key-1\",algorithm=\"rsa-sha256\""]),
   (ascii "X-Accept-Before", [ascii "1700000000"]),
   (ascii "X-Signature", [ascii "c2lnbmF0dXJl"])]

theorem accepted_response_sample :
    validate sampleCrypto sampleKeys 1600000000 200 sampleHeaders (ascii "ok") = .ok () ∧
      ∃ keyID publicKey, sampleKeys keyID = some publicKey ∧
        sampleMessage = sampleHeaders.get (ascii "X-Accept-Before") ++
          getSHA256Hash sampleCrypto (ascii "ok") := by
  have haccepted :
      validate sampleCrypto sampleKeys 1600000000 200 sampleHeaders (ascii "ok") = .ok () := by
    decide
  have hunforgeable : ∀ keyID publicKey, sampleKeys keyID = some publicKey →
      ∀ message signature, publicKey.verify message signature = .ok () →
      message = sampleMessage := by
    intro keyID publicKey hkey message signature hverify
    unfold sampleKeys at hkey
    split at hkey
    · obtain rfl := Option.some.inj hkey
      by_contra hne
      dsimp only [sampleKey] at hverify
      rw [if_neg hne] at hverify
      cases hverify
    · cases hkey
  have hcollision : Set.InjOn sampleCrypto.sha256 {ascii "ok", []} := by
    have hne : sampleCrypto.sha256 (ascii "ok") ≠ sampleCrypto.sha256 [] := by decide
    rintro data (rfl | rfl) data' (rfl | rfl) heq
    · rfl
    · exact absurd heq hne
    · exact absurd heq.symm hne
    · rfl
  obtain ⟨keyID, publicKey, _, signedBody, hkey, -, -, hwhich, -, hsigned, -⟩ :=
    (accepted_response_authentic sampleCrypto sampleKeys (fun _ message => message = sampleMessage)
      hunforgeable {ascii "ok", []} hcollision 1600000000 200 sampleHeaders (ascii "ok") (.inl rfl)
      (.inr rfl)).2 haccepted
  obtain rfl : signedBody = ascii "ok" := by
    rcases hwhich with rfl | ⟨hcode, -⟩
    · rfl
    · cases hcode
  exact ⟨haccepted, keyID, publicKey, hkey, hsigned.symm⟩

end NordVPN.Response
