import Mathlib.Logic.Function.Iterate
import NordVPN.Lib.GoError
import NordVPN.Lib.Prog

/-!
The configuration on disk (`config/manager.go`).

The manager keeps the configuration encrypted with a key of its own, which it makes when
there is none. `SaveWith` loads, changes and saves under a lock and publishes the result
after it; whether it publishes is decided by a variable that the error of the loading
never reaches.
-/

namespace NordVPN.Settings

open Prog

/-- `errNoInstallFile`. -/
inductive Sentinel where
  | noInstallFile
deriving DecidableEq, Repr

abbrev Error := GoError Sentinel

/-- `Config`, with its sets as the maps they are in Go and everything else as `rest`. -/
structure Config (α : Type) where
  tcp : Int → Option Bool := fun _ => none
  udp : Int → Option Bool := fun _ => none
  subnets : String → Option Bool := fun _ => none
  notify : Int → Option Bool := fun _ => none
  notifyOff : Int → Option Bool := fun _ => none
  trayOff : Int → Option Bool := fun _ => none
  rest : α

/-- None of the sets has an entry that is `false`. -/
structure Config.NoFalse {α : Type} (c : Config α) : Prop where
  tcp : ∀ port, c.tcp port ≠ some false
  udp : ∀ port, c.udp port ≠ some false
  subnets : ∀ subnet, c.subnets subnet ≠ some false
  notify : ∀ uid, c.notify uid ≠ some false
  notifyOff : ∀ uid, c.notifyOff uid ≠ some false
  trayOff : ∀ uid, c.trayOff uid ≠ some false

/-- The encodings and the encryption over texts `β`, which read back what they wrote.
`unmarshal` fills in a configuration that is given, and may have changed it when it fails. -/
structure Codec (α β : Type) where
  isEmpty : β → Bool
  marshal : Config α → β
  unmarshal : β → Config α → Config α × Bool
  encrypt : Nat → β → β → β
  decrypt : β → β → Option β
  gobEncode : β → β
  gobDecode : β → Option β
  unmarshal_marshal : ∀ c c', c.NoFalse → unmarshal (marshal c) c' = (c, true)
  decrypt_encrypt : ∀ nonce data pass, decrypt (encrypt nonce data pass) pass = some data

/-- The world around the manager: the codec, the salt and the rest of the defaults, and for
the `n`-th operation that may fail the error it fails with, what a failed write leaves of a
file, and the random numbers. -/
structure Env (α β : Type) where
  codec : Codec α β
  salt : β
  defaults : α
  fails : Nat → Option String
  leftover : Nat → Option β
  key : Nat → β
  nonce : Nat → Nat

/-- The files `location` and `vault`, the configuration a call was given by pointer, what was
published, oldest first, and the number of operations so far. -/
structure State (α β : Type) where
  location : Option β
  vault : Option β
  newInstallation : Bool
  config : Config α
  published : List (Config α)
  clock : Nat

variable {α β : Type}

abbrev Cfg (α β γ : Type) := Prog (Env α β) (State α β) Error γ

/-! ### Files and encryption -/

/-- An operation that may fail, with its number. -/
def operation : Cfg α β Nat := do
  let r ← env
  let s ← state
  update fun s => { s with clock := s.clock + 1 }
  match r.fails s.clock with
  | some text => fail (.external text)
  | none => pure s.clock

inductive File where
  | location | vault
deriving DecidableEq, Repr

def State.file (s : State α β) : File → Option β
  | .location => s.location
  | .vault => s.vault

def State.withFile (s : State α β) (content : Option β) : File → State α β
  | .location => { s with location := content }
  | .vault => { s with vault := content }

/-- An operation that looks for a value, and fails also if there is none. -/
def lookup (missing : String) (find : Env α β → State α β → Option β) : Cfg α β β := do
  let _ ← operation
  let r ← env
  let s ← state
  match find r s with
  | some value => pure value
  | none => fail (.external missing)

/-- `ReadFile`. -/
def readFile (f : File) : Cfg α β β :=
  lookup "no such file or directory" fun _ s => s.file f

/-- `WriteFile`. -/
def writeFile (f : File) (data : β) : Cfg α β Unit := do
  let r ← env
  let s ← state
  onError (update fun t => t.withFile (r.leftover s.clock) f) do
    let _ ← operation
    update fun t => t.withFile (some data) f

/-- `internal.Encrypt`. -/
def encrypt (data pass : β) : Cfg α β β := do
  let n ← operation
  let r ← env
  pure (r.codec.encrypt (r.nonce n) data pass)

/-- `internal.Decrypt`. -/
def decrypt (data pass : β) : Cfg α β β :=
  lookup "cipher: message authentication failed" fun r _ => r.codec.decrypt data pass

/-! ### `manager.go` -/

/-- `newConfig`. -/
def newConfig (r : Env α β) : Config α := { rest := r.defaults }

/-- `newKey`. -/
def newKey : Cfg α β Unit := do
  let r ← env
  let s ← state
  let cipher ← encrypt (r.key s.clock) r.salt
  let _ ← operation
  writeFile .vault (r.codec.gobEncode cipher)

/-- `loadKey`. -/
def loadKey : Cfg α β β := do
  let r ← env
  let s ← state
  if s.vault.isNone then fail (.sentinel .noInstallFile) else do
    let content ← readFile .vault
    if r.codec.isEmpty content then fail (.sentinel .noInstallFile) else do
      match r.codec.gobDecode content with
      | none => fail (.external "gob")
      | some cipher => decrypt cipher r.salt

/-- `getPassphrase`. -/
def getPassphrase : Cfg α β β := do
  let key ← attempt loadKey
  match key with
  | .ok key => pure key
  | .error e =>
    if e.is .noInstallFile then do
      newKey
      loadKey
    else fail e

/-- `save`. -/
def save (c : Config α) : Cfg α β Unit := do
  let pass ← getPassphrase
  let _ ← operation
  let r ← env
  let encrypted ← encrypt (r.codec.marshal c) pass
  writeFile .location encrypted

/-- The old setting `notify` translated to `notify_off`. -/
def Config.translate (c : Config α) : Config α :=
  { c with notifyOff := fun uid =>
    if c.notify uid = some false then some true else c.notifyOff uid }

/-- `load`, and `Load` under the lock. It fills in the configuration it is given. -/
def load : Cfg α β Unit := do
  let r ← env
  update fun s => { s with config := newConfig r }
  let s ← state
  if s.location.isNone then do
    update fun s => { s with newInstallation := true }
    save (newConfig r)
  else do
    let pass ← getPassphrase
    let data ← readFile .location
    let decrypted ← decrypt data pass
    let s ← state
    let decoded := r.codec.unmarshal decrypted s.config
    update fun s => { s with config := decoded.1 }
    if decoded.2 then update fun s => { s with config := s.config.translate }
    else fail (.external "json")

/-- `Reset`. -/
def reset : Cfg α β Unit := do
  let r ← env
  save (newConfig r)

/-- The deferred function of `SaveWith`: it sees the variable `err` of the whole function. -/
def publishUnless (err : Option Error) : Cfg α β Unit :=
  when err.isNone (update fun s => { s with published := s.published ++ [s.config] })

/-- `SaveWith`, with a publisher. The error of `load` is one of an inner scope, and `err` is
still empty when `SaveWith` returns it. -/
def saveWith (fn : Config α → Config α) : Cfg α β Unit := do
  let loaded ← attempt load
  match loaded with
  | .error e => do
    publishUnless none
    fail e
  | .ok _ => do
    update fun s => { s with config := fn s.config }
    let s ← state
    let saved ← attempt (save s.config)
    match saved with
    | .error e => do
      publishUnless (some e)
      fail e
    | .ok _ => publishUnless none

/-! ### What each part leaves -/

section Parts

variable {r : Env α β} {s : State α β} {A : State α β → Prop}

/-- The files, the given configuration and what was published are the same. -/
structure Same (s t : State α β) : Prop where
  location : t.location = s.location
  vault : t.vault = s.vault
  config : t.config = s.config
  published : t.published = s.published

theorem Same.refl (s : State α β) : Same s s := ⟨rfl, rfl, rfl, rfl⟩

theorem Same.trans {s t u : State α β} (h : Same s t) (h' : Same t u) : Same s u :=
  ⟨h'.location.trans h.location, h'.vault.trans h.vault, h'.config.trans h.config,
    h'.published.trans h.published⟩

theorem wp_operation : wp operation r any
    (fun x t => Same s t ∧ ∀ e, x = .error e → e.is .noInstallFile = false) s := by
  unfold operation
  rw [wp_env_bind, wp_state_bind, wp_update_bind]
  refine ⟨trivial, ?_⟩
  cases r.fails s.clock with
  | some text =>
    refine wp_fail.mpr ⟨⟨rfl, rfl, rfl, rfl⟩, fun e h => ?_⟩
    cases h
    rfl
  | none =>
    refine wp_pure.mpr ⟨⟨rfl, rfl, rfl, rfl⟩, fun e h => ?_⟩
    cases h

theorem wp_lookup {missing : String} {find : Env α β → State α β → Option β}
    (hfind : ∀ t, Same s t → find r t = find r s) :
    wp (lookup missing find) r any (fun x t => Same s t ∧
      (∀ value, x = .ok value → find r s = some value) ∧
      ∀ e, x = .error e → e.is .noInstallFile = false) s := by
  refine wp_seq wp_operation (fun _ t ht => ?_) fun e t ht => ?_
  · rw [wp_env_bind, wp_state_bind, hfind t ht.1]
    cases hvalue : find r s with
    | some value =>
      refine wp_pure.mpr ⟨ht.1, fun _ h => ?_, fun _ h => ?_⟩
      · cases h
        rfl
      · cases h
    | none =>
      refine wp_fail.mpr ⟨ht.1, fun _ h => ?_, fun _ h => ?_⟩
      · cases h
      · cases h
        rfl
  · refine ⟨ht.1, fun _ h => ?_, fun e' h => ?_⟩
    · cases h
    · cases h
      exact ht.2 _ rfl

theorem wp_readFile (f : File) : wp (readFile f) r any
    (fun x t => Same s t ∧ (∀ content, x = .ok content → s.file f = some content) ∧
      ∀ e, x = .error e → e.is .noInstallFile = false) s := by
  refine wp_lookup fun t ht => ?_
  cases f with
  | location => exact ht.location
  | vault => exact ht.vault

theorem wp_decrypt (data pass : β) : wp (decrypt data pass) r any
    (fun x t => Same s t ∧ (∀ plain, x = .ok plain → r.codec.decrypt data pass = some plain) ∧
      ∀ e, x = .error e → e.is .noInstallFile = false) s :=
  wp_lookup fun _ _ => rfl

theorem wp_encrypt (data pass : β) : wp (encrypt data pass) r any
    (fun x t => Same s t ∧ ∀ cipher, x = .ok cipher →
      ∃ nonce, cipher = r.codec.encrypt nonce data pass) s := by
  refine wp_seq wp_operation (fun n t ht => ?_) fun e t ht => ⟨ht.1, fun _ h => by cases h⟩
  rw [wp_env_bind]
  refine wp_pure.mpr ⟨ht.1, fun _ h => ?_⟩
  cases h
  exact ⟨_, rfl⟩

/-- Only one file may have changed. -/
structure SameBut (f : File) (s t : State α β) : Prop where
  files : ∀ g, g ≠ f → t.file g = s.file g
  config : t.config = s.config
  published : t.published = s.published

theorem Same.but {s t : State α β} (h : Same s t) (f : File) : SameBut f s t := by
  refine ⟨fun g _ => ?_, h.config, h.published⟩
  cases g with
  | location => exact h.location
  | vault => exact h.vault

theorem SameBut.trans {f : File} {s t u : State α β} (h : SameBut f s t) (h' : SameBut f t u) :
    SameBut f s u :=
  ⟨fun g hg => (h'.files g hg).trans (h.files g hg), h'.config.trans h.config,
    h'.published.trans h.published⟩

theorem Same.withFile {s t : State α β} (h : Same s t) (content : Option β) (f : File) :
    SameBut f s (t.withFile content f) := by
  cases f with
  | location =>
    refine ⟨fun g hg => ?_, h.config, h.published⟩
    cases g with
    | location => exact absurd rfl hg
    | vault => exact h.vault
  | vault =>
    refine ⟨fun g hg => ?_, h.config, h.published⟩
    cases g with
    | location => exact h.location
    | vault => exact absurd rfl hg

theorem file_withFile (s : State α β) (content : Option β) (f : File) :
    (s.withFile content f).file f = content := by
  cases f <;> rfl

theorem wp_writeFile (f : File) (data : β) : wp (writeFile f data) r any
    (fun x t => SameBut f s t ∧ (x = .ok () → t.file f = some data)) s := by
  unfold writeFile
  rw [wp_env_bind, wp_state_bind]
  refine wp_onError.mpr (wp_seq wp_operation (fun _ t ht => ?_) fun e t ht => ?_)
  · exact wp_update.mpr ⟨trivial, ht.1.withFile _ _, fun _ => file_withFile ..⟩
  · rw [onFail_error]
    refine wp_update.mpr ⟨trivial, ht.1.withFile _ _, fun h => ?_⟩
    cases h

/-- The key that a vault file holds. -/
def KeyOf (r : Env α β) (vault : Option β) (pass : β) : Prop :=
  ∃ content cipher, vault = some content ∧ r.codec.isEmpty content = false ∧
    r.codec.gobDecode content = some cipher ∧ r.codec.decrypt cipher r.salt = some pass

theorem KeyOf.unique {vault : Option β} {pass pass' : β} (h : KeyOf r vault pass)
    (h' : KeyOf r vault pass') : pass = pass' := by
  obtain ⟨content, cipher, hv, -, hc, hp⟩ := h
  obtain ⟨content', cipher', hv', -, hc', hp'⟩ := h'
  obtain rfl := Option.some.inj (hv.symm.trans hv')
  obtain rfl := Option.some.inj (hc.symm.trans hc')
  exact Option.some.inj (hp.symm.trans hp')

theorem wp_loadKey : wp loadKey r any (fun x t => Same s t ∧
    (∀ pass, x = .ok pass → KeyOf r s.vault pass) ∧
    ∀ e, x = .error e → e.is .noInstallFile = true → ∀ pass, ¬ KeyOf r s.vault pass) s := by
  have hstop {t : State α β} (ht : Same s t) {e : Error} (he : e.is .noInstallFile = false) :
      Same s t ∧ (∀ pass, (.error e : Except Error β) = .ok pass → KeyOf r s.vault pass) ∧
        ∀ e', (.error e : Except Error β) = .error e' → e'.is .noInstallFile = true →
          ∀ pass, ¬ KeyOf r s.vault pass := by
    refine ⟨ht, fun _ h => ?_, fun e' h hin => ?_⟩
    · cases h
    · cases h
      exact absurd (he.symm.trans hin) Bool.false_ne_true
  unfold loadKey
  rw [wp_env_bind, wp_state_bind, wp_ite]
  refine ⟨fun hnone => wp_fail.mpr ⟨Same.refl s, fun _ h => ?_, fun _ _ _ pass hkey => ?_⟩,
    fun _ => ?_⟩
  · cases h
  · obtain ⟨content, _, hvault, -⟩ := hkey
    rw [hvault] at hnone
    cases hnone
  refine wp_seq (wp_readFile .vault) (fun content t ht => ?_) fun e t ht =>
    hstop ht.1 (ht.2.2 e rfl)
  obtain ⟨hsame, hread, -⟩ := ht
  have hvault : s.vault = some content := hread content rfl
  refine wp_ite.mpr ⟨fun hempty => wp_fail.mpr ⟨hsame, fun _ h => ?_, fun _ _ _ pass hkey => ?_⟩,
    fun hne => ?_⟩
  · cases h
  · obtain ⟨content', _, hvault', hne, -⟩ := hkey
    obtain rfl := Option.some.inj (hvault.symm.trans hvault')
    exact absurd (hne.symm.trans hempty) Bool.false_ne_true
  cases hgob : r.codec.gobDecode content with
  | none => exact wp_fail.mpr (hstop hsame rfl)
  | some cipher =>
    refine wp_post (wp_decrypt cipher r.salt) fun x u hu => ?_
    cases x with
    | ok pass =>
      refine ⟨hsame.trans hu.1, fun pass' h => ?_, fun _ h => ?_⟩
      · cases h
        exact ⟨content, cipher, hvault, Bool.eq_false_iff.mpr hne, hgob, hu.2.1 pass rfl⟩
      · cases h
    | error e => exact hstop (hsame.trans hu.1) (hu.2.2 e rfl)

theorem wp_newKey : wp newKey r any (fun _ t => SameBut .vault s t) s := by
  unfold newKey
  rw [wp_env_bind, wp_state_bind]
  refine wp_seq (wp_encrypt _ _) (fun _ t ht => ?_) fun _ t ht => ht.1.but _
  refine wp_seq wp_operation (fun _ u hu => ?_) fun _ u hu => (ht.1.trans hu.1).but _
  refine wp_post (wp_writeFile .vault _) fun _ v hv => ((ht.1.trans hu.1).but _).trans hv.1

/-- A passphrase is the key in the vault, and a vault that has a key keeps it. -/
theorem wp_getPassphrase : wp getPassphrase r any (fun x t => SameBut .vault s t ∧
    (∀ pass, x = .ok pass → KeyOf r t.vault pass) ∧
    ∀ pass, KeyOf r s.vault pass → t.vault = s.vault) s := by
  unfold getPassphrase
  rw [wp_bind, wp_attempt]
  refine wp_post wp_loadKey fun x t ht => ?_
  obtain ⟨hsame, hkey, hnone⟩ := ht
  rw [onOk_ok]
  cases x with
  | ok pass =>
    refine wp_pure.mpr ⟨hsame.but _, fun pass' h => ?_, fun _ _ => hsame.vault⟩
    cases h
    rw [hsame.vault]
    exact hkey _ rfl
  | error e =>
    refine wp_ite.mpr ⟨fun hin => ?_, fun _ => wp_fail.mpr ⟨hsame.but _, fun _ h => ?_,
      fun _ _ => hsame.vault⟩⟩
    · have habsent := hnone e rfl hin
      refine wp_seq wp_newKey (fun _ u hu => ?_) fun _ u hu =>
        ⟨(hsame.but _).trans hu, fun _ h => ?_,
        fun pass hpass => absurd hpass (habsent pass)⟩
      · refine wp_post wp_loadKey fun y v hv => ?_
        refine ⟨((hsame.but _).trans hu).trans (hv.1.but _), fun pass h => ?_,
          fun pass hpass => absurd hpass (habsent pass)⟩
        rw [hv.1.vault]
        exact hv.2.1 pass h
      · cases h
    · cases h

/-- The file holds the configuration, encrypted with the key in the vault. -/
def Stored (r : Env α β) (c : Config α) (s : State α β) : Prop :=
  ∃ nonce pass, s.location = some (r.codec.encrypt nonce (r.codec.marshal c) pass) ∧
    KeyOf r s.vault pass

theorem wp_save (c : Config α) : wp (save c) r any (fun x t =>
    t.config = s.config ∧ t.published = s.published ∧ (x = .ok () → Stored r c t)) s := by
  have hstop {e : Error} {t : State α β} (hc : t.config = s.config)
    (hp : t.published = s.published) :
      t.config = s.config ∧ t.published = s.published ∧
        ((.error e : Except Error Unit) = .ok () → Stored r c t) :=
    ⟨hc, hp, fun h => by cases h⟩
  unfold save
  refine wp_seq wp_getPassphrase (fun pass t ht => ?_) fun _ t ht =>
    hstop ht.1.config ht.1.published
  obtain ⟨hbut, hkey, -⟩ := ht
  refine wp_seq wp_operation (fun _ u hu => ?_) fun _ u hu =>
    hstop (hu.1.config.trans hbut.config) (hu.1.published.trans hbut.published)
  rw [wp_env_bind]
  refine wp_seq (wp_encrypt _ _) (fun cipher v hv => ?_) fun _ v hv =>
    hstop ((hu.1.trans hv.1).config.trans hbut.config)
      ((hu.1.trans hv.1).published.trans hbut.published)
  have hsame := hu.1.trans hv.1
  refine wp_post (wp_writeFile .location _) fun x w hw => ⟨?_, ?_, fun hok => ?_⟩
  · exact hw.1.config.trans (hsame.config.trans hbut.config)
  · exact hw.1.published.trans (hsame.published.trans hbut.published)
  · obtain ⟨nonce, rfl⟩ := hv.2 cipher rfl
    have hvault : w.vault = t.vault :=
      (hw.1.files .vault (by decide)).trans hsame.vault
    exact ⟨nonce, pass, hw.2 hok, hvault ▸ hkey pass rfl⟩

/-- `Reset` stores the defaults and publishes nothing. -/
theorem wp_reset : wp reset r any (fun x t =>
    t.published = s.published ∧ (x = .ok () → Stored r (newConfig r) t)) s := by
  unfold reset
  rw [wp_env_bind]
  exact wp_post (wp_save _) fun _ _ h => h.2

theorem translate_of_noFalse {c : Config α} (h : c.NoFalse) : c.translate = c := by
  unfold Config.translate
  congr 1
  funext uid
  rw [if_neg (h.notify uid)]

theorem load_published : wp load r any (fun _ t => t.published = s.published) s := by
  unfold load
  rw [wp_env_bind, wp_update_bind]
  refine ⟨trivial, ?_⟩
  rw [wp_state_bind, wp_ite]
  refine ⟨fun _ => ?_, fun _ => ?_⟩
  · rw [wp_update_bind]
    exact ⟨trivial, wp_post (wp_save _) fun _ _ h => h.2.1⟩
  · refine wp_seq wp_getPassphrase (fun pass t ht => ?_) fun _ _ h => h.1.published
    refine wp_seq (wp_readFile .location) (fun data u hu => ?_) fun _ _ h =>
      h.1.published.trans ht.1.published
    refine wp_seq (wp_decrypt data pass) (fun plain v hv => ?_) fun _ _ h =>
      h.1.published.trans (hu.1.published.trans ht.1.published)
    rw [wp_state_bind, wp_update_bind]
    have hpublished : v.published = s.published :=
      hv.1.published.trans (hu.1.published.trans ht.1.published)
    refine ⟨trivial, wp_ite.mpr ⟨fun _ => wp_update.mpr ⟨trivial, hpublished⟩, fun _ =>
      wp_fail.mpr hpublished⟩⟩

/-- What was saved is what is loaded, if anything is. -/
theorem load_stored {c : Config α} (hc : c.NoFalse) (hs : Stored r c s) :
    wp load r any (fun x t => Stored r c t ∧ (x = .ok () → t.config = c)) s := by
  obtain ⟨nonce, pass, hlocation, hkey⟩ := hs
  have hstop {e : Error} {t : State α β} (hl : t.location = s.location) (hv : t.vault = s.vault) :
      Stored r c t ∧ ((.error e : Except Error Unit) = .ok () → t.config = c) := by
    refine ⟨⟨nonce, pass, hl.trans hlocation, hv ▸ hkey⟩, fun h => ?_⟩
    cases h
  unfold load
  rw [wp_env_bind, wp_update_bind]
  refine ⟨trivial, ?_⟩
  rw [wp_state_bind, wp_ite]
  refine ⟨fun hnone => ?_, fun _ => ?_⟩
  · rw [hlocation] at hnone
    cases hnone
  refine wp_seq wp_getPassphrase (fun pass' t ht => ?_) fun e t ht =>
    hstop (ht.1.files .location (by decide)) (ht.2.2 pass hkey)
  obtain ⟨hbut, hkey', hvault⟩ := ht
  have hl : t.location = s.location := hbut.files .location (by decide)
  have hv : t.vault = s.vault := hvault pass hkey
  obtain rfl : pass' = pass := (hkey' pass' rfl).unique (hv ▸ hkey)
  refine wp_seq (wp_readFile .location) (fun data u hu => ?_) fun e u hu =>
    hstop (hu.1.location.trans hl) (hu.1.vault.trans hv)
  have hdata := hu.2.1 data rfl
  refine wp_seq (wp_decrypt data pass') (fun plain v hv' => ?_) fun e v hv' =>
    hstop ((hu.1.trans hv'.1).location.trans hl) ((hu.1.trans hv'.1).vault.trans hv)
  obtain rfl : data = r.codec.encrypt nonce (r.codec.marshal c) pass' :=
    Option.some.inj (hdata.symm.trans (hl.trans hlocation))
  obtain rfl : plain = r.codec.marshal c := by
    have hplain := hv'.2.1 plain rfl
    rw [r.codec.decrypt_encrypt] at hplain
    exact (Option.some.inj hplain).symm
  rw [wp_state_bind, r.codec.unmarshal_marshal c v.config hc, wp_update_bind]
  refine ⟨trivial, ?_⟩
  rw [if_pos rfl]
  refine wp_update.mpr ⟨trivial, ?_, fun _ => translate_of_noFalse hc⟩
  exact ⟨nonce, pass', (hu.1.trans hv'.1).location.trans (hl.trans hlocation),
    ((hu.1.trans hv'.1).vault.trans hv) ▸ hkey⟩

end Parts

/-! ### Publishing -/

section Publishing

variable {r : Env α β} {s : State α β}

/-- `SaveWith` publishes at most one configuration, one exactly if it succeeds, and this is what
the next `Load` that succeeds returns. -/
structure Published (r : Env α β) (fn : Config α → Config α) (s : State α β) : Prop where
  once : (saveWith fn r s).final.published = s.published ∨
    ∃ c, (saveWith fn r s).final.published = s.published ++ [c]
  iff_ok : (saveWith fn r s).final.published ≠ s.published ↔ (saveWith fn r s).result = .ok ()
  loaded : ∀ c, (saveWith fn r s).final.published = s.published ++ [c] → c.NoFalse → ∀ earlier,
    let t := (fun u => (load r u).final)^[earlier] (saveWith fn r s).final
    (load r t).result = .ok () → (load r t).final.config = c

theorem load_again {c : Config α} (hc : c.NoFalse) (hs : Stored r c s) (earlier : Nat) :
    Stored r c ((fun u => (load r u).final)^[earlier] s) := by
  induction earlier generalizing s with
  | zero => exact hs
  | succ n ih => exact ih (load_stored hc hs).2.1

/-- After a load that succeeded, `SaveWith` publishes exactly what it saved. -/
theorem wp_saveWith (fn : Config α → Config α) (hload : (load r s).result = .ok ()) :
    wp (saveWith fn) r any (fun x t =>
      (x = .ok () ∧ ∃ c, t.published = s.published ++ [c] ∧ Stored r c t) ∨
      (x ≠ .ok () ∧ t.published = s.published)) s := by
  have hloaded : wp load r any (fun x t => x = .ok () ∧ t.published = s.published) s :=
    ⟨fun _ _ => trivial, hload, load_published.2⟩
  unfold saveWith
  rw [wp_bind, wp_attempt]
  refine wp_post hloaded fun x t ht => ?_
  obtain ⟨rfl, hpublished⟩ := ht
  rw [onOk_ok, wp_update_bind]
  refine ⟨trivial, ?_⟩
  rw [wp_state_bind, wp_bind, wp_attempt]
  refine wp_post (wp_save _) fun y u hu => ?_
  rw [onOk_ok]
  cases y with
  | ok _ =>
    refine wp_when.mpr ⟨fun _ => wp_update.mpr ⟨trivial, .inl ⟨rfl, u.config, ?_, ?_⟩⟩, fun h => ?_⟩
    · rw [hu.2.1]
      exact congrArg (· ++ _) hpublished
    · rw [hu.1]
      exact hu.2.2 rfl
    · cases h
  | error e =>
    refine wp_seq (P := fun _ v => v.published = s.published)
      (wp_when.mpr ⟨fun h => ?_, fun _ => ?_⟩)
      (fun _ v hv => wp_fail.mpr (.inr ⟨fun h => ?_, hv⟩)) fun _ v hv => .inr ⟨fun h => ?_, hv⟩
    · cases h
    · exact hu.2.1.trans hpublished
    · cases h
    · cases h

/-- After a load that failed, `SaveWith` publishes and fails. -/
theorem wp_saveWith_failed (fn : Config α → Config α) {e : Error}
    (hload : (load r s).result = .error e) :
    wp (saveWith fn) r any (fun x t =>
      x = .error e ∧ t.published ≠ s.published) s := by
  have hloaded : wp load r any (fun x t =>
      x = .error e ∧ t.published = s.published) s := ⟨fun _ _ => trivial, hload, load_published.2⟩
  unfold saveWith
  rw [wp_bind, wp_attempt]
  refine wp_post hloaded fun x t ht => ?_
  obtain ⟨rfl, hpublished⟩ := ht
  rw [onOk_ok]
  refine wp_seq (P := fun x u => x = .ok () ∧ u.published = s.published ++ [t.config])
    (wp_when.mpr ⟨fun _ => wp_update.mpr ⟨trivial, rfl, ?_⟩, fun h => ?_⟩)
    (fun _ u hu => wp_fail.mpr ⟨rfl, ?_⟩) fun _ _ h => by cases h.1
  · exact congrArg (· ++ _) hpublished
  · cases h
  · rw [hu.2]
    simp

/-- A change of the configuration is published as it should be exactly if it could be loaded
before. -/
theorem published_iff (r : Env α β) (fn : Config α → Config α) (s : State α β) :
    Published r fn s ↔ (load r s).result = .ok () := by
  constructor
  · intro h
    cases hload : (load r s).result with
    | ok _ => rfl
    | error e =>
      obtain ⟨hresult, hchanged⟩ := (wp_saveWith_failed fn hload).2
      have hok := h.iff_ok.mp hchanged
      rw [hresult] at hok
      cases hok
  · intro hload
    rcases (wp_saveWith fn hload).2 with ⟨hok, c, hpublished, hstored⟩ | ⟨hfailed, hsame⟩
    · refine ⟨.inr ⟨c, hpublished⟩, ⟨fun _ => hok, fun _ => ?_⟩, ?_⟩
      · rw [hpublished]
        simp
      · intro c' hc' hnoFalse earlier t
        obtain rfl : c = c' := by
          rw [hpublished] at hc'
          exact List.singleton_inj.mp (List.append_cancel_left hc')
        exact (load_stored hnoFalse (load_again hnoFalse hstored earlier)).2.2
    · refine ⟨.inl hsame, ⟨fun h => absurd hsame h, fun h => absurd h hfailed⟩, ?_⟩
      intro c hc
      rw [hsame] at hc
      simp at hc

end Publishing

/-! ### A load that fails -/

/-- Texts by how they were made, with an encryption that hides nothing. -/
inductive Text (α : Type) where
  | empty
  | key (n : Nat)
  | json (c : Config α)
  | sealed (data : Text α)
  | gob (data : Text α)

def symbolic (α : Type) : Codec α (Text α) where
  isEmpty
    | .empty => true
    | _ => false
  marshal := .json
  unmarshal
    | .json c, _ => (c, true)
    | _, c => (c, false)
  encrypt _ data _ := .sealed data
  decrypt
    | .sealed data, _ => some data
    | _, _ => none
  gobEncode := .gob
  gobDecode
    | .gob data => some data
    | _ => none
  unmarshal_marshal _ _ _ := rfl
  decrypt_encrypt _ _ _ := rfl

/-- The key cannot be read: the change is refused, and the defaults are published. -/
theorem published_without_saving : let r : Env Nat (Text Nat) :=
      { codec := symbolic Nat, salt := .key 0, defaults := 1, leftover := fun _ => none
        fails := fun n => if n = 0 then some "input/output error" else none
        key := .key, nonce := id }
    let s : State Nat (Text Nat) :=
      { location := some (.sealed (.json { rest := 2 })), vault := some (.gob (.sealed (.key 1)))
        newInstallation := false, config := { rest := 0 }, published := [], clock := 0 }
    (saveWith id r s).result = .error (.external "input/output error") ∧
      (saveWith id r s).final.published.map Config.rest = [1] := by
  decide

end NordVPN.Settings
