import RebooterHub.Backup.Plan
import RebooterHub.Support.Fallible
import RebooterHub.Support.Hex

/-!
# Backup — Encryption

`encrypt_document` and `decrypt_document`: the envelope of a document that holds secrets.

The key derivation, AES-GCM and the JSON text are those of the libraries (`Cipher`, `JsonCodec`).
-/

namespace RebooterHub.Backup
open RebooterHub.Fallible (ok_bind)

/-! ### The libraries -/

/-- What a decryption raises. -/
inductive CipherError where
  /-- `InvalidTag`. -/
  | invalidTag
  /-- An exception of Python: the length of a nonce is checked. -/
  | raised (e : PyError)
deriving DecidableEq, Repr

/-- AES-GCM with a derived key. -/
structure Cipher (Key : Type) where
  /-- `_derive_key`. -/
  deriveKey : String → List UInt8 → Key
  /-- `AESGCM(key).encrypt(nonce, plaintext, None)`. -/
  encrypt : Key → List UInt8 → List UInt8 → List UInt8
  /-- `AESGCM(key).decrypt(nonce, ciphertext, None)`. -/
  decrypt : Key → List UInt8 → List UInt8 → Except CipherError (List UInt8)

/-- `json.dumps(doc).encode("utf-8")`, and `json.loads` of such bytes with the text of its error. -/
structure JsonCodec where
  dumps : Json → List UInt8
  loads : List UInt8 → Except String Json

/-! ### The envelope -/

section
variable {Key : Type} (cipher : Cipher Key) (codec : JsonCodec)

/-- The `envelope` of a document. -/
def envelope (salt nonce : List UInt8) (now : String) (doc : Members) (passphrase : String) :
    Members :=
  let ciphertext := cipher.encrypt (cipher.deriveKey passphrase salt) nonce (codec.dumps (.obj doc))
  let hex bytes := Json.str (String.ofList (Hex.encode bytes))
  [("format", .str formatName), ("format_version", .int formatVersion), ("encrypted", .bool true),
    ("kdf", .str "scrypt"), ("cipher", .str "AES-256-GCM"), ("salt", hex salt),
    ("nonce", hex nonce), ("ciphertext", hex ciphertext), ("exported_at", .str now)]

/-- `encrypt_document`, with what `os.urandom` gives. -/
def encryptDocument (salt nonce : List UInt8) (now : String) (doc : Members) (passphrase : String) :
    Except BackupError Members :=
  if passphrase = "" then .error (.message "a passphrase is required for an encrypted export")
  else .ok (envelope cipher codec salt nonce now doc passphrase)

/-- `bytes.fromhex(envelope[key])`. -/
def hexField (ms : Members) (key : String) : Except BackupError (List UInt8) :=
  match ms.lookup key with
  | none => .error (.message ("malformed encrypted backup envelope: '" ++ key ++ "'"))
  | some (.str text) =>
    match Hex.decode text.toList with
    | .ok bytes => .ok bytes
    | .error i => .error (.message ("malformed encrypted backup envelope: "
        ++ "non-hexadecimal number found in fromhex() arg at position " ++ toString i))
  | some _ => .error (.raised .typeError)

/-- `decrypt_document`. -/
def decryptDocument (passphrase : String) (ms : Members) : Except BackupError Json := do
  if passphrase = "" then throw (.message "this file is encrypted — a passphrase is required")
  let salt ← hexField ms "salt"
  let nonce ← hexField ms "nonce"
  let ciphertext ← hexField ms "ciphertext"
  match cipher.decrypt (cipher.deriveKey passphrase salt) nonce ciphertext with
  | .error .invalidTag =>
    throw (.message "could not decrypt — wrong passphrase or the file was modified")
  | .error (.raised e) => throw (.raised e)
  | .ok plaintext =>
    match codec.loads plaintext with
    | .error text => throw (.message ("decrypted payload is not valid JSON: " ++ text))
    | .ok doc => return doc

/-! ### The document comes back -/

/-- What is relied on for a document: AES-GCM with the nonce is reversed, and the JSON text of the
document is read. -/
structure Reversible (nonce : List UInt8) (doc : Members) : Prop where
  decrypts : ∀ key plaintext,
    cipher.decrypt key nonce (cipher.encrypt key nonce plaintext) = .ok plaintext
  loads : codec.loads (codec.dumps (.obj doc)) = .ok (.obj doc)

variable {cipher codec} {salt nonce : List UInt8} {sealedAt now : String} {doc : Members}
  {passphrase : String}

theorem hexField_of_encode {ms : Members} {key : String} {bytes : List UInt8}
    (h : ms.lookup key = some (.str (String.ofList (Hex.encode bytes)))) :
    hexField ms key = .ok bytes := by
  rw [hexField, h]
  dsimp only
  rw [String.toList_ofList, Hex.decode_encode]

theorem decryptDocument_envelope (h : Reversible cipher codec nonce doc) (hne : passphrase ≠ "") :
    decryptDocument cipher codec passphrase
      (envelope cipher codec salt nonce sealedAt doc passphrase) = .ok (.obj doc) := by
  rw [decryptDocument, if_neg hne, hexField_of_encode rfl, hexField_of_encode rfl,
    hexField_of_encode rfl]
  simp only [ok_bind, h.decrypts, h.loads]
  rfl

theorem openDocument_envelope {decrypt : Members → Except BackupError Json} :
    openDocument decrypt (.obj (envelope cipher codec salt nonce sealedAt doc passphrase)) =
      decrypt (envelope cipher codec salt nonce sealedAt doc passphrase) >>= fun opened =>
        raised (asRecord opened) :=
  rfl

/-- A file is the document, or its envelope. -/
theorem exportConfig_eq_ok {c : Collation} {encrypt : Members → String → Members}
    {includeSecrets : Bool} {passphrase : Option String} {hub : Hub} {file : Members}
    (h : exportConfig c encrypt now includeSecrets passphrase hub = .ok file) :
    includeSecrets = false ∧ file = exportDocument c now includeSecrets hub ∨
      includeSecrets = true ∧ ∃ p, passphrase = some p ∧ p ≠ "" ∧
        file = encrypt (exportDocument c now includeSecrets hub) p := by
  unfold exportConfig at h
  split at h
  · exact .inl ⟨rfl, (Except.ok.inj h).symm⟩
  · next p hp =>
      obtain ⟨hpassphrase, hne⟩ := Option.filter_eq_some_iff.mp hp
      exact .inr ⟨rfl, p, hpassphrase, of_decide_eq_true hne, (Except.ok.inj h).symm⟩
  · cases h

/-- **An exported file is opened with its passphrase.** -/
theorem openDocument_export {c : Collation} {includeSecrets : Bool} {passphrase : Option String}
    {hub : Hub} {file : Members}
    (h : includeSecrets = true →
      Reversible cipher codec nonce (exportDocument c now includeSecrets hub))
    (hexport : exportConfig c (envelope cipher codec salt nonce sealedAt) now includeSecrets passphrase
      hub = .ok file) :
    openDocument (decryptDocument cipher codec (passphrase.getD "")) (.obj file) =
      .ok (exportDocument c now includeSecrets hub) := by
  rcases exportConfig_eq_ok hexport with ⟨-, rfl⟩ | ⟨hsecrets, p, rfl, hne, rfl⟩
  · rfl
  · rw [Option.getD_some, openDocument_envelope, decryptDocument_envelope (h hsecrets) hne]
    rfl

end

end RebooterHub.Backup
