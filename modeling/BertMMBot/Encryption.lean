import BertMMBot.AsyncWiring
import BertMMBot.VaultProgram

/-! # Secrets at rest

Deposit keys and secrets of codes are stored under AES-256-GCM with the master key of the
process. The cipher itself, the random bytes and the master key come from the host. -/
namespace Encryption

open AsyncProgram AsyncWiring VaultTypes VaultProgram

def ivBytes : ℕ := 12
def tagBytes : ℕ := 16
def keyBytes : ℕ := 32

def randomBytes (size : ℕ) : Vault Bytes :=
  Async.choose (I := vaultInterface) (Choice.randomBytes size)

/-- What the cipher yields in all, and its tag. -/
def cipher (key iv plaintext : Bytes) : Vault (Bytes × Bytes) :=
  Async.choose (I := vaultInterface) (Choice.cipher key iv plaintext)

/-- Throws where the tag does not authenticate the bytes. -/
def decipher (key iv enc tag : Bytes) : Vault Bytes := do
  let r : Except Thrown Bytes ←
    Async.choose (I := vaultInterface) (Choice.decipher key iv enc tag)
  liftExcept r

def encrypt (plaintext key : Bytes) : Vault EncryptedBlob :=
  if key.length ≠ keyBytes then throw (.error "encrypt: key must be 32 bytes")
  else do
    let iv ← randomBytes ivBytes
    let out ← cipher key iv plaintext
    return ⟨out.1 ++ out.2, iv⟩

def decrypt (ciphertext iv key : Bytes) : Vault Bytes :=
  if key.length ≠ keyBytes then throw (.error "decrypt: key must be 32 bytes")
  else if iv.length ≠ ivBytes then throw (.error "decrypt: iv must be 12 bytes")
  else if ciphertext.length < tagBytes then throw (.error "decrypt: ciphertext too short")
  else
    let enc := ciphertext.take (ciphertext.length - tagBytes)
    let tag := ciphertext.drop (ciphertext.length - tagBytes)
    decipher key iv enc tag

/-- The key that the process has loaded when it began. -/
def masterKey : Vault Bytes := Async.choose (I := vaultInterface) Choice.masterKey

def encryptSecret (plaintext : Bytes) : Vault EncryptedBlob := do
  encrypt plaintext (← masterKey)

def decryptSecret (blob : EncryptedBlob) : Vault Bytes := do
  decrypt blob.ciphertext blob.iv (← masterKey)

/-- `Buffer.from(text, 'utf8')` -/
def utf8Bytes (text : String) : Bytes := text.toUTF8.toList

def isContinuation (b : UInt8) : Bool := 0x80 ≤ b ∧ b ≤ 0xbf

def scalar (high : ℕ) (rest : Bytes) : Char :=
  Char.ofNat (rest.foldl (fun acc b => acc * 64 + b.toNat % 64) high)

/-- The bytes that may follow this lead byte of a sequence of three or four. -/
def secondByte (lead : UInt8) (b : UInt8) : Bool :=
  (if lead = 0xe0 then 0xa0 else if lead = 0xf0 then 0x90 else 0x80) ≤ b ∧
    b ≤ (if lead = 0xed then 0x9f else if lead = 0xf4 then 0x8f else 0xbf)

/-- Each longest beginning of a character that is not completed becomes one replacement character. -/
def decodeUtf8 : Bytes → List Char
  | [] => []
  | a :: rest =>
    if a < 0x80 then Char.ofNat a.toNat :: decodeUtf8 rest
    else if 0xc2 ≤ a ∧ a ≤ 0xdf then
      match rest with
      | b :: rest' =>
        if isContinuation b then scalar (a.toNat % 32) [b] :: decodeUtf8 rest'
        else '\uFFFD' :: decodeUtf8 (b :: rest')
      | [] => ['\uFFFD']
    else if 0xe0 ≤ a ∧ a ≤ 0xef then
      match rest with
      | b :: c :: rest' =>
        if secondByte a b then
          if isContinuation c then scalar (a.toNat % 16) [b, c] :: decodeUtf8 rest'
          else '\uFFFD' :: decodeUtf8 (c :: rest')
        else '\uFFFD' :: decodeUtf8 (b :: c :: rest')
      | [b] => if secondByte a b then ['\uFFFD'] else '\uFFFD' :: decodeUtf8 [b]
      | [] => ['\uFFFD']
    else if 0xf0 ≤ a ∧ a ≤ 0xf4 then
      match rest with
      | b :: c :: d :: rest' =>
        if secondByte a b then
          if isContinuation c then
            if isContinuation d then scalar (a.toNat % 8) [b, c, d] :: decodeUtf8 rest'
            else '\uFFFD' :: decodeUtf8 (d :: rest')
          else '\uFFFD' :: decodeUtf8 (c :: d :: rest')
        else '\uFFFD' :: decodeUtf8 (b :: c :: d :: rest')
      | [b, c] =>
        if secondByte a b then
          if isContinuation c then ['\uFFFD'] else '\uFFFD' :: decodeUtf8 [c]
        else '\uFFFD' :: decodeUtf8 [b, c]
      | [b] => if secondByte a b then ['\uFFFD'] else '\uFFFD' :: decodeUtf8 [b]
      | [] => ['\uFFFD']
    else '\uFFFD' :: decodeUtf8 rest

/-- `toString('utf8')` -/
def utf8Text (bytes : Bytes) : String := String.ofList (decodeUtf8 bytes)

example : utf8Text (utf8Bytes "JBSWY3DP€") = "JBSWY3DP€" := by decide +kernel

/-- The cipher as it is documented: what was encrypted under a key and an iv decrypts under them. -/
structure Aes256Gcm where
  cipher : (key iv plaintext : Bytes) → Bytes × Bytes
  decipher : (key iv enc tag : Bytes) → Except Thrown Bytes
  tag_length : ∀ key iv plaintext, (cipher key iv plaintext).2.length = tagBytes
  decipher_cipher : ∀ key iv plaintext, decipher key iv (cipher key iv plaintext).1
    (cipher key iv plaintext).2 = .ok plaintext

/-- A choice by which secrets are stored and opened. -/
def isCryptographic : Choice → Bool
  | .fromSecretKey _ => true
  | .masterKey => true
  | .randomBytes _ => true
  | .cipher _ _ _ => true
  | .decipher _ _ _ _ => true
  | _ => false

variable {α κ : Type} {B : Bounds vaultInterface World κ} {w : Prop}

theorem within_lifted (r : Except Thrown α) : Within B w (liftExcept r : Vault α) := by
  cases r with
  | ok a => exact within_pure a
  | error e => exact within_throw e

section Within

variable (hB : ∀ c, isCryptographic c = true → B.choice c)

include hB

theorem within_encryptSecret (plaintext : Bytes) : Within B w (encryptSecret plaintext) := by
  apply within_bind (within_choose (hB .masterKey rfl))
  intro key
  apply within_ite
  · exact fun _ => within_throw _
  · intro _
    apply within_bind (within_choose (hB (.randomBytes ivBytes) rfl))
    intro iv
    exact within_bind (within_choose (hB (.cipher key iv plaintext) rfl)) fun _ => within_pure _

theorem within_decryptSecret (blob : EncryptedBlob) : Within B w (decryptSecret blob) := by
  apply within_bind (within_choose (hB .masterKey rfl))
  intro key
  apply within_ite
  · exact fun _ => within_throw _
  · intro _
    apply within_ite
    · exact fun _ => within_throw _
    · intro _
      apply within_ite
      · exact fun _ => within_throw _
      · intro _
        exact within_bind (within_choose (hB (.decipher _ _ _ _) rfl)) fun r => within_lifted r

theorem within_fromSecretKey (secretKey : Bytes) : Within B w (fromSecretKey secretKey) :=
  within_bind (within_choose (hB (.fromSecretKey secretKey) rfl)) fun r => within_lifted r

end Within

end Encryption
