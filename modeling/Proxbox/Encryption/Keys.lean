import Mathlib.Data.List.Basic
import Proxbox.Library.Json
/-!
# Keys and ciphertexts

The helpers of `utils/encryption.py`. A stored key is a Fernet key or, from older installations, a raw secret of
32 bytes. The cipher is given by its operations and by what is assumed of them: a token decrypts to what was
encrypted in it. A nonce stands for all that differs between two encryptions of one text.
-/

/-- A cipher: the bytes a key text stands for, and tokens made and opened with them. -/
structure Cipher (ν : Type) where
  decodeKey : String → Option (List UInt8)
  encodeKey : List UInt8 → String
  encrypt : List UInt8 → ν → String → String
  decrypt : List UInt8 → String → Option String
  decrypt_encrypt : ∀ key nonce plaintext, decrypt key (encrypt key nonce plaintext) = some plaintext
  encrypt_ne_empty : ∀ key nonce plaintext, encrypt key nonce plaintext ≠ ""

namespace Cipher

def keyMark (key : List UInt8) : List Char := '#' :: key.map (fun byte => Char.ofNat byte.toNat)

/-- A cipher that hides nothing: a token is the key and the text. Its key texts are 32 characters of one byte
each, padded to 44. -/
def transparent : Cipher Unit where
  decodeKey text := if text.length = 44 then some ((text.toList.take 32).map fun c => c.toNat.toUInt8) else none
  encodeKey key := String.ofList (key.map (fun byte => Char.ofNat byte.toNat) ++ List.replicate 12 '=')
  encrypt key _ plaintext := String.ofList (keyMark key ++ plaintext.toList)
  decrypt key token :=
    if keyMark key <+: token.toList then some (String.ofList (token.toList.drop (keyMark key).length)) else none
  decrypt_encrypt key _ plaintext := by simp
  encrypt_ne_empty key _ plaintext h := by
    have hlist := congrArg String.toList h
    simp [keyMark] at hlist

end Cipher

namespace Proxbox.Encryption

open Python

inductive EncryptionError where
  | keyMissing
  | keyInvalid
  | decryptionFailed
  deriving DecidableEq

variable {ν : Type} (cipher : Cipher ν)

def fernetAccepts (encoded : String) : Bool := (cipher.decodeKey encoded).any (·.length = 32)

def coerceFernetKey (raw : String) : Except EncryptionError String :=
  if raw = "" then .error .keyMissing
  else if fernetAccepts cipher (strip raw) then .ok (strip raw)
  else if (strip raw).utf8ByteSize = 32 then .ok (cipher.encodeKey (strip raw).toUTF8.data.toList)
  else .error .keyInvalid

def isCanonicalFernetKey (raw : String) : Bool :=
  (strip raw).utf8ByteSize = 44 &&
    (cipher.decodeKey (strip raw)).any fun decoded => decoded.length = 32 && cipher.encodeKey decoded = strip raw

def fernet (key : String) : Except EncryptionError (List UInt8) := do
  match cipher.decodeKey (← coerceFernetKey cipher key) with
  | some bytes => return bytes
  | none => throw .keyInvalid

def keysMatch (left right : String) : Except EncryptionError Bool := do
  return cipher.decodeKey (← coerceFernetKey cipher left) = cipher.decodeKey (← coerceFernetKey cipher right)

def encrypt (nonce : ν) (plaintext key : String) : Except EncryptionError String :=
  if plaintext = "" then .ok "" else do return cipher.encrypt (← fernet cipher key) nonce plaintext

def decrypt (ciphertext key : String) : Except EncryptionError String :=
  if ciphertext = "" then .ok "" else do
    match cipher.decrypt (← fernet cipher key) ciphertext with
    | some plaintext => return plaintext
    | none => throw .decryptionFailed

def opens (key ciphertext : String) : Bool := (decrypt cipher ciphertext key).isOk

variable {cipher}

@[simp] theorem decrypt_empty (key : String) : decrypt cipher "" key = .ok "" := rfl

@[simp] theorem opens_empty (key : String) : opens cipher key "" = true := rfl

theorem opens_iff {key ciphertext : String} :
    opens cipher key ciphertext = true ↔ ∃ plaintext, decrypt cipher ciphertext key = .ok plaintext := by
  unfold opens
  cases decrypt cipher ciphertext key <;> simp [Except.isOk, Except.toBool]

variable {plaintext key ciphertext : String}

theorem decrypt_encrypt {nonce : ν}
    (h : encrypt cipher nonce plaintext key = .ok ciphertext) : decrypt cipher ciphertext key = .ok plaintext := by
  unfold encrypt at h
  split_ifs at h with hempty
  · obtain rfl := Except.ok.inj h
    rw [hempty, decrypt_empty]
  · obtain ⟨bytes, hbytes, hciphertext⟩ := bind_eq_ok.mp h
    obtain rfl := Except.ok.inj hciphertext
    rw [decrypt, if_neg (cipher.encrypt_ne_empty bytes nonce plaintext), hbytes]
    change (match cipher.decrypt bytes (cipher.encrypt bytes nonce plaintext) with
      | some plaintext => Except.ok plaintext
      | none => .error EncryptionError.decryptionFailed) = _
    rw [cipher.decrypt_encrypt]

theorem opens_encrypt {nonce : ν}
    (h : encrypt cipher nonce plaintext key = .ok ciphertext) : opens cipher key ciphertext = true :=
  opens_iff.mpr ⟨plaintext, decrypt_encrypt h⟩

end Proxbox.Encryption
