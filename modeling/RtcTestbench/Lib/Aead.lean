import Mathlib

namespace Aead
set_option autoImplicit true

/-- The effect of an encryption call: its return code and the bytes written to both outputs. -/
structure Sealed where
  ret : Int
  ciphertext : List UInt8
  tag : List UInt8
  deriving DecidableEq

/-- The effect of a decryption call; the plaintext is written before the tag is checked. -/
structure Opened where
  ret : Int
  plaintext : List UInt8
  deriving DecidableEq

/-- Authenticated encryption with associated data under one key. A missing message means that
only the associated data is authenticated. -/
structure Cipher where
  encrypt : (plaintext : Option (List UInt8)) → (ad iv : List UInt8) → Sealed
  decrypt : (ciphertext : Option (List UInt8)) → (ad tag iv : List UInt8) → Opened

/-- Encryption never fails and keeps the length, and decryption succeeds exactly on what
encryption produced for the same associated data and initial vector. -/
structure Ideal (c : Cipher) : Prop where
  encrypt_ret : ∀ p ad iv, (c.encrypt p ad iv).ret = 0
  length_ciphertext : ∀ p ad iv, (c.encrypt p ad iv).ciphertext.length = (p.getD []).length
  length_tag : ∀ p ad iv, (c.encrypt p ad iv).tag.length = 16
  decrypt_message : ∀ p ad iv,
    c.decrypt (some (c.encrypt (some p) ad iv).ciphertext) ad (c.encrypt (some p) ad iv).tag iv =
      ⟨0, p⟩
  decrypt_no_message : ∀ ad iv, c.decrypt none ad (c.encrypt none ad iv).tag iv = ⟨0, []⟩
  decrypt_only : ∀ m ad tag iv, (c.decrypt m ad tag iv).ret = 0 →
    c.encrypt (m.map fun _ => (c.decrypt m ad tag iv).plaintext) ad iv = ⟨0, m.getD [], tag⟩

end Aead
