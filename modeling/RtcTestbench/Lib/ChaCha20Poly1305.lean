import RtcTestbench.Lib.Aead
import RtcTestbench.Lib.Blocks
import RtcTestbench.Lib.HostWord

namespace ChaCha20Poly1305
open Buffer
set_option autoImplicit true

def rotateLeft (x n : UInt32) : UInt32 := (x <<< n) ||| (x >>> (32 - n))

def quarterRound (s : List UInt32) (a b c d : Nat) : List UInt32 :=
  let va := s.getD a 0 + s.getD b 0
  let vd := rotateLeft (s.getD d 0 ^^^ va) 16
  let vc := s.getD c 0 + vd
  let vb := rotateLeft (s.getD b 0 ^^^ vc) 12
  let va := va + vb
  let vd := rotateLeft (vd ^^^ va) 8
  let vc := vc + vd
  let vb := rotateLeft (vb ^^^ vc) 7
  (((s.set a va).set b vb).set c vc).set d vd

example : quarterRound [0x11111111, 0x01020304, 0x9b8d6f43, 0x01234567] 0 1 2 3 =
    [0xea2a92f4, 0xcb1cf8ce, 0x4581472e, 0x5881c4bb] := by decide

def doubleRound (s : List UInt32) : List UInt32 :=
  [(0, 4, 8, 12), (1, 5, 9, 13), (2, 6, 10, 14), (3, 7, 11, 15),
    (0, 5, 10, 15), (1, 6, 11, 12), (2, 7, 8, 13), (3, 4, 9, 14)].foldl
    (fun s r => quarterRound s r.1 r.2.1 r.2.2.1 r.2.2.2) s

def wordAt (bytes : List UInt8) (i : Nat) : UInt32 := UInt32.ofNat (ofLe (slice bytes (4 * i) 4))

def initialState (key nonce : List UInt8) (counter : Nat) : List UInt32 :=
  [0x61707865, 0x3320646e, 0x79622d32, 0x6b206574] ++ (List.range 8).map (wordAt key) ++
    [UInt32.ofNat counter] ++ (List.range 3).map (wordAt nonce)

def keyBlock (key nonce : List UInt8) (counter : Nat) : List UInt8 :=
  let s := initialState key nonce counter
  (List.zipWith (· + ·) s (doubleRound^[10] s)).flatMap fun w => leBytes 4 w.toNat

/-- At least `len` bytes of key stream for the message; block 0 keys the authenticator. -/
def keyStream (key nonce : List UInt8) (len : Nat) : List UInt8 :=
  (List.range (len / 64 + 1)).flatMap fun i => keyBlock key nonce (i + 1)

def applyStream (msg stream : List UInt8) : List UInt8 := List.zipWith (· ^^^ ·) msg stream

def pad16 (bytes : List UInt8) : List UInt8 :=
  bytes ++ List.replicate ((16 - bytes.length % 16) % 16) 0

/-- The one-time authenticator over a message of whole 16 byte blocks. -/
def poly1305 (key msg : List UInt8) : List UInt8 :=
  let r := ofLe (slice key 0 16) &&& 0x0ffffffc0ffffffc0ffffffc0fffffff
  let acc := (blocks 16 msg).foldl
    (fun acc block => (acc + ofLe (block ++ [1])) * r % (2 ^ 130 - 5)) 0
  leBytes 16 (acc + ofLe (slice key 16 16))

def tagOf (key ciphertext ad iv : List UInt8) : List UInt8 :=
  poly1305 (keyBlock key iv 0)
    (pad16 ad ++ pad16 ciphertext ++ leBytes 8 ad.length ++ leBytes 8 ciphertext.length)

def cipher (key : List UInt8) : Aead.Cipher where
  encrypt plaintext ad iv :=
    let msg := plaintext.getD []
    let ciphertext := applyStream msg (keyStream key iv msg.length)
    ⟨0, ciphertext, tagOf key ciphertext ad iv⟩
  decrypt ciphertext ad tag iv :=
    let msg := ciphertext.getD []
    let plaintext := applyStream msg (keyStream key iv msg.length)
    ⟨if tag = tagOf key msg ad iv then 0 else -1, plaintext⟩

@[simp] theorem length_quarterRound : (quarterRound s a b c d).length = s.length := by
  simp only [quarterRound, List.length_set]

@[simp] theorem length_doubleRound : (doubleRound s).length = s.length := by
  simp only [doubleRound, List.foldl_cons, List.foldl_nil, length_quarterRound]

theorem length_iterate_doubleRound (k : Nat) (s : List UInt32) :
    (doubleRound^[k] s).length = s.length := by
  induction k generalizing s with
  | zero => rfl
  | succ k ih => rw [Function.iterate_succ_apply, ih, length_doubleRound]

theorem length_flatMap_const {f : α → List β} (h : ∀ x, (f x).length = c) (xs : List α) :
    (xs.flatMap f).length = xs.length * c := by
  have hu : Uniform c (xs.map f) := by
    intro ys hy
    obtain ⟨x, _, rfl⟩ := List.mem_map.mp hy
    exact h x
  rw [List.flatMap_def, hu.length_flatten, List.length_map]

theorem length_keyBlock (key nonce : List UInt8) (counter : Nat) :
    (keyBlock key nonce counter).length = 64 := by
  rw [keyBlock, length_flatMap_const fun _ => length_leBytes 4 _, List.length_zipWith,
    length_iterate_doubleRound]
  simp [initialState]

theorem length_keyStream (key nonce : List UInt8) (len : Nat) :
    (keyStream key nonce len).length = (len / 64 + 1) * 64 := by
  rw [keyStream, length_flatMap_const fun i => length_keyBlock key nonce (i + 1),
    List.length_range]

theorem length_applyStream (h : msg.length ≤ stream.length) :
    (applyStream msg stream).length = msg.length := by
  rw [applyStream, List.length_zipWith, Nat.min_eq_left h]

/-- The key stream cancels itself. -/
theorem applyStream_applyStream (h : msg.length ≤ stream.length) :
    applyStream (applyStream msg stream) stream = msg := by
  induction msg generalizing stream with
  | nil => rfl
  | cons b msg ih =>
    cases stream with
    | nil => cases h
    | cons k stream =>
      have ih' := ih (Nat.le_of_succ_le_succ h)
      simp only [applyStream, List.zipWith_cons_cons] at ih' ⊢
      rw [ih', UInt8.xor_assoc, UInt8.xor_self, UInt8.xor_zero]

theorem le_length_keyStream (key iv msg : List UInt8) :
    msg.length ≤ (keyStream key iv msg.length).length := by
  rw [length_keyStream]
  omega

theorem ideal (key : List UInt8) : Aead.Ideal (cipher key) where
  encrypt_ret _ _ _ := rfl
  length_ciphertext p ad iv := length_applyStream (le_length_keyStream key iv _)
  length_tag p ad iv := length_leBytes 16 _
  decrypt_message p ad iv := by
    have hl := le_length_keyStream key iv p
    simp only [cipher, Option.getD_some, length_applyStream hl, applyStream_applyStream hl,
      ↓reduceIte]
  decrypt_no_message ad iv := by
    simp only [cipher, Option.getD_none, applyStream, List.zipWith_nil_left, ↓reduceIte]
  decrypt_only m ad tag iv h := by
    have hl := le_length_keyStream key iv (m.getD [])
    have ht : tag = tagOf key (m.getD []) ad iv := by
      by_contra hne
      simp only [cipher, if_neg hne] at h
      cases h
    cases m with
    | none => simp [cipher, ht, applyStream]
    | some msg =>
      simp only [Option.getD_some] at hl ht
      simp only [cipher, Option.map_some, Option.getD_some, length_applyStream hl,
        applyStream_applyStream hl, ht]

end ChaCha20Poly1305
