import Orizon.Aes
import Orizon.Lib.Diff
import Orizon.Sha256

/-!
# Orizon.Gcm

AES-128-GCM of `lib/aes_gcm.c`: the multiplication by the hash key, the hash
over additional data and ciphertext, and the two operations
`aes128_gcm_encrypt` and `aes128_gcm_decrypt` with a nonce of 12 bytes.

Encryption and decryption use one key stream and one tag, so what was
encrypted is decrypted (`aes128GcmDecrypt_encrypt`), and what is decrypted
carries the tag of its ciphertext (`aes128GcmDecrypt_eq_some`).
-/

namespace Orizon

/-! ## The hash -/

/-- `xor_block`. -/
def xorBlock (out input : AesBlock) : AesBlock := out.zipWith (· ^^^ ·) input

/-- `shift_right_one`: every byte takes the low bit of the byte before it. -/
def shiftRightOne (v : AesBlock) : AesBlock :=
  Vector.ofFn fun i =>
    (v.get i >>> 1) ||| (if i.val = 0 then (0 : UInt8) else (v.get (i - 1) &&& 1) <<< 7)

/-- One bit of `gcm_multiply`: the product so far and the shifted hash key. -/
def gcmMultiplyStep (x : AesBlock) (zv : AesBlock × AesBlock) (bit : Nat) : AesBlock × AesBlock :=
  let z := if x.toList.getD (bit / 8) 0 &&& ((0x80 : UInt8) >>> UInt8.ofNat (bit % 8)) ≠ 0
    then xorBlock zv.1 zv.2 else zv.1
  let v := shiftRightOne zv.2
  (z, if zv.2.get 15 &&& 1 ≠ 0 then v.setIfInBounds 0 (v.get 0 ^^^ 0xe1) else v)

/-- `gcm_multiply`. -/
def gcmMultiply (x h : AesBlock) : AesBlock :=
  ((List.range 128).foldl (gcmMultiplyStep x) (Vector.replicate 16 0, h)).1

/-- `ghash_block`. -/
def ghashBlock (h y block : AesBlock) : AesBlock := gcmMultiply (xorBlock y block) h

/-- At most 16 bytes, filled up with zeros. -/
def zeroPadded (bytes : List UInt8) : AesBlock := Vector.ofFn fun i => bytes.getD i 0

/-- The loop of `ghash` over a text; every round takes a byte, so `fuel` rounds
are enough for `fuel` bytes. -/
def ghashText (h : AesBlock) : Nat → AesBlock → List UInt8 → AesBlock
  | 0, y, _ => y
  | fuel + 1, y, text =>
      if text.length = 0 then y
      else ghashText h fuel (ghashBlock h y (zeroPadded (text.take 16))) (text.drop 16)

/-- `ghash`. -/
def ghash (h : AesBlock) (aad ciphertext : List UInt8) : AesBlock :=
  let y := ghashText h aad.length (Vector.replicate 16 0) aad
  let y := ghashText h ciphertext.length y ciphertext
  ghashBlock h y (zeroPadded (writeBe64 (UInt64.ofNat aad.length * 8) ++
    writeBe64 (UInt64.ofNat ciphertext.length * 8)))

/-! ## Encryption and decryption -/

/-- The nonce of one message. -/
abbrev GcmNonce := Vector UInt8 12

/-- The counter block `j0`, whose successor encrypts the first block. -/
def gcmCounter (nonce : GcmNonce) :
    AesBlock := (nonce ++ (#v[0, 0, 0, 1] : Vector UInt8 4) : Vector UInt8 (12 + 4))

/-- `tag_mask[i] ^ s[i]`: the tag of a ciphertext. -/
def gcmTag (key : AesBlock) (nonce : GcmNonce) (aad ciphertext : List UInt8) : AesBlock :=
  let h := aes128EncryptBlock key (Vector.replicate 16 0)
  xorBlock (aes128EncryptBlock key (gcmCounter nonce)) (ghash h aad ciphertext)

/-- `aes_ctr_crypt`. -/
def aesCtrCrypt (key icb : AesBlock) (input : List UInt8) : List UInt8 :=
  (aes128CtrCryptUpdate key icb input).1

/-- `aes128_gcm_encrypt`: the ciphertext and its tag. -/
def aes128GcmEncrypt (key : AesBlock) (nonce : GcmNonce) (aad plaintext : List UInt8) :
    List UInt8 × AesBlock :=
  let ciphertext := aesCtrCrypt key (incrementCounter (gcmCounter nonce)) plaintext
  (ciphertext, gcmTag key nonce aad ciphertext)

/-- `aes128_gcm_decrypt`; `none` is -2, the tag is wrong. -/
def aes128GcmDecrypt (key : AesBlock) (nonce : GcmNonce) (aad ciphertext tag : List UInt8) :
    Option (List UInt8) :=
  if bytesDiff (gcmTag key nonce aad ciphertext).toList tag ≠ 0 then none
  else some (aesCtrCrypt key (incrementCounter (gcmCounter nonce)) ciphertext)

/-- `aes128_gcm_decrypt` with the buffer it writes to: the code it returns and the
buffer after it, of which the first `ciphertext_len` bytes are the plaintext.  A
pointer is a value here, so the return of -1 for a null pointer is left out. -/
def aes128GcmDecryptInto (key : AesBlock) (nonce : GcmNonce) (aad ciphertext : List UInt8)
    (tag : AesBlock) (plaintext : List UInt8) : Int × List UInt8 :=
  match aes128GcmDecrypt key nonce aad ciphertext tag.toList with
  | none => (-2, plaintext)
  | some bytes => (0, bytes ++ plaintext.drop bytes.length)

variable {key : AesBlock} {nonce : GcmNonce} {aad : List UInt8}

@[simp] theorem length_aesCtrCrypt (key icb : AesBlock) (input : List UInt8) :
    (aesCtrCrypt key icb input).length = input.length :=
  length_aes128CtrCryptUpdate key icb input

@[simp] theorem aesCtrCrypt_self (key icb : AesBlock) (input : List UInt8) :
    aesCtrCrypt key icb (aesCtrCrypt key icb input) = input := by
  simp [aesCtrCrypt, aes128CtrCryptUpdate_self]

@[simp] theorem length_aes128GcmEncrypt (plaintext : List UInt8) :
    (aes128GcmEncrypt key nonce aad plaintext).1.length = plaintext.length := by
  simp [aes128GcmEncrypt]

theorem aes128GcmDecrypt_eq_some {ciphertext tag plaintext : List UInt8} (htag : tag.length = 16) :
    aes128GcmDecrypt key nonce aad ciphertext tag = some plaintext ↔
      tag = (gcmTag key nonce aad ciphertext).toList ∧
        plaintext = aesCtrCrypt key (incrementCounter (gcmCounter nonce)) ciphertext := by
  have hdiff := bytesDiff_eq_zero_iff (a := (gcmTag key nonce aad ciphertext).toList) (b := tag)
    (by simp [htag])
  simp only [aes128GcmDecrypt, ne_eq, hdiff]
  grind

theorem aes128GcmDecrypt_encrypt (plaintext : List UInt8) :
    aes128GcmDecrypt key nonce aad (aes128GcmEncrypt key nonce aad plaintext).1
      (aes128GcmEncrypt key nonce aad plaintext).2.toList = some plaintext := by
  rw [aes128GcmDecrypt_eq_some (by simp)]
  simp [aes128GcmEncrypt]

end Orizon
