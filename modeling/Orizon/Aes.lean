import Orizon.Lib.CounterMode

/-!
# Orizon.Aes

AES-128 of `lib/aes_gcm.c`: the key schedule, the encryption of one block, and
counter mode with the counter kept by the caller (`aes128_ctr_crypt_update`).

The counter is the last four bytes of its block: the carry stops there.
-/

namespace Orizon

/-- A block of `AES_BLOCK_SIZE` bytes; also a key and a counter. -/
abbrev AesBlock := Vector UInt8 16

/-! ## The cipher -/

/-- `aes_sbox`, in rows of 16. -/
def aesSbox : List (List UInt8) :=
  [
    [0x63, 0x7c, 0x77, 0x7b, 0xf2, 0x6b, 0x6f, 0xc5, 0x30, 0x01, 0x67, 0x2b, 0xfe, 0xd7, 0xab, 0x76],
    [0xca, 0x82, 0xc9, 0x7d, 0xfa, 0x59, 0x47, 0xf0, 0xad, 0xd4, 0xa2, 0xaf, 0x9c, 0xa4, 0x72, 0xc0],
    [0xb7, 0xfd, 0x93, 0x26, 0x36, 0x3f, 0xf7, 0xcc, 0x34, 0xa5, 0xe5, 0xf1, 0x71, 0xd8, 0x31, 0x15],
    [0x04, 0xc7, 0x23, 0xc3, 0x18, 0x96, 0x05, 0x9a, 0x07, 0x12, 0x80, 0xe2, 0xeb, 0x27, 0xb2, 0x75],
    [0x09, 0x83, 0x2c, 0x1a, 0x1b, 0x6e, 0x5a, 0xa0, 0x52, 0x3b, 0xd6, 0xb3, 0x29, 0xe3, 0x2f, 0x84],
    [0x53, 0xd1, 0x00, 0xed, 0x20, 0xfc, 0xb1, 0x5b, 0x6a, 0xcb, 0xbe, 0x39, 0x4a, 0x4c, 0x58, 0xcf],
    [0xd0, 0xef, 0xaa, 0xfb, 0x43, 0x4d, 0x33, 0x85, 0x45, 0xf9, 0x02, 0x7f, 0x50, 0x3c, 0x9f, 0xa8],
    [0x51, 0xa3, 0x40, 0x8f, 0x92, 0x9d, 0x38, 0xf5, 0xbc, 0xb6, 0xda, 0x21, 0x10, 0xff, 0xf3, 0xd2],
    [0xcd, 0x0c, 0x13, 0xec, 0x5f, 0x97, 0x44, 0x17, 0xc4, 0xa7, 0x7e, 0x3d, 0x64, 0x5d, 0x19, 0x73],
    [0x60, 0x81, 0x4f, 0xdc, 0x22, 0x2a, 0x90, 0x88, 0x46, 0xee, 0xb8, 0x14, 0xde, 0x5e, 0x0b, 0xdb],
    [0xe0, 0x32, 0x3a, 0x0a, 0x49, 0x06, 0x24, 0x5c, 0xc2, 0xd3, 0xac, 0x62, 0x91, 0x95, 0xe4, 0x79],
    [0xe7, 0xc8, 0x37, 0x6d, 0x8d, 0xd5, 0x4e, 0xa9, 0x6c, 0x56, 0xf4, 0xea, 0x65, 0x7a, 0xae, 0x08],
    [0xba, 0x78, 0x25, 0x2e, 0x1c, 0xa6, 0xb4, 0xc6, 0xe8, 0xdd, 0x74, 0x1f, 0x4b, 0xbd, 0x8b, 0x8a],
    [0x70, 0x3e, 0xb5, 0x66, 0x48, 0x03, 0xf6, 0x0e, 0x61, 0x35, 0x57, 0xb9, 0x86, 0xc1, 0x1d, 0x9e],
    [0xe1, 0xf8, 0x98, 0x11, 0x69, 0xd9, 0x8e, 0x94, 0x9b, 0x1e, 0x87, 0xe9, 0xce, 0x55, 0x28, 0xdf],
    [0x8c, 0xa1, 0x89, 0x0d, 0xbf, 0xe6, 0x42, 0x68, 0x41, 0x99, 0x2d, 0x0f, 0xb0, 0x54, 0xbb, 0x16]]

/-- `aes_rcon`. -/
def aesRcon : List UInt8 := [0x01, 0x02, 0x04, 0x08, 0x10, 0x20, 0x40, 0x80, 0x1b, 0x36]

/-- `aes_sbox[x]`. -/
def aesSub (x : UInt8) : UInt8 := (aesSbox.getD (x >>> 4).toNat []).getD (x &&& 0x0f).toNat 0

/-- `xtime`. -/
def xtime (x : UInt8) : UInt8 := (x <<< 1) ^^^ (if x &&& 0x80 ≠ 0 then 0x1b else 0)

/-- One round of the loop of `aes_key_expand`: the four bytes from `generated`. -/
def aesKeyExpandStep (roundKeys : List UInt8) (generated : Nat) : List UInt8 :=
  let temp := fun i => roundKeys.getD (generated - 4 + i) 0
  let word :=
    if generated % 16 = 0 then
      [aesSub (temp 1) ^^^ aesRcon.getD (generated / 16 - 1) 0, aesSub (temp 2), aesSub (temp 3),
        aesSub (temp 0)]
    else [temp 0, temp 1, temp 2, temp 3]
  roundKeys ++ List.zipWith (· ^^^ ·) ((roundKeys.drop (generated - 16)).take 4) word

/-- `aes_key_expand`: `AES128_ROUND_KEYS` bytes. -/
def aesKeyExpand (key : AesBlock) : List UInt8 :=
  (List.range 40).foldl (fun roundKeys i => aesKeyExpandStep roundKeys (16 + 4 * i)) key.toList

/-- `aes_add_round_key` with the key of the given round. -/
def aesAddRoundKey (state : AesBlock) (roundKeys : List UInt8) (round : Nat) : AesBlock :=
  Vector.ofFn fun i => state[i] ^^^ roundKeys.getD (round * 16 + i) 0

/-- `aes_sub_bytes`. -/
def aesSubBytes (state : AesBlock) : AesBlock := state.map aesSub

/-- `aes_shift_rows`. -/
def aesShiftRows (s : AesBlock) : AesBlock :=
  #v[s[0], s[5], s[10], s[15], s[4], s[9], s[14], s[3], s[8], s[13], s[2], s[7], s[12], s[1],
    s[6], s[11]]

/-- A column of `aes_mix_columns`. -/
def aesMixColumn (a0 a1 a2 a3 : UInt8) : List UInt8 :=
  let t := a0 ^^^ a1 ^^^ a2 ^^^ a3
  [a0 ^^^ t ^^^ xtime (a0 ^^^ a1), a1 ^^^ t ^^^ xtime (a1 ^^^ a2),
    a2 ^^^ t ^^^ xtime (a2 ^^^ a3), a3 ^^^ t ^^^ xtime (a3 ^^^ a0)]

/-- `aes_mix_columns`. -/
def aesMixColumns (s : AesBlock) : AesBlock :=
  ⟨(aesMixColumn s[0] s[1] s[2] s[3] ++ aesMixColumn s[4] s[5] s[6] s[7] ++
    aesMixColumn s[8] s[9] s[10] s[11] ++ aesMixColumn s[12] s[13] s[14] s[15]).toArray, rfl⟩

/-- A round of `aes128_encrypt_block` before the last. -/
def aesRound (roundKeys : List UInt8) (state : AesBlock) (round : Nat) : AesBlock :=
  aesAddRoundKey (aesMixColumns (aesShiftRows (aesSubBytes state))) roundKeys round

/-- `aes128_encrypt_block`. -/
def aes128EncryptBlock (key input : AesBlock) : AesBlock :=
  let roundKeys := aesKeyExpand key
  let state := (List.range' 1 9).foldl (aesRound roundKeys) (aesAddRoundKey input roundKeys 0)
  aesAddRoundKey (aesShiftRows (aesSubBytes state)) roundKeys 10

/-! ## Counter mode -/

/-- The bytes of `increment_counter` from the last: the carry goes on while a byte
becomes 0. -/
def incrementBytes : List UInt8 → List UInt8
  | [] => []
  | b :: rest => (b + 1) :: if b + 1 = 0 then incrementBytes rest else rest

theorem length_incrementBytes (bs : List UInt8) : (incrementBytes bs).length = bs.length := by
  induction bs with
  | nil => rfl
  | cons b rest ih =>
      rw [incrementBytes, List.length_cons, List.length_cons]
      split
      · rw [ih]
      · rfl

/-- `increment_counter`: bytes 15 to 12. -/
def incrementCounter (counter : AesBlock) : AesBlock :=
  ⟨(counter.toList.take 12 ++ (incrementBytes (counter.toList.drop 12).reverse).reverse).toArray,
    by simp [length_incrementBytes]⟩

/-- `aes128_ctr_crypt_update`: the bytes, and the counter after them. -/
def aes128CtrCryptUpdate (key counter : AesBlock) (input : List UInt8) : List UInt8 × AesBlock :=
  counterCrypt (fun c => (aes128EncryptBlock key c).toList) incrementCounter 16 input.length
    counter input

variable (key counter : AesBlock) (input : List UInt8)

theorem length_aes128CtrCryptUpdate :
    (aes128CtrCryptUpdate key counter input).1.length = input.length :=
  length_counterCrypt (by decide) (fun _ => by simp) (Nat.le_refl _)

theorem aes128CtrCryptUpdate_self :
    aes128CtrCryptUpdate key counter (aes128CtrCryptUpdate key counter input).1 =
      (input, (aes128CtrCryptUpdate key counter input).2) := by
  have hlen := length_aes128CtrCryptUpdate key counter input
  refine Prod.ext ?_ ?_
  · exact counterCrypt_counterCrypt (by decide) (fun _ => by simp) (Nat.le_refl _) (Nat.le_of_eq hlen.symm)
  · exact counterCrypt_counter (by decide) hlen (Nat.le_refl _) (Nat.le_refl _)

theorem aes128CtrCryptUpdate_take (k : Nat) :
    (aes128CtrCryptUpdate key counter (input.take k)).1 =
      (aes128CtrCryptUpdate key counter input).1.take k :=
  counterCrypt_take (by decide) (fun _ => by simp) k (Nat.le_refl _) (Nat.le_refl _)

end Orizon
