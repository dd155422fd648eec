import Mathlib.Data.Fintype.EquivFin
import Orizon.Gcm
import Orizon.Lib.Digits
import Orizon.Lib.Run

/-!
# Orizon.KeyWrap

The decryption of one AES-128 block and `aes128_key_unwrap` of `lib/aes_gcm.c`, which opens
the key data of the WPA2 handshake.

`aes128_decrypt_block` undoes `aes128_encrypt_block`, step by step in the order of
the key schedule.  Over both stand RFC 3394 key wrap, and what `aes128_key_unwrap` returns
and leaves in its buffers.

The RFC counts its steps in 64 bits and the code in 32.  `keyWrap` takes the counter as
a parameter: the code undoes the wrap that counts modulo `2 ^ 32`, for every length, and
that is the RFC's as long as all `6 n` steps are below `2 ^ 32`.
-/

namespace Orizon

/-! ## The inverse cipher -/

/-- `gf_mul`. -/
def gfMul (a b : UInt8) : UInt8 :=
  ((List.range 8).foldl (fun (s : UInt8 × UInt8 × UInt8) _ =>
    (if s.2.2 &&& 1 ≠ 0 then s.1 ^^^ s.2.1 else s.1, xtime s.2.1, s.2.2 >>> 1)) (0, a, b)).1

/-- `aes_inv_shift_rows`. -/
def aesInvShiftRows (s : AesBlock) : AesBlock :=
  let b i := s.toList.getD i 0
  #v[b 0, b 13, b 10, b 7, b 4, b 1, b 14, b 11, b 8, b 5, b 2, b 15, b 12, b 9, b 6, b 3]

/-- `aes_inv_sbox_byte`: the first place of the byte in `aes_sbox`. -/
def aesInvSboxByte (v : UInt8) : UInt8 :=
  match (List.range 256).find? fun i => aesSub (UInt8.ofNat i) = v with
  | some i => UInt8.ofNat i
  | none => 0

/-- `aes_inv_sub_bytes`. -/
def aesInvSubBytes (s : AesBlock) : AesBlock := s.map aesInvSboxByte

/-- A column of `aes_inv_mix_columns`. -/
def aesInvMixColumn (a0 a1 a2 a3 : UInt8) : List UInt8 :=
  [gfMul a0 14 ^^^ gfMul a1 11 ^^^ gfMul a2 13 ^^^ gfMul a3 9,
    gfMul a0 9 ^^^ gfMul a1 14 ^^^ gfMul a2 11 ^^^ gfMul a3 13,
    gfMul a0 13 ^^^ gfMul a1 9 ^^^ gfMul a2 14 ^^^ gfMul a3 11,
    gfMul a0 11 ^^^ gfMul a1 13 ^^^ gfMul a2 9 ^^^ gfMul a3 14]

/-- `aes_inv_mix_columns`. -/
def aesInvMixColumns (s : AesBlock) : AesBlock :=
  let b i := s.toList.getD i 0
  zeroPadded ((List.range 4).flatMap fun c =>
    aesInvMixColumn (b (c * 4)) (b (c * 4 + 1)) (b (c * 4 + 2)) (b (c * 4 + 3)))

/-- A round of `aes128_decrypt_block` before the last. -/
def aesInvRound (roundKeys : List UInt8) (state : AesBlock) (round : Nat) : AesBlock :=
  aesInvMixColumns (aesAddRoundKey (aesInvSubBytes (aesInvShiftRows state)) roundKeys round)

/-- `aes128_decrypt_block`. -/
def aes128DecryptBlock (key input : AesBlock) : AesBlock :=
  let roundKeys := aesKeyExpand key
  let state := (List.range' 1 9).reverse.foldl (aesInvRound roundKeys) (aesAddRoundKey input roundKeys 10)
  aesAddRoundKey (aesInvSubBytes (aesInvShiftRows state)) roundKeys 0

/-! ## Key unwrap -/

/-- `xor_t_into_a`. -/
def xorTIntoA (a : List UInt8) (t : Nat) : List UInt8 := List.zipWith (· ^^^ ·) a (beBytes 8 t)

/-- A round of `aes128_key_unwrap` over `a` and the plaintext, block `i` of `n` in pass
`j`; the number of the step is a `uint32_t`. -/
def keyUnwrapStep (kek : AesBlock) (n j : Nat) (s : List UInt8 × List UInt8) (i : Nat) :
    List UInt8 × List UInt8 :=
  let block := xorTIntoA s.1 ((n * j + i) % 2 ^ 32) ++ (s.2.drop ((i - 1) * 8)).take 8
  let out := (aes128DecryptBlock kek (zeroPadded block)).toList
  (out.take 8, s.2.take ((i - 1) * 8) ++ (out.drop 8 ++ s.2.drop (i * 8)))

/-- `aes128_key_unwrap`; `none` is a negative code. -/
def aes128KeyUnwrap (kek : AesBlock) (wrapped : List UInt8) : Option (List UInt8) :=
  if wrapped.length < 24 || wrapped.length % 8 ≠ 0 then none
  else
    let n := wrapped.length / 8 - 1
    let pass s j := (List.range' 1 n).reverse.foldl (keyUnwrapStep kek n j) s
    let s := (List.range 6).reverse.foldl pass (wrapped.take 8, wrapped.drop 8)
    if s.1 = List.replicate 8 0xa6 then some s.2 else none

/-! ## Bytes -/

/-- Every byte: the table is a permutation and `aes_inv_sbox_byte` its inverse, and the bit that
`xtime` tests is 0 or 1. -/
theorem aesBytes : ∀ n < 256, aesInvSboxByte (aesSub (UInt8.ofNat n)) = UInt8.ofNat n ∧
    (UInt8.ofNat n &&& 0x80 = 0 ∨ UInt8.ofNat n &&& 0x80 = 0x80) := by
  decide +kernel

theorem aesInvSboxByte_aesSub (x : UInt8) : aesInvSboxByte (aesSub x) = x := by
  simpa using (aesBytes x.toNat x.toNat_lt).1

theorem and_high (x : UInt8) : x &&& 0x80 = 0 ∨ x &&& 0x80 = 0x80 := by
  simpa using (aesBytes x.toNat x.toNat_lt).2

theorem xtime_xor (x y : UInt8) : xtime (x ^^^ y) = xtime x ^^^ xtime y := by
  have hshift : (x ^^^ y) <<< 1 = x <<< 1 ^^^ y <<< 1 := by
    rw [← UInt8.toBitVec_inj]
    simp [BitVec.shiftLeft_xor_distrib]
  have hhigh : (x ^^^ y) &&& 0x80 = (x &&& 0x80) ^^^ (y &&& 0x80) := by
    rw [← UInt8.toBitVec_inj]
    ext i hi
    simp [Bool.and_xor_distrib_right]
  rw [xtime, xtime, xtime, hshift, hhigh]
  obtain hx | hx := and_high x
  all_goals obtain hy | hy := and_high y
  · simp [hx, hy]
  · simp [hx, hy, UInt8.xor_assoc]
  · simp only [hx, hy]
    ac_rfl
  · have hcancel (z : UInt8) : x <<< 1 ^^^ y <<< 1 ^^^ (z ^^^ z) = x <<< 1 ^^^ z ^^^ (y <<< 1 ^^^ z) := by
      ac_rfl
    simpa [hx, hy] using hcancel 0x1b

/-- The products of the columns in terms of `xtime`. -/
theorem gfMul_eq (x : UInt8) :
    gfMul x 9 = x ^^^ xtime (xtime (xtime x)) ∧ gfMul x 11 = x ^^^ xtime x ^^^ xtime (xtime (xtime x)) ∧
      gfMul x 13 = x ^^^ xtime (xtime x) ^^^ xtime (xtime (xtime x)) ∧
        gfMul x 14 = xtime x ^^^ xtime (xtime x) ^^^ xtime (xtime (xtime x)) := by
  simp +decide [gfMul, List.range, List.range.loop]

/-! ## Columns -/

/-- A row of `aes_inv_mix_columns` by powers of `xtime`. -/
theorem aesInvMixRow_eq (b0 b1 b2 b3 : UInt8) :
    gfMul b0 14 ^^^ gfMul b1 11 ^^^ gfMul b2 13 ^^^ gfMul b3 9 =
      b0 ^^^ (b0 ^^^ b1 ^^^ b2 ^^^ b3) ^^^ xtime (b0 ^^^ b1) ^^^ xtime (xtime (b0 ^^^ b2)) ^^^
        xtime (xtime (xtime (b0 ^^^ b1 ^^^ b2 ^^^ b3))) := by
  simp only [gfMul_eq, xtime_xor]
  have hb : b0 ^^^ (b0 ^^^ b1 ^^^ b2 ^^^ b3) = b1 ^^^ b2 ^^^ b3 := by
    simp only [← UInt8.xor_assoc, UInt8.xor_self, UInt8.zero_xor]
  rw [hb]
  ac_rfl

theorem aesInvMixRow_aesMixColumn (a0 a1 a2 a3 t : UInt8) (ht : t = a0 ^^^ a1 ^^^ a2 ^^^ a3) :
    gfMul (a0 ^^^ t ^^^ xtime (a0 ^^^ a1)) 14 ^^^ gfMul (a1 ^^^ t ^^^ xtime (a1 ^^^ a2)) 11 ^^^
      gfMul (a2 ^^^ t ^^^ xtime (a2 ^^^ a3)) 13 ^^^ gfMul (a3 ^^^ t ^^^ xtime (a3 ^^^ a0)) 9 = a0 := by
  obtain ⟨x0, hx0⟩ : ∃ x, x = xtime a0 := ⟨_, rfl⟩
  obtain ⟨x1, hx1⟩ : ∃ x, x = xtime a1 := ⟨_, rfl⟩
  obtain ⟨x2, hx2⟩ : ∃ x, x = xtime a2 := ⟨_, rfl⟩
  obtain ⟨x3, hx3⟩ : ∃ x, x = xtime a3 := ⟨_, rfl⟩
  -- the sums of the mixed bytes, what stands twice put together
  have hall : a0 ^^^ t ^^^ (x0 ^^^ x1) ^^^ (a1 ^^^ t ^^^ (x1 ^^^ x2)) ^^^ (a2 ^^^ t ^^^ (x2 ^^^ x3)) ^^^
      (a3 ^^^ t ^^^ (x3 ^^^ x0)) = t := by
    calc _ = (a0 ^^^ a1 ^^^ a2 ^^^ a3) ^^^ ((t ^^^ t) ^^^ (t ^^^ t) ^^^ (x0 ^^^ x0) ^^^ (x1 ^^^ x1) ^^^
          (x2 ^^^ x2) ^^^ (x3 ^^^ x3)) := by ac_rfl
      _ = t := by simp [ht]
  have h01 : a0 ^^^ t ^^^ (x0 ^^^ x1) ^^^ (a1 ^^^ t ^^^ (x1 ^^^ x2)) = a0 ^^^ a1 ^^^ (x0 ^^^ x2) := by
    calc _ = a0 ^^^ a1 ^^^ (x0 ^^^ x2) ^^^ ((t ^^^ t) ^^^ (x1 ^^^ x1)) := by ac_rfl
      _ = _ := by simp
  have h02 : a0 ^^^ t ^^^ (x0 ^^^ x1) ^^^ (a2 ^^^ t ^^^ (x2 ^^^ x3)) =
      a0 ^^^ a2 ^^^ (x0 ^^^ x1 ^^^ x2 ^^^ x3) := by
    calc _ = a0 ^^^ a2 ^^^ (x0 ^^^ x1 ^^^ x2 ^^^ x3) ^^^ (t ^^^ t) := by ac_rfl
      _ = _ := by simp
  rw [xtime_xor, xtime_xor, xtime_xor, xtime_xor, ← hx0, ← hx1, ← hx2, ← hx3, aesInvMixRow_eq, hall, h01, h02]
  simp only [ht, xtime_xor, ← hx0, ← hx1, ← hx2, ← hx3]
  -- every other power of a byte stands twice
  have htwice (y0 y2 z0 z1 z2 z3 : UInt8) : a0 ^^^ (a0 ^^^ a1 ^^^ a2 ^^^ a3) ^^^ (x0 ^^^ x1) ^^^
      (a0 ^^^ a1 ^^^ a2 ^^^ a3) ^^^ (x0 ^^^ x1 ^^^ (y0 ^^^ y2)) ^^^ (y0 ^^^ y2 ^^^ (z0 ^^^ z1 ^^^ z2 ^^^ z3)) ^^^
      (z0 ^^^ z1 ^^^ z2 ^^^ z3) = a0 := by
    calc _ = a0 ^^^ ((a0 ^^^ a0) ^^^ (a1 ^^^ a1) ^^^ (a2 ^^^ a2) ^^^ (a3 ^^^ a3) ^^^ (x0 ^^^ x0) ^^^ (x1 ^^^ x1) ^^^
          (y0 ^^^ y0) ^^^ (y2 ^^^ y2) ^^^ (z0 ^^^ z0) ^^^ (z1 ^^^ z1) ^^^ (z2 ^^^ z2) ^^^ (z3 ^^^ z3)) := by ac_rfl
      _ = a0 := by simp
  exact htwice ..

/-- A column of `aes_mix_columns` and one of `aes_inv_mix_columns`. -/
theorem aesInvMixColumn_eq {a0 a1 a2 a3 b0 b1 b2 b3 : UInt8} (h : [b0, b1, b2, b3] = aesMixColumn a0 a1 a2 a3) :
    aesInvMixColumn b0 b1 b2 b3 = [a0, a1, a2, a3] := by
  simp only [aesMixColumn, List.cons.injEq, and_true] at h
  obtain ⟨rfl, rfl, rfl, rfl⟩ := h
  simp only [aesInvMixColumn, List.cons.injEq, and_true]
  refine ⟨aesInvMixRow_aesMixColumn a0 a1 a2 a3 _ rfl, ?_, ?_, ?_⟩
  · have hrow := aesInvMixRow_aesMixColumn a1 a2 a3 a0 (a0 ^^^ a1 ^^^ a2 ^^^ a3) (by ac_rfl)
    exact Eq.trans (by ac_rfl) hrow
  · have hrow := aesInvMixRow_aesMixColumn a2 a3 a0 a1 (a0 ^^^ a1 ^^^ a2 ^^^ a3) (by ac_rfl)
    exact Eq.trans (by ac_rfl) hrow
  · have hrow := aesInvMixRow_aesMixColumn a3 a0 a1 a2 (a0 ^^^ a1 ^^^ a2 ^^^ a3) (by ac_rfl)
    exact Eq.trans (by ac_rfl) hrow

/-! ## Blocks -/

theorem toList_zeroPadded {bytes : List UInt8} (h : bytes.length = 16) : (zeroPadded bytes).toList = bytes := by
  refine List.ext_getElem (by simp [h]) fun i hi hi' => ?_
  simp [zeroPadded, List.getD_eq_getElem?_getD, hi']

theorem zeroPadded_toList (s : AesBlock) : zeroPadded s.toList = s := by
  ext i hi
  simp [zeroPadded, List.getD_eq_getElem?_getD]

theorem aesInvMixColumns_aesMixColumns (s : AesBlock) : aesInvMixColumns (aesMixColumns s) = s := by
  match s with
  | ⟨⟨[a0, a1, a2, a3, a4, a5, a6, a7, a8, a9, a10, a11, a12, a13, a14, a15]⟩, h⟩ =>
      have h0 := @aesInvMixColumn_eq a0 a1 a2 a3 _ _ _ _ rfl
      have h1 := @aesInvMixColumn_eq a4 a5 a6 a7 _ _ _ _ rfl
      have h2 := @aesInvMixColumn_eq a8 a9 a10 a11 _ _ _ _ rfl
      have h3 := @aesInvMixColumn_eq a12 a13 a14 a15 _ _ _ _ rfl
      have hcolumns := congrArg zeroPadded (congrArg₂ (· ++ ·) h0 (congrArg₂ (· ++ ·) h1
        (congrArg₂ (· ++ ·) h2 (congrArg₂ (· ++ ·) h3 (Eq.refl [])))))
      exact hcolumns

theorem aesInvShiftRows_aesShiftRows (s : AesBlock) : aesInvShiftRows (aesShiftRows s) = s := by
  match s with
  | ⟨⟨[a0, a1, a2, a3, a4, a5, a6, a7, a8, a9, a10, a11, a12, a13, a14, a15]⟩, h⟩ => rfl

theorem aesInvSubBytes_aesSubBytes (s : AesBlock) : aesInvSubBytes (aesSubBytes s) = s := by
  simp [aesInvSubBytes, aesSubBytes, Vector.map_map, Function.comp_def, aesInvSboxByte_aesSub]

theorem aesAddRoundKey_self (s : AesBlock) (roundKeys : List UInt8) (round : Nat) :
    aesAddRoundKey (aesAddRoundKey s roundKeys round) roundKeys round = s := by
  ext i hi
  simp [aesAddRoundKey, UInt8.xor_assoc]

/-! ## The cipher -/

/-- The state of the inverse cipher between its rounds. -/
def aesShiftSub (s : AesBlock) : AesBlock := aesShiftRows (aesSubBytes s)

theorem aesInvSubShift (s : AesBlock) : aesInvSubBytes (aesInvShiftRows (aesShiftSub s)) = s := by
  rw [aesShiftSub, aesInvShiftRows_aesShiftRows, aesInvSubBytes_aesSubBytes]

theorem aesInvRound_aesRound (roundKeys : List UInt8) (s : AesBlock) (round : Nat) :
    aesInvRound roundKeys (aesShiftSub (aesRound roundKeys s round)) round = aesShiftSub s := by
  rw [aesInvRound, aesInvSubShift, aesRound, aesAddRoundKey_self, aesInvMixColumns_aesMixColumns, aesShiftSub]

theorem aes128DecryptBlock_encryptBlock (key block : AesBlock) :
    aes128DecryptBlock key (aes128EncryptBlock key block) = block := by
  have hrounds := foldl_undo (P := fun _ => True) (v := aesShiftSub) (l := List.range' 1 9)
    (fun _ _ _ _ => trivial) (fun s r _ _ => aesInvRound_aesRound (aesKeyExpand key) s r)
    (s := aesAddRoundKey block (aesKeyExpand key) 0) trivial
  simp only [aes128DecryptBlock, aes128EncryptBlock, aesAddRoundKey_self]
  rw [← aesShiftSub, hrounds, aesInvSubShift, aesAddRoundKey_self]

/-- There are finitely many blocks. -/
instance : Finite AesBlock :=
  have hbytes : Finite UInt8 := .of_injective UInt8.toFin fun _ _ h => UInt8.toFin_inj.mp h
  .of_injective (fun (s : AesBlock) (i : Fin 16) => s[i]) fun s t h => by
    ext i hi
    exact congrArg UInt8.toNat (congrFun h ⟨i, hi⟩)

theorem aes128EncryptBlock_decryptBlock (key block : AesBlock) :
    aes128EncryptBlock key (aes128DecryptBlock key block) = block := by
  have hleft := aes128DecryptBlock_encryptBlock key
  obtain ⟨plain, rfl⟩ := Finite.surjective_of_injective (Function.LeftInverse.injective hleft) block
  rw [hleft]

/-! ## The wrap -/

/-- A step of 2.2.1 of the RFC, with the number of the step as `t` makes it. -/
def keyWrapStep (t : Nat → Nat) (kek : AesBlock) (n j : Nat) (s : List UInt8 × List UInt8) (i : Nat) :
    List UInt8 × List UInt8 :=
  let out := (aes128EncryptBlock kek (zeroPadded (s.1 ++ (s.2.drop ((i - 1) * 8)).take 8))).toList
  (List.zipWith (· ^^^ ·) (out.take 8) (beBytes 8 (t (n * j + i))),
    s.2.take ((i - 1) * 8) ++ (out.drop 8 ++ s.2.drop (i * 8)))

/-- The six passes over the blocks of `p`. -/
def keyWrap (t : Nat → Nat) (kek : AesBlock) (p : List UInt8) : List UInt8 :=
  let n := p.length / 8
  let pass s j := (List.range' 1 n).foldl (keyWrapStep t kek n j) s
  let s := (List.range 6).foldl pass (List.replicate 8 0xa6, p)
  s.1 ++ s.2

/-- The wrapped key data of RFC 3394. -/
def rfc3394Wrap (kek : AesBlock) (p : List UInt8) : List UInt8 := keyWrap id kek p

/-! ## The buffers -/

/-- What `aes128_key_unwrap` returns, and what is in its buffers then. -/
structure KeyUnwrapResult where
  code : Int
  plaintext : List UInt8
  plaintextLen : Nat
deriving DecidableEq

/-- `aes128_key_unwrap` with what is in its buffers before. -/
def aes128KeyUnwrapInto (kek : AesBlock) (wrapped plaintext : List UInt8) (plaintextLen : Nat) : KeyUnwrapResult :=
  if wrapped.length < 24 || wrapped.length % 8 ≠ 0 then ⟨-1, plaintext, plaintextLen⟩
  else
    let n := wrapped.length / 8 - 1
    let pass s j := (List.range' 1 n).reverse.foldl (keyUnwrapStep kek n j) s
    let s := (List.range 6).reverse.foldl pass (wrapped.take 8, wrapped.drop 8)
    if s.1 ≠ List.replicate 8 0xa6 then ⟨-2, List.replicate (n * 8) 0 ++ plaintext.drop (n * 8), 0⟩
    else ⟨0, s.2 ++ plaintext.drop (n * 8), n * 8⟩

/-! ## One step -/

theorem zipWith_xor_self {a b : List UInt8} (h : a.length ≤ b.length) :
    List.zipWith (· ^^^ ·) (List.zipWith (· ^^^ ·) a b) b = a := by
  refine List.ext_getElem (by simp; omega) fun i hi hi' => ?_
  simp [UInt8.xor_assoc]

section Blocks

variable {r x y : List UInt8} {k : Nat}

theorem drop_take_put (hk : k ≤ r.length) (hx : x.length = 8) :
    ((r.take k ++ (x ++ r.drop (k + 8))).drop k).take 8 = x := by
  have hlen : (r.take k).length = k := by
    rw [List.length_take]
    omega
  rw [List.drop_left' hlen, List.take_left' hx]

theorem put_put (hk : k ≤ r.length) (hx : x.length = 8) :
    (r.take k ++ (x ++ r.drop (k + 8))).take k ++ (y ++ (r.take k ++ (x ++ r.drop (k + 8))).drop (k + 8)) =
      r.take k ++ (y ++ r.drop (k + 8)) := by
  have hlen : (r.take k).length = k := by
    rw [List.length_take]
    omega
  have hrest : (r.take k ++ (x ++ r.drop (k + 8))).drop (k + 8) = r.drop (k + 8) := by
    rw [← List.drop_drop, List.drop_left' hlen, List.drop_left' hx]
  rw [List.take_left' hlen, hrest]

theorem put_self : r.take k ++ ((r.drop k).take 8 ++ r.drop (k + 8)) = r := by
  rw [← List.drop_drop, List.take_append_drop, List.take_append_drop]

end Blocks

/-- The state of `n` blocks. -/
def WrapState (n : Nat) (s : List UInt8 × List UInt8) : Prop := s.1.length = 8 ∧ s.2.length = n * 8

section Step

variable {t : Nat → Nat} {kek : AesBlock} {n j i : Nat} {s : List UInt8 × List UInt8}

theorem exists_step (hi : i ∈ List.range' 1 n) : ∃ k, k < n ∧ i = k + 1 := by
  rw [List.mem_range'_1] at hi
  exact ⟨i - 1, by omega, by omega⟩

theorem wrapState_keyWrapStep (hi : i ∈ List.range' 1 n) (hs : WrapState n s) :
    WrapState n (keyWrapStep t kek n j s i) := by
  obtain ⟨k, hk, rfl⟩ := exists_step hi
  obtain ⟨ha, hr⟩ := hs
  constructor
  · simp [keyWrapStep]
  · simp [keyWrapStep, hr]
    omega

theorem wrapState_keyUnwrapStep (hi : i ∈ List.range' 1 n) (hs : WrapState n s) :
    WrapState n (keyUnwrapStep kek n j s i) := by
  obtain ⟨k, hk, rfl⟩ := exists_step hi
  obtain ⟨ha, hr⟩ := hs
  constructor
  · simp [keyUnwrapStep]
  · simp [keyUnwrapStep, hr]
    omega

/-- The code's counter. -/
def counter32 (t : Nat) : Nat := t % 2 ^ 32

theorem keyUnwrapStep_keyWrapStep (hi : i ∈ List.range' 1 n) (hs : WrapState n s) :
    keyUnwrapStep kek n j (keyWrapStep counter32 kek n j s i) i = s := by
  obtain ⟨k, hk, rfl⟩ := exists_step hi
  obtain ⟨a, r⟩ := s
  obtain ⟨ha, hr⟩ := hs
  dsimp only at ha hr
  have hblock : (a ++ (r.drop (k * 8)).take 8).length = 16 := by
    simp [ha, hr]
    omega
  obtain ⟨out, hout⟩ : ∃ out, out = (aes128EncryptBlock kek (zeroPadded (a ++ (r.drop (k * 8)).take 8))).toList :=
    ⟨_, rfl⟩
  have hlen : out.length = 16 := by simp [hout]
  have hkr : k * 8 ≤ r.length := by omega
  have hcipher : (aes128DecryptBlock kek (zeroPadded out)).toList = a ++ (r.drop (k * 8)).take 8 := by
    rw [hout, zeroPadded_toList, aes128DecryptBlock_encryptBlock, toList_zeroPadded hblock]
  have hxor : List.zipWith (· ^^^ ·) (List.zipWith (· ^^^ ·) (out.take 8) (beBytes 8 (counter32 (n * j + (k + 1)))))
      (beBytes 8 (counter32 (n * j + (k + 1)))) = out.take 8 := zipWith_xor_self (by simp)
  simp only [keyUnwrapStep, keyWrapStep, xorTIntoA, Nat.add_sub_cancel, Nat.add_mul, Nat.one_mul, ← hout,
    ← counter32.eq_def, hxor, drop_take_put hkr (show (out.drop 8).length = 8 by simp [hlen]),
    put_put hkr (show (out.drop 8).length = 8 by simp [hlen]), List.take_append_drop, hcipher]
  rw [List.take_left' ha, List.drop_left' ha, put_self]

variable (kek j) in
theorem keyWrapStep_keyUnwrapStep (hi : i ∈ List.range' 1 n) (hs : WrapState n s) :
    keyWrapStep counter32 kek n j (keyUnwrapStep kek n j s i) i = s := by
  obtain ⟨k, hk, rfl⟩ := exists_step hi
  obtain ⟨a, r⟩ := s
  obtain ⟨ha, hr⟩ := hs
  dsimp only at ha hr
  obtain ⟨b, hb⟩ : ∃ b, b = List.zipWith (· ^^^ ·) a (beBytes 8 (counter32 (n * j + (k + 1)))) := ⟨_, rfl⟩
  have hblen : b.length = 8 := by simp [hb, ha]
  have hblock : (b ++ (r.drop (k * 8)).take 8).length = 16 := by
    simp [hblen, hr]
    omega
  obtain ⟨out, hout⟩ : ∃ out, out = (aes128DecryptBlock kek (zeroPadded (b ++ (r.drop (k * 8)).take 8))).toList :=
    ⟨_, rfl⟩
  have hlen : out.length = 16 := by simp [hout]
  have hkr : k * 8 ≤ r.length := by omega
  have hcipher : (aes128EncryptBlock kek (zeroPadded out)).toList = b ++ (r.drop (k * 8)).take 8 := by
    rw [hout, zeroPadded_toList, aes128EncryptBlock_decryptBlock, toList_zeroPadded hblock]
  have hxor : List.zipWith (· ^^^ ·) b (beBytes 8 (counter32 (n * j + (k + 1)))) = a := by
    rw [hb, zipWith_xor_self (by simp [ha])]
  simp only [keyUnwrapStep, keyWrapStep, xorTIntoA, Nat.add_sub_cancel, Nat.add_mul, Nat.one_mul,
    ← counter32.eq_def, ← hb, ← hout, drop_take_put hkr (show (out.drop 8).length = 8 by simp [hlen]),
    put_put hkr (show (out.drop 8).length = 8 by simp [hlen]), List.take_append_drop, hcipher]
  rw [List.take_left' hblen, List.drop_left' hblen, hxor, put_self]

end Step

/-! ## Whole runs -/

section Run

variable {kek : AesBlock} {n : Nat} {s : List UInt8 × List UInt8}

/-- The passes of the wrap. -/
def keyWrapRun (t : Nat → Nat) (kek : AesBlock) (n : Nat) (s : List UInt8 × List UInt8) : List UInt8 × List UInt8 :=
  (List.range 6).foldl (fun s j => (List.range' 1 n).foldl (keyWrapStep t kek n j) s) s

/-- The passes of `aes128_key_unwrap`. -/
def keyUnwrapRun (kek : AesBlock) (n : Nat) (s : List UInt8 × List UInt8) : List UInt8 × List UInt8 :=
  (List.range 6).reverse.foldl (fun s j => (List.range' 1 n).reverse.foldl (keyUnwrapStep kek n j) s) s

variable (kek) in
theorem wrapState_keyWrapRun (t : Nat → Nat) (hs : WrapState n s) : WrapState n (keyWrapRun t kek n s) :=
  List.foldlRecOn _ _ hs fun _ hs _ _ => List.foldlRecOn _ _ hs fun _ hs _ hi => wrapState_keyWrapStep hi hs

variable (kek) in
theorem wrapState_keyUnwrapRun (hs : WrapState n s) : WrapState n (keyUnwrapRun kek n s) :=
  List.foldlRecOn _ _ hs fun _ hs _ _ => List.foldlRecOn _ _ hs fun _ hs _ hi =>
    wrapState_keyUnwrapStep (List.mem_reverse.mp hi) hs

theorem keyUnwrapRun_keyWrapRun (hs : WrapState n s) : keyUnwrapRun kek n (keyWrapRun counter32 kek n s) = s :=
  foldl_undo (P := WrapState n) (v := id)
    (fun _ _ _ hs => List.foldlRecOn _ _ hs fun _ hs _ hi => wrapState_keyWrapStep hi hs)
    (fun _ _ _ hs => foldl_undo (P := WrapState n) (v := id) (fun _ _ hi hs => wrapState_keyWrapStep hi hs)
      (fun _ _ hi hs => keyUnwrapStep_keyWrapStep hi hs) hs) hs

variable (kek) in
theorem keyWrapRun_keyUnwrapRun (hs : WrapState n s) : keyWrapRun counter32 kek n (keyUnwrapRun kek n s) = s := by
  have hpass (j : Nat) {s : List UInt8 × List UInt8} (hs : WrapState n s) :
      (List.range' 1 n).foldl (keyWrapStep counter32 kek n j)
        ((List.range' 1 n).reverse.foldl (keyUnwrapStep kek n j) s) = s := by
    have hundo := foldl_undo (P := WrapState n) (v := id) (l := (List.range' 1 n).reverse)
      (fun _ _ hi hs => wrapState_keyUnwrapStep (List.mem_reverse.mp hi) hs)
      (fun _ _ hi hs => keyWrapStep_keyUnwrapStep kek j (List.mem_reverse.mp hi) hs) hs
    rwa [List.reverse_reverse] at hundo
  have hundo := foldl_undo (P := WrapState n) (v := id) (l := (List.range 6).reverse)
    (f := fun s j => (List.range' 1 n).reverse.foldl (keyUnwrapStep kek n j) s)
    (g := fun s j => (List.range' 1 n).foldl (keyWrapStep counter32 kek n j) s)
    (fun _ _ _ hs => List.foldlRecOn _ _ hs fun _ hs _ hi => wrapState_keyUnwrapStep (List.mem_reverse.mp hi) hs)
    (fun _ j _ hs => hpass j hs) hs
  rwa [List.reverse_reverse] at hundo

theorem keyWrapRun_counter32 (hn : 6 * n < 2 ^ 32) : keyWrapRun counter32 kek n s = keyWrapRun id kek n s := by
  refine List.foldl_ext _ _ _ fun s j hj => List.foldl_ext _ _ _ fun s i hi => ?_
  have hj : j < 6 := by simpa using hj
  have hi : i < 1 + n := (List.mem_range'_1.mp hi).2
  have hcount : n * j + i < 2 ^ 32 := by
    have := Nat.mul_le_mul_left n (show j ≤ 5 by omega)
    omega
  rw [keyWrapStep, keyWrapStep, counter32, Nat.mod_eq_of_lt hcount, id]

end Run

/-! ## The function -/

section Unwrap

variable {kek : AesBlock} {wrapped plaintext p : List UInt8} {plaintextLen : Nat}

theorem aes128KeyUnwrapInto_refused (h : wrapped.length < 24 ∨ wrapped.length % 8 ≠ 0) :
    aes128KeyUnwrapInto kek wrapped plaintext plaintextLen = ⟨-1, plaintext, plaintextLen⟩ := by
  rw [aes128KeyUnwrapInto, if_pos (by simpa using h)]

/-- A text of the right length is accepted exactly if the passes leave the initial value. -/
theorem aes128KeyUnwrapInto_eq {n : Nat} (hn : 2 ≤ n) (hlen : wrapped.length = 8 + n * 8) :
    aes128KeyUnwrapInto kek wrapped plaintext plaintextLen =
      if (keyUnwrapRun kek n (wrapped.take 8, wrapped.drop 8)).1 = List.replicate 8 0xa6 then
        ⟨0, (keyUnwrapRun kek n (wrapped.take 8, wrapped.drop 8)).2 ++ plaintext.drop (n * 8), n * 8⟩
      else ⟨-2, List.replicate (n * 8) 0 ++ plaintext.drop (n * 8), 0⟩ := by
  have hblocks : wrapped.length / 8 - 1 = n := by omega
  have hfits : ¬ (decide (wrapped.length < 24) || decide (wrapped.length % 8 ≠ 0)) = true := by simp; omega
  rw [aes128KeyUnwrapInto, if_neg hfits, hblocks]
  simp only [ne_eq, ite_not]
  rfl

theorem keyWrap_eq (t : Nat → Nat) : keyWrap t kek p =
    (keyWrapRun t kek (p.length / 8) (List.replicate 8 0xa6, p)).1 ++
      (keyWrapRun t kek (p.length / 8) (List.replicate 8 0xa6, p)).2 := rfl

theorem wrapState_initial (h : p.length % 8 = 0) :
    WrapState (p.length / 8) (List.replicate 8 0xa6, p) :=
  ⟨by simp, (Nat.div_mul_cancel (Nat.dvd_of_mod_eq_zero h)).symm⟩

theorem length_keyWrap (t : Nat → Nat) (h : p.length % 8 = 0) : (keyWrap t kek p).length = 8 + p.length := by
  obtain ⟨hone, htwo⟩ := wrapState_keyWrapRun kek t (wrapState_initial h)
  rw [keyWrap_eq, List.length_append, hone, htwo]
  omega

theorem aes128KeyUnwrapInto_keyWrap (hlen : 16 ≤ p.length) (h : p.length % 8 = 0) :
    aes128KeyUnwrapInto kek (keyWrap counter32 kek p) plaintext plaintextLen =
      ⟨0, p ++ plaintext.drop p.length, p.length⟩ := by
  have hstate := wrapState_initial h
  obtain ⟨hone, -⟩ := wrapState_keyWrapRun kek counter32 hstate
  have hsize : p.length / 8 * 8 = p.length := Nat.div_mul_cancel (Nat.dvd_of_mod_eq_zero h)
  have hrun : keyUnwrapRun kek (p.length / 8)
      ((keyWrap counter32 kek p).take 8, (keyWrap counter32 kek p).drop 8) = (List.replicate 8 0xa6, p) := by
    rw [keyWrap_eq, List.take_left' hone, List.drop_left' hone, Prod.mk.eta, keyUnwrapRun_keyWrapRun hstate]
  have hwrapped : (keyWrap counter32 kek p).length = 8 + p.length / 8 * 8 := by rw [length_keyWrap _ h, hsize]
  rw [aes128KeyUnwrapInto_eq (by omega) hwrapped, hrun, hsize]
  exact if_pos rfl

theorem aes128KeyUnwrapInto_other {n : Nat} (hn : 2 ≤ n) (hlen : wrapped.length = 8 + n * 8)
    (hother : ∀ p, p.length = n * 8 → wrapped ≠ keyWrap counter32 kek p) :
    aes128KeyUnwrapInto kek wrapped plaintext plaintextLen =
      ⟨-2, List.replicate (n * 8) 0 ++ plaintext.drop (n * 8), 0⟩ := by
  have hstate : WrapState n (wrapped.take 8, wrapped.drop 8) := by
    constructor <;> simp <;> omega
  have hundone := keyWrapRun_keyUnwrapRun kek hstate
  obtain ⟨-, hrest⟩ := wrapState_keyUnwrapRun kek hstate
  rw [aes128KeyUnwrapInto_eq hn hlen, if_neg]
  intro hiv
  refine hother _ hrest ?_
  have hblocks : (keyUnwrapRun kek n (wrapped.take 8, wrapped.drop 8)).2.length / 8 = n := by omega
  rw [keyWrap_eq, hblocks, ← hiv, hundone, List.take_append_drop]

theorem keyWrap_counter32 (hn : 6 * (p.length / 8) < 2 ^ 32) : keyWrap counter32 kek p = rfc3394Wrap kek p := by
  rw [rfc3394Wrap, keyWrap_eq, keyWrap_eq, keyWrapRun_counter32 hn]

end Unwrap

/-- The block cipher is undone; what RFC 3394 wraps is unwrapped, and every other text of a wrap's
length is an error with a zeroed output, as long as 32 bits count the steps; a text of another
length is refused before anything is written. -/
theorem aes128KeyUnwrap_spec (kek : AesBlock) (plaintext : List UInt8) (plaintextLen : Nat) :
    (∀ block, aes128DecryptBlock kek (aes128EncryptBlock kek block) = block) ∧
    (∀ p : List UInt8, 16 ≤ p.length → p.length % 8 = 0 → 6 * (p.length / 8) < 2 ^ 32 →
      aes128KeyUnwrapInto kek (rfc3394Wrap kek p) plaintext plaintextLen =
        ⟨0, p ++ plaintext.drop p.length, p.length⟩) ∧
    (∀ (n : Nat) (wrapped : List UInt8), 2 ≤ n → 6 * n < 2 ^ 32 → wrapped.length = 8 + n * 8 →
      (∀ p, p.length = n * 8 → wrapped ≠ rfc3394Wrap kek p) →
      aes128KeyUnwrapInto kek wrapped plaintext plaintextLen =
        ⟨-2, List.replicate (n * 8) 0 ++ plaintext.drop (n * 8), 0⟩) ∧
    (∀ wrapped : List UInt8, (∀ n, 2 ≤ n → wrapped.length ≠ 8 + n * 8) →
      aes128KeyUnwrapInto kek wrapped plaintext plaintextLen = ⟨-1, plaintext, plaintextLen⟩) := by
  refine ⟨aes128DecryptBlock_encryptBlock kek, fun p hlen h hn => ?_, fun n wrapped hn hcount hlen hother => ?_,
    fun wrapped hlen => ?_⟩
  · rw [← keyWrap_counter32 hn]
    exact aes128KeyUnwrapInto_keyWrap hlen h
  · refine aes128KeyUnwrapInto_other hn hlen fun p hp => ?_
    rw [keyWrap_counter32 (by omega)]
    exact hother p hp
  · refine aes128KeyUnwrapInto_refused ?_
    by_contra hfits
    exact hlen (wrapped.length / 8 - 1) (by omega) (by omega)

/-- A key, its wrap, a text that is wrapped from another initial value, and the empty text. -/
theorem aes128KeyUnwrap_spec_sample :
    let kek : AesBlock := Vector.replicate 16 0
    let p := List.replicate 16 0
    let s := keyWrapRun id kek 2 (List.replicate 8 0, p)
    aes128KeyUnwrapInto kek (rfc3394Wrap kek p) [] 0 = ⟨0, p, 16⟩ ∧
      aes128KeyUnwrapInto kek (s.1 ++ s.2) [] 0 = ⟨-2, List.replicate 16 0, 0⟩ ∧
        aes128KeyUnwrapInto kek [] [] 0 = ⟨-1, [], 0⟩ := by
  intro kek p s
  obtain ⟨-, hwrap, hother, hrefused⟩ := aes128KeyUnwrap_spec kek [] 0
  have hs : WrapState 2 (List.replicate 8 0, p) := ⟨rfl, rfl⟩
  obtain ⟨hone, htwo⟩ : WrapState 2 s := wrapState_keyWrapRun kek id hs
  refine ⟨by simpa [p] using hwrap p (by decide) (by decide) (by decide), ?_, hrefused [] fun n hn h => by
    rw [List.length_nil] at h
    omega⟩
  have hresult := hother 2 (s.1 ++ s.2) le_rfl (by decide) (by rw [List.length_append, hone, htwo]) ?_
  · simpa using hresult
  · intro p' hp' heq
    have hblocks : p'.length / 8 = 2 := by omega
    have hs' : WrapState 2 (List.replicate 8 0xa6, p') := ⟨rfl, hp'⟩
    rw [rfc3394Wrap, keyWrap_eq, hblocks] at heq
    obtain ⟨hone', -⟩ := wrapState_keyWrapRun kek id hs'
    have hstates : s = keyWrapRun id kek 2 (List.replicate 8 0xa6, p') :=
      Prod.ext (List.append_inj_left heq (hone.trans hone'.symm)) (List.append_inj_right heq (hone.trans hone'.symm))
    -- the unwrap would give both initial values
    rw [← keyWrapRun_counter32 (by decide)] at hstates
    have hinitial := congrArg (keyUnwrapRun kek 2) hstates
    rw [show s = keyWrapRun counter32 kek 2 (List.replicate 8 0, p) from (keyWrapRun_counter32 (by decide)).symm,
      keyUnwrapRun_keyWrapRun hs, keyUnwrapRun_keyWrapRun hs'] at hinitial
    exact absurd (Prod.mk.inj hinitial).1 (by decide)

/-- A text of 25 bytes is refused, and the output is left as it was. -/
theorem aes128KeyUnwrap_not_zeroed : ¬ ∀ (kek : AesBlock) (wrapped plaintext : List UInt8) (plaintextLen : Nat),
    plaintext.length = (wrapped.length / 8 - 1) * 8 →
    (∀ p, 16 ≤ p.length → p.length % 8 = 0 → wrapped ≠ rfc3394Wrap kek p) →
    (aes128KeyUnwrapInto kek wrapped plaintext plaintextLen).code ≠ 0 ∧
      (aes128KeyUnwrapInto kek wrapped plaintext plaintextLen).plaintext = List.replicate plaintext.length 0 := by
  intro h
  have hzeroed := h (Vector.replicate 16 0) (List.replicate 25 0) (List.replicate 16 1) 0 rfl ?_
  · rw [aes128KeyUnwrapInto_refused (by decide)] at hzeroed
    exact absurd hzeroed.2 (by decide)
  · intro p _ hp heq
    have hlen := congrArg List.length heq
    rw [rfc3394Wrap, length_keyWrap _ hp, List.length_replicate] at hlen
    omega

end Orizon
