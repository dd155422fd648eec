import Orizon.Gcm
import Orizon.Lib.BinaryField
import Orizon.Lib.Digits
import Orizon.Words
import Mathlib.Algebra.Field.ZMod
import Mathlib.Data.List.GetD
import Mathlib.Tactic.ComputeDegree
import Mathlib.Tactic.LinearCombination

/-!
# Orizon.GcmStandard

What SP 800-38D says of GCM, and that `Orizon.Gcm` computes it.

The standard takes a block as an element of the field with `2 ^ 128` elements,
the first bit the constant coefficient, and its hash is Horner's rule in that
field (`standardGhash`).  The code multiplies bit by bit; that this is the
product of the field is `blockField_gcmMultiply`.  The counter and the stream
it drives are stated byte by byte (`gctr`).

The standard bounds the lengths by what 64 bits can say; beyond them the length
block is taken modulo `2 ^ 64`, as the code does.
-/

namespace Orizon

open Polynomial

/-! ## The field -/

/-- The modulus of SP 800-38D, 6.3. -/
noncomputable def gcmPoly : (ZMod 2)[X] := X ^ 128 + (X ^ 7 + X ^ 2 + X + 1)

/-- The field of the blocks. -/
abbrev GcmField : Type := AdjoinRoot gcmPoly

/-- Bit `i` of a block, from its first. -/
def blockBit (b : AesBlock) (i : Nat) : Bool :=
  (b.toList.getD (i / 8) 0).toBitVec.getMsbD (i % 8)

/-- A block as an element of the field. -/
noncomputable def blockField (b : AesBlock) : GcmField :=
  bitValue (AdjoinRoot.root gcmPoly) 128 (blockBit b)

theorem gcmPoly_monic : gcmPoly.Monic := by
  unfold gcmPoly
  apply monic_X_pow_add
  compute_degree!

theorem natDegree_gcmPoly : gcmPoly.natDegree = 128 := by
  unfold gcmPoly
  compute_degree!

theorem gcmField_two : (2 : GcmField) = 0 := by
  rw [← map_ofNat (AdjoinRoot.of gcmPoly) 2, show (2 : ZMod 2) = 0 from rfl, map_zero]

theorem gcmPoly_def : gcmPoly = X ^ 128 + (X ^ 7 + X ^ 2 + X + 1) := by
  unfold gcmPoly
  rfl

/-- The reduction: `x ^ 128` is the rest of the modulus. -/
theorem root_pow_gcmPoly :
    AdjoinRoot.root gcmPoly ^ 128 =
      AdjoinRoot.root gcmPoly ^ 7 + AdjoinRoot.root gcmPoly ^ 2 + AdjoinRoot.root gcmPoly + 1 := by
  have h : AdjoinRoot.mk gcmPoly (X ^ 128 + (X ^ 7 + X ^ 2 + X + 1)) = 0 := by
    rw [← gcmPoly_def, AdjoinRoot.mk_self]
  simp only [map_add, map_pow, map_one, AdjoinRoot.mk_X] at h
  linear_combination h - (AdjoinRoot.root gcmPoly ^ 7 + AdjoinRoot.root gcmPoly ^ 2 +
    AdjoinRoot.root gcmPoly + 1) * gcmField_two

/-! ## Bits of a block -/

theorem byte_ext {a b : UInt8} (h : ∀ r < 8, a.toBitVec.getMsbD r = b.toBitVec.getMsbD r) : a = b :=
  UInt8.toBitVec_inj.mp (BitVec.eq_of_getMsbD_eq h)

theorem blockField_injective {a b : AesBlock} (h : blockField a = blockField b) : a = b := by
  have hbits := bitValue_injective gcmPoly_monic natDegree_gcmPoly h
  refine Vector.ext fun i hi => byte_ext fun r hr => ?_
  have hbit := hbits (8 * i + r) (by omega)
  simpa [blockBit, show (8 * i + r) / 8 = i by omega, show (8 * i + r) % 8 = r by omega, hi] using hbit

theorem blockBit_xorBlock (a b : AesBlock) (i : Nat) :
    blockBit (xorBlock a b) i = (blockBit a i ^^ blockBit b i) := by
  by_cases hi : i / 8 < 16
  · simp [blockBit, xorBlock, hi]
  · simp [blockBit, hi]

theorem blockField_xorBlock (a b : AesBlock) :
    blockField (xorBlock a b) = blockField a + blockField b := by
  rw [blockField, bitValue_congr _ _ fun i _ => blockBit_xorBlock a b i]
  exact bitValue_xor _ _ gcmField_two _ _

/-- Every byte: the test of `gcm_multiply` reads one bit, a byte moved one place on,
and the bit a byte hands to the next. -/
theorem bits_of_byte : ∀ r < 8, ∀ n < 256,
    (UInt8.ofNat n &&& ((0x80 : UInt8) >>> UInt8.ofNat r) ≠ 0 ↔
      (UInt8.ofNat n).toBitVec.getMsbD r = true) ∧
    (UInt8.ofNat n >>> 1).toBitVec.getMsbD r =
      (r ≠ 0 && (UInt8.ofNat n).toBitVec.getMsbD (r - 1)) ∧
    ((UInt8.ofNat n &&& 1) <<< 7).toBitVec.getMsbD r =
      (r = 0 && (UInt8.ofNat n).toBitVec.getMsbD 7) := by
  decide +kernel

theorem mask_ne_zero_iff (b : UInt8) {r : Nat} (hr : r < 8) :
    b &&& ((0x80 : UInt8) >>> UInt8.ofNat r) ≠ 0 ↔ b.toBitVec.getMsbD r = true := by
  simpa using (bits_of_byte r hr b.toNat b.toNat_lt).1

theorem and_one_ne_zero_iff (b : UInt8) : b &&& 1 ≠ 0 ↔ b.toBitVec.getMsbD 7 = true :=
  mask_ne_zero_iff b (r := 7) (by decide)

theorem getMsbD_shiftRight_one (b : UInt8) {r : Nat} (hr : r < 8) :
    (b >>> 1).toBitVec.getMsbD r = (r ≠ 0 && b.toBitVec.getMsbD (r - 1)) := by
  simpa using (bits_of_byte r hr b.toNat b.toNat_lt).2.1

theorem getMsbD_carry (b : UInt8) {r : Nat} (hr : r < 8) :
    ((b &&& 1) <<< 7).toBitVec.getMsbD r = (r = 0 && b.toBitVec.getMsbD 7) := by
  simpa using (bits_of_byte r hr b.toNat b.toNat_lt).2.2

/-! ## Multiplication -/

/-- The block of the reduction: `0xe1` and zeros. -/
def gcmReduction : AesBlock := (Vector.replicate 16 0).setIfInBounds 0 0xe1

theorem blockField_gcmReduction : blockField gcmReduction = AdjoinRoot.root gcmPoly ^ 128 := by
  have hbyte : ∀ i < 8, blockBit gcmReduction i = (0xe1 : UInt8).toBitVec.getMsbD i := by decide
  have hhigh : ∀ i, 8 ≤ i → i < 128 → blockBit gcmReduction i = false := by decide
  rw [blockField, bitValue_le _ _ (by omega) hhigh, bitValue_congr _ _ hbyte, root_pow_gcmPoly]
  simp [bitValue, Finset.sum_range_succ]
  ring

theorem get_eq_getD (v : AesBlock) (i : Fin 16) : v.get i = v.toList.getD i.val 0 := by
  simp [Vector.get]

theorem getD_shiftRightOne (v : AesBlock) {q : Nat} (hq : q < 16) :
    (shiftRightOne v).toList.getD q 0 = (v.toList.getD q 0 >>> 1) |||
      (if q = 0 then (0 : UInt8) else (v.toList.getD (q - 1) 0 &&& 1) <<< 7) := by
  have hlist : (shiftRightOne v).toList.getD q 0 = (v.get ⟨q, hq⟩ >>> 1) |||
      (if q = 0 then (0 : UInt8) else (v.get (⟨q, hq⟩ - 1) &&& 1) <<< 7) := by
    simp [shiftRightOne, hq]
  rw [hlist, get_eq_getD, get_eq_getD]
  by_cases h0 : q = 0
  · simp [h0]
  · have hpred : ((⟨q, hq⟩ : Fin 16) - 1).val = q - 1 := by
      rw [Fin.sub_def]
      simp
      omega
    rw [hpred]

theorem blockBit_shiftRightOne_zero (v : AesBlock) : blockBit (shiftRightOne v) 0 = false := by
  rw [blockBit, getD_shiftRightOne v (by decide)]
  simp

/-- `shift_right_one` moves every bit one place on. -/
theorem blockBit_shiftRightOne (v : AesBlock) {i : Nat} (hi : i < 127) :
    blockBit (shiftRightOne v) (i + 1) = blockBit v i := by
  rw [blockBit, blockBit, getD_shiftRightOne v (by omega), UInt8.toBitVec_or, BitVec.getMsbD_or,
    getMsbD_shiftRight_one _ (by omega)]
  by_cases hr : (i + 1) % 8 = 0
  · have hq : (i + 1) / 8 ≠ 0 := by omega
    rw [if_neg hq, getMsbD_carry _ (by omega), show (i + 1) / 8 - 1 = i / 8 by omega,
      show i % 8 = 7 by omega]
    simp [hr]
  · have hcarry : ∀ b : UInt8, ((if (i + 1) / 8 = 0 then (0 : UInt8) else (b &&& 1) <<< 7)).toBitVec.getMsbD
        ((i + 1) % 8) = false := by
      intro b
      split
      · simp
      · rw [getMsbD_carry _ (by omega)]
        simp [hr]
    rw [hcarry, show (i + 1) / 8 = i / 8 by omega, show (i + 1) % 8 - 1 = i % 8 by omega]
    simp [hr]

theorem blockField_shift (v : AesBlock) :
    blockField (if v.get 15 &&& 1 ≠ 0
      then (shiftRightOne v).setIfInBounds 0 ((shiftRightOne v).get 0 ^^^ 0xe1) else shiftRightOne v) =
      AdjoinRoot.root gcmPoly * blockField v := by
  have hlast : v.get 15 &&& 1 ≠ 0 ↔ blockBit v 127 = true := by
    rw [get_eq_getD, and_one_ne_zero_iff]
    rfl
  have hred : (shiftRightOne v).setIfInBounds 0 ((shiftRightOne v).get 0 ^^^ 0xe1) =
      xorBlock (shiftRightOne v) gcmReduction := by
    refine Vector.ext fun i hi => ?_
    by_cases h0 : i = 0
    · subst h0
      simp [xorBlock, gcmReduction, Vector.get]
    · simp [xorBlock, gcmReduction, Ne.symm h0]
  have hshift := bitValue_shift (AdjoinRoot.root gcmPoly) 127 (blockBit_shiftRightOne_zero v)
    fun i hi => blockBit_shiftRightOne v hi
  rw [show AdjoinRoot.root gcmPoly * blockField v = _ from hshift.symm]
  by_cases hbit : blockBit v 127 = true
  · rw [if_pos (hlast.mpr hbit), if_pos hbit, hred, blockField_xorBlock, blockField_gcmReduction]
    rfl
  · rw [if_neg (fun h => hbit (hlast.mp h)), if_neg hbit, add_zero]
    rfl

theorem blockField_zero : blockField (Vector.replicate 16 0) = 0 := by
  have hbit : ∀ i < 128, blockBit (Vector.replicate 16 0) i = false := by decide
  rw [blockField, bitValue_congr _ _ hbit, bitValue_zero]

/-- `gcm_multiply` is the product of the field. -/
theorem blockField_gcmMultiply (x h : AesBlock) :
    blockField (gcmMultiply x h) = blockField x * blockField h := by
  have hmul := serial_product (AdjoinRoot.root gcmPoly) 128 blockField (gcmMultiplyStep x) (blockBit x)
    (fun s i => ?_) (fun s i => blockField_shift s.2) (Vector.replicate 16 0, h)
  · rw [gcmMultiply, hmul, blockField_zero, zero_add]
    rfl
  · have hbit := mask_ne_zero_iff (x.toList.getD (i / 8) 0) (Nat.mod_lt i (by decide : 0 < 8))
    rw [gcmMultiplyStep]
    simp only [hbit]
    rw [show (x.toList.getD (i / 8) 0).toBitVec.getMsbD (i % 8) = blockBit x i from rfl]
    cases blockBit x i <;> simp [blockField_xorBlock]

/-! ## The hash -/

/-- The blocks of a string of whole blocks. -/
def blocksOf (s : List UInt8) : List AesBlock :=
  (List.range (s.length / 16)).map fun i => Vector.ofFn fun j => s.getD (16 * i + j) 0

/-- The zeros that fill a string up to whole blocks. -/
def zeroFill (s : List UInt8) : List UInt8 := List.replicate ((16 - s.length % 16) % 16) 0

/-- GHASH of SP 800-38D, 6.4. -/
noncomputable def standardGhash (h : GcmField) (blocks : List AesBlock) : GcmField :=
  blocks.foldl (fun y x => (y + blockField x) * h) 0

/-- What GHASH is applied to: data and ciphertext, each filled up, and their lengths in bits. -/
def standardString (aad ciphertext : List UInt8) : List UInt8 :=
  aad ++ zeroFill aad ++ (ciphertext ++ zeroFill ciphertext) ++
    (beBytes 8 (8 * aad.length) ++ beBytes 8 (8 * ciphertext.length))

@[simp] theorem blocksOf_nil : blocksOf [] = [] := rfl

theorem blocksOf_append {a : List UInt8} (h : a.length % 16 = 0) (b : List UInt8) :
    blocksOf (a ++ b) = blocksOf a ++ blocksOf b := by
  refine List.ext_getElem ?_ fun i h1 h2 => ?_
  · simp only [blocksOf, List.length_map, List.length_range, List.length_append]
    omega
  · simp only [blocksOf, List.length_map, List.length_range, List.length_append] at h1 h2
    by_cases hi : i < a.length / 16
    · rw [List.getElem_append_left (by simpa [blocksOf] using hi)]
      simp only [blocksOf, List.getElem_map, List.getElem_range]
      refine Vector.ext fun j hj => ?_
      rw [Vector.getElem_ofFn, Vector.getElem_ofFn, List.getD_append _ _ _ _ (by dsimp only; omega)]
    · rw [List.getElem_append_right (by simpa [blocksOf] using hi)]
      simp only [blocksOf, List.getElem_map, List.getElem_range, List.length_map, List.length_range]
      refine Vector.ext fun j hj => ?_
      rw [Vector.getElem_ofFn, Vector.getElem_ofFn, List.getD_append_right _ _ _ _ (by dsimp only; omega)]
      congr 1
      dsimp only
      omega

theorem blocksOf_single {s : List UInt8} (h : s.length = 16) : blocksOf s = [zeroPadded s] := by
  simp [blocksOf, h, zeroPadded]

theorem length_append_zeroFill (s : List UInt8) : (s ++ zeroFill s).length % 16 = 0 := by
  simp only [zeroFill, List.length_append, List.length_replicate]
  omega

theorem zeroPadded_append_zeroFill (s : List UInt8) : zeroPadded (s ++ zeroFill s) = zeroPadded s := by
  refine Vector.ext fun i hi => ?_
  rw [zeroPadded, zeroPadded, Vector.getElem_ofFn, Vector.getElem_ofFn]
  dsimp only
  by_cases hlen : i < s.length
  · rw [List.getD_append _ _ _ _ hlen]
  · have hdefault : s.getD i 0 = 0 := List.getD_eq_default _ _ (by omega)
    rw [List.getD_append_right _ _ _ _ (by omega), hdefault, zeroFill]
    simp only [List.getD_eq_getElem?_getD, List.getElem?_replicate]
    split <;> rfl

/-- The loop of `ghash` over a text takes the blocks of the text filled up. -/
theorem ghashText_eq (h : AesBlock) {fuel : Nat} {text : List UInt8} (hfuel : text.length ≤ fuel)
    (y : AesBlock) :
    ghashText h fuel y text = (blocksOf (text ++ zeroFill text)).foldl (ghashBlock h) y := by
  induction fuel generalizing text y with
  | zero =>
      have hnil : text = [] := List.length_eq_zero_iff.mp (by omega)
      subst hnil
      rfl
  | succ fuel ih =>
      by_cases hnil : text.length = 0
      · rw [List.length_eq_zero_iff.mp hnil]
        rfl
      rw [ghashText, if_neg hnil, ih (by rw [List.length_drop]; omega), ← List.foldl_cons,
        ← List.singleton_append]
      congr 1
      by_cases hlong : 16 ≤ text.length
      · have hfill : zeroFill (text.drop 16) = zeroFill text := by
          rw [zeroFill, zeroFill, List.length_drop, show (text.length - 16) % 16 = text.length % 16 by omega]
        have htake : (text.take 16).length = 16 := by rw [List.length_take]; omega
        calc [zeroPadded (text.take 16)] ++ blocksOf (text.drop 16 ++ zeroFill (text.drop 16))
            = blocksOf (text.take 16) ++ blocksOf (text.drop 16 ++ zeroFill text) := by
              rw [blocksOf_single htake, hfill]
          _ = blocksOf (text ++ zeroFill text) := by
              rw [← blocksOf_append (by omega), ← List.append_assoc, List.take_append_drop]
      · have hone : (text ++ zeroFill text).length = 16 := by
          rw [List.length_append, zeroFill, List.length_replicate]
          omega
        rw [List.take_of_length_le (by omega), List.drop_of_length_le (by omega), blocksOf_single hone,
          zeroPadded_append_zeroFill]
        rfl

theorem blockField_ghashBlock (h y x : AesBlock) :
    blockField (ghashBlock h y x) = (blockField y + blockField x) * blockField h := by
  rw [ghashBlock, blockField_gcmMultiply, blockField_xorBlock]

theorem blocksOf_standardString (aad ciphertext : List UInt8) :
    blocksOf (standardString aad ciphertext) =
      blocksOf (aad ++ zeroFill aad) ++ blocksOf (ciphertext ++ zeroFill ciphertext) ++
        [zeroPadded (beBytes 8 (8 * aad.length) ++ beBytes 8 (8 * ciphertext.length))] := by
  have ha := length_append_zeroFill aad
  have hc := length_append_zeroFill ciphertext
  have hboth : (aad ++ zeroFill aad ++ (ciphertext ++ zeroFill ciphertext)).length % 16 = 0 := by
    rw [List.length_append]
    omega
  have hlengths : (beBytes 8 (8 * aad.length) ++ beBytes 8 (8 * ciphertext.length)).length = 16 := by simp
  rw [standardString, blocksOf_append hboth, blocksOf_append ha, blocksOf_single hlengths]

/-- `ghash` is GHASH of the standard's string. -/
theorem blockField_ghash (h : AesBlock) (aad ciphertext : List UInt8) :
    blockField (ghash h aad ciphertext) =
      standardGhash (blockField h) (blocksOf (standardString aad ciphertext)) := by
  have hfold : ∀ (bs : List AesBlock) (y : AesBlock), blockField (bs.foldl (ghashBlock h) y) =
      bs.foldl (fun y x => (y + blockField x) * blockField h) (blockField y) := by
    intro bs
    induction bs with
    | nil => simp
    | cons x bs ih =>
        intro y
        rw [List.foldl_cons, List.foldl_cons, ih, blockField_ghashBlock]
  rw [ghash, writeBe64_lengthBits, writeBe64_lengthBits, ghashText_eq h (Nat.le_refl _),
    ghashText_eq h (Nat.le_refl _), standardGhash, blocksOf_standardString, ← blockField_zero, ← hfold,
    List.foldl_append, List.foldl_append, List.foldl_cons, List.foldl_nil]

/-! ## The counter -/

/-- The incrementing function of SP 800-38D, 6.2: the last 32 bits count modulo `2 ^ 32`. -/
def inc32 (b : AesBlock) : AesBlock :=
  Vector.ofFn fun i => (b.toList.take 12 ++ beBytes 4 (beNat (b.toList.drop 12) + 1)).getD i 0

/-- GCTR of SP 800-38D, 6.5: byte `i` against a byte of the block its counter gives. -/
def gctr (ciph : AesBlock → AesBlock) (icb : AesBlock) (x : List UInt8) : List UInt8 :=
  x.mapIdx fun i b => b ^^^ (ciph (inc32^[i / 16] icb)).toList.getD (i % 16) 0

/-- The carry of `increment_counter` adds one. -/
theorem incrementBytes_eq (bs : List UInt8) : incrementBytes bs = leBytes bs.length (leNat bs + 1) := by
  induction bs with
  | nil => rfl
  | cons b rest ih =>
      have hb : b.toNat < 256 := b.toNat_lt
      have hzero : b + 1 = 0 ↔ b.toNat = 255 := by
        rw [← UInt8.toNat_inj, UInt8.toNat_add]
        simp only [UInt8.toNat_one, UInt8.toNat_zero]
        omega
      have hhead : b + 1 = UInt8.ofNat (b.toNat + 256 * leNat rest + 1) := by
        rw [← UInt8.toNat_inj, UInt8.toNat_add, UInt8.toNat_ofNat']
        simp only [UInt8.toNat_one]
        omega
      rw [incrementBytes, List.length_cons, leNat_cons, leBytes, ← hhead]
      by_cases hcarry : b.toNat = 255
      · rw [if_pos (hzero.mpr hcarry), ih,
          show (b.toNat + 256 * leNat rest + 1) / 256 = leNat rest + 1 by omega]
      · rw [if_neg (fun h => hcarry (hzero.mp h)),
          show (b.toNat + 256 * leNat rest + 1) / 256 = leNat rest by omega, leBytes_leNat]

theorem incrementCounter_eq (b : AesBlock) : incrementCounter b = inc32 b := by
  have hlist : (incrementBytes (b.toList.drop 12).reverse).reverse =
      beBytes 4 (beNat (b.toList.drop 12) + 1) := by
    rw [incrementBytes_eq, beBytes, beNat]
    simp
  refine Vector.ext fun i hi => ?_
  simp [incrementCounter, inc32, hlist]

/-- `aes_ctr_crypt` is GCTR. -/
theorem aesCtrCrypt_eq (key icb : AesBlock) (input : List UInt8) :
    aesCtrCrypt key icb input = gctr (aes128EncryptBlock key) icb input := by
  refine List.ext_getElem? fun i => ?_
  rw [aesCtrCrypt, aes128CtrCryptUpdate, getElem?_counterCrypt (by decide) (fun _ => by simp) (Nat.le_refl _),
    gctr, List.getElem?_mapIdx, keyStream, funext incrementCounter_eq]

/-! ## The tag -/

/-- The tag of SP 800-38D, 7.1, step 6, for the block cipher `ciph`. -/
def IsStandardTag (ciph : AesBlock → AesBlock) (iv : GcmNonce) (aad ciphertext : List UInt8)
    (tag : AesBlock) : Prop :=
  blockField tag = blockField (ciph (gcmCounter iv)) +
    standardGhash (blockField (ciph (Vector.replicate 16 0))) (blocksOf (standardString aad ciphertext))

variable {key : AesBlock} {nonce : GcmNonce} {aad : List UInt8}

/-- The standard gives one tag, and it is the one the code computes. -/
theorem isStandardTag_iff {ciphertext : List UInt8} {tag : AesBlock} :
    IsStandardTag (aes128EncryptBlock key) nonce aad ciphertext tag ↔
      tag = gcmTag key nonce aad ciphertext := by
  have htag : blockField (gcmTag key nonce aad ciphertext) =
      blockField (aes128EncryptBlock key (gcmCounter nonce)) +
        standardGhash (blockField (aes128EncryptBlock key (Vector.replicate 16 0)))
          (blocksOf (standardString aad ciphertext)) := by
    rw [gcmTag, blockField_xorBlock, blockField_ghash]
  rw [IsStandardTag, ← htag]
  exact ⟨blockField_injective, congrArg _⟩

/-- `aes128_gcm_encrypt` gives the standard's ciphertext and tag. -/
theorem aes128GcmEncrypt_standard (plaintext : List UInt8) :
    (aes128GcmEncrypt key nonce aad plaintext).1 =
        gctr (aes128EncryptBlock key) (inc32 (gcmCounter nonce)) plaintext ∧
      IsStandardTag (aes128EncryptBlock key) nonce aad (aes128GcmEncrypt key nonce aad plaintext).1
        (aes128GcmEncrypt key nonce aad plaintext).2 :=
  ⟨by rw [aes128GcmEncrypt, aesCtrCrypt_eq, incrementCounter_eq], isStandardTag_iff.mpr rfl⟩

/-- Decryption inverts encryption, returns 0 for the standard's tag only, and
leaves its output alone otherwise. -/
theorem aes128GcmDecryptInto_standard (key : AesBlock) (nonce : GcmNonce) (aad : List UInt8) :
    (∀ plaintext out : List UInt8,
      aes128GcmDecryptInto key nonce aad (aes128GcmEncrypt key nonce aad plaintext).1
        (aes128GcmEncrypt key nonce aad plaintext).2 out =
          (0, plaintext ++ out.drop plaintext.length)) ∧
    ∀ (ciphertext : List UInt8) (tag : AesBlock) (out : List UInt8),
      ((aes128GcmDecryptInto key nonce aad ciphertext tag out).1 = 0 ↔
        IsStandardTag (aes128EncryptBlock key) nonce aad ciphertext tag) ∧
      ((aes128GcmDecryptInto key nonce aad ciphertext tag out).1 ≠ 0 →
        (aes128GcmDecryptInto key nonce aad ciphertext tag out).2 = out) := by
  refine ⟨fun plaintext out => ?_, fun ciphertext tag out => ?_⟩
  · rw [aes128GcmDecryptInto, aes128GcmDecrypt_encrypt]
  · rw [isStandardTag_iff, aes128GcmDecryptInto]
    cases hdec : aes128GcmDecrypt key nonce aad ciphertext tag.toList with
    | none =>
        have hne : tag ≠ gcmTag key nonce aad ciphertext := by
          intro htag
          have hsome : aes128GcmDecrypt key nonce aad ciphertext tag.toList = some _ :=
            (aes128GcmDecrypt_eq_some (by simp)).mpr ⟨congrArg Vector.toList htag, rfl⟩
          simp [hdec] at hsome
        simp [hne]
    | some bytes =>
        have htag := ((aes128GcmDecrypt_eq_some (by simp)).mp hdec).1
        simp [Vector.toList_inj.mp htag]

end Orizon
