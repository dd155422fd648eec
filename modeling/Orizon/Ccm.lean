import Orizon.Gcm
import Orizon.Lib.InPlace

/-!
# Orizon.Ccm

AES-128-CCM of `lib/aes_gcm.c`: the tag over nonce, additional data and
plaintext, counter mode, and the two operations `aes128_ccm_encrypt` and
`aes128_ccm_decrypt`.

Both operations may work in place, so they are stated on a memory, input and
output given by their addresses.  Decryption writes the plaintext before it
computes the tag.  Where the tag cannot be computed it returns with the
plaintext in the output buffer; everywhere else a failing call leaves the
buffer as it was or zeroes it (`ccmLeavesNoPlaintext_iff`).

A pointer is a number here and never null.
-/

namespace Orizon

/-! ## The tag -/

/-- `ccm_valid_tag_len`. -/
def ccmValidTagLen (tagLen : Nat) : Bool := 4 ≤ tagLen && tagLen ≤ 16 && tagLen % 2 = 0

/-- `ccm_len_fits`. -/
def ccmLenFits (value : Nat) : Nat → Bool
  | 0 => value = 0
  | lenBytes + 1 => ccmLenFits (value / 256) lenBytes

/-- `ccm_write_len`: the low byte is written last in memory. -/
def ccmWriteLen (lenBytes value : Nat) : List UInt8 := beBytes lenBytes value

/-- `ccm_mac_block`. -/
def ccmMacBlock (key x block : AesBlock) : AesBlock := aes128EncryptBlock key (xorBlock x block)

/-- The chaining value of `ccm_mac_aad`, its block and how much of it is used. -/
structure CcmMac where
  x : AesBlock
  block : AesBlock
  used : Nat

/-- `ccm_mac_feed_byte`. -/
def ccmMacFeedByte (key : AesBlock) (s : CcmMac) (value : UInt8) : CcmMac :=
  let block := s.block.setIfInBounds s.used value
  if s.used + 1 = 16 then { x := ccmMacBlock key s.x block, block := Vector.replicate 16 0, used := 0 }
  else { s with block := block, used := s.used + 1 }

/-- `ccm_mac_finish`. -/
def ccmMacFinish (key : AesBlock) (s : CcmMac) : CcmMac :=
  if s.used = 0 then s
  else { x := ccmMacBlock key s.x s.block, block := Vector.replicate 16 0, used := 0 }

/-- `ccm_mac_aad`; `none` is -1. -/
def ccmMacAad (key x : AesBlock) (aad : List UInt8) : Option AesBlock :=
  if aad.length = 0 then some x
  else if 0xff00 ≤ aad.length then none
  else
    let s : CcmMac := { x := x, block := Vector.replicate 16 0, used := 0 }
    let s := ccmMacFeedByte key s (UInt8.ofNat (aad.length / 256))
    let s := ccmMacFeedByte key s (UInt8.ofNat (aad.length % 256))
    some (ccmMacFinish key (aad.foldl (ccmMacFeedByte key) s)).x

/-- `ccm_mac_data`; every round takes a byte, so `fuel` rounds are enough for `fuel`
bytes. -/
def ccmMacData (key : AesBlock) : Nat → AesBlock → List UInt8 → AesBlock
  | 0, x, _ => x
  | fuel + 1, x, data =>
      if data.length = 0 then x
      else ccmMacData key fuel (ccmMacBlock key x (zeroPadded (data.take 16))) (data.drop 16)

/-- `ccm_format_counter`. -/
def ccmFormatCounter (nonce : List UInt8) (counter : Nat) : AesBlock :=
  let lenBytes := 15 - nonce.length
  zeroPadded (UInt8.ofNat (lenBytes - 1) :: nonce ++ ccmWriteLen lenBytes counter)

/-- `ccm_compute_tag`; `none` is -1. -/
def ccmComputeTag (key : AesBlock) (nonce aad plaintext : List UInt8) (tagLen : Nat) :
    Option (List UInt8) :=
  let lenBytes := 15 - nonce.length
  if !ccmValidTagLen tagLen || nonce.length < 7 || 13 < nonce.length then none
  else if !ccmLenFits plaintext.length lenBytes then none
  else
    let flags := (if 0 < aad.length then (0x40 : UInt8) else 0) |||
      ((UInt8.ofNat ((tagLen - 2) / 2) &&& 0x07) <<< 3) ||| (UInt8.ofNat (lenBytes - 1) &&& 0x07)
    let b0 := zeroPadded (flags :: nonce ++ ccmWriteLen lenBytes plaintext.length)
    match ccmMacAad key (ccmMacBlock key (Vector.replicate 16 0) b0) aad with
    | none => none
    | some x =>
        let x := ccmMacData key plaintext.length x plaintext
        let s0 := aes128EncryptBlock key (ccmFormatCounter nonce 0)
        some ((xorBlock x s0).toList.take tagLen)

/-! ## Counter mode -/

/-- One round of `ccm_ctr_crypt`: `take` bytes from `pos`. -/
def ccmCtrBlock (stream : AesBlock) (input output pos take : Nat) (mem : Mem) : Mem :=
  (List.range take).foldl (fun mem i => Function.update mem (output + (pos + i))
    (mem (input + (pos + i)) ^^^ stream.toList.getD i 0)) mem

/-- The loop of `ccm_ctr_crypt`. -/
def ccmCtrLoop (key : AesBlock) (nonce : List UInt8) (input inputLen output : Nat) :
    Nat → Nat → Nat → Mem → Mem
  | 0, _, _, mem => mem
  | fuel + 1, pos, counter, mem =>
      if pos < inputLen then
        let take := min (inputLen - pos) 16
        let stream := aes128EncryptBlock key (ccmFormatCounter nonce counter)
        ccmCtrLoop key nonce input inputLen output fuel (pos + take) (counter + 1)
          (ccmCtrBlock stream input output pos take mem)
      else mem

/-- `ccm_ctr_crypt`; `none` is -1, before anything is written. -/
def ccmCtrCrypt (key : AesBlock) (nonce : List UInt8) (mem : Mem) (input inputLen output : Nat) :
    Option Mem :=
  if nonce.length < 7 || 13 < nonce.length then none
  else some (ccmCtrLoop key nonce input inputLen output inputLen 0 1 mem)

/-! ## The operations -/

/-- `aes128_ccm_encrypt`: the memory with the ciphertext, and the tag; `none` is -1. -/
def aes128CcmEncrypt (key : AesBlock) (nonce aad : List UInt8) (mem : Mem)
    (plaintext plaintextLen ciphertext tagLen : Nat) : Option (Mem × List UInt8) :=
  match ccmComputeTag key nonce aad (bytesAt mem plaintext plaintextLen) tagLen with
  | none => none
  | some tag =>
      match ccmCtrCrypt key nonce mem plaintext plaintextLen ciphertext with
      | none => none
      | some mem => some (mem, tag)

/-- `aes128_ccm_decrypt` with a tag of `tag_len` bytes: the code it returns and the
memory after it. -/
def aes128CcmDecrypt (key : AesBlock) (nonce aad : List UInt8) (mem : Mem)
    (ciphertext ciphertextLen : Nat) (tag : List UInt8) (plaintext : Nat) : Int × Mem :=
  match ccmCtrCrypt key nonce mem ciphertext ciphertextLen plaintext with
  | none => (-1, mem)
  | some mem =>
      match ccmComputeTag key nonce aad (bytesAt mem plaintext ciphertextLen) tag.length with
      | none => (-1, mem)
      | some expected =>
          if bytesDiff expected tag ≠ 0 then (-2, memset mem plaintext 0 ciphertextLen)
          else (0, mem)

/-! ## Counter mode is an exclusive or with a stream -/

/-- Byte `i` of the key stream. -/
def ccmStream (key : AesBlock) (nonce : List UInt8) (i : Nat) : UInt8 :=
  (aes128EncryptBlock key (ccmFormatCounter nonce (1 + i / 16))).toList.getD (i % 16) 0

/-- What counter mode makes of byte `i`. -/
def ccmCryptByte (key : AesBlock) (nonce : List UInt8) (i : Nat) (b : UInt8) : UInt8 :=
  b ^^^ ccmStream key nonce i

/-- What counter mode makes of a text. -/
def ccmCrypt (key : AesBlock) (nonce text : List UInt8) : List UInt8 :=
  text.mapIdx (ccmCryptByte key nonce)

variable {key : AesBlock} {nonce aad : List UInt8} {mem : Mem} {input output len : Nat}

@[simp] theorem length_ccmCrypt (text : List UInt8) : (ccmCrypt key nonce text).length = text.length := by
  simp [ccmCrypt]

@[simp] theorem ccmCrypt_self (text : List UInt8) :
    ccmCrypt key nonce (ccmCrypt key nonce text) = text := by
  refine List.ext_getElem? fun i => ?_
  rw [ccmCrypt, ccmCrypt, List.getElem?_mapIdx, List.getElem?_mapIdx]
  cases text[i]? <;> simp [ccmCryptByte, UInt8.xor_assoc]

theorem ccmCtrBlock_eq (hahead : ReadsAhead input output len) {pos take : Nat} (hpos : pos % 16 = 0)
    (htake : take ≤ 16) (hlen : pos + take ≤ len) :
    ccmCtrBlock (aes128EncryptBlock key (ccmFormatCounter nonce (1 + pos / 16))) input output pos take
        (mapBytes (ccmCryptByte key nonce) mem input output pos) =
      mapBytes (ccmCryptByte key nonce) mem input output (pos + take) := by
  induction take with
  | zero => rfl
  | succ take ih =>
      have hbyte : ccmStream key nonce (pos + take) =
          (aes128EncryptBlock key (ccmFormatCounter nonce (1 + pos / 16))).toList.getD take 0 := by
        rw [ccmStream, show (pos + take) / 16 = pos / 16 by omega, show (pos + take) % 16 = take by omega]
      have hnext : ReadsAhead input output (pos + take + 1) := by
        rcases hahead with h | h
        · exact .inl h
        · exact .inr (by omega)
      rw [ccmCtrBlock] at ih ⊢
      rw [List.range_succ, List.foldl_append, List.foldl_cons, List.foldl_nil,
        ih (by omega) (by omega), ← hbyte]
      exact mapBytes_succ hnext

/-- The loop treats the whole text, each byte read before it is overwritten. -/
theorem ccmCtrLoop_eq (key : AesBlock) (nonce : List UInt8) (mem : Mem)
    (hahead : ReadsAhead input output len) {fuel pos : Nat}
    (hpos : pos % 16 = 0 ∨ pos = len) (hle : pos ≤ len) (hfuel : len - pos ≤ fuel) :
    ccmCtrLoop key nonce input len output fuel pos (1 + pos / 16)
        (mapBytes (ccmCryptByte key nonce) mem input output pos) =
      mapBytes (ccmCryptByte key nonce) mem input output len := by
  induction fuel generalizing pos with
  | zero =>
      have hend : pos = len := by omega
      rw [ccmCtrLoop, hend]
  | succ fuel ih =>
      rw [ccmCtrLoop]
      by_cases hmore : pos < len
      · have haligned : pos % 16 = 0 := by omega
        rw [if_pos hmore]
        simp only
        rw [ccmCtrBlock_eq hahead haligned (by omega) (by omega)]
        by_cases hlast : len - pos ≤ 16
        · rw [Nat.min_eq_left hlast, Nat.add_sub_cancel' (by omega)]
          cases fuel with
          | zero => rw [ccmCtrLoop]
          | succ fuel => rw [ccmCtrLoop, if_neg (by omega)]
        · rw [Nat.min_eq_right (by omega), show 1 + pos / 16 + 1 = 1 + (pos + 16) / 16 by omega]
          exact ih (by omega) (by omega) (by omega)
      · rw [if_neg hmore, show pos = len by omega]

/-- `ccm_ctr_crypt` writes the text it is given, combined with the stream. -/
theorem ccmCtrCrypt_eq (hahead : ReadsAhead input output len) :
    ccmCtrCrypt key nonce mem input len output =
      if nonce.length < 7 || 13 < nonce.length then none
      else some (mapBytes (ccmCryptByte key nonce) mem input output len) := by
  have hloop : ccmCtrLoop key nonce input len output len 0 1 mem =
      mapBytes (ccmCryptByte key nonce) mem input output len := by
    have hstart := ccmCtrLoop_eq key nonce mem hahead (.inl rfl) (Nat.zero_le len) (Nat.le_refl len)
    rwa [mapBytes_zero] at hstart
  rw [ccmCtrCrypt, hloop]

/-! ## When the tag is computed -/

/-- What `ccm_compute_tag` asks of its arguments. -/
def ccmTagFits (nonceLen aadLen textLen tagLen : Nat) : Bool :=
  ccmValidTagLen tagLen && ccmLenFits textLen (15 - nonceLen) && aadLen < 0xff00

theorem ccmMacAad_isSome (key x : AesBlock) (aad : List UInt8) :
    (ccmMacAad key x aad).isSome = (aad.length < 0xff00 : Bool) := by
  rw [ccmMacAad]
  split
  · simp_all
  · split
    · simp_all
    · simp_all

theorem ccmComputeTag_isSome (key : AesBlock) {nonce : List UInt8} (aad plaintext : List UInt8)
    (tagLen : Nat) (hlow : 7 ≤ nonce.length) (hhigh : nonce.length ≤ 13) :
    (ccmComputeTag key nonce aad plaintext tagLen).isSome =
      ccmTagFits nonce.length aad.length plaintext.length tagLen := by
  have hnonce : (decide (nonce.length < 7) || decide (13 < nonce.length)) = false := by
    simp
    omega
  rw [ccmComputeTag, ccmTagFits, Bool.or_assoc, hnonce, Bool.or_false]
  simp only
  cases ccmValidTagLen tagLen with
  | false => simp
  | true =>
      cases ccmLenFits plaintext.length (15 - nonce.length) with
      | false => simp
      | true =>
          simp only [Bool.not_true, Bool.false_eq_true, if_false, Bool.true_and]
          split
          · rename_i hmac
            rw [← ccmMacAad_isSome key _ aad, hmac]
            rfl
          · rename_i hmac
            rw [← ccmMacAad_isSome key _ aad, hmac]
            rfl

/-- A tag is computed for a nonce that counter mode takes, and has the length asked for. -/
theorem ccmComputeTag_eq_some {plaintext tag : List UInt8} {tagLen : Nat}
    (h : ccmComputeTag key nonce aad plaintext tagLen = some tag) :
    7 ≤ nonce.length ∧ nonce.length ≤ 13 ∧ tag.length = tagLen := by
  rw [ccmComputeTag] at h
  simp only at h
  split at h
  · simp at h
  rename_i hargs
  simp only [Bool.or_eq_true, Bool.not_eq_true', decide_eq_true_eq, not_or, Nat.not_lt] at hargs
  obtain ⟨⟨hvalid, hlow⟩, hhigh⟩ := hargs
  have htagLen : tagLen ≤ 16 := by
    simp only [ccmValidTagLen, Bool.and_eq_false_iff, decide_eq_false_iff_not, not_or, not_not] at hvalid
    exact hvalid.1.2
  refine ⟨hlow, hhigh, ?_⟩
  split at h
  · simp at h
  split at h
  · simp at h
  · rw [← Option.some.inj h]
    simp [htagLen]

/-! ## What the operations do -/

/-- `aes128_ccm_encrypt` writes the text combined with the stream and gives its tag. -/
theorem aes128CcmEncrypt_eq_some {plaintext plaintextLen ciphertext tagLen : Nat} {mem' : Mem}
    {tag : List UInt8} (hahead : ReadsAhead plaintext ciphertext plaintextLen)
    (h : aes128CcmEncrypt key nonce aad mem plaintext plaintextLen ciphertext tagLen = some (mem', tag)) :
    ccmComputeTag key nonce aad (bytesAt mem plaintext plaintextLen) tagLen = some tag ∧
      bytesAt mem' ciphertext plaintextLen = ccmCrypt key nonce (bytesAt mem plaintext plaintextLen) := by
  rw [aes128CcmEncrypt] at h
  cases htag : ccmComputeTag key nonce aad (bytesAt mem plaintext plaintextLen) tagLen with
  | none => simp [htag] at h
  | some t =>
      obtain ⟨hlow, hhigh, -⟩ := ccmComputeTag_eq_some htag
      have hcrypt : ccmCtrCrypt key nonce mem plaintext plaintextLen ciphertext =
          some (mapBytes (ccmCryptByte key nonce) mem plaintext ciphertext plaintextLen) := by
        rw [ccmCtrCrypt_eq hahead, if_neg (by simp; omega)]
      simp only [htag, hcrypt, Option.some.injEq, Prod.mk.injEq] at h
      obtain ⟨rfl, rfl⟩ := h
      exact ⟨rfl, bytesAt_mapBytes⟩

/-- What `aes128_ccm_decrypt` does for a nonce it takes. -/
theorem aes128CcmDecrypt_eq {ciphertext n plaintext : Nat} {tag : List UInt8}
    (hahead : ReadsAhead ciphertext plaintext n) (hlow : 7 ≤ nonce.length) (hhigh : nonce.length ≤ 13) :
    aes128CcmDecrypt key nonce aad mem ciphertext n tag plaintext =
      let after := mapBytes (ccmCryptByte key nonce) mem ciphertext plaintext n
      match ccmComputeTag key nonce aad (ccmCrypt key nonce (bytesAt mem ciphertext n)) tag.length with
      | none => (-1, after)
      | some expected =>
          if expected = tag then (0, after) else (-2, memset after plaintext 0 n) := by
  rw [aes128CcmDecrypt, ccmCtrCrypt_eq hahead, if_neg (by simp; omega)]
  simp only [bytesAt_mapBytes]
  rw [show List.mapIdx (ccmCryptByte key nonce) (bytesAt mem ciphertext n) =
    ccmCrypt key nonce (bytesAt mem ciphertext n) from rfl]
  cases htag : ccmComputeTag key nonce aad (ccmCrypt key nonce (bytesAt mem ciphertext n)) tag.length with
  | none => rfl
  | some expected =>
      have hdiff := bytesDiff_eq_zero_iff ((ccmComputeTag_eq_some htag).2.2)
      by_cases heq : expected = tag
      · simp only
        rw [if_pos heq, if_neg (not_not.mpr (hdiff.mpr heq))]
      · simp only
        rw [if_neg heq, if_pos (mt hdiff.mp heq)]

/-- What `aes128_ccm_encrypt` made is decrypted to what it was made from. -/
theorem aes128CcmDecrypt_encrypt {mem₁ mem₁' mem₂ : Mem} {p c c' q n tagLen : Nat} {tag : List UInt8}
    (hpc : ReadsAhead p c n) (hcq : ReadsAhead c' q n)
    (henc : aes128CcmEncrypt key nonce aad mem₁ p n c tagLen = some (mem₁', tag))
    (hsame : bytesAt mem₂ c' n = bytesAt mem₁' c n) :
    (aes128CcmDecrypt key nonce aad mem₂ c' n tag q).1 = 0 ∧
      bytesAt (aes128CcmDecrypt key nonce aad mem₂ c' n tag q).2 q n = bytesAt mem₁ p n := by
  obtain ⟨htag, hcipher⟩ := aes128CcmEncrypt_eq_some hpc henc
  obtain ⟨hlow, hhigh, hlen⟩ := ccmComputeTag_eq_some htag
  have hplain : ccmCrypt key nonce (bytesAt mem₂ c' n) = bytesAt mem₁ p n := by
    rw [hsame, hcipher, ccmCrypt_self]
  rw [aes128CcmDecrypt_eq hcq hlow hhigh]
  simp only [hplain, hlen, htag, if_true, true_and]
  rw [bytesAt_mapBytes]
  exact hplain

/-! ## On byte strings -/

/-- What `aes128_ccm_encrypt` makes of a text: the ciphertext and its tag. -/
def ccmSeal (key : AesBlock) (nonce aad text : List UInt8) (tagLen : Nat) :
    Option (List UInt8 × List UInt8) :=
  (ccmComputeTag key nonce aad text tagLen).map fun tag => (ccmCrypt key nonce text, tag)

/-- What `aes128_ccm_decrypt` makes of a ciphertext and its tag. -/
def ccmOpen (key : AesBlock) (nonce aad cipher tag : List UInt8) : Option (List UInt8) :=
  let text := ccmCrypt key nonce cipher
  if ccmComputeTag key nonce aad text tag.length = some tag then some text else none

/-- The call succeeds where the ciphertext opens, and leaves the text in its buffer. -/
theorem aes128CcmDecrypt_open {ciphertext n plaintext : Nat} {tag : List UInt8}
    (hahead : ReadsAhead ciphertext plaintext n) (hlow : 7 ≤ nonce.length) (hhigh : nonce.length ≤ 13) :
    let after := aes128CcmDecrypt key nonce aad mem ciphertext n tag plaintext
    ccmOpen key nonce aad (bytesAt mem ciphertext n) tag =
      if after.1 = 0 then some (bytesAt after.2 plaintext n) else none := by
  simp only
  rw [aes128CcmDecrypt_eq hahead hlow hhigh, ccmOpen]
  simp only
  cases htag : ccmComputeTag key nonce aad (ccmCrypt key nonce (bytesAt mem ciphertext n)) tag.length with
  | none => simp
  | some expected =>
      by_cases heq : expected = tag
      · simp only [heq, if_true, bytesAt_mapBytes]
        rfl
      · simp [heq]

theorem ccmOpen_seal {text cipher tag : List UInt8} {tagLen : Nat}
    (h : ccmSeal key nonce aad text tagLen = some (cipher, tag)) :
    ccmOpen key nonce aad cipher tag = some text := by
  rw [ccmSeal, Option.map_eq_some_iff] at h
  obtain ⟨t, ht, hpair⟩ := h
  simp only [Prod.mk.injEq] at hpair
  obtain ⟨rfl, rfl⟩ := hpair
  simp only [ccmOpen, ccmCrypt_self, (ccmComputeTag_eq_some ht).2.2, ht, if_true]

/-- What opens was sealed: the ciphertext and the tag are those of the text. -/
theorem ccmOpen_eq_some {text cipher tag : List UInt8}
    (h : ccmOpen key nonce aad cipher tag = some text) :
    ccmSeal key nonce aad text tag.length = some (cipher, tag) := by
  simp only [ccmOpen] at h
  split at h
  · rename_i htag
    rw [Option.some.injEq] at h
    subst h
    simp [ccmSeal, htag]
  · simp at h

/-- `aes128_ccm_decrypt` accepts what was made of a text, and nothing else. -/
theorem aes128CcmDecrypt_iff_seal {ciphertext n plaintext : Nat} {tag text : List UInt8}
    (hahead : ReadsAhead ciphertext plaintext n) (hlow : 7 ≤ nonce.length) (hhigh : nonce.length ≤ 13) :
    ((aes128CcmDecrypt key nonce aad mem ciphertext n tag plaintext).1 = 0 ∧
        bytesAt (aes128CcmDecrypt key nonce aad mem ciphertext n tag plaintext).2 plaintext n = text) ↔
      ccmSeal key nonce aad text tag.length = some (bytesAt mem ciphertext n, tag) := by
  have hopen := @aes128CcmDecrypt_open key nonce aad mem ciphertext n plaintext tag hahead hlow hhigh
  dsimp only at hopen
  constructor
  · rintro ⟨hzero, rfl⟩
    rw [if_pos hzero] at hopen
    exact ccmOpen_eq_some hopen
  · intro hseal
    rw [ccmOpen_seal hseal] at hopen
    split at hopen
    · next hzero => exact ⟨hzero, (Option.some.inj hopen).symm⟩
    · cases hopen

/-- Two bytes in place. -/
theorem aes128CcmDecrypt_iff_seal_zero :
    ((aes128CcmDecrypt (Vector.replicate 16 0) (List.replicate 13 0) [] (fun _ => 0) 0 2 [0, 0, 0, 0] 0).1 = 0 ∧
        bytesAt (aes128CcmDecrypt (Vector.replicate 16 0) (List.replicate 13 0) [] (fun _ => 0) 0 2 [0, 0, 0, 0] 0).2
          0 2 = [0, 0]) ↔
      ccmSeal (Vector.replicate 16 0) (List.replicate 13 0) [] [0, 0] 4 =
        some (bytesAt (fun _ => 0) 0 2, [0, 0, 0, 0]) :=
  aes128CcmDecrypt_iff_seal (.inl (Nat.le_refl 0)) (by decide) (by decide)

theorem ccmSeal_length {text cipher tag : List UInt8} {tagLen : Nat}
    (h : ccmSeal key nonce aad text tagLen = some (cipher, tag)) :
    cipher.length = text.length ∧ tag.length = tagLen := by
  rw [ccmSeal, Option.map_eq_some_iff] at h
  obtain ⟨t, ht, hpair⟩ := h
  simp only [Prod.mk.injEq] at hpair
  obtain ⟨rfl, rfl⟩ := hpair
  exact ⟨length_ccmCrypt text, (ccmComputeTag_eq_some ht).2.2⟩

theorem ccmSeal_isSome (key : AesBlock) {nonce : List UInt8} (aad text : List UInt8) (tagLen : Nat)
    (hlow : 7 ≤ nonce.length) (hhigh : nonce.length ≤ 13) :
    (ccmSeal key nonce aad text tagLen).isSome =
      ccmTagFits nonce.length aad.length text.length tagLen := by
  rw [ccmSeal, Option.isSome_map, ccmComputeTag_isSome key aad text tagLen hlow hhigh]

/-! ## What a failing decryption leaves -/

/-- Whatever the memory, a call of `aes128_ccm_decrypt` that fails leaves its output
buffer unchanged or zeroed. -/
def CcmLeavesNoPlaintext (key : AesBlock) (nonce aad : List UInt8) (tagLen n : Nat) : Prop :=
  ∀ (mem : Mem) (c q : Nat) (tag : List UInt8), tag.length = tagLen → ReadsAhead c q n →
    (aes128CcmDecrypt key nonce aad mem c n tag q).1 ≠ 0 →
      bytesAt (aes128CcmDecrypt key nonce aad mem c n tag q).2 q n = bytesAt mem q n ∨
        bytesAt (aes128CcmDecrypt key nonce aad mem c n tag q).2 q n = List.replicate n 0

theorem bytesAt_memset_zero (mem : Mem) (a n : Nat) :
    bytesAt (memset mem a 0 n) a n = List.replicate n 0 := by
  refine List.ext_getElem? fun i => ?_
  by_cases hi : i < n
  · rw [getElem?_bytesAt _ _ hi, memset_of_inside hi, List.getElem?_replicate, if_pos hi]
  · rw [List.getElem?_eq_none (by simpa using hi), List.getElem?_eq_none (by simpa using hi)]

/-- The plaintext stays behind exactly where the text is written and its tag cannot be
computed. -/
theorem ccmLeavesNoPlaintext_iff (key : AesBlock) (nonce aad : List UInt8) (tagLen n : Nat) :
    CcmLeavesNoPlaintext key nonce aad tagLen n ↔
      n = 0 ∨ nonce.length < 7 ∨ 13 < nonce.length ∨ ccmTagFits nonce.length aad.length n tagLen := by
  constructor
  · intro hclean
    by_contra hbad
    simp only [not_or, Nat.not_lt] at hbad
    obtain ⟨hn, hlow, hhigh, hfits⟩ := hbad
    -- one byte of ciphertext whose plaintext is 1, and an output buffer of zeros
    have hleft := hclean (fun a => if a = 0 then 1 ^^^ ccmStream key nonce 0 else 0) 0 n
      (List.replicate tagLen 0) (by simp) (.inr (by omega))
    have hnone : ∀ text : List UInt8, text.length = n →
        ccmComputeTag key nonce aad text tagLen = none := by
      intro text htext
      have hsome := ccmComputeTag_isSome key aad text tagLen hlow hhigh
      rw [htext, Bool.eq_false_iff.mpr hfits] at hsome
      exact Option.not_isSome_iff_eq_none.mp (by simp [hsome])
    rw [aes128CcmDecrypt_eq (.inr (by omega)) hlow hhigh] at hleft
    simp only [List.length_replicate] at hleft
    rw [hnone _ (by simp)] at hleft
    simp only at hleft
    have hfirst : mapBytes (ccmCryptByte key nonce)
        (fun a => if a = 0 then 1 ^^^ ccmStream key nonce 0 else 0) 0 n n (n + 0) = 1 := by
      rw [mapBytes_of_inside (by omega)]
      simp [ccmCryptByte, UInt8.xor_assoc]
    rcases hleft (by simp) with hsame | hzero
    · have h0 := bytesAt_inj hsame 0 (by omega)
      rw [hfirst] at h0
      simp [hn] at h0
    · have h0 := congrArg (fun bs => bs[0]?) hzero
      simp only [getElem?_bytesAt _ _ (Nat.pos_of_ne_zero hn), hfirst] at h0
      simp [Nat.pos_of_ne_zero hn] at h0
  · intro hgood mem c q tag htag hahead hfail
    by_cases hn : n = 0
    · subst hn
      exact .inl rfl
    by_cases hnonce : 7 ≤ nonce.length ∧ nonce.length ≤ 13
    · -- the tag is computed, so the failure is a wrong tag
      have hfits : ccmTagFits nonce.length aad.length n tagLen = true := by
        rcases hgood with h | h | h | h
        · exact absurd h hn
        · omega
        · omega
        · exact h
      have hsome := ccmComputeTag_isSome key aad (ccmCrypt key nonce (bytesAt mem c n)) tagLen
        hnonce.1 hnonce.2
      rw [length_ccmCrypt, length_bytesAt, hfits] at hsome
      obtain ⟨expected, hexpected⟩ := Option.isSome_iff_exists.mp hsome
      rw [aes128CcmDecrypt_eq hahead hnonce.1 hnonce.2] at hfail ⊢
      simp only [htag, hexpected] at hfail ⊢
      by_cases heq : expected = tag
      · simp [heq] at hfail
      · rw [if_neg heq]
        exact .inr (bytesAt_memset_zero _ _ _)
    · -- nothing is written
      have hnone : ccmCtrCrypt key nonce mem c n q = none := by
        rw [ccmCtrCrypt_eq hahead, if_pos (by simp; omega)]
      rw [aes128CcmDecrypt, hnone]
      exact .inl rfl

/-- Decryption inverts encryption, in place as well; and a call that fails leaves no
plaintext behind exactly where the tag can be computed or nothing is written. -/
theorem aes128Ccm_holds_iff (key : AesBlock) (nonce aad : List UInt8) (tagLen n : Nat) :
    (∀ (mem₁ mem₁' mem₂ : Mem) (p c c' q : Nat) (tag : List UInt8),
      ReadsAhead p c n → ReadsAhead c' q n →
      aes128CcmEncrypt key nonce aad mem₁ p n c tagLen = some (mem₁', tag) →
      bytesAt mem₂ c' n = bytesAt mem₁' c n →
        (aes128CcmDecrypt key nonce aad mem₂ c' n tag q).1 = 0 ∧
          bytesAt (aes128CcmDecrypt key nonce aad mem₂ c' n tag q).2 q n = bytesAt mem₁ p n) ∧
    (CcmLeavesNoPlaintext key nonce aad tagLen n ↔
      n = 0 ∨ nonce.length < 7 ∨ 13 < nonce.length ∨ ccmTagFits nonce.length aad.length n tagLen) :=
  ⟨fun _ _ _ _ _ _ _ _ hpc hcq henc hsame => aes128CcmDecrypt_encrypt hpc hcq henc hsame,
    ccmLeavesNoPlaintext_iff key nonce aad tagLen n⟩

/-- A tag length of 3: one byte of ciphertext 0 is decrypted into the output buffer,
which was 0, and the call returns -1. -/
theorem aes128CcmDecrypt_leaves_plaintext :
    ¬ ∀ (key : AesBlock) (nonce aad : List UInt8) (tagLen n : Nat),
      7 ≤ nonce.length → nonce.length ≤ 13 → CcmLeavesNoPlaintext key nonce aad tagLen n := by
  intro hall
  have hrun : (aes128CcmDecrypt (Vector.replicate 16 0) (List.replicate 13 0) [] (fun _ => 0) 0 1
      [0, 0, 0] 1).1 ≠ 0 := by decide +kernel
  have hbyte : (aes128CcmDecrypt (Vector.replicate 16 0) (List.replicate 13 0) [] (fun _ => 0) 0 1
      [0, 0, 0] 1).2 1 ≠ 0 := by decide +kernel
  rcases hall (Vector.replicate 16 0) (List.replicate 13 0) [] 3 1 (by decide) (by decide)
    (fun _ => 0) 0 1 [0, 0, 0] rfl (.inr (by decide)) hrun with h | h
  · exact hbyte (bytesAt_inj h 0 (by decide))
  · have h0 := congrArg (fun bs => bs[0]?) h
    simp only [getElem?_bytesAt _ _ (Nat.lt_succ_self 0)] at h0
    exact hbyte (by simpa using h0)

end Orizon
