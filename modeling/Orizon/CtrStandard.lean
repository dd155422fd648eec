import Orizon.KeyWrap
import Orizon.GcmStandard

/-!
# Orizon.CtrStandard

The stream that RFC 4344 states for `aes128-ctr`, and when `aes128_ctr_crypt_update`
makes it, packet by packet, of an SSH connection.

The RFC counts in the 128 bits of the block.  The code shares its counter with GCM,
where it has 32: the stream is the RFC's exactly as long as no carry leaves them
(`aes128CtrPackets_standard_iff`).
-/

namespace Orizon

/-! ## The standard -/

/-- The block `n` after `c`, as numbers of 128 bits. -/
def ctrAdd (c : AesBlock) (n : Nat) : AesBlock := ⟨(beBytes 16 (beNat c.toList + n)).toArray, by simp⟩

/-- The stream of RFC 4344, 4: byte `i` against a byte of the block its counter gives. -/
def sdctr (ciph : AesBlock → AesBlock) (x1 : AesBlock) (x : List UInt8) : List UInt8 :=
  x.mapIdx fun i b => b ^^^ (ciph (ctrAdd x1 (i / 16))).toList.getD (i % 16) 0

/-- Packets encrypted one after the other, and the counter after them. -/
def aes128CtrPackets (key : AesBlock) : AesBlock → List (List UInt8) → List UInt8 × AesBlock
  | counter, [] => ([], counter)
  | counter, p :: packets =>
      let r := aes128CtrCryptUpdate key counter p
      let rest := aes128CtrPackets key r.2 packets
      (r.1 ++ rest.1, rest.2)

/-- The stream and the counter left behind are those of the RFC. -/
structure Rfc4344Stream (key counter : AesBlock) (x : List UInt8) (r : List UInt8 × AesBlock) : Prop where
  stream_eq : r.1 = sdctr (aes128EncryptBlock key) counter x
  counter_eq : r.2 = ctrAdd counter (x.length / 16)

/-! ## Counters as numbers -/

/-- The part of a block that the code counts in. -/
def ctrLow (c : AesBlock) : Nat := beNat (c.toList.drop 12)

theorem ctrLow_lt (c : AesBlock) : ctrLow c < 2 ^ 32 := by
  have h := beNat_lt (c.toList.drop 12)
  simpa [ctrLow] using h

theorem toList_inc32 (b : AesBlock) : (inc32 b).toList = b.toList.take 12 ++ beBytes 4 (ctrLow b + 1) :=
  toList_zeroPadded (by simp)


/-- The code's counter after `n` steps. -/
theorem toList_inc32_iterate (n : Nat) (b : AesBlock) :
    (inc32^[n] b).toList = b.toList.take 12 ++ beBytes 4 (ctrLow b + n) := by
  have hself : b.toList = b.toList.take 12 ++ beBytes 4 (ctrLow b) := by
    rw [ctrLow, ← show (b.toList.drop 12).length = 4 by simp, beBytes_beNat, List.take_append_drop]
  induction n with
  | zero => exact hself
  | succ n ih =>
      have hlow : ctrLow (inc32^[n] b) = (ctrLow b + n) % 2 ^ 32 := by
        rw [ctrLow, ih, List.drop_left' (by simp), beNat_beBytes_mod]
        rfl
      rw [Function.iterate_succ_apply', toList_inc32, ih, List.take_left' (by simp), hlow,
        List.append_cancel_left_eq, beBytes_eq_iff]
      omega

/-- It is the standard's as long as no carry leaves the last four bytes. -/
theorem inc32_iterate_eq_iff {n : Nat} {b : AesBlock} :
    inc32^[n] b = ctrAdd b n ↔ (ctrLow b + n) / 2 ^ 32 % 2 ^ 96 = 0 := by
  have hb : beNat b.toList = beNat (b.toList.take 12) * 2 ^ 32 + ctrLow b := by
    conv_lhs => rw [← List.take_append_drop 12 b.toList, beNat_append]
    simp [ctrLow]
  have hhigh : beNat (b.toList.take 12) < 2 ^ 96 := by simpa using beNat_lt (b.toList.take 12)
  have hcode : beNat (inc32^[n] b).toList = beNat (b.toList.take 12) * 2 ^ 32 + (ctrLow b + n) % 2 ^ 32 := by
    rw [toList_inc32_iterate, beNat_append, beNat_beBytes_mod]
    simp
  have hstandard : beNat (ctrAdd b n).toList = (beNat (b.toList.take 12) * 2 ^ 32 + ctrLow b + n) % 2 ^ 128 := by
    rw [← hb]
    exact beNat_beBytes_mod 16 _
  have hiff : inc32^[n] b = ctrAdd b n ↔ beNat (inc32^[n] b).toList = beNat (ctrAdd b n).toList :=
    ⟨fun h => by rw [h], fun h => Vector.toList_inj.mp (beNat_inj (by simp) h)⟩
  rw [hiff, hcode, hstandard]
  omega

/-! ## The stream -/

section Stream

variable {key counter : AesBlock} {packets : List (List UInt8)}

theorem getElem?_aes128CtrCryptUpdate (input : List UInt8) (i : Nat) :
    (aes128CtrCryptUpdate key counter input).1[i]? =
      input[i]?.map (· ^^^ (aes128EncryptBlock key (inc32^[i / 16] counter)).toList.getD (i % 16) 0) := by
  rw [aes128CtrCryptUpdate, getElem?_counterCrypt (by decide) (fun _ => by simp) le_rfl, keyStream,
    funext incrementCounter_eq]

variable (key counter) in
theorem aes128CtrCryptUpdate_counter {input : List UInt8} (h : input.length % 16 = 0) :
    (aes128CtrCryptUpdate key counter input).2 = inc32^[input.length / 16] counter := by
  rw [aes128CtrCryptUpdate, counterCrypt_whole (by decide) le_rfl h, funext incrementCounter_eq]

theorem length_flatten_mod (h : ∀ p ∈ packets, p.length % 16 = 0) : packets.flatten.length % 16 = 0 := by
  induction packets with
  | nil => rfl
  | cons p packets ih =>
      have hp := h p List.mem_cons_self
      have hrest := ih fun q hq => h q (List.mem_cons_of_mem _ hq)
      rw [List.flatten_cons, List.length_append]
      omega

theorem aes128CtrPackets_eq (h : ∀ p ∈ packets, p.length % 16 = 0) :
    aes128CtrPackets key counter packets = aes128CtrCryptUpdate key counter packets.flatten := by
  induction packets generalizing counter with
  | nil => rfl
  | cons p packets ih =>
      have hp := h p List.mem_cons_self
      have hrest : ∀ q ∈ packets, q.length % 16 = 0 := fun q hq => h q (List.mem_cons_of_mem _ hq)
      have hlen := length_aes128CtrCryptUpdate key counter p
      have hcounter := aes128CtrCryptUpdate_counter key counter hp
      -- whole blocks before byte `i` of the rest
      have hshift : ∀ n, inc32^[n / 16] (inc32^[p.length / 16] counter) = inc32^[(p.length + n) / 16] counter :=
          fun n => by
        rw [← Function.iterate_add_apply]
        congr 2
        omega
      rw [aes128CtrPackets, ih hrest]
      refine Prod.ext (List.ext_getElem? fun i => ?_) ?_
      · obtain hi | hi := Nat.lt_or_ge i p.length
        · rw [List.getElem?_append_left (by omega), getElem?_aes128CtrCryptUpdate, getElem?_aes128CtrCryptUpdate,
            List.flatten_cons, List.getElem?_append_left hi]
        · have hmod : (i - p.length) % 16 = i % 16 := by omega
          rw [List.getElem?_append_right (by omega), hlen, hcounter, getElem?_aes128CtrCryptUpdate,
            getElem?_aes128CtrCryptUpdate, List.flatten_cons, List.getElem?_append_right hi, hshift, hmod,
            Nat.add_sub_cancel' hi]
      · have hall := length_flatten_mod h
        rw [hcounter, aes128CtrCryptUpdate_counter _ _ (length_flatten_mod hrest),
          aes128CtrCryptUpdate_counter _ _ hall, hshift,
          List.flatten_cons, List.length_append]

theorem sdctr_eq_iff {x : List UInt8} :
    (aes128CtrCryptUpdate key counter x).1 = sdctr (aes128EncryptBlock key) counter x ↔
      ∀ i < x.length, (aes128EncryptBlock key (inc32^[i / 16] counter)).toList.getD (i % 16) 0 =
        (aes128EncryptBlock key (ctrAdd counter (i / 16))).toList.getD (i % 16) 0 := by
  constructor
  · intro heq i hi
    have hbyte := congrArg (·[i]?) heq
    simp only [getElem?_aes128CtrCryptUpdate, sdctr, List.getElem?_mapIdx, List.getElem?_eq_getElem hi,
      Option.map_some, Option.some.injEq] at hbyte
    exact (UInt8.xor_right_inj _).mp hbyte
  · intro hpads
    refine List.ext_getElem? fun i => ?_
    rw [getElem?_aes128CtrCryptUpdate, sdctr, List.getElem?_mapIdx]
    obtain hi | hi := Nat.lt_or_ge i x.length
    · rw [List.getElem?_eq_getElem hi, Option.map_some, Option.map_some, hpads i hi]
    · rw [List.getElem?_eq_none hi, Option.map_none, Option.map_none]

variable (key) in
theorem encryptBlock_inj {a b : AesBlock} (h : ∀ k < 16, (aes128EncryptBlock key a).toList.getD k 0 =
    (aes128EncryptBlock key b).toList.getD k 0) : a = b := by
  have hblocks : aes128EncryptBlock key a = aes128EncryptBlock key b := by
    refine Vector.ext fun k hk => ?_
    simpa [List.getD_eq_getElem?_getD, hk] using h k hk
  rw [← aes128DecryptBlock_encryptBlock key a, hblocks, aes128DecryptBlock_encryptBlock]

/-- Whole blocks of a stream are the RFC's exactly if the count stays in the last four bytes. -/
theorem rfc4344Stream_iff {x : List UInt8} (h : x.length % 16 = 0) :
    Rfc4344Stream key counter x (aes128CtrCryptUpdate key counter x) ↔ ctrLow counter + x.length / 16 < 2 ^ 32 := by
  have hlow := ctrLow_lt counter
  constructor
  · rintro ⟨hstream, hleft⟩
    by_contra hlong
    -- the first block whose counter has lost a carry
    obtain ⟨m, hm, hwrap⟩ : ∃ m, m ≤ x.length / 16 ∧ ctrLow counter + m = 2 ^ 32 :=
      ⟨2 ^ 32 - ctrLow counter, by omega, by omega⟩
    have hne : ¬ inc32^[m] counter = ctrAdd counter m := by
      rw [inc32_iterate_eq_iff, hwrap]
      decide
    obtain hlast | hinner := Nat.eq_or_lt_of_le hm
    · rw [aes128CtrCryptUpdate_counter _ _ h, ← hlast] at hleft
      exact hne hleft
    · refine hne (encryptBlock_inj key fun k hk => ?_)
      have hpad := sdctr_eq_iff.mp hstream (m * 16 + k) (by omega)
      rwa [show (m * 16 + k) / 16 = m by omega, show (m * 16 + k) % 16 = k by omega] at hpad
  · intro hfits
    have hcounter : ∀ n, n ≤ x.length / 16 → inc32^[n] counter = ctrAdd counter n := fun n hn => by
      rw [inc32_iterate_eq_iff, Nat.div_eq_of_lt (by omega)]
      rfl
    refine ⟨sdctr_eq_iff.mpr fun i hi => by rw [hcounter _ (by omega)], ?_⟩
    rw [aes128CtrCryptUpdate_counter _ _ h, hcounter _ le_rfl]

end Stream

/-- The packets of a connection are the stream of RFC 4344, with the RFC's counter after them, exactly
if the last four bytes of the first counter take all of its blocks. -/
theorem aes128CtrPackets_standard_iff (key counter : AesBlock) (packets : List (List UInt8))
    (h : ∀ p ∈ packets, p.length % 16 = 0) :
    Rfc4344Stream key counter packets.flatten (aes128CtrPackets key counter packets) ↔
      ctrLow counter + packets.flatten.length / 16 < 2 ^ 32 := by
  rw [aes128CtrPackets_eq h]
  exact rfc4344Stream_iff (length_flatten_mod h)

theorem aes128CtrPackets_standard_two :
    Rfc4344Stream (Vector.replicate 16 0) (Vector.replicate 16 0) [List.replicate 32 0, List.replicate 16 0].flatten
      (aes128CtrPackets (Vector.replicate 16 0) (Vector.replicate 16 0) [List.replicate 32 0, List.replicate 16 0]) :=
  (aes128CtrPackets_standard_iff _ _ _ (by decide)).mpr (by decide)

/-- A counter that ends in four bytes `ff`, and a packet of two blocks: the second is masked with the
wrong block. -/
theorem aes128CtrPackets_carry : ¬ ∀ (key counter : AesBlock) (packets : List (List UInt8)),
    (∀ p ∈ packets, p.length % 16 = 0) →
      Rfc4344Stream key counter packets.flatten (aes128CtrPackets key counter packets) := by
  intro h
  have hstream := h (Vector.replicate 16 0) (Vector.replicate 16 0xff) [List.replicate 32 0] (by decide)
  rw [aes128CtrPackets_eq (by decide), rfc4344Stream_iff (by decide)] at hstream
  exact absurd hstream (by decide)

end Orizon
