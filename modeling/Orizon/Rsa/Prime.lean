import Orizon.Rsa.Modular
import Orizon.Rsa.Small
import Orizon.Lib.PowMod
import Mathlib.FieldTheory.Finite.Basic

/-!
# Orizon.Rsa.Prime

The probable-prime test of the key generator (`rsa_probable_prime_512`): trial
division by the odd primes below 1000, then Miller-Rabin with six fixed bases.

The buffers are 64 bytes in the kernel; nothing here depends on it.  The test is
the strong probable-prime condition on numbers (`rsaProbablePrime512_iff`).  A
prime of 512 bits passes it (`rsaProbablePrime512_of_prime`): Fermat's theorem
gives 1 at the end of the squarings of a round, and a prime has no square root of
1 but 1 and -1.
-/

namespace Orizon

/-! ## The functions -/

/-- `small_primes`. -/
def rsaSmallPrimes : List Nat :=
  [3, 5, 7, 11, 13, 17, 19, 23, 29, 31, 37, 41, 43,
    47, 53, 59, 61, 67, 71, 73, 79, 83, 89, 97, 101, 103,
    107, 109, 113, 127, 131, 137, 139, 149, 151, 157, 163, 167, 173,
    179, 181, 191, 193, 197, 199, 211, 223, 227, 229, 233, 239, 241,
    251, 257, 263, 269, 271, 277, 281, 283, 293, 307, 311, 313, 317,
    331, 337, 347, 349, 353, 359, 367, 373, 379, 383, 389, 397, 401,
    409, 419, 421, 431, 433, 439, 443, 449, 457, 461, 463, 467, 479,
    487, 491, 499, 503, 509, 521, 523, 541, 547, 557, 563, 569, 571,
    577, 587, 593, 599, 601, 607, 613, 617, 619, 631, 641, 643, 647,
    653, 659, 661, 673, 677, 683, 691, 701, 709, 719, 727, 733, 739,
    743, 751, 757, 761, 769, 773, 787, 797, 809, 811, 821, 823, 827,
    829, 839, 853, 857, 859, 863, 877, 881, 883, 887, 907, 911, 919,
    929, 937, 941, 947, 953, 967, 971, 977, 983, 991, 997]

/-- `bases`. -/
def rsaBases : List Nat := [2, 3, 5, 17, 257, 65537]

/-- The loop that halves `d` while it is even and counts in `s`; a nonzero `d` of
`len` bytes is halved fewer than `8 * len` times. -/
def rsaSplitTwos : Nat → List UInt8 → Nat → List UInt8 × Nat
  | 0, d, s => (d, s)
  | fuel + 1, d, s =>
      if rsaIsEven d then rsaSplitTwos fuel (rsaShiftRightOne d) (s + 1) else (d, s)

/-- The squarings of a round: is one of the next `rounds` squares `n - 1`? -/
def rsaSquareSearch (n nMinusOne : List UInt8) : Nat → List UInt8 → Bool
  | 0, _ => false
  | rounds + 1, x =>
      let x := rsaMulMod x x n
      if x = nMinusOne then true else rsaSquareSearch n nMinusOne rounds x

/-- One round of Miller-Rabin. -/
def rsaWitnessOk (n nMinusOne d : List UInt8) (s base : Nat) : Bool :=
  match rsaModexp (rsaSetU32 n.length base) d n with
  | none => false
  | some x =>
      if rsaIsOne x ∨ x = nMinusOne then true else rsaSquareSearch n nMinusOne (s - 1) x

/-- `rsa_probable_prime_512`. -/
def rsaProbablePrime512 (n : List UInt8) : Bool :=
  if rsaIsEven n ∨ rsaIsZero n ∨ rsaIsOne n then false
  else if rsaSmallPrimes.any fun p => rsaModU32 n p = 0 then false
  else
    let nMinusOne := rsaSubSmall n 1
    let split := rsaSplitTwos (8 * n.length) nMinusOne 0
    rsaBases.all fun base => rsaWitnessOk n nMinusOne split.1 split.2 base

/-! ## The test on numbers -/

/-- `n` passes a round with the base `b`, where `n - 1` is `2 ^ s * d` with `d` odd. -/
def StrongProbablePrime (n b : Nat) : Prop :=
  ∃ s d, n - 1 = 2 ^ s * d ∧ d % 2 = 1 ∧ (b ^ d % n = 1 ∨ ∃ i < s, b ^ (2 ^ i * d) % n = n - 1)

theorem two_pow_mul_odd_le {s k d e : Nat} (h : 2 ^ s * d = 2 ^ k * e) (hd : d % 2 = 1) : k ≤ s := by
  by_contra hlt
  obtain ⟨j, rfl⟩ := Nat.exists_eq_add_of_lt (Nat.lt_of_not_le hlt)
  rw [Nat.add_assoc, pow_add, Nat.mul_assoc] at h
  have hdeq := Nat.eq_of_mul_eq_mul_left (Nat.two_pow_pos s) h
  rw [hdeq, pow_succ, Nat.mul_right_comm] at hd
  omega

theorem two_pow_mul_odd_unique {s k d e : Nat} (h : 2 ^ s * d = 2 ^ k * e) (hd : d % 2 = 1)
    (he : e % 2 = 1) : s = k ∧ d = e := by
  obtain rfl : s = k := Nat.le_antisymm (two_pow_mul_odd_le h.symm he) (two_pow_mul_odd_le h hd)
  exact ⟨rfl, Nat.eq_of_mul_eq_mul_left (Nat.two_pow_pos s) h⟩

/-- The loop writes a nonzero number as a power of two times an odd number. -/
theorem rsaSplitTwos_spec {fuel : Nat} {d : List UInt8} (hpos : beNat d ≠ 0)
    (hfuel : beNat d < 2 ^ fuel) (s : Nat) : ∃ out k, rsaSplitTwos fuel d s = (out, s + k) ∧
      out.length = d.length ∧ beNat d = 2 ^ k * beNat out ∧ beNat out % 2 = 1 := by
  induction fuel generalizing d s with
  | zero => omega
  | succ fuel ih =>
      rw [rsaSplitTwos]
      by_cases heven : rsaIsEven d = true
      · have htwo := rsaIsEven_iff.mp heven
        obtain ⟨hl, hv⟩ := rsaShiftRightOne_spec d
        obtain ⟨out, k, hout, hlen, hval, hodd⟩ := ih (d := rsaShiftRightOne d) (by omega)
          (by rw [hv]; omega) (s + 1)
        refine ⟨out, k + 1, ?_, hlen.trans hl, ?_, hodd⟩
        · rw [if_pos heven, hout, Nat.add_right_comm, Nat.add_assoc]
        · rw [pow_succ, Nat.mul_right_comm, ← hval, hv]
          omega
      · have htwo := mt rsaIsEven_iff.mpr heven
        refine ⟨d, 0, by rw [if_neg heven]; rfl, rfl, ?_, by omega⟩
        rw [pow_zero, Nat.one_mul]

section Rounds

variable {n nMinusOne : List UInt8}

theorem Residue.eq_iff {k : Nat} {a b : List UInt8}
    (ha : Residue n (k : ZMod (beNat n)) a) (hb : b.length = n.length) :
    a = b ↔ k % beNat n = beNat b := by
  rw [← ha.beNat_eq]
  exact ⟨fun h => by rw [h], beNat_inj (ha.length_eq.trans hb.symm)⟩

theorem rsaSquareSearch_iff (hlen : nMinusOne.length = n.length)
    (hval : beNat nMinusOne = beNat n - 1) {rounds k : Nat} {x : List UInt8}
    (hx : Residue n (k : ZMod (beNat n)) x) : rsaSquareSearch n nMinusOne rounds x = true ↔
      ∃ i < rounds, k ^ (2 ^ (i + 1)) % beNat n = beNat n - 1 := by
  induction rounds generalizing k x with
  | zero => simp [rsaSquareSearch]
  | succ rounds ih =>
      have hsquare : Residue n ((k ^ 2 : Nat) : ZMod (beNat n)) (rsaMulMod x x n) := by
        have hmul := hx.mul hx
        rwa [← Nat.cast_mul, ← pow_two] at hmul
      have hpow : ∀ i, (k ^ 2) ^ 2 ^ (i + 1) = k ^ 2 ^ (i + 1 + 1) := by
        intro i
        rw [← pow_mul, ← pow_succ']
      have hhit := hsquare.eq_iff hlen
      rw [hval] at hhit
      rw [rsaSquareSearch]
      by_cases hfound : rsaMulMod x x n = nMinusOne
      · rw [if_pos hfound]
        exact ⟨fun _ => ⟨0, by omega, by simpa using hhit.mp hfound⟩, fun _ => rfl⟩
      · rw [if_neg hfound, ih hsquare]
        simp only [hpow]
        constructor
        · rintro ⟨i, hi, heq⟩
          exact ⟨i + 1, by omega, heq⟩
        · rintro ⟨i, hi, heq⟩
          cases i with
          | zero => exact absurd (hhit.mpr (by simpa using heq)) hfound
          | succ i => exact ⟨i, by omega, heq⟩

theorem rsaWitnessOk_iff (hn : 1 < beNat n) (hmax : n.length ≤ rsaMaxBytes) (hmin : 4 ≤ n.length)
    (hlen : nMinusOne.length = n.length) (hval : beNat nMinusOne = beNat n - 1)
    {d : List UInt8} (hdlen : d.length = n.length) {base : Nat} (hbase : base < 2 ^ 32) (s : Nat) :
    rsaWitnessOk n nMinusOne d s base = true ↔ base ^ beNat d % beNat n = 1 ∨
      base ^ beNat d % beNat n = beNat n - 1 ∨
      ∃ i < s - 1, base ^ (2 ^ (i + 1) * beNat d) % beNat n = beNat n - 1 := by
  obtain ⟨hbl, hbv⟩ := beNat_rsaSetU32 hmin hbase
  obtain ⟨x, hpow, hres⟩ := residue_rsaModexp hn hmax (rsaSetU32 n.length base)
    (hdlen.le.trans hmax)
  rw [hbv, ← Nat.cast_pow] at hres
  have hone : rsaIsOne x = true ↔ base ^ beNat d % beNat n = 1 := by
    rw [rsaIsOne_iff, hres.beNat_eq]
  have hminus := hres.eq_iff hlen
  rw [hval] at hminus
  have hsearch := @rsaSquareSearch_iff n nMinusOne hlen hval (s - 1) _ x hres
  simp only [← pow_mul, Nat.mul_comm (beNat d)] at hsearch
  rw [rsaWitnessOk, hpow]
  dsimp only
  rw [← hsearch, ← hone, ← hminus]
  by_cases h1 : rsaIsOne x = true
  · simp [h1]
  · by_cases h2 : x = nMinusOne
    · simp [h2]
    · simp [h1, h2]

end Rounds

theorem rsaProbablePrime512_iff {n : List UInt8} (hmax : n.length ≤ rsaMaxBytes)
    (hmin : 4 ≤ n.length) : rsaProbablePrime512 n = true ↔
      beNat n % 2 = 1 ∧ beNat n ≠ 1 ∧ (∀ p ∈ rsaSmallPrimes, beNat n % p ≠ 0) ∧
        ∀ b ∈ rsaBases, StrongProbablePrime (beNat n) b := by
  rw [rsaProbablePrime512]
  by_cases htrivial : rsaIsEven n = true ∨ rsaIsZero n = true ∨ rsaIsOne n = true
  · rw [if_pos htrivial]
    rw [rsaIsEven_iff, rsaIsZero_iff, rsaIsOne_iff] at htrivial
    simp only [Bool.false_eq_true, false_iff]
    omega
  rw [if_neg htrivial]
  rw [rsaIsEven_iff, rsaIsZero_iff, rsaIsOne_iff] at htrivial
  have hsmall : (rsaSmallPrimes.any fun p => rsaModU32 n p = 0) = true ↔
      ¬ ∀ p ∈ rsaSmallPrimes, beNat n % p ≠ 0 := by
    have hmod : ∀ p ∈ rsaSmallPrimes, rsaModU32 n p = beNat n % p := fun p hp =>
      rsaModU32_eq ((by decide +kernel : ∀ p ∈ rsaSmallPrimes, 0 < p) p hp)
    simp only [List.any_eq_true, decide_eq_true_eq, not_forall, not_not]
    exact ⟨fun ⟨p, hp, h⟩ => ⟨p, hp, hmod p hp ▸ h⟩, fun ⟨p, hp, h⟩ => ⟨p, hp, (hmod p hp).trans h⟩⟩
  by_cases hdivides : (rsaSmallPrimes.any fun p => rsaModU32 n p = 0) = true
  · rw [if_pos hdivides]
    have hnot := hsmall.mp hdivides
    simp only [Bool.false_eq_true, false_iff]
    exact fun h => hnot h.2.2.1
  rw [if_neg hdivides]
  rw [hsmall, not_not] at hdivides
  obtain ⟨hmlen, hmval⟩ := @rsaSubSmall_spec n 1 (by omega)
  have hfuel : beNat (rsaSubSmall n 1) < 2 ^ (8 * n.length) := by
    have hlt := beNat_lt n
    rw [show 256 = 2 ^ 8 by rfl, ← pow_mul] at hlt
    omega
  obtain ⟨d, s, hsplit, hdlen, hdval, hdodd⟩ := rsaSplitTwos_spec (by omega) hfuel 0
  rw [hmval] at hdval
  have hs : 0 < s := by
    by_contra h0
    obtain rfl : s = 0 := by omega
    rw [pow_zero, Nat.one_mul] at hdval
    omega
  -- the squarings start at the first power of two
  have hround : ∀ b ∈ rsaBases,
      (rsaWitnessOk n (rsaSubSmall n 1) d s b = true ↔ StrongProbablePrime (beNat n) b) := by
    intro b hb
    have hb32 := (by decide : ∀ b ∈ rsaBases, b < 2 ^ 32) b hb
    rw [rsaWitnessOk_iff (by omega) hmax hmin hmlen hmval (hdlen.trans hmlen) hb32]
    constructor
    · rintro (h1 | hminus | ⟨i, hi, h⟩)
      · exact ⟨s, beNat d, hdval, hdodd, Or.inl h1⟩
      · exact ⟨s, beNat d, hdval, hdodd, Or.inr ⟨0, hs, by simpa using hminus⟩⟩
      · exact ⟨s, beNat d, hdval, hdodd, Or.inr ⟨i + 1, by omega, h⟩⟩
    · rintro ⟨t, e, hte, heodd, h⟩
      obtain ⟨rfl, rfl⟩ := two_pow_mul_odd_unique (hdval.symm.trans hte) hdodd heodd
      obtain h1 | ⟨i, hi, h⟩ := h
      · exact Or.inl h1
      · cases i with
        | zero => exact Or.inr (Or.inl (by simpa using h))
        | succ i => exact Or.inr (Or.inr ⟨i, by omega, h⟩)
  dsimp only
  rw [hsplit, Nat.zero_add, List.all_eq_true, forall₂_congr hround]
  exact ⟨fun h => ⟨by omega, by omega, hdivides, h⟩, fun h => h.2.2.2⟩

/-! ## A round at a prime -/

theorem eq_one_or_neg_one_of_pow {R : Type*} [CommRing R] [NoZeroDivisors R] {x : R} {s : Nat}
    (h : x ^ 2 ^ s = 1) : x = 1 ∨ ∃ i < s, x ^ 2 ^ i = -1 := by
  induction s with
  | zero => exact .inl (by simpa using h)
  | succ s ih =>
      rw [pow_succ, pow_mul] at h
      obtain h1 | hminus := sq_eq_one_iff.mp h
      · obtain hx | ⟨i, hi, hpow⟩ := ih h1
        · exact .inl hx
        · exact .inr ⟨i, Nat.lt_succ_of_lt hi, hpow⟩
      · exact .inr ⟨s, Nat.lt_succ_self s, hminus⟩

variable {q b e : Nat}

theorem pow_mod_eq_one_iff (hq : 1 < q) : b ^ e % q = 1 ↔ (b : ZMod q) ^ e = 1 := by
  have h := ZMod.natCast_eq_natCast_iff' (b ^ e) 1 q
  rw [Nat.mod_eq_of_lt hq, Nat.cast_pow, Nat.cast_one] at h
  exact h.symm

theorem pow_mod_eq_pred_iff (hq : 1 < q) : b ^ e % q = q - 1 ↔ (b : ZMod q) ^ e = -1 := by
  have h := ZMod.natCast_eq_natCast_iff' (b ^ e) (q - 1) q
  rw [Nat.mod_eq_of_lt (by omega : q - 1 < q), Nat.cast_pow, Nat.cast_pred (by omega),
    ZMod.natCast_self, zero_sub] at h
  exact h.symm

theorem strongProbablePrime_of_prime (hq : q.Prime) (hb : ¬ q ∣ b) :
    StrongProbablePrime q b := by
  have : Fact q.Prime := ⟨hq⟩
  obtain ⟨s, d, hd, hsplit⟩ := Nat.exists_eq_two_pow_mul_odd (n := q - 1) (by have := hq.two_le; omega)
  have hne : (b : ZMod q) ≠ 0 := mt (ZMod.natCast_eq_zero_iff b q).mp hb
  have hfermat : ((b : ZMod q) ^ d) ^ 2 ^ s = 1 := by
    rw [← pow_mul, Nat.mul_comm, ← hsplit]
    exact ZMod.pow_card_sub_one_eq_one hne
  refine ⟨s, d, hsplit, Nat.odd_iff.mp hd, ?_⟩
  obtain h1 | ⟨i, hi, hminus⟩ := eq_one_or_neg_one_of_pow hfermat
  · exact .inl ((pow_mod_eq_one_iff hq.one_lt).mpr h1)
  · refine .inr ⟨i, hi, (pow_mod_eq_pred_iff hq.one_lt).mpr ?_⟩
    rw [Nat.mul_comm, pow_mul, hminus]

/-! ## The test at a prime -/

/-- A prime of 512 bits is accepted. -/
theorem rsaProbablePrime512_of_prime {n : List UInt8} (hlen : n.length = 64) (hprime : (beNat n).Prime)
    (htop : 2 ^ 511 ≤ beNat n) : rsaProbablePrime512 n = true := by
  have hlarge : 65537 < beNat n :=
    lt_of_lt_of_le (by decide : 65537 < 2 ^ 17)
      (le_trans (Nat.pow_le_pow_right Nat.two_pos (by decide : 17 ≤ 511)) htop)
  have hodd : beNat n % 2 = 1 := hprime.eq_two_or_odd.resolve_left (by omega)
  rw [rsaProbablePrime512_iff (by rw [hlen]; decide) (by rw [hlen]; decide)]
  refine ⟨hodd, by omega, fun p hp hmod => ?_, fun b hb => ?_⟩
  · -- a divisor in the table is the prime itself, which is larger
    have hsize := (by decide +kernel : ∀ p ∈ rsaSmallPrimes, 1 < p ∧ p < 65537) p hp
    have heq := (Nat.dvd_prime hprime).mp (Nat.dvd_of_mod_eq_zero hmod)
    omega
  · have hsize := (by decide : ∀ b ∈ rsaBases, 0 < b ∧ b ≤ 65537) b hb
    refine strongProbablePrime_of_prime hprime fun hdvd => ?_
    have hle := Nat.le_of_dvd hsize.1 hdvd
    omega

/-- A prime of 512 bits. -/
def samplePrime : Nat := 66629 * 2 ^ 495 + 1

private theorem samplePrime_prime : samplePrime.Prime :=
  prime_of_powMod (c := 66629) (k := 512) (by norm_num) 3 (by decide) (by decide +kernel)
    (by decide +kernel) (by decide +kernel) (by decide +kernel)

private theorem beNat_samplePrime : beNat (beBytes 64 samplePrime) = samplePrime :=
  beNat_beBytes (by decide +kernel)

/-- It is accepted. -/
theorem rsaProbablePrime512_samplePrime : rsaProbablePrime512 (beBytes 64 samplePrime) = true :=
  rsaProbablePrime512_of_prime (by rw [length_beBytes])
    (by rw [beNat_samplePrime]; exact samplePrime_prime)
    (by rw [beNat_samplePrime]; decide +kernel)

end Orizon
