import Orizon.Lib.BlockHash
import Orizon.Sha1
import Orizon.Words

/-!
# Orizon.HashStandard

SHA-256 and SHA-1 as FIPS 180-4 states them, and that the streaming functions
compute them, whatever the pieces are.

The standard defines both for messages of less than `2 ^ 64` bits; beyond that
the length is taken modulo `2 ^ 64`, as the code does.

HMAC with either of them as RFC 2104 states it is what `hmac_sha256`,
`tls_hmac_sha256_vector` and `hmac_sha1` compute.
-/

namespace Orizon

/-! ## The standard -/

/-- Word `t` of a block. -/
def fipsWord (block : List UInt8) (t : Nat) : UInt32 := UInt32.ofNat (beNat ((block.drop (4 * t)).take 4))

/-- `ROTR^n`, 3.2. -/
def fipsRotr (n : Nat) (x : UInt32) : UInt32 := ⟨x.toBitVec.rotateRight n⟩

/-- `ROTL^n`. -/
def fipsRotl (n : Nat) (x : UInt32) : UInt32 := ⟨x.toBitVec.rotateLeft n⟩

/-- `Ch`, 4.1. -/
def fipsCh (x y z : UInt32) : UInt32 := (x &&& y) ^^^ (~~~x &&& z)

/-- `Parity`. -/
def fipsParity (x y z : UInt32) : UInt32 := x ^^^ y ^^^ z

/-- `Maj`. -/
def fipsMaj (x y z : UInt32) : UInt32 := (x &&& y) ^^^ (x &&& z) ^^^ (y &&& z)

/-- `Σ₀`. -/
def fipsBigSigma0 (x : UInt32) : UInt32 := fipsRotr 2 x ^^^ fipsRotr 13 x ^^^ fipsRotr 22 x

/-- `Σ₁`. -/
def fipsBigSigma1 (x : UInt32) : UInt32 := fipsRotr 6 x ^^^ fipsRotr 11 x ^^^ fipsRotr 25 x

/-- `σ₀`. -/
def fipsSmallSigma0 (x : UInt32) : UInt32 := fipsRotr 7 x ^^^ fipsRotr 18 x ^^^ (x >>> 3)

/-- `σ₁`. -/
def fipsSmallSigma1 (x : UInt32) : UInt32 := fipsRotr 17 x ^^^ fipsRotr 19 x ^^^ (x >>> 10)

/-- `W_t` of SHA-256, 6.2.2. -/
def fipsSha256W (block : List UInt8) (t : Nat) : UInt32 :=
  if t < 16 then fipsWord block t
  else fipsSmallSigma1 (fipsSha256W block (t - 2)) + fipsSha256W block (t - 7) +
    fipsSmallSigma0 (fipsSha256W block (t - 15)) + fipsSha256W block (t - 16)

/-- One step of SHA-256. -/
def fipsSha256Step (s : Sha256State) (k w : UInt32) : Sha256State :=
  let t1 := s.h + fipsBigSigma1 s.e + fipsCh s.e s.f s.g + k + w
  let t2 := fipsBigSigma0 s.a + fipsMaj s.a s.b s.c
  ⟨t1 + t2, s.a, s.b, s.c, s.d + t1, s.e, s.f, s.g⟩

/-- One block of SHA-256. -/
def fipsSha256Compress (s : Sha256State) (block : List UInt8) : Sha256State :=
  let w := (List.range 64).foldl (fun s t => fipsSha256Step s (sha256K.getD t 0) (fipsSha256W block t)) s
  ⟨w.a + s.a, w.b + s.b, w.c + s.c, w.d + s.d, w.e + s.e, w.f + s.f, w.g + s.g, w.h + s.h⟩

/-- `SHA-256` of a message. -/
def fipsSha256 (m : List UInt8) : List UInt8 :=
  let s := blockHash fipsSha256Compress sha256Init.state m
  [s.a, s.b, s.c, s.d, s.e, s.f, s.g, s.h].flatMap fun w : UInt32 => beBytes 4 w.toNat

/-- `W_t` of SHA-1, 6.1.2. -/
def fipsSha1W (block : List UInt8) (t : Nat) : UInt32 :=
  if t < 16 then fipsWord block t
  else fipsRotl 1 (fipsSha1W block (t - 3) ^^^ fipsSha1W block (t - 8) ^^^ fipsSha1W block (t - 14) ^^^
    fipsSha1W block (t - 16))

/-- `f_t`, 4.1.1. -/
def fipsSha1F (t : Nat) (x y z : UInt32) : UInt32 :=
  if t ≤ 19 then fipsCh x y z
  else if t ≤ 39 then fipsParity x y z
  else if t ≤ 59 then fipsMaj x y z
  else fipsParity x y z

/-- `K_t`, 4.2.1. -/
def fipsSha1K (t : Nat) : UInt32 :=
  if t ≤ 19 then 0x5a827999 else if t ≤ 39 then 0x6ed9eba1 else if t ≤ 59 then 0x8f1bbcdc else 0xca62c1d6

/-- One step of SHA-1. -/
def fipsSha1Step (s : Sha1State) (t : Nat) (w : UInt32) : Sha1State :=
  ⟨fipsRotl 5 s.a + fipsSha1F t s.b s.c s.d + s.e + fipsSha1K t + w, s.a, fipsRotl 30 s.b, s.c, s.d⟩

/-- One block of SHA-1. -/
def fipsSha1Compress (s : Sha1State) (block : List UInt8) : Sha1State :=
  let w := (List.range 80).foldl (fun s t => fipsSha1Step s t (fipsSha1W block t)) s
  ⟨w.a + s.a, w.b + s.b, w.c + s.c, w.d + s.d, w.e + s.e⟩

/-- `SHA-1` of a message. -/
def fipsSha1 (m : List UInt8) : List UInt8 :=
  let s := blockHash fipsSha1Compress sha1Init.state m
  [s.a, s.b, s.c, s.d, s.e].flatMap fun w : UInt32 => beBytes 4 w.toNat

/-! ## The constants -/

/-! ## The words of a block -/

theorem rotr_eq : ∀ n ∈ [2, 6, 7, 11, 13, 17, 18, 19, 22, 25], ∀ x, rotr x (UInt32.ofNat n) = fipsRotr n x := by
  simp only [List.forall_mem_cons]
  refine ⟨?_, ?_, ?_, ?_, ?_, ?_, ?_, ?_, ?_, ?_, by simp⟩ <;> exact fun _ => rfl

theorem sha1Rol_eq : ∀ n ∈ [1, 5, 30], ∀ x, sha1Rol x (UInt32.ofNat n) = fipsRotl n x := by
  simp only [List.forall_mem_cons]
  refine ⟨?_, ?_, ?_, by simp⟩ <;> exact fun _ => rfl

/-- The code's `Ch` of SHA-1: no bit is in both halves. -/
theorem or_eq_fipsCh (x y z : UInt32) : (x &&& y) ||| (~~~x &&& z) = fipsCh x y z := by
  rw [fipsCh, ← UInt32.toBitVec_inj]
  ext i hi
  simp only [UInt32.toBitVec_or, UInt32.toBitVec_xor, UInt32.toBitVec_and, UInt32.toBitVec_not,
    BitVec.getElem_or, BitVec.getElem_xor, BitVec.getElem_and, BitVec.getElem_not]
  cases x.toBitVec[i] <;> simp

/-- Its `Maj`. -/
theorem or_eq_fipsMaj (x y z : UInt32) : (x &&& y) ||| (x &&& z) ||| (y &&& z) = fipsMaj x y z := by
  rw [fipsMaj, ← UInt32.toBitVec_inj]
  ext i hi
  simp only [UInt32.toBitVec_or, UInt32.toBitVec_xor, UInt32.toBitVec_and, BitVec.getElem_or, BitVec.getElem_xor,
    BitVec.getElem_and]
  cases x.toBitVec[i] <;> cases y.toBitVec[i] <;> simp

/-! ## The schedules -/

/-- A schedule that grows by one word in each round is the list of its words. -/
theorem foldl_schedule {word : List UInt32 → UInt32} {w : Nat → UInt32} (k n : Nat)
    (h : ∀ i, k ≤ i → word ((List.range i).map w) = w i) :
    (List.range n).foldl (fun m _ => m ++ [word m]) ((List.range k).map w) = (List.range (k + n)).map w := by
  induction n with
  | zero => rfl
  | succ n ih =>
      rw [List.range_succ, List.foldl_append, ih, List.foldl_cons, List.foldl_nil, h _ (Nat.le_add_right ..),
        ← Nat.add_assoc, List.range_succ, List.map_append, List.map_singleton]

theorem getD_map_range {w : Nat → UInt32} {i n : Nat} (h : i < n) : ((List.range n).map w).getD i 0 = w i := by
  rw [List.getD_eq_getElem _ _ (by simpa using h)]
  simp

theorem map_readBe32 {block : List UInt8} {w : Nat → UInt32} (h : block.length = 64)
    (hw : ∀ t < 16, w t = fipsWord block t) :
    ((List.range 16).map fun i => readBe32 block (i * 4)) = (List.range 16).map w := by
  refine List.map_congr_left fun t ht => ?_
  have ht : t < 16 := by simpa using ht
  rw [hw t ht, fipsWord, readBe32_eq (by omega), Nat.mul_comm]

theorem sha256Schedule_eq {block : List UInt8} (h : block.length = 64) :
    sha256Schedule block = (List.range 64).map (fipsSha256W block) := by
  rw [sha256Schedule, map_readBe32 (w := fipsSha256W block) h fun t ht => by rw [fipsSha256W, if_pos ht]]
  refine foldl_schedule 16 48 fun i hi => ?_
  have h7 := rotr_eq 7 (by decide)
  have h18 := rotr_eq 18 (by decide)
  have h17 := rotr_eq 17 (by decide)
  have h19 := rotr_eq 19 (by decide)
  rw [fipsSha256W, if_neg (by omega), sha256ScheduleWord, List.length_map, List.length_range]
  simp only [getD_map_range (show i - 15 < i by omega), getD_map_range (show i - 2 < i by omega),
    getD_map_range (show i - 16 < i by omega), getD_map_range (show i - 7 < i by omega), fipsSmallSigma0,
    fipsSmallSigma1, ← h7, ← h18, ← h17, ← h19]
  ac_rfl

theorem sha1Schedule_eq {block : List UInt8} (h : block.length = 64) :
    sha1Schedule block = (List.range 80).map (fipsSha1W block) := by
  rw [sha1Schedule, map_readBe32 (w := fipsSha1W block) h fun t ht => by rw [fipsSha1W, if_pos ht]]
  refine foldl_schedule 16 64 fun i hi => ?_
  have h1 := sha1Rol_eq 1 (by decide)
  rw [fipsSha1W, if_neg (by omega), sha1ScheduleWord, List.length_map, List.length_range, ← h1]
  simp only [getD_map_range (show i - 3 < i by omega), getD_map_range (show i - 8 < i by omega),
    getD_map_range (show i - 14 < i by omega), getD_map_range (show i - 16 < i by omega)]
  rfl

/-! ## Compression -/

theorem sha256Round_eq (s : Sha256State) (k w : UInt32) : sha256Round s (k, w) = fipsSha256Step s k w := by
  simp only [sha256Round, fipsSha256Step, fipsBigSigma0, fipsBigSigma1, fipsCh, fipsMaj,
    ← rotr_eq 2 (by decide), ← rotr_eq 13 (by decide), ← rotr_eq 22 (by decide), ← rotr_eq 6 (by decide),
    ← rotr_eq 11 (by decide), ← rotr_eq 25 (by decide)]
  rfl

theorem sha256Transform_eq (s : Sha256State) {block : List UInt8} (h : block.length = 64) :
    sha256Transform s block = fipsSha256Compress s block := by
  have hk : sha256K = (List.range 64).map fun t => sha256K.getD t 0 := by decide
  have hfold : (sha256K.zip (sha256Schedule block)).foldl sha256Round s =
      (List.range 64).foldl (fun s t => fipsSha256Step s (sha256K.getD t 0) (fipsSha256W block t)) s := by
    rw [sha256Schedule_eq h, hk, List.zip_map', List.foldl_map]
    simp only [sha256Round_eq, ← hk]
  simp only [sha256Transform, fipsSha256Compress, hfold, UInt32.add_comm]

theorem sha1Round_eq (s : Sha1State) (t : Nat) (w : UInt32) : sha1Round s (t, w) = fipsSha1Step s t w := by
  have h5 := sha1Rol_eq 5 (by decide)
  have h30 := sha1Rol_eq 30 (by decide)
  simp only [sha1Round, fipsSha1Step, fipsSha1F, fipsSha1K, or_eq_fipsCh, or_eq_fipsMaj, fipsParity, ← h5, ← h30]
  by_cases h20 : t < 20
  · simp [h20, show t ≤ 19 by omega]
  · by_cases h40 : t < 40
    · simp [h20, h40, show ¬ t ≤ 19 by omega, show t ≤ 39 by omega]
    · by_cases h60 : t < 60
      · simp [h20, h40, h60, show ¬ t ≤ 19 by omega, show ¬ t ≤ 39 by omega, show t ≤ 59 by omega]
      · simp [h20, h40, h60, show ¬ t ≤ 19 by omega, show ¬ t ≤ 39 by omega, show ¬ t ≤ 59 by omega]

theorem sha1Transform_eq (s : Sha1State) {block : List UInt8} (h : block.length = 64) :
    sha1Transform s block = fipsSha1Compress s block := by
  have hzip : (List.range 80).zip ((List.range 80).map (fipsSha1W block)) =
      (List.range 80).map fun t => (t, fipsSha1W block t) := by
    simpa using List.zip_map' (f := id) (g := fipsSha1W block) (l := List.range 80)
  have hfold : ((List.range 80).zip (sha1Schedule block)).foldl sha1Round s =
      (List.range 80).foldl (fun s t => fipsSha1Step s t (fipsSha1W block t)) s := by
    rw [sha1Schedule_eq h, hzip, List.foldl_map]
    simp only [sha1Round_eq]
  simp only [sha1Transform, fipsSha1Compress, hfold, UInt32.add_comm]

/-! ## Streams -/

/-- A context of SHA-256 as one of any hash function. -/
def Sha256Ctx.block (ctx : Sha256Ctx) : BlockCtx Sha256State := ⟨ctx.state, ctx.bitLen, ctx.data⟩

/-- A context of SHA-1. -/
def Sha1Ctx.block (ctx : Sha1Ctx) : BlockCtx Sha1State := ⟨ctx.state, ctx.bitLen, ctx.data⟩

theorem block_sha256UpdateLoop (fuel : Nat) (ctx : Sha256Ctx) (p : List UInt8) :
    (sha256UpdateLoop fuel ctx p).block = ctx.block.updateLoop sha256Transform fuel p := by
  induction fuel generalizing ctx p with
  | zero => rfl
  | succ fuel ih =>
      rw [sha256UpdateLoop, BlockCtx.updateLoop]
      split
      · rfl
      · dsimp only
        rw [ih, BlockCtx.put]
        congr 1
        split <;> simp_all [Sha256Ctx.block]

theorem block_sha1UpdateLoop (fuel : Nat) (ctx : Sha1Ctx) (p : List UInt8) :
    (sha1UpdateLoop fuel ctx p).block = ctx.block.updateLoop sha1Transform fuel p := by
  induction fuel generalizing ctx p with
  | zero => rfl
  | succ fuel ih =>
      rw [sha1UpdateLoop, BlockCtx.updateLoop]
      split
      · rfl
      · dsimp only
        rw [ih, BlockCtx.put]
        congr 1
        split <;> simp_all [Sha1Ctx.block]

theorem absorbed_sha256Update {ctx : Sha256Ctx} {m : List UInt8} (p : List UInt8)
    (h : Absorbed sha256Transform sha256Init.state m ctx.block) :
    Absorbed sha256Transform sha256Init.state (m ++ p) (sha256Update ctx p).block := by
  rw [sha256Update, block_sha256UpdateLoop]
  exact h.updateLoop le_rfl

theorem absorbed_sha1Update {ctx : Sha1Ctx} {m : List UInt8} (p : List UInt8)
    (h : Absorbed sha1Transform sha1Init.state m ctx.block) :
    Absorbed sha1Transform sha1Init.state (m ++ p) (sha1Update ctx p).block := by
  rw [sha1Update, block_sha1UpdateLoop]
  exact h.updateLoop le_rfl

theorem absorbed_sha256 (pieces : List (List UInt8)) :
    Absorbed sha256Transform sha256Init.state pieces.flatten (pieces.foldl sha256Update sha256Init).block := by
  induction pieces using List.reverseRecOn with
  | nil => exact .nil
  | append_singleton pieces p ih => simpa using absorbed_sha256Update p ih

theorem absorbed_sha1 (pieces : List (List UInt8)) :
    Absorbed sha1Transform sha1Init.state pieces.flatten (pieces.foldl sha1Update sha1Init).block := by
  induction pieces using List.reverseRecOn with
  | nil => exact .nil
  | append_singleton pieces p ih => simpa using absorbed_sha1Update p ih

theorem sha256Final_eq {ctx : Sha256Ctx} {m : List UInt8}
    (h : Absorbed sha256Transform sha256Init.state m ctx.block) : (sha256Final ctx).toList = fipsSha256 m := by
  have hstate : sha256FinalState ctx = blockHash fipsSha256Compress sha256Init.state m := by
    rw [← blockHash_congr _ _ fun s b hb => sha256Transform_eq s hb, ← h.finish_eq writeBe64_lengthBits]
    rfl
  simp [sha256Final, hstate, fipsSha256, writeBe32_eq]

theorem sha1Final_eq {ctx : Sha1Ctx} {m : List UInt8} (h : Absorbed sha1Transform sha1Init.state m ctx.block) :
    sha1Final ctx = fipsSha1 m := by
  have hstate : ctx.block.finish sha1Transform writeBe64 = blockHash fipsSha1Compress sha1Init.state m := by
    rw [← blockHash_congr _ _ fun s b hb => sha1Transform_eq s hb, ← h.finish_eq writeBe64_lengthBits]
  have hfinal : sha1Final ctx = (let s := ctx.block.finish sha1Transform writeBe64
      writeBe32 s.a ++ writeBe32 s.b ++ writeBe32 s.c ++ writeBe32 s.d ++ writeBe32 s.e) := rfl
  simp [hfinal, hstate, fipsSha1, writeBe32_eq]

/-- The digests of a stream are those of the standard, wherever the stream is cut. -/
theorem hash_stream (pieces : List (List UInt8)) :
    (sha256Final (pieces.foldl sha256Update sha256Init)).toList = fipsSha256 pieces.flatten ∧
      sha1Final (pieces.foldl sha1Update sha1Init) = fipsSha1 pieces.flatten :=
  ⟨sha256Final_eq (absorbed_sha256 pieces), sha1Final_eq (absorbed_sha1 pieces)⟩

/-! ## HMAC -/

@[simp] theorem length_fipsSha256 (m : List UInt8) : (fipsSha256 m).length = 32 := by
  simp [fipsSha256]

@[simp] theorem length_fipsSha1 (m : List UInt8) : (fipsSha1 m).length = 20 := by
  simp [fipsSha1]

theorem sha256Final_stream (pieces : List (List UInt8)) :
    (sha256Final (pieces.foldl sha256Update sha256Init)).toList = fipsSha256 pieces.flatten :=
  sha256Final_eq (absorbed_sha256 pieces)

theorem sha1Final_stream (pieces : List (List UInt8)) :
    sha1Final (pieces.foldl sha1Update sha1Init) = fipsSha1 pieces.flatten :=
  sha1Final_eq (absorbed_sha1 pieces)

theorem sha256Buffer_eq (m : List UInt8) : (sha256Buffer m).toList = fipsSha256 m := by
  simpa [sha256Buffer] using sha256Final_stream [m]

theorem hmacKeyBlock_eq (key : List UInt8) : hmacKeyBlock key = standardHmacKey fipsSha256 key := by
  simp only [hmacKeyBlock, standardHmacKey, sha256Buffer_eq, gt_iff_lt]

theorem hmac_sha256_stream (key : List UInt8) (parts : List (List UInt8)) :
    (sha256Final (sha256Update (sha256Update sha256Init ((hmacKeyBlock key).map (· ^^^ 0x5c)))
      (sha256Final (parts.foldl sha256Update
        (sha256Update sha256Init ((hmacKeyBlock key).map (· ^^^ 0x36))))).toList)).toList =
      standardHmac fipsSha256 key parts.flatten := by
  have hinner := sha256Final_stream ((hmacKeyBlock key).map (· ^^^ 0x36) :: parts)
  have houter := fun digest => sha256Final_stream [(hmacKeyBlock key).map (· ^^^ 0x5c), digest]
  simp only [List.foldl_cons, List.foldl_nil, List.flatten_cons, List.flatten_nil, List.append_nil] at hinner houter
  rw [houter, hinner, hmacKeyBlock_eq, standardHmac]

theorem hmacSha256_eq (key data : List UInt8) : (hmacSha256 key data).toList = standardHmac fipsSha256 key data := by
  simpa [hmacSha256] using hmac_sha256_stream key [data]

theorem hmacSha1_eq (key data : List UInt8) : hmacSha1 key data = standardHmac fipsSha1 key data := by
  have hkey : ∀ m, sha1Final (sha1Update sha1Init m) = fipsSha1 m := fun m => by simpa using sha1Final_stream [m]
  have hpieces : ∀ a b, sha1Final (sha1Update (sha1Update sha1Init a) b) = fipsSha1 (a ++ b) := fun a b => by
    simpa using sha1Final_stream [a, b]
  simp only [hmacSha1, hpieces, hkey, standardHmac, standardHmacKey, gt_iff_lt]

end Orizon
