import Mathlib.Data.List.Basic

/-!
# Orizon.Sha256

The hash of `lib/sha256.c`: the compression function, the streaming context
with its 64-byte buffer, and the ways the kernel calls it: over a buffer, as
hexadecimal text, and keyed (`hmac_sha256`).

The buffer `data[64]` is the list of the `data_len` bytes in it: no function
reads the bytes after them.  All words are `uint32_t` and wrap as in C.
-/

namespace Orizon

/-- The bytes of a string literal. -/
def asciiBytes (s : String) : List UInt8 := s.toList.map fun c => UInt8.ofNat c.toNat

-- a test of all bytes of a buffer goes through the buffer, not through all bytes there are
instance (priority := 1100) decidableForallBytes {p : UInt8 → Prop} [DecidablePred p] (l : List UInt8) :
    Decidable (∀ c ∈ l, p c) := List.decidableBAll p l

/-- `SHA256_DIGEST_SIZE` bytes. -/
abbrev Sha256Digest := Vector UInt8 32

/-! ## Words -/

/-- `rotr`. -/
def rotr (x n : UInt32) : UInt32 := (x >>> n) ||| (x <<< (32 - n))

/-- `read_be32` of the four bytes from `off`. -/
def readBe32 (p : List UInt8) (off : Nat) : UInt32 :=
  ((p.getD off 0).toUInt32 <<< 24) ||| ((p.getD (off + 1) 0).toUInt32 <<< 16) |||
    ((p.getD (off + 2) 0).toUInt32 <<< 8) ||| (p.getD (off + 3) 0).toUInt32

/-- `write_be32`. -/
def writeBe32 (v : UInt32) : List UInt8 :=
  [(v >>> 24).toUInt8, ((v >>> 16) &&& 0xff).toUInt8, ((v >>> 8) &&& 0xff).toUInt8,
    (v &&& 0xff).toUInt8]

/-- `write_be64`. -/
def writeBe64 (v : UInt64) : List UInt8 :=
  (List.range 8).reverse.map fun i => (v >>> UInt64.ofNat (i * 8)).toUInt8

/-! ## Compression -/

/-- The round constants `k[64]`. -/
def sha256K : List UInt32 :=
  [0x428a2f98, 0x71374491, 0xb5c0fbcf, 0xe9b5dba5, 0x3956c25b, 0x59f111f1, 0x923f82a4, 0xab1c5ed5,
    0xd807aa98, 0x12835b01, 0x243185be, 0x550c7dc3, 0x72be5d74, 0x80deb1fe, 0x9bdc06a7, 0xc19bf174,
    0xe49b69c1, 0xefbe4786, 0x0fc19dc6, 0x240ca1cc, 0x2de92c6f, 0x4a7484aa, 0x5cb0a9dc, 0x76f988da,
    0x983e5152, 0xa831c66d, 0xb00327c8, 0xbf597fc7, 0xc6e00bf3, 0xd5a79147, 0x06ca6351, 0x14292967,
    0x27b70a85, 0x2e1b2138, 0x4d2c6dfc, 0x53380d13, 0x650a7354, 0x766a0abb, 0x81c2c92e, 0x92722c85,
    0xa2bfe8a1, 0xa81a664b, 0xc24b8b70, 0xc76c51a3, 0xd192e819, 0xd6990624, 0xf40e3585, 0x106aa070,
    0x19a4c116, 0x1e376c08, 0x2748774c, 0x34b0bcb5, 0x391c0cb3, 0x4ed8aa4a, 0x5b9cca4f, 0x682e6ff3,
    0x748f82ee, 0x78a5636f, 0x84c87814, 0x8cc70208, 0x90befffa, 0xa4506ceb, 0xbef9a3f7, 0xc67178f2]

/-- The chaining state `state[8]`, also the working variables `a` to `h`. -/
structure Sha256State where
  a : UInt32
  b : UInt32
  c : UInt32
  d : UInt32
  e : UInt32
  f : UInt32
  g : UInt32
  h : UInt32
deriving DecidableEq, Repr

/-- One word of the message schedule, `m[i]` for `i = m.length`. -/
def sha256ScheduleWord (m : List UInt32) : UInt32 :=
  let i := m.length
  let m15 := m.getD (i - 15) 0
  let m2 := m.getD (i - 2) 0
  let s0 := rotr m15 7 ^^^ rotr m15 18 ^^^ (m15 >>> 3)
  let s1 := rotr m2 17 ^^^ rotr m2 19 ^^^ (m2 >>> 10)
  m.getD (i - 16) 0 + s0 + m.getD (i - 7) 0 + s1

/-- The message schedule `m[64]` of a block. -/
def sha256Schedule (data : List UInt8) : List UInt32 :=
  (List.range 48).foldl (fun m _ => m ++ [sha256ScheduleWord m])
    ((List.range 16).map fun i => readBe32 data (i * 4))

/-- One round, with its constant and schedule word. -/
def sha256Round (s : Sha256State) (km : UInt32 × UInt32) : Sha256State :=
  let s1 := rotr s.e 6 ^^^ rotr s.e 11 ^^^ rotr s.e 25
  let ch := (s.e &&& s.f) ^^^ (~~~ s.e &&& s.g)
  let temp1 := s.h + s1 + ch + km.1 + km.2
  let s0 := rotr s.a 2 ^^^ rotr s.a 13 ^^^ rotr s.a 22
  let maj := (s.a &&& s.b) ^^^ (s.a &&& s.c) ^^^ (s.b &&& s.c)
  let temp2 := s0 + maj
  ⟨temp1 + temp2, s.a, s.b, s.c, s.d + temp1, s.e, s.f, s.g⟩

/-- `sha256_transform` of the block `data`. -/
def sha256Transform (s : Sha256State) (data : List UInt8) : Sha256State :=
  let w := (sha256K.zip (sha256Schedule data)).foldl sha256Round s
  ⟨s.a + w.a, s.b + w.b, s.c + w.c, s.d + w.d, s.e + w.e, s.f + w.f, s.g + w.g, s.h + w.h⟩

/-! ## Streaming -/

/-- `sha256_ctx_t`. -/
structure Sha256Ctx where
  state : Sha256State
  bitLen : UInt64
  data : List UInt8
deriving DecidableEq, Repr

/-- `sha256_init`. -/
def sha256Init : Sha256Ctx where
  state := ⟨0x6a09e667, 0xbb67ae85, 0x3c6ef372, 0xa54ff53a,
    0x510e527f, 0x9b05688c, 0x1f83d9ab, 0x5be0cd19⟩
  bitLen := 0
  data := []

/-- The loop of `sha256_update`: fill the buffer, hash it when it is full.  Every
round takes a byte, so `fuel` rounds are enough for `fuel` bytes. -/
def sha256UpdateLoop : Nat → Sha256Ctx → List UInt8 → Sha256Ctx
  | 0, ctx, _ => ctx
  | fuel + 1, ctx, p =>
      if p.length = 0 then ctx
      else
        let space := 64 - ctx.data.length
        let take := min p.length space
        let data := ctx.data ++ p.take take
        let ctx :=
          if data.length = 64 then
            { state := sha256Transform ctx.state data, bitLen := ctx.bitLen + 512, data := [] }
          else { ctx with data := data }
        sha256UpdateLoop fuel ctx (p.drop take)

/-- `sha256_update`. -/
def sha256Update (ctx : Sha256Ctx) (p : List UInt8) : Sha256Ctx := sha256UpdateLoop p.length ctx p

/-- The last block of `sha256_final`: the buffer filled with zeros to 56 bytes, and
the length in bits. -/
def sha256FinalState (ctx : Sha256Ctx) : Sha256State :=
  let totalBits := ctx.bitLen + UInt64.ofNat (ctx.data.length * 8)
  let data := ctx.data ++ [0x80]
  let full := data.length > 56
  let state :=
    if full then sha256Transform ctx.state (data ++ List.replicate (64 - data.length) 0)
    else ctx.state
  let data := if full then [] else data
  sha256Transform state (data ++ List.replicate (56 - data.length) 0 ++ writeBe64 totalBits)

/-- `sha256_final`. -/
def sha256Final (ctx : Sha256Ctx) : Sha256Digest :=
  let s := sha256FinalState ctx
  ⟨(writeBe32 s.a ++ writeBe32 s.b ++ writeBe32 s.c ++ writeBe32 s.d ++ writeBe32 s.e ++
    writeBe32 s.f ++ writeBe32 s.g ++ writeBe32 s.h).toArray, rfl⟩

/-- `sha256_buffer`. -/
def sha256Buffer (data : List UInt8) : Sha256Digest := sha256Final (sha256Update sha256Init data)

/-- The characters `hex[16]`. -/
def hexDigits : List UInt8 := asciiBytes "0123456789abcdef"

/-- `sha256_hex`: the characters before the terminator. -/
def sha256Hex (digest : Sha256Digest) : List UInt8 :=
  digest.toList.flatMap fun b : UInt8 =>
    [hexDigits.getD (b >>> 4).toNat 0, hexDigits.getD (b &&& 0x0f).toNat 0]

/-- `sha256_buffer_hex`. -/
def sha256BufferHex (data : List UInt8) : List UInt8 := sha256Hex (sha256Buffer data)

/-- The key of `hmac_sha256` as a block of 64 bytes. -/
def hmacKeyBlock (key : List UInt8) : List UInt8 :=
  let key := if key.length > 64 then (sha256Buffer key).toList else key
  key ++ List.replicate (64 - key.length) 0

/-- `hmac_sha256`. -/
def hmacSha256 (key data : List UInt8) : Sha256Digest :=
  let innerPad := (hmacKeyBlock key).map (· ^^^ 0x36)
  let outerPad := (hmacKeyBlock key).map (· ^^^ 0x5c)
  let innerDigest := sha256Final (sha256Update (sha256Update sha256Init innerPad) data)
  sha256Final (sha256Update (sha256Update sha256Init outerPad) innerDigest.toList)

/-! ## Whole blocks -/

/-- Whole blocks of a text, from the start on. -/
def sha256Blocks : Nat → Sha256State → List UInt8 → Sha256State
  | 0, state, _ => state
  | n + 1, state, p => sha256Blocks n (sha256Transform state (p.take 64)) (p.drop 64)

theorem sha256Blocks_add (m n : Nat) (state : Sha256State) (p : List UInt8) :
    sha256Blocks (m + n) state p = sha256Blocks n (sha256Blocks m state p) (p.drop (64 * m)) := by
  induction m generalizing state p with
  | zero => simp [sha256Blocks]
  | succ m ih =>
      rw [Nat.succ_add, sha256Blocks, ih, sha256Blocks, List.drop_drop]
      congr 2
      omega

theorem sha256UpdateLoop_blocks {n fuel : Nat} (state : Sha256State) (bits : UInt64) {p : List UInt8}
    (h : 64 * n ≤ p.length) : sha256UpdateLoop (n + fuel) ⟨state, bits, []⟩ p =
      sha256UpdateLoop fuel ⟨sha256Blocks n state p, bits + 512 * UInt64.ofNat n, []⟩ (p.drop (64 * n)) := by
  induction n generalizing state bits p with
  | zero => simp [sha256Blocks]
  | succ n ih =>
      have hround : sha256UpdateLoop (n + fuel + 1) ⟨state, bits, []⟩ p =
          sha256UpdateLoop (n + fuel) ⟨sha256Transform state (p.take 64), bits + 512, []⟩ (p.drop 64) := by
        have htake : min p.length (64 - 0) = 64 := by omega
        have hlen : (p.take 64).length = 64 := by
          rw [List.length_take]
          omega
        rw [sha256UpdateLoop, if_neg (by omega), List.length_nil]
        simp only [htake, List.nil_append, if_pos hlen]
      rw [show n + 1 + fuel = n + fuel + 1 by omega, hround, ih _ _ (by rw [List.length_drop]; omega), sha256Blocks,
        List.drop_drop, UInt64.ofNat_add, UInt64.mul_add, UInt64.add_assoc, UInt64.add_comm 512]
      congr 2
      omega

end Orizon
