import Orizon.Sha256

/-!
# Orizon.Sha1

SHA-1 and HMAC-SHA1 of `lib/sha1.c`, as the WPA2 handshake uses them.
-/

namespace Orizon

/-- `sha1_rol`. -/
def sha1Rol (value bits : UInt32) : UInt32 := (value <<< bits) ||| (value >>> (32 - bits))

/-- The chaining state `state[5]`, also the working variables `a` to `e`. -/
structure Sha1State where
  a : UInt32
  b : UInt32
  c : UInt32
  d : UInt32
  e : UInt32

/-- One word of the message schedule, `w[i]` for `i = w.length`. -/
def sha1ScheduleWord (w : List UInt32) : UInt32 :=
  let i := w.length
  sha1Rol (w.getD (i - 3) 0 ^^^ w.getD (i - 8) 0 ^^^ w.getD (i - 14) 0 ^^^ w.getD (i - 16) 0) 1

/-- The message schedule `w[80]` of a block. -/
def sha1Schedule (block : List UInt8) : List UInt32 :=
  (List.range 64).foldl (fun w _ => w ++ [sha1ScheduleWord w])
    ((List.range 16).map fun i => readBe32 block (i * 4))

/-- Round `i`, with its schedule word. -/
def sha1Round (s : Sha1State) (iw : Nat × UInt32) : Sha1State :=
  let parity := s.b ^^^ s.c ^^^ s.d
  let (f, k) : UInt32 × UInt32 :=
    if iw.1 < 20 then ((s.b &&& s.c) ||| (~~~ s.b &&& s.d), 0x5a827999)
    else if iw.1 < 40 then (parity, 0x6ed9eba1)
    else if iw.1 < 60 then ((s.b &&& s.c) ||| (s.b &&& s.d) ||| (s.c &&& s.d), 0x8f1bbcdc)
    else (parity, 0xca62c1d6)
  ⟨sha1Rol s.a 5 + f + s.e + k + iw.2, s.a, sha1Rol s.b 30, s.c, s.d⟩

/-- `sha1_transform` of the block. -/
def sha1Transform (s : Sha1State) (block : List UInt8) : Sha1State :=
  let w := ((List.range 80).zip (sha1Schedule block)).foldl sha1Round s
  ⟨s.a + w.a, s.b + w.b, s.c + w.c, s.d + w.d, s.e + w.e⟩

/-- `sha1_ctx_t`. -/
structure Sha1Ctx where
  state : Sha1State
  bitLen : UInt64
  data : List UInt8

/-- `sha1_init`. -/
def sha1Init : Sha1Ctx where
  state := ⟨0x67452301, 0xefcdab89, 0x98badcfe, 0x10325476, 0xc3d2e1f0⟩
  bitLen := 0
  data := []

/-- The loop of `sha1_update`; every round takes a byte, so `fuel` rounds are enough for
`fuel` bytes. -/
def sha1UpdateLoop : Nat → Sha1Ctx → List UInt8 → Sha1Ctx
  | 0, ctx, _ => ctx
  | fuel + 1, ctx, p =>
      if p.length = 0 then ctx
      else
        let take := min p.length (64 - ctx.data.length)
        let data := ctx.data ++ p.take take
        let ctx :=
          if data.length = 64 then
            { state := sha1Transform ctx.state data, bitLen := ctx.bitLen + 512, data := [] }
          else { ctx with data := data }
        sha1UpdateLoop fuel ctx (p.drop take)

/-- `sha1_update`. -/
def sha1Update (ctx : Sha1Ctx) (p : List UInt8) : Sha1Ctx := sha1UpdateLoop p.length ctx p

/-- `sha1_final`: `SHA1_DIGEST_SIZE` bytes. -/
def sha1Final (ctx : Sha1Ctx) : List UInt8 :=
  let totalBits := ctx.bitLen + UInt64.ofNat (ctx.data.length * 8)
  let data := ctx.data ++ [0x80]
  let full := data.length > 56
  let state :=
    if full then sha1Transform ctx.state (data ++ List.replicate (64 - data.length) 0) else ctx.state
  let data := if full then [] else data
  let s := sha1Transform state (data ++ List.replicate (56 - data.length) 0 ++ writeBe64 totalBits)
  writeBe32 s.a ++ writeBe32 s.b ++ writeBe32 s.c ++ writeBe32 s.d ++ writeBe32 s.e

/-- The digest of `sha1_abc` in `sha1_selftest`. -/
example : sha1Final (sha1Update sha1Init [0x61, 0x62, 0x63]) =
    [0xa9, 0x99, 0x3e, 0x36, 0x47, 0x06, 0x81, 0x6a, 0xba, 0x3e, 0x25, 0x71, 0x78, 0x50, 0xc2, 0x6c,
      0x9c, 0xd0, 0xd8, 0x9d] := by decide +kernel

/-- `hmac_sha1`. -/
def hmacSha1 (key data : List UInt8) : List UInt8 :=
  let key := if key.length > 64 then sha1Final (sha1Update sha1Init key) else key
  let keyBlock := key ++ List.replicate (64 - key.length) 0
  let innerDigest := sha1Final (sha1Update (sha1Update sha1Init (keyBlock.map (· ^^^ 0x36))) data)
  sha1Final (sha1Update (sha1Update sha1Init (keyBlock.map (· ^^^ 0x5c))) innerDigest)

end Orizon
