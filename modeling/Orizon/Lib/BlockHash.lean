import Mathlib.Data.List.Basic
import Mathlib.Tactic.Common
import Orizon.Lib.Digits
import Mathlib.Logic.Function.Iterate

/-!
# Orizon.Lib.BlockHash

Hash functions that pad a message to whole blocks of 64 bytes and chain a
compression function over them, and contexts that take the message piece by
piece.

A context holds the chaining value of the whole blocks so far, the number of
their bits, and the bytes after them.  `Absorbed` says that it does so for a
message: `put` is what one piece does to it, `updateLoop` what a text does, and
`finish_eq` what is left to do at the end.  Where the pieces were cut is not in
it.

Behind that are HMAC of RFC 2104 over a hash function with such blocks, and as many
of its values one after another as an output length needs.
-/

namespace Orizon

section BlockHash

variable {σ : Type*} (compress : σ → List UInt8 → σ)

/-- The chaining value after the first `n` blocks of `p`. -/
def chain : Nat → σ → List UInt8 → σ
  | 0, s, _ => s
  | n + 1, s, p => chain n (compress s (p.take 64)) (p.drop 64)

/-- The zero bytes after a message of `n` bytes and the byte behind it: the fewest that
leave room for eight bytes in the last block. -/
def padZeros (n : Nat) : Nat := (119 - n % 64) % 64

/-- The padded message: a one bit, zero bits, and the length in bits. -/
def padMessage (m : List UInt8) : List UInt8 :=
  m ++ 0x80 :: (List.replicate (padZeros m.length) 0 ++ beBytes 8 (8 * m.length))

/-- The chaining value of the padded message. -/
def blockHash (iv : σ) (m : List UInt8) : σ := chain compress ((padMessage m).length / 64) iv (padMessage m)

/-! ## Padding -/

theorem length_padMessage (m : List UInt8) : (padMessage m).length = m.length + padZeros m.length + 9 := by
  simp [padMessage]
  omega

/-! ## Chaining -/

variable {compress}

theorem chain_add (m n : Nat) (s : σ) (p : List UInt8) :
    chain compress (m + n) s p = chain compress n (chain compress m s p) (p.drop (64 * m)) := by
  induction m generalizing s p with
  | zero => simp [chain]
  | succ m ih =>
      rw [Nat.succ_add, chain, ih, chain, List.drop_drop]
      congr 2
      omega

theorem chain_append_left {n : Nat} {p : List UInt8} (s : σ) (q : List UInt8) (h : 64 * n ≤ p.length) :
    chain compress n s (p ++ q) = chain compress n s p := by
  induction n generalizing s p with
  | zero => rfl
  | succ n ih =>
      rw [chain, chain, List.take_append_of_le_length (by omega), List.drop_append_of_le_length (by omega),
        ih _ (by rw [List.length_drop]; omega)]

theorem chain_one (s : σ) {p : List UInt8} (h : p.length = 64) : chain compress 1 s p = compress s p := by
  rw [chain, chain, List.take_of_length_le h.le]

theorem chain_congr {compress' : σ → List UInt8 → σ} {n : Nat} {p : List UInt8} (s : σ)
    (hc : ∀ s b, b.length = 64 → compress s b = compress' s b) (h : 64 * n ≤ p.length) :
    chain compress n s p = chain compress' n s p := by
  induction n generalizing s p with
  | zero => rfl
  | succ n ih =>
      have hblock : (p.take 64).length = 64 := by
        rw [List.length_take]
        omega
      rw [chain, chain, hc s _ hblock, ih _ (by rw [List.length_drop]; omega)]

theorem blockHash_congr {compress' : σ → List UInt8 → σ} (iv : σ) (m : List UInt8)
    (hc : ∀ s b, b.length = 64 → compress s b = compress' s b) :
    blockHash compress iv m = blockHash compress' iv m :=
  chain_congr iv hc (Nat.mul_div_le ..)

/-! ## Contexts -/

/-- The context of a stream. -/
structure BlockCtx (σ : Type*) where
  state : σ
  bitLen : UInt64
  data : List UInt8

variable (compress)

/-- Bytes copied into the buffer, and the buffer compressed when it is full. -/
def BlockCtx.put (ctx : BlockCtx σ) (t : List UInt8) : BlockCtx σ :=
  if (ctx.data ++ t).length = 64 then
    { state := compress ctx.state (ctx.data ++ t), bitLen := ctx.bitLen + 512, data := [] }
  else { ctx with data := ctx.data ++ t }

/-- A text, as much in each round as the buffer takes. -/
def BlockCtx.updateLoop : Nat → BlockCtx σ → List UInt8 → BlockCtx σ
  | 0, ctx, _ => ctx
  | fuel + 1, ctx, p =>
      if p.length = 0 then ctx
      else
        let take := min p.length (64 - ctx.data.length)
        updateLoop fuel (ctx.put compress (p.take take)) (p.drop take)

/-- The end of the message, with the bytes of its length. -/
def BlockCtx.finish (field : UInt64 → List UInt8) (ctx : BlockCtx σ) : σ :=
  let totalBits := ctx.bitLen + UInt64.ofNat (ctx.data.length * 8)
  let data := ctx.data ++ [0x80]
  let full := data.length > 56
  let state := if full then compress ctx.state (data ++ List.replicate (64 - data.length) 0) else ctx.state
  let data := if full then [] else data
  compress state (data ++ List.replicate (56 - data.length) 0 ++ field totalBits)

/-- A context that has taken `m`. -/
structure Absorbed (iv : σ) (m : List UInt8) (ctx : BlockCtx σ) : Prop where
  state_eq : ctx.state = chain compress (m.length / 64) iv m
  bitLen_eq : ctx.bitLen = 512 * UInt64.ofNat (m.length / 64)
  data_eq : ctx.data = m.drop (64 * (m.length / 64))

namespace Absorbed

variable {compress} {iv : σ} {m t : List UInt8} {ctx : BlockCtx σ}

theorem nil : Absorbed compress iv [] ⟨iv, 0, []⟩ := by
  constructor <;> simp [chain]

theorem length_data (h : Absorbed compress iv m ctx) : ctx.data.length = m.length % 64 := by
  rw [h.data_eq, List.length_drop]
  omega

theorem fill (h : Absorbed compress iv m ctx) (ht : ctx.data.length + t.length < 64) :
    Absorbed compress iv (m ++ t) { ctx with data := ctx.data ++ t } := by
  have hdata := h.length_data
  have hblocks : (m ++ t).length / 64 = m.length / 64 := by
    rw [List.length_append]
    omega
  constructor
  · rw [hblocks, chain_append_left _ _ (Nat.mul_div_le ..), h.state_eq]
  · rw [hblocks, h.bitLen_eq]
  · rw [hblocks, List.drop_append_of_le_length (Nat.mul_div_le ..), h.data_eq]

theorem block (h : Absorbed compress iv m ctx) (ht : ctx.data.length + t.length = 64) :
    Absorbed compress iv (m ++ t) ⟨compress ctx.state (ctx.data ++ t), ctx.bitLen + 512, []⟩ := by
  have hdata := h.length_data
  have hblocks : (m ++ t).length / 64 = m.length / 64 + 1 := by
    rw [List.length_append]
    omega
  have hlast : (m ++ t).drop (64 * (m.length / 64)) = ctx.data ++ t := by
    rw [List.drop_append_of_le_length (Nat.mul_div_le ..), h.data_eq]
  constructor
  · rw [hblocks, chain_add, hlast, chain_append_left _ _ (Nat.mul_div_le ..), ← h.state_eq,
      chain_one _ (by simpa using ht)]
  · rw [hblocks, h.bitLen_eq, UInt64.ofNat_add, UInt64.mul_add]
    rfl
  · rw [List.drop_of_length_le (by rw [List.length_append]; omega)]

theorem put (h : Absorbed compress iv m ctx) (ht : ctx.data.length + t.length ≤ 64) :
    Absorbed compress iv (m ++ t) (ctx.put compress t) := by
  rw [BlockCtx.put, List.length_append]
  split
  · next hfull => exact h.block hfull
  · next hroom => exact h.fill (by omega)

theorem updateLoop {fuel : Nat} {p : List UInt8} (h : Absorbed compress iv m ctx) (hfuel : p.length ≤ fuel) :
    Absorbed compress iv (m ++ p) (ctx.updateLoop compress fuel p) := by
  induction fuel generalizing ctx m p with
  | zero =>
      obtain rfl : p = [] := List.length_eq_zero_iff.mp (by omega)
      rwa [List.append_nil]
  | succ fuel ih =>
      rw [BlockCtx.updateLoop]
      split
      · next hnil =>
        obtain rfl : p = [] := List.length_eq_zero_iff.mp hnil
        rwa [List.append_nil]
      · next hnil =>
        have hdata := h.length_data
        have htaken := h.put (t := p.take (min p.length (64 - ctx.data.length))) (by rw [List.length_take]; omega)
        have hrest := ih htaken (p := p.drop (min p.length (64 - ctx.data.length)))
          (by rw [List.length_drop]; omega)
        rwa [List.append_assoc, List.take_append_drop] at hrest

/-- The blocks of the padded message after the whole blocks of the message. -/
theorem blockHash_eq (h : Absorbed compress iv m ctx) :
    blockHash compress iv m = chain compress ((ctx.data.length + padZeros m.length + 9) / 64) ctx.state
      (ctx.data ++ 0x80 :: (List.replicate (padZeros m.length) 0 ++ beBytes 8 (8 * m.length))) := by
  have hdata := h.length_data
  have hwhole : (padMessage m).length / 64 = m.length / 64 + (ctx.data.length + padZeros m.length + 9) / 64 := by
    rw [length_padMessage]
    omega
  have hrest : (padMessage m).drop (64 * (m.length / 64)) =
      ctx.data ++ 0x80 :: (List.replicate (padZeros m.length) 0 ++ beBytes 8 (8 * m.length)) := by
    rw [padMessage, List.drop_append_of_le_length (Nat.mul_div_le ..), h.data_eq]
  rw [blockHash, hwhole, chain_add, hrest, padMessage, chain_append_left _ _ (Nat.mul_div_le ..), ← h.state_eq]

theorem blockHash_eq_one (h : Absorbed compress iv m ctx) (hone : ctx.data.length ≤ 55) :
    blockHash compress iv m = compress ctx.state
      (ctx.data ++ [0x80] ++ List.replicate (55 - ctx.data.length) 0 ++ beBytes 8 (8 * m.length)) := by
  have hdata := h.length_data
  have hzeros : padZeros m.length = 55 - ctx.data.length := by
    rw [padZeros]
    omega
  rw [h.blockHash_eq, hzeros, show (ctx.data.length + (55 - ctx.data.length) + 9) / 64 = 1 by omega,
    chain_one _ (by simp; omega)]
  simp

theorem blockHash_eq_two (h : Absorbed compress iv m ctx) (htwo : 55 < ctx.data.length) :
    blockHash compress iv m =
      compress (compress ctx.state (ctx.data ++ [0x80] ++ List.replicate (63 - ctx.data.length) 0))
        (List.replicate 56 0 ++ beBytes 8 (8 * m.length)) := by
  have hdata := h.length_data
  have hzeros : padZeros m.length = 63 - ctx.data.length + 56 := by
    rw [padZeros]
    omega
  have hsplit : ctx.data ++ 0x80 :: (List.replicate (63 - ctx.data.length + 56) 0 ++ beBytes 8 (8 * m.length)) =
      (ctx.data ++ [0x80] ++ List.replicate (63 - ctx.data.length) 0) ++
        (List.replicate 56 0 ++ beBytes 8 (8 * m.length)) := by
    simp [← List.replicate_append_replicate]
  have hfirst : (ctx.data ++ [0x80] ++ List.replicate (63 - ctx.data.length) 0).length = 64 := by
    simp
    omega
  rw [h.blockHash_eq, hzeros, show (ctx.data.length + (63 - ctx.data.length + 56) + 9) / 64 = 1 + 1 by omega,
    hsplit, chain_add, chain_append_left _ _ hfirst.ge, chain_one _ hfirst, Nat.mul_one, ← hfirst, List.drop_left,
    chain_one _ (by simp)]

theorem totalBits (h : Absorbed compress iv m ctx) :
    ctx.bitLen + UInt64.ofNat (ctx.data.length * 8) = UInt64.ofNat m.length * 8 := by
  have hdata := h.length_data
  calc ctx.bitLen + UInt64.ofNat (ctx.data.length * 8)
      = UInt64.ofNat (512 * (m.length / 64) + ctx.data.length * 8) := by
        rw [h.bitLen_eq, UInt64.ofNat_add, UInt64.ofNat_mul 512]
        rfl
    _ = UInt64.ofNat (m.length * 8) := congrArg UInt64.ofNat (by omega)
    _ = UInt64.ofNat m.length * 8 := by
        rw [UInt64.ofNat_mul]
        rfl

/-- What a context makes at the end is the hash of what it has taken. -/
theorem finish_eq {field : UInt64 → List UInt8} (h : Absorbed compress iv m ctx)
    (hfield : ∀ n, field (UInt64.ofNat n * 8) = beBytes 8 (8 * n)) :
    ctx.finish compress field = blockHash compress iv m := by
  have hlen : (ctx.data ++ [0x80]).length = ctx.data.length + 1 := by simp
  simp only [BlockCtx.finish, h.totalBits, hfield, hlen]
  by_cases hone : ctx.data.length ≤ 55
  · have hroom : ¬ ctx.data.length + 1 > 56 := by omega
    rw [if_neg hroom, if_neg hroom, hlen, show 56 - (ctx.data.length + 1) = 55 - ctx.data.length by omega,
      h.blockHash_eq_one hone]
  · have hfull : ctx.data.length + 1 > 56 := by omega
    rw [if_pos hfull, if_pos hfull, show 64 - (ctx.data.length + 1) = 63 - ctx.data.length by omega,
      h.blockHash_eq_two (by omega)]
    simp

end Absorbed

end BlockHash

/-! ## HMAC -/

section Hmac

variable (hash : List UInt8 → List UInt8)

/-- The key as a block: hashed when it is longer, then filled with zeros. -/
def standardHmacKey (key : List UInt8) : List UInt8 :=
  let key := if 64 < key.length then hash key else key
  key ++ List.replicate (64 - key.length) 0

/-- `HMAC` of RFC 2104. -/
def standardHmac (key text : List UInt8) : List UInt8 :=
  hash ((standardHmacKey hash key).map (· ^^^ 0x5c) ++
    hash ((standardHmacKey hash key).map (· ^^^ 0x36) ++ text))

end Hmac

/-! ## Expansion -/

section Expand

variable (size : Nat) (block : Nat → List UInt8)

/-- The first `n` bytes of the blocks. -/
def expand (n : Nat) : List UInt8 := ((List.range ((n + size - 1) / size)).flatMap block).take n

variable {size block}

theorem expand_zero : expand size block 0 = [] := by
  simp [expand]

theorem length_flatMap_block (hblock : ∀ i, (block i).length = size) (k : Nat) :
    ((List.range k).flatMap block).length = size * k := by
  induction k with
  | zero => simp
  | succ k ih =>
      rw [List.range_succ, List.flatMap_append, List.length_append, ih, List.flatMap_singleton, hblock, Nat.mul_succ]

theorem expand_pos (hblock : ∀ i, (block i).length = size) (hsize : 0 < size) {n : Nat} (hn : 0 < n) :
    expand size block n = (block 0).take n ++ expand size (fun i => block (i + 1)) (n - size) := by
  have hcount : (n + size - 1) / size = (n - size + size - 1) / size + 1 := by
    obtain hlong | hshort := Nat.le_total size n
    · rw [Nat.sub_add_cancel hlong, show n + size - 1 = n - 1 + size by omega, Nat.add_div_right _ hsize]
    · rw [Nat.sub_eq_zero_of_le hshort, Nat.zero_add, Nat.div_eq_of_lt (by omega : size - 1 < size),
        show n + size - 1 = n - 1 + size by omega, Nat.add_div_right _ hsize, Nat.div_eq_of_lt (by omega)]
  rw [expand, hcount, List.range_succ_eq_map, List.flatMap_cons, List.take_append, hblock, List.flatMap_map, expand]

end Expand

/-! ## The expansion of RFC 5246 -/

section PHash

variable (mac : List UInt8 → List UInt8) (size : Nat)

/-- `P_hash` of RFC 5246, 5, with `mac` the keyed hash: block `i` is that of `A(i + 1)` and the
seed, and `A(i)` is made of the seed by `i` applications. -/
def pHash (seed : List UInt8) (n : Nat) : List UInt8 := expand size (fun i => mac (mac^[i + 1] seed ++ seed)) n

end PHash

end Orizon
