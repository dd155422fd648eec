import Mathlib.Tactic.Ring
import Orizon.Words

/-!
# Orizon.Ssh.Wire

The encoding of `system/ssh.c`: big-endian words, strings, big integers and
name lists, and the framing of a packet with its padding.

A writer returns the buffer's bytes so far, or `none` where the source returns
-1 because they do not fit.  A reader returns the string and the offset after
it.
-/

namespace Orizon

/-! ## Writers -/

/-- `ssh_put_u32`. -/
def sshPutU32 (v : UInt32) : List UInt8 := writeBe32 v

/-- `ssh_put_string`. -/
def sshPutString (cap : Nat) (out data : List UInt8) : Option (List UInt8) :=
  if out.length + 4 + data.length > cap then none
  else some (out ++ sshPutU32 (UInt32.ofNat data.length) ++ data)

/-- `ssh_put_namelist`. -/
def sshPutNamelist (cap : Nat) (out : List UInt8) (names : String) : Option (List UInt8) :=
  sshPutString cap out (asciiBytes names)

/-- `ssh_put_cstring`. -/
def sshPutCstring (cap : Nat) (out : List UInt8) (text : String) : Option (List UInt8) :=
  sshPutString cap out (asciiBytes text)

/-- The body of a big integer: no leading zeros, and one zero before a set sign bit. -/
def sshMpintBody (data : List UInt8) : List UInt8 :=
  let body := data.dropWhile (· = 0)
  if body.headD 0 &&& 0x80 ≠ 0 then 0 :: body else body

/-- `ssh_put_mpint`. -/
def sshPutMpint (cap : Nat) (out data : List UInt8) : Option (List UInt8) :=
  sshPutString cap out (sshMpintBody data)

/-- The random bytes of `ssh_wrap_packet_block`. -/
def sshPaddingBytes : Nat → UInt32 → List UInt8
  | 0, _ => []
  | n + 1, seed =>
      let seed := seed * 1664525 + 1013904223
      (seed >>> 24).toUInt8 :: sshPaddingBytes n seed

/-- `padding_len` of `ssh_wrap_packet_block`. -/
def sshPaddingLen (payloadLen blockSize : Nat) : Nat :=
  let blockSize := max blockSize 8
  let paddingLen := blockSize - (payloadLen + 5) % blockSize
  if paddingLen < 4 then paddingLen + blockSize else paddingLen

/-- `ssh_wrap_packet_block`, with the seed it makes of the clock and the session
count. -/
def sshWrapPacketBlock (seed : UInt32) (cap : Nat) (payload : List UInt8) (blockSize : Nat) :
    Option (List UInt8) :=
  let paddingLen := sshPaddingLen payload.length blockSize
  let packetLen := 1 + payload.length + paddingLen
  if cap < packetLen + 4 then none
  else some (sshPutU32 (UInt32.ofNat packetLen) ++ UInt8.ofNat paddingLen :: payload ++
    sshPaddingBytes paddingLen seed)

/-! ## Readers -/

/-- `ssh_get_u32` of the four bytes from `off`. -/
def sshGetU32 (p : List UInt8) (off : Nat) : UInt32 := readBe32 p off

/-- `ssh_read_string` and `ssh_read_namelist`. -/
def sshReadString (payload : List UInt8) (off : Nat) : Option (List UInt8 × Nat) :=
  if off + 4 > payload.length then none
  else
    let len := (sshGetU32 payload off).toNat
    if off + 4 + len > payload.length then none
    else some ((payload.drop (off + 4)).take len, off + 4 + len)

/-- `count` calls of `ssh_read_namelist` one after the other. -/
def sshReadNamelists (payload : List UInt8) : Nat → Nat → Option (List (List UInt8) × Nat)
  | 0, off => some ([], off)
  | count + 1, off =>
      match sshReadString payload off with
      | none => none
      | some (list, off) =>
          match sshReadNamelists payload count off with
          | none => none
          | some (lists, off) => some (list :: lists, off)

/-- The names of a name list. -/
def sshNames (list : List UInt8) : List (List UInt8) := list.splitOn 0x2c

/-- `ssh_namelist_has`. -/
def sshNamelistHas (list needle : List UInt8) : Bool := (sshNames list).contains needle

/-- `ssh_choose_algorithm`: the first name of the client that the server has, in a
buffer of `size` bytes. -/
def sshChooseAlgorithm (client : List UInt8) (server : String) (size : Nat) : List UInt8 :=
  match (sshNames client).find? (sshNamelistHas (asciiBytes server)) with
  | some name => name.take (size - 1)
  | none => asciiBytes "none"

/-! ## What the encodings mean -/

@[simp]
theorem length_sshPutU32 (v : UInt32) : (sshPutU32 v).length = 4 := rfl

theorem sshGetU32_append {out : List UInt8} (v : UInt32) (rest : List UInt8) :
    sshGetU32 (out ++ (sshPutU32 v ++ rest)) out.length = v := by
  rw [sshGetU32, ← readBe32_drop, List.drop_left, sshPutU32, readBe32_writeBe32]

/-- What `ssh_read_string` accepts is a length and that many bytes. -/
theorem sshReadString_sound {payload data : List UInt8} {off off' : Nat}
    (h : sshReadString payload off = some (data, off')) :
    payload.drop off = sshPutU32 (UInt32.ofNat data.length) ++ data ++ payload.drop off' ∧
      off' = off + 4 + data.length ∧ off' ≤ payload.length := by
  unfold sshReadString at h
  by_cases hword : off + 4 > payload.length
  · rw [if_pos hword] at h
    contradiction
  rw [if_neg hword] at h
  dsimp only at h
  by_cases hbody : off + 4 + (sshGetU32 payload off).toNat > payload.length
  · rw [if_pos hbody] at h
    contradiction
  rw [if_neg hbody] at h
  have hpair := Option.some.inj h
  have hdata : (payload.drop (off + 4)).take (sshGetU32 payload off).toNat = data :=
    congrArg Prod.fst hpair
  have hoff : off + 4 + (sshGetU32 payload off).toNat = off' := congrArg Prod.snd hpair
  have hlen : data.length = (sshGetU32 payload off).toNat := by
    rw [← hdata, List.length_take, List.length_drop]
    omega
  refine ⟨?_, by omega, by omega⟩
  have hhead : sshPutU32 (UInt32.ofNat data.length) = (payload.drop off).take 4 := by
    rw [hlen, UInt32.ofNat_toNat, sshGetU32, sshPutU32, writeBe32_readBe32 (by omega)]
  have hrest : payload.drop (off + 4) = data ++ payload.drop off' := by
    rw [← hoff, ← hdata, ← List.drop_drop (j := off + 4), List.take_append_drop]
  rw [List.append_assoc, ← hrest, hhead, ← List.drop_drop, List.take_append_drop]

/-- What `ssh_put_string` writes, `ssh_read_string` reads. -/
theorem sshReadString_append {out data : List UInt8} (rest : List UInt8)
    (h : data.length < 2 ^ 32) :
    sshReadString (out ++ (sshPutU32 (UInt32.ofNat data.length) ++ (data ++ rest))) out.length =
      some (data, out.length + 4 + data.length) := by
  have hlen : (UInt32.ofNat data.length).toNat = data.length := by
    rw [UInt32.toNat_ofNat']
    exact Nat.mod_eq_of_lt h
  unfold sshReadString
  rw [if_neg (by simp), sshGetU32_append, hlen, if_neg (by simp; omega)]
  have hdrop : (out ++ (sshPutU32 (UInt32.ofNat data.length) ++ (data ++ rest))).drop
      (out.length + 4) = data ++ rest := by
    rw [← List.drop_drop, List.drop_left, ← length_sshPutU32 (UInt32.ofNat data.length),
      List.drop_left]
  rw [hdrop, List.take_left]

end Orizon
