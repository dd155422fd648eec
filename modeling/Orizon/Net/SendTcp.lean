import Orizon.Lib.Checked
import Orizon.Lib.OnesComplement
import Orizon.Net.TcpClient
import Orizon.Net.TlsRecord
import Orizon.Ssh.Wire

/-!
# Orizon.Net.SendTcp

The packets of `send_tcp` in `drivers/netstack.c`, and what the two parsers read of them.

The checksums are those of RFC 791 and RFC 793, and the parsers read back what was sent
(`sendTcp_spec`).
-/

namespace Orizon

/-! ## Checksums -/

/-- The first loop of `checksum16`: the big-endian words, an odd byte as the high one. -/
def checksumSum : List UInt8 → UInt32 → UInt32
  | a :: b :: data, sum => checksumSum data (sum + (getBe16 [a, b] 0).toUInt32)
  | [a], sum => sum + (a.toUInt16 <<< 8).toUInt32
  | [], sum => sum

theorem shiftRight_ne_zero (sum : UInt32) : sum >>> 16 ≠ 0 ↔ 2 ^ 16 ≤ sum.toNat := by
  have h16 : (16 : UInt32).toNat % 32 = 16 := rfl
  rw [Ne, ← UInt32.toNat_inj, UInt32.toNat_shiftRight, h16, Nat.shiftRight_eq_div_pow, UInt32.toNat_zero]
  omega

theorem toNat_carry (sum : UInt32) :
    ((sum &&& (0xffff : UInt32)) + sum >>> 16).toNat = sum.toNat % 2 ^ 16 + sum.toNat / 2 ^ 16 := by
  have hlt := sum.toNat_lt
  have h16 : (16 : UInt32).toNat % 32 = 16 := rfl
  have hffff : (0xffff : UInt32).toNat = 2 ^ 16 - 1 := rfl
  rw [UInt32.toNat_add, UInt32.toNat_and, UInt32.toNat_shiftRight, h16, hffff, Nat.and_two_pow_sub_one_eq_mod,
    Nat.shiftRight_eq_div_pow, Nat.mod_eq_of_lt (by omega)]

/-- The second loop of `checksum16`. -/
def checksumFold (sum : UInt32) : UInt32 :=
  if sum >>> 16 ≠ 0 then checksumFold ((sum &&& (0xffff : UInt32)) + sum >>> 16) else sum
termination_by sum.toNat
decreasing_by
  rw [toNat_carry]
  have hcarry := (shiftRight_ne_zero sum).mp ‹_›
  omega

/-- `checksum16`. -/
def checksum16 (data : List UInt8) : UInt16 := ~~~ (checksumFold (checksumSum data 0)).toUInt16

/-! ## The code -/

/-- `TCP_WINDOW`. -/
def tcpWindow : UInt16 := 8192

/-- `send_ipv4_raw` with the value of `ip_ident`: the packet for `l2_send_ethernet`; `none` is -1. -/
def sendIpv4Raw (ident : UInt16) (srcIp dstIp : UInt32) (proto : UInt8) (payload : List UInt8) :
    Checked (Option (List UInt8)) := do
  if payload.length + 20 > netstackMtu then pure none else
  let packet := List.replicate netstackMtu 0
  let packet ← writeAll packet 0 [0x45]
  let packet ← writeAll packet 1 [0]
  let packet ← writeAll packet 2 (putBe16 (UInt16.ofNat (20 + payload.length)))
  let packet ← writeAll packet 4 (putBe16 ident)
  let packet ← writeAll packet 6 (putBe16 0x4000)
  let packet ← writeAll packet 8 [64]
  let packet ← writeAll packet 9 [proto]
  let packet ← writeAll packet 12 (writeBe32 srcIp)
  let packet ← writeAll packet 16 (writeBe32 dstIp)
  let packet ← writeAll packet 20 payload
  let packet ← writeAll packet 10 (putBe16 (checksum16 (packet.take 20)))
  pure (some (packet.take (20 + payload.length)))

/-- `tcp_checksum`. -/
def tcpChecksum (srcIp dstIp : UInt32) (tcp : List UInt8) : Checked UInt16 := do
  let buf := List.replicate (netstackMtu + 16) 0
  let buf ← writeAll buf 0 (writeBe32 srcIp)
  let buf ← writeAll buf 4 (writeBe32 dstIp)
  let buf ← writeAll buf 8 [0]
  let buf ← writeAll buf 9 [ipProtoTcp]
  let buf ← writeAll buf 10 (putBe16 (UInt16.ofNat tcp.length))
  let buf ← writeAll buf 12 tcp
  pure (checksum16 (buf.take (tcp.length + 12)))

/-- `send_tcp` of a stack with the address `ip`. -/
def sendTcp (ident : UInt16) (ip : UInt32) (conn : TcpConn) (flags : UInt8) (data : List UInt8) :
    Checked (Option (List UInt8)) := do
  let headerLen := if flags &&& tcpSyn ≠ 0 then 24 else 20
  let tcpLen := headerLen + data.length
  if tcpLen > netstackMtu - 20 then pure none else
  let tcp := List.replicate netstackMtu 0
  let tcp ← writeAll tcp 0 (putBe16 conn.localPort)
  let tcp ← writeAll tcp 2 (putBe16 conn.remotePort)
  let tcp ← writeAll tcp 4 (writeBe32 conn.seq)
  let tcp ← writeAll tcp 8 (writeBe32 conn.ack)
  let tcp ← writeAll tcp 12 [(UInt8.ofNat (headerLen / 4)) <<< 4]
  let tcp ← writeAll tcp 13 [flags]
  let tcp ← writeAll tcp 14 (putBe16 tcpWindow)
  let tcp ← if flags &&& tcpSyn ≠ 0 then do
      let tcp ← writeAll tcp 20 [2]
      let tcp ← writeAll tcp 21 [4]
      writeAll tcp 22 (putBe16 1460)
    else pure tcp
  let tcp ← writeAll tcp headerLen data
  let checksum ← tcpChecksum ip conn.remoteIp (tcp.take tcpLen)
  let tcp ← writeAll tcp 16 (putBe16 checksum)
  sendIpv4Raw ident ip conn.remoteIp ipProtoTcp (tcp.take tcpLen)

/-- What `parse_ipv4_basic` reads from a packet. -/
structure Ipv4Packet where
  srcIp : UInt32
  dstIp : UInt32
  proto : UInt8
  payload : List UInt8
deriving DecidableEq

/-- `parse_ipv4_basic`; `none` is -1. -/
def parseIpv4Basic (packet : List UInt8) : Option Ipv4Packet :=
  if packet.length < 20 ∨ packet.getD 0 0 >>> 4 ≠ 4 then none
  else
    let ihl := (packet.getD 0 0 &&& 0x0f).toNat * 4
    let totalLen := (getBe16 packet 2).toNat
    if ihl < 20 ∨ totalLen > packet.length ∨ totalLen < ihl then none
    else if checksum16 (packet.take ihl) ≠ 0 then none
    else
      some {
        srcIp := readBe32 packet 12
        dstIp := readBe32 packet 16
        proto := packet.getD 9 0
        payload := (packet.drop ihl).take (totalLen - ihl) }

/-! ## The checksum of the standard -/

/-- The 16-bit words of bytes, with a zero byte behind an odd one. -/
def beWords : List UInt8 → List Nat
  | a :: b :: data => (a.toNat * 256 + b.toNat) :: beWords data
  | [a] => [a.toNat * 256]
  | [] => []

/-- The one's complement of the one's complement sum of the words. -/
def internetChecksum (data : List UInt8) : Nat := 2 ^ 16 - 1 - onesSum 16 (beWords data)

/-- The word at `off` is the checksum of the bytes with that word zero. -/
def HasChecksum (data : List UInt8) (off : Nat) : Prop :=
  (getBe16 data off).toNat = internetChecksum (data.take off ++ [0, 0] ++ data.drop (off + 2))

section Checksum

variable {data pre post : List UInt8} {sum : UInt32} {v : UInt16}

theorem toNat_getBe16_pair (a b : UInt8) : (getBe16 [a, b] 0).toNat = a.toNat * 256 + b.toNat := by
  have ha := a.toNat_lt
  have hb := b.toNat_lt
  have h8 : (8 : UInt16).toNat % 16 = 8 := rfl
  have hor := Nat.shiftLeft_add_eq_or_of_lt hb a.toNat
  simp only [getBe16, List.getD_cons_zero, List.getD_cons_succ, UInt16.toNat_or, UInt16.toNat_shiftLeft, h8,
    UInt8.toNat_toUInt16, Nat.shiftLeft_eq] at hor ⊢
  rw [Nat.mod_eq_of_lt (by omega), ← hor]

theorem mem_beWords_lt : ∀ x ∈ beWords data, x < 2 ^ 16 := by
  fun_induction beWords data with
  | case1 a b data ih =>
      have ha := a.toNat_lt
      have hb := b.toNat_lt
      simp only [List.mem_cons, forall_eq_or_imp]
      exact ⟨by omega, ih⟩
  | case2 a =>
      have ha := a.toNat_lt
      simp only [List.mem_singleton, forall_eq]
      omega
  | case3 => simp

theorem sum_beWords_le (data : List UInt8) : (beWords data).sum ≤ data.length * 65535 := by
  fun_induction beWords data with
  | case1 a b data ih =>
      have ha := a.toNat_lt
      have hb := b.toNat_lt
      simp only [List.sum_cons, List.length_cons]
      omega
  | case2 a =>
      have ha := a.toNat_lt
      simp
      omega
  | case3 => simp

theorem toNat_checksumSum (h : sum.toNat + (beWords data).sum < 2 ^ 32) :
    (checksumSum data sum).toNat = sum.toNat + (beWords data).sum := by
  fun_induction checksumSum data sum with
  | case1 a b data sum ih =>
      have hpair := toNat_getBe16_pair a b
      simp only [beWords, List.sum_cons] at h ⊢
      have hadd : (sum + (getBe16 [a, b] 0).toUInt32).toNat = sum.toNat + (a.toNat * 256 + b.toNat) := by
        rw [UInt32.toNat_add, UInt16.toNat_toUInt32, hpair]
        omega
      rw [ih (by omega), hadd]
      omega
  | case2 a sum =>
      have ha := a.toNat_lt
      have h8 : (8 : UInt16).toNat % 16 = 8 := rfl
      simp only [beWords, List.sum_cons, List.sum_nil] at h ⊢
      rw [UInt32.toNat_add, UInt16.toNat_toUInt32, UInt16.toNat_shiftLeft, h8, UInt8.toNat_toUInt16, Nat.shiftLeft_eq]
      omega
  | case3 sum => simp [beWords]

theorem toNat_checksumFold (sum : UInt32) : (checksumFold sum).toNat = onesNorm 16 sum.toNat := by
  fun_induction checksumFold sum with
  | case1 sum hcarry ih => rw [ih, toNat_carry, onesNorm_fold (by decide)]
  | case2 sum hcarry =>
      rw [shiftRight_ne_zero] at hcarry
      rw [onesNorm_of_lt (by omega)]

/-- `checksum16` is the checksum of the standard. -/
theorem toNat_checksum16 (h : data.length ≤ 2 ^ 16) : (checksum16 data).toNat = internetChecksum data := by
  have hsum := sum_beWords_le data
  have hfold := toNat_checksumFold (checksumSum data 0)
  rw [toNat_checksumSum (by simp; omega), UInt32.toNat_zero, Nat.zero_add] at hfold
  have hlt := onesNorm_lt (w := 16) (by decide) (beWords data).sum
  rw [checksum16, internetChecksum, onesSum_eq_onesNorm (by decide) mem_beWords_lt, UInt16.toNat_not,
    UInt32.toNat_toUInt16, hfold, Nat.mod_eq_of_lt hlt]
  rfl

theorem beWords_append (h : Even pre.length) : beWords (pre ++ data) = beWords pre ++ beWords data := by
  fun_induction beWords pre with
  | case1 a b pre ih =>
      simp only [List.cons_append, beWords]
      rw [ih (by simpa [Nat.even_add_one] using h)]
  | case2 a => simp at h
  | case3 => rfl

theorem sum_beWords_word (h : Even pre.length) :
    (beWords (pre ++ putBe16 v ++ post)).sum = (beWords (pre ++ [0, 0] ++ post)).sum + v.toNat := by
  have hv : (v >>> 8).toUInt8.toNat * 256 + v.toUInt8.toNat = v.toNat := by
    rw [← toNat_getBe16_pair]
    exact congrArg UInt16.toNat (be16_split v)
  have hword : (beWords (putBe16 v ++ post)).sum = v.toNat + (beWords post).sum := by
    rw [← hv]
    rfl
  have hzero : (beWords ([0, 0] ++ post)).sum = (beWords post).sum := by simp [beWords]
  rw [List.append_assoc, List.append_assoc, beWords_append h, beWords_append h, List.sum_append, List.sum_append, hword,
    hzero]
  omega

theorem hasChecksum_put (hlen : (pre ++ [0, 0] ++ post).length ≤ 2 ^ 16) :
    HasChecksum (pre ++ putBe16 (checksum16 (pre ++ [0, 0] ++ post)) ++ post) pre.length := by
  rw [HasChecksum, List.append_assoc, getBe16_putBe16, List.take_left, toNat_checksum16 hlen]
  congr 2
  rw [← List.append_assoc, List.drop_left' (by simp)]

theorem checksum16_put (hpre : Even pre.length) (hlen : (pre ++ [0, 0] ++ post).length ≤ 2 ^ 16) :
    checksum16 (pre ++ putBe16 (checksum16 (pre ++ [0, 0] ++ post)) ++ post) = 0 := by
  have hlen' : (pre ++ putBe16 (checksum16 (pre ++ [0, 0] ++ post)) ++ post).length ≤ 2 ^ 16 := by
    simp at hlen ⊢
    omega
  rw [← UInt16.toNat_inj, toNat_checksum16 hlen', internetChecksum, onesSum_eq_onesNorm (by decide) mem_beWords_lt,
    sum_beWords_word hpre, toNat_checksum16 hlen, internetChecksum, onesSum_eq_onesNorm (by decide) mem_beWords_lt,
    onesNorm_add_complement (by decide)]
  rfl

end Checksum

/-! ## The bytes of a packet -/

/-- The IPv4 header up to its checksum. -/
def ipv4Start (ident : UInt16) (proto : UInt8) (len : Nat) : List UInt8 :=
  [0x45, 0] ++ putBe16 (UInt16.ofNat (20 + len)) ++ putBe16 ident ++ putBe16 0x4000 ++ [64, proto]

/-- The IPv4 header behind its checksum. -/
def ipv4Addresses (srcIp dstIp : UInt32) : List UInt8 := writeBe32 srcIp ++ writeBe32 dstIp

/-- An IPv4 packet with its checksum. -/
def ipv4Bytes (ident : UInt16) (srcIp dstIp : UInt32) (proto : UInt8) (payload : List UInt8) : List UInt8 :=
  ipv4Start ident proto payload.length ++
    putBe16 (checksum16 (ipv4Start ident proto payload.length ++ [0, 0] ++ ipv4Addresses srcIp dstIp)) ++
      (ipv4Addresses srcIp dstIp ++ payload)

section Packet

variable {ident : UInt16} {srcIp dstIp : UInt32} {proto : UInt8} {payload : List UInt8}

theorem sendIpv4Raw_eq (h : payload.length + 20 ≤ netstackMtu) :
    sendIpv4Raw ident srcIp dstIp proto payload = .ok (some (ipv4Bytes ident srcIp dstIp proto payload)) := by
  have hmtu : payload.length + 20 ≤ 1500 := h
  have hstart : [] ++ [0x45] ++ [0] ++ putBe16 (UInt16.ofNat (20 + payload.length)) ++ putBe16 ident ++
      putBe16 0x4000 ++
      [64] ++ [proto] = ipv4Start ident proto payload.length := rfl
  unfold sendIpv4Raw
  rw [if_neg (by omega), ← List.nil_append (List.replicate netstackMtu 0)]
  dsimp only
  rw [writeAll_replicate (k := 1499) (by rfl) (by rfl), checked_bind, writeAll_replicate (k := 1498) (by rfl) (by rfl),
    checked_bind, writeAll_replicate (k := 1496) (by rfl) (by rfl), checked_bind,
    writeAll_replicate (k := 1494) (by rfl) (by rfl), checked_bind, writeAll_replicate (k := 1492) (by rfl) (by rfl),
    checked_bind, writeAll_replicate (k := 1491) (by rfl) (by rfl), checked_bind,
    writeAll_replicate (k := 1490) (by rfl) (by rfl), checked_bind, hstart,
    writeAll_gap (g := 2) (k := 1484) (by rfl) (by rfl), checked_bind, writeAll_replicate (k := 1480) (by rfl) (by rfl),
    checked_bind, writeAll_replicate (k := 1480 - payload.length) (by rfl) (by omega), checked_bind]
  generalize List.replicate (1480 - payload.length) (0 : UInt8) = rest
  have hbuf : ipv4Start ident proto payload.length ++ List.replicate 2 0 ++ writeBe32 srcIp ++
      writeBe32 dstIp ++ payload ++
      rest = ipv4Start ident proto payload.length ++ [0, 0] ++ (ipv4Addresses srcIp dstIp ++ payload ++ rest) := by
    simp [ipv4Addresses, List.replicate]
  have hheader :
      (ipv4Start ident proto payload.length ++ [0, 0] ++ (ipv4Addresses srcIp dstIp ++ payload ++ rest)).take 20 =
      ipv4Start ident proto payload.length ++ [0, 0] ++ ipv4Addresses srcIp dstIp := by
    rw [List.append_assoc _ payload, ← List.append_assoc]
    exact List.take_left' rfl
  rw [hbuf, hheader, writeAll_middle (by rfl) (by rfl), checked_bind, checked_pure, ← List.append_assoc,
    List.take_left' (by simp [ipv4Start, ipv4Addresses, length_writeBe32]; omega)]
  rfl

/-- The pseudo header of RFC 793. -/
def tcpPseudoHeader (srcIp dstIp : UInt32) (proto : UInt8) (len : Nat) : List UInt8 :=
  writeBe32 srcIp ++ writeBe32 dstIp ++ [0, proto] ++ putBe16 (UInt16.ofNat len)

theorem tcpChecksum_eq {tcp : List UInt8} (h : tcp.length ≤ netstackMtu) :
    tcpChecksum srcIp dstIp tcp = .ok (checksum16 (tcpPseudoHeader srcIp dstIp ipProtoTcp tcp.length ++ tcp)) := by
  have hmtu : tcp.length ≤ 1500 := h
  have hpseudo : [] ++ writeBe32 srcIp ++ writeBe32 dstIp ++ [0] ++ [ipProtoTcp] ++ putBe16 (UInt16.ofNat tcp.length) =
      tcpPseudoHeader srcIp dstIp ipProtoTcp tcp.length := by
    simp [tcpPseudoHeader]
  unfold tcpChecksum
  rw [← List.nil_append (List.replicate (netstackMtu + 16) 0)]
  dsimp only
  rw [writeAll_replicate (k := 1512) (by rfl) (by rfl), checked_bind, writeAll_replicate (k := 1508) (by rfl) (by rfl),
    checked_bind, writeAll_replicate (k := 1507) (by rfl) (by rfl), checked_bind,
    writeAll_replicate (k := 1506) (by rfl) (by rfl), checked_bind, writeAll_replicate (k := 1504) (by rfl) (by rfl),
    checked_bind, writeAll_replicate (k := 1504 - tcp.length) (by rfl) (by omega), checked_bind, checked_pure, hpseudo,
    List.take_left' (by simp [tcpPseudoHeader]; omega)]

/-- The options of a segment with `SYN`: its largest segment. -/
def tcpOptions (flags : UInt8) : List UInt8 := if flags &&& tcpSyn ≠ 0 then [2, 4] ++ putBe16 1460 else []

/-- The TCP header up to its checksum. -/
def tcpStart (conn : TcpConn) (flags : UInt8) : List UInt8 :=
  putBe16 conn.localPort ++ putBe16 conn.remotePort ++ writeBe32 conn.seq ++ writeBe32 conn.ack ++
    [(UInt8.ofNat ((20 + (tcpOptions flags).length) / 4)) <<< 4, flags] ++ putBe16 tcpWindow

/-- What stands behind the checksum. -/
def tcpRest (flags : UInt8) (data : List UInt8) : List UInt8 := [0, 0] ++ (tcpOptions flags ++ data)

/-- A segment with its checksum. -/
def tcpBytes (ip : UInt32) (conn : TcpConn) (flags : UInt8) (data : List UInt8) : List UInt8 :=
  let len := 20 + (tcpOptions flags).length + data.length
  tcpStart conn flags ++ putBe16 (checksum16 (tcpPseudoHeader ip conn.remoteIp ipProtoTcp len ++
    (tcpStart conn flags ++ [0, 0] ++ tcpRest flags data))) ++ tcpRest flags data

theorem tcpRest_written {β : Type} {start : List UInt8} {flags : UInt8} {data : List UInt8} (hstart : start.length = 16)
    (h : 20 + (tcpOptions flags).length + data.length ≤ 1480) (f : List UInt8 → Checked β) :
    (do
      let tcp ← if flags &&& tcpSyn ≠ 0 then do
          let tcp ← writeAll (start ++ List.replicate 1484 0) 20 [2]
          let tcp ← writeAll tcp 21 [4]
          writeAll tcp 22 (putBe16 1460)
        else pure (start ++ List.replicate 1484 0)
      let tcp ← writeAll tcp (20 + (tcpOptions flags).length) data
      f tcp) =
      f (start ++ [0, 0] ++ tcpRest flags data ++
        List.replicate (1480 - (tcpOptions flags).length - data.length) 0) := by
  by_cases hsyn : flags &&& tcpSyn ≠ 0
  · have hoptions : tcpOptions flags = [2, 4] ++ putBe16 1460 := if_pos hsyn
    rw [hoptions] at h ⊢
    have hlen : 24 + data.length ≤ 1480 := h
    rw [if_pos hsyn, writeAll_gap (g := 4) (k := 1479) (by simp [hstart]) (by rfl), checked_bind,
      writeAll_replicate (k := 1478) (by simp [hstart]) (by rfl), checked_bind,
      writeAll_replicate (k := 1476) (by simp [hstart]) (by rfl), checked_bind]
    dsimp only
    rw [writeAll_replicate (k := 1476 - data.length) (by simp [hstart]) (by omega), checked_bind, tcpRest, hoptions]
    congr 2
    simp [List.replicate]
  · have hoptions : tcpOptions flags = [] := if_neg hsyn
    rw [hoptions] at h ⊢
    have hlen : 20 + data.length ≤ 1480 := h
    rw [if_neg hsyn, checked_pure, checked_bind]
    dsimp only
    rw [writeAll_gap (g := 4) (k := 1480 - data.length) (by simp [hstart]) (by omega), checked_bind, tcpRest, hoptions]
    congr 2
    simp [List.replicate]

theorem sendTcp_eq (ident : UInt16) (ip : UInt32) (conn : TcpConn) (flags : UInt8) (data : List UInt8) :
    sendTcp ident ip conn flags data =
      .ok (if 20 + (tcpOptions flags).length + data.length > netstackMtu - 20 then none
        else some (ipv4Bytes ident ip conn.remoteIp ipProtoTcp (tcpBytes ip conn flags data))) := by
  have hheader : (if flags &&& tcpSyn ≠ 0 then 24 else 20) = 20 + (tcpOptions flags).length := by
    unfold tcpOptions
    split <;> rfl
  have hmtu : netstackMtu - 20 = 1480 := rfl
  have hstart : [] ++ putBe16 conn.localPort ++ putBe16 conn.remotePort ++ writeBe32 conn.seq ++ writeBe32 conn.ack ++
      [(UInt8.ofNat ((20 + (tcpOptions flags).length) / 4)) <<< 4] ++ [flags] ++ putBe16 tcpWindow =
        tcpStart conn flags := by
    simp [tcpStart]
  have hstartLen : (tcpStart conn flags).length = 16 := rfl
  unfold sendTcp
  dsimp only
  by_cases hlong : 20 + (tcpOptions flags).length + data.length > netstackMtu - 20
  · rw [hheader, if_pos hlong, if_pos hlong]
    rfl
  · rw [if_neg (by rwa [hheader]), if_neg hlong, ← List.nil_append (List.replicate netstackMtu 0)]
    rw [writeAll_replicate (k := 1498) (by rfl) (by rfl), checked_bind,
      writeAll_replicate (k := 1496) (by rfl) (by rfl),
      checked_bind, writeAll_replicate (k := 1492) (by rfl) (by rfl), checked_bind,
      writeAll_replicate (k := 1488) (by rfl) (by rfl), checked_bind, writeAll_replicate (k := 1487) (by rfl) (by rfl),
      checked_bind, writeAll_replicate (k := 1486) (by rfl) (by rfl), checked_bind,
      writeAll_replicate (k := 1484) (by rfl) (by rfl), checked_bind, hheader, hstart,
      tcpRest_written hstartLen (by omega)]
    have htake : ∀ rest, (tcpStart conn flags ++ [0, 0] ++ tcpRest flags data ++ rest).take
        (20 + (tcpOptions flags).length + data.length) = tcpStart conn flags ++ [0, 0] ++ tcpRest flags data := by
      intro rest
      exact List.take_left' (by simp [hstartLen, tcpRest]; omega)
    have hlen : (tcpStart conn flags ++ [0, 0] ++ tcpRest flags data).length =
        20 + (tcpOptions flags).length + data.length := by
      simp [hstartLen, tcpRest]
      omega
    rw [htake, tcpChecksum_eq (by omega), checked_bind, List.append_assoc _ (tcpRest flags data),
      writeAll_middle (by rfl) (by rfl), checked_bind, hlen, ← List.append_assoc,
      List.take_left' (by simp [hstartLen, tcpRest]; omega), sendIpv4Raw_eq]
    · rfl
    · simp [hstartLen, tcpRest]
      omega

/-! ## What is read back -/

theorem length_ipv4Start (len : Nat) : (ipv4Start ident proto len).length = 10 := rfl

theorem length_ipv4Bytes : (ipv4Bytes ident srcIp dstIp proto payload).length = 20 + payload.length := by
  simp [ipv4Bytes, length_ipv4Start, ipv4Addresses]
  omega

theorem drop_ipv4Bytes : (ipv4Bytes ident srcIp dstIp proto payload).drop 20 = payload := by
  rw [ipv4Bytes, ← List.append_assoc]
  exact List.drop_left' rfl

theorem take_ipv4Bytes : (ipv4Bytes ident srcIp dstIp proto payload).take 20 =
    ipv4Start ident proto payload.length ++
      putBe16 (checksum16 (ipv4Start ident proto payload.length ++ [0, 0] ++ ipv4Addresses srcIp dstIp)) ++
        ipv4Addresses srcIp dstIp := by
  rw [ipv4Bytes, ← List.append_assoc]
  exact List.take_left' rfl

theorem getBe16_ipv4Bytes (h : 20 + payload.length < 2 ^ 16) :
    (getBe16 (ipv4Bytes ident srcIp dstIp proto payload) 2).toNat = 20 + payload.length := by
  have hget : getBe16 (ipv4Bytes ident srcIp dstIp proto payload) 2 = UInt16.ofNat (20 + payload.length) := be16_split _
  rw [hget, UInt16.toNat_ofNat', Nat.mod_eq_of_lt h]

theorem readBe32_srcIp : readBe32 (ipv4Bytes ident srcIp dstIp proto payload) 12 = srcIp := by
  rw [← readBe32_drop]
  exact readBe32_writeBe32 srcIp (writeBe32 dstIp ++ payload)

theorem readBe32_dstIp : readBe32 (ipv4Bytes ident srcIp dstIp proto payload) 16 = dstIp := by
  rw [← readBe32_drop]
  exact readBe32_writeBe32 dstIp payload

theorem hasChecksum_ipv4Bytes : HasChecksum ((ipv4Bytes ident srcIp dstIp proto payload).take 20) 10 := by
  rw [take_ipv4Bytes]
  have hput := hasChecksum_put (by simp [length_ipv4Start, ipv4Addresses] :
    (ipv4Start ident proto payload.length ++ [0, 0] ++ ipv4Addresses srcIp dstIp).length ≤ 2 ^ 16)
  rwa [length_ipv4Start] at hput

/-- A packet is read back by `parse_ipv4_basic`. -/
theorem parseIpv4Basic_ipv4Bytes (h : 20 + payload.length < 2 ^ 16) :
    parseIpv4Basic (ipv4Bytes ident srcIp dstIp proto payload) = some ⟨srcIp, dstIp, proto, payload⟩ := by
  have hlen : (ipv4Bytes ident srcIp dstIp proto payload).length = 20 + payload.length := length_ipv4Bytes
  have hversion : (ipv4Bytes ident srcIp dstIp proto payload).getD 0 0 = 0x45 := rfl
  have hproto : (ipv4Bytes ident srcIp dstIp proto payload).getD 9 0 = proto := rfl
  have hihl : ((0x45 : UInt8) &&& 0x0f).toNat * 4 = 20 := by decide
  have hsum : checksum16 ((ipv4Bytes ident srcIp dstIp proto payload).take 20) = 0 := by
    rw [take_ipv4Bytes]
    exact checksum16_put (by rw [length_ipv4Start]; decide) (by simp [length_ipv4Start, ipv4Addresses])
  unfold parseIpv4Basic
  simp only [hversion, hihl, getBe16_ipv4Bytes h, hlen, hsum, readBe32_srcIp, readBe32_dstIp, hproto, drop_ipv4Bytes]
  rw [if_neg (not_or.mpr ⟨by omega, by decide⟩), if_neg (by omega), if_neg (by simp), Nat.add_sub_cancel_left,
    List.take_length]

section Segment

variable {ip : UInt32} {conn : TcpConn} {flags : UInt8} {data : List UInt8}

theorem length_tcpOptions (flags : UInt8) : (tcpOptions flags).length = 0 ∨ (tcpOptions flags).length = 4 := by
  unfold tcpOptions
  split
  · exact .inr rfl
  · exact .inl rfl

theorem length_tcpBytes : (tcpBytes ip conn flags data).length = 20 + (tcpOptions flags).length + data.length := by
  simp [tcpBytes, tcpStart, tcpRest]
  omega

theorem tcpHeaderLen_tcpBytes :
    ((tcpBytes ip conn flags data).getD 12 0 >>> 4).toNat * 4 = 20 + (tcpOptions flags).length := by
  have hget : (tcpBytes ip conn flags data).getD 12 0 =
      (UInt8.ofNat ((20 + (tcpOptions flags).length) / 4)) <<< 4 := rfl
  rw [hget]
  obtain h | h := length_tcpOptions flags <;> rw [h] <;> decide

theorem drop_tcpBytes :
    (tcpBytes ip conn flags data).drop (20 + (tcpOptions flags).length) = data := by
  simp only [tcpBytes, tcpRest, ← List.append_assoc]
  exact List.drop_left' (by simp [tcpStart]; omega)

theorem hasChecksum_tcpBytes (h : 20 + (tcpOptions flags).length + data.length ≤ 2 ^ 15) :
    HasChecksum (tcpPseudoHeader ip conn.remoteIp ipProtoTcp (20 + (tcpOptions flags).length + data.length) ++
      tcpBytes ip conn flags data) 28 := by
  have hput := hasChecksum_put (by simp [tcpPseudoHeader, tcpStart, tcpRest]; omega :
    (tcpPseudoHeader ip conn.remoteIp ipProtoTcp (20 + (tcpOptions flags).length + data.length) ++
      tcpStart conn flags ++ [0, 0] ++ tcpRest flags data).length ≤ 2 ^ 16)
  simpa [tcpBytes, tcpPseudoHeader, tcpStart] using hput

/-- A segment is read back by `parse_ipv4_tcp`. -/
theorem parseIpv4Tcp_tcpBytes (h : 40 + (tcpOptions flags).length + data.length < 2 ^ 16) :
    parseIpv4Tcp (ipv4Bytes ident srcIp dstIp ipProtoTcp (tcpBytes ip conn flags data)) =
      some ⟨srcIp, dstIp, conn.localPort, conn.remotePort, conn.seq, conn.ack, flags, data⟩ := by
  have htcpLen : (tcpBytes ip conn flags data).length = 20 + (tcpOptions flags).length + data.length := length_tcpBytes
  have hlen : (ipv4Bytes ident srcIp dstIp ipProtoTcp (tcpBytes ip conn flags data)).length =
      20 + (tcpBytes ip conn flags data).length := length_ipv4Bytes
  have hversion : (ipv4Bytes ident srcIp dstIp ipProtoTcp (tcpBytes ip conn flags data)).getD 0 0 = 0x45 := rfl
  have hproto : (ipv4Bytes ident srcIp dstIp ipProtoTcp (tcpBytes ip conn flags data)).getD 9 0 = ipProtoTcp := rfl
  have hihl : ((0x45 : UInt8) &&& 0x0f).toNat * 4 = 20 := by decide
  have hsrcPort : getBe16 (tcpBytes ip conn flags data) 0 = conn.localPort := be16_split _
  have hdstPort : getBe16 (tcpBytes ip conn flags data) 2 = conn.remotePort := be16_split _
  have hseq : readBe32 (tcpBytes ip conn flags data) 4 = conn.seq := by
    rw [← readBe32_drop]
    exact readBe32_writeBe32 conn.seq _
  have hack : readBe32 (tcpBytes ip conn flags data) 8 = conn.ack := by
    rw [← readBe32_drop]
    exact readBe32_writeBe32 conn.ack _
  have hflags : (tcpBytes ip conn flags data).getD 13 0 = flags := rfl
  unfold parseIpv4Tcp
  simp only [hversion, hihl, getBe16_ipv4Bytes (show 20 + (tcpBytes ip conn flags data).length < 2 ^ 16 by omega), hlen,
    readBe32_srcIp, readBe32_dstIp, hproto, drop_ipv4Bytes, hsrcPort, hdstPort, hseq, hack, hflags,
    tcpHeaderLen_tcpBytes, drop_tcpBytes]
  rw [if_neg (not_or.mpr ⟨by omega, by decide⟩), if_neg (by simp; omega), if_neg (by omega),
    List.take_of_length_le (by omega)]

/-- What a packet of `send_tcp` is. -/
structure SentTcp (ip : UInt32) (conn : TcpConn) (flags : UInt8) (data packet : List UInt8) : Prop where
  ipv4Checksum : HasChecksum (packet.take 20) 10
  tcpChecksum : HasChecksum (tcpPseudoHeader ip conn.remoteIp ipProtoTcp (packet.length - 20) ++ packet.drop 20) 28
  basic : parseIpv4Basic packet = some ⟨ip, conn.remoteIp, ipProtoTcp, packet.drop 20⟩
  segment : parseIpv4Tcp packet =
    some ⟨ip, conn.remoteIp, conn.localPort, conn.remotePort, conn.seq, conn.ack, flags, data⟩

/-- `send_tcp` stays in its buffers and refuses just what is longer than a packet.  The packet it
sends has the two checksums of the standards, and is read back as it was sent. -/
theorem sendTcp_spec (ident : UInt16) (ip : UInt32) (conn : TcpConn) (flags : UInt8) (data : List UInt8) :
    Safe (fun r => (∀ packet, r = some packet → SentTcp ip conn flags data packet) ∧
        (r = none ↔ (if flags &&& tcpSyn ≠ 0 then 24 else 20) + data.length > netstackMtu - 20))
      (sendTcp ident ip conn flags data) := by
  have hheader : (if flags &&& tcpSyn ≠ 0 then 24 else 20) = 20 + (tcpOptions flags).length := by
    unfold tcpOptions
    split <;> rfl
  have hmtu : netstackMtu - 20 = 1480 := rfl
  rw [sendTcp_eq, hheader]
  refine safe_ok ⟨fun packet hpacket => ?_, ?_⟩
  · split at hpacket
    · cases hpacket
    next hfits =>
      obtain rfl := Option.some.inj hpacket
      have hlen : (tcpBytes ip conn flags data).length = 20 + (tcpOptions flags).length + data.length := length_tcpBytes
      refine ⟨hasChecksum_ipv4Bytes, ?_, ?_, parseIpv4Tcp_tcpBytes (by omega)⟩
      · rw [length_ipv4Bytes, drop_ipv4Bytes, Nat.add_sub_cancel_left, hlen]
        exact hasChecksum_tcpBytes (by omega)
      · rw [drop_ipv4Bytes, parseIpv4Basic_ipv4Bytes (by omega)]
  · simp

end Segment

end Packet

end Orizon
