import Orizon.Lib.Checked
import Orizon.Net.TcpServer

/-!
# Orizon.Net.Received

What `drivers/netstack.c` reads of a received packet: `parse_ipv4_udp`, the options of a DHCP
message, and a name of a DNS message.

The lengths of the packet, of the IP header, of the datagram and of the fields in it all come
from the network.  Every read is checked here, and none leaves the packet
(`received_within_frame`).
-/

namespace Orizon

/-! ## Numbers -/

/-- `get_be16` at `off`. -/
def readBe16At (p : List UInt8) (off : Nat) : Checked UInt16 := do
  let high ← readAt p off
  let low ← readAt p (off + 1)
  pure ((high.toUInt16 <<< 8) ||| low.toUInt16)

/-- `get_be32` at `off`. -/
def readBe32At (p : List UInt8) (off : Nat) : Checked UInt32 := do
  let a ← readAt p off
  let b ← readAt p (off + 1)
  let c ← readAt p (off + 2)
  let d ← readAt p (off + 3)
  pure ((a.toUInt32 <<< 24) ||| (b.toUInt32 <<< 16) ||| (c.toUInt32 <<< 8) ||| d.toUInt32)

/-! ## Datagrams -/

/-- `IP_PROTO_UDP`. -/
def ipProtoUdp : UInt8 := 17

/-- What `parse_ipv4_udp` returns. -/
structure UdpDatagram where
  srcIp : UInt32
  dstIp : UInt32
  srcPort : UInt16
  dstPort : UInt16
  payload : List UInt8
deriving DecidableEq

/-- `parse_ipv4_udp`; `none` is -1. -/
def parseIpv4Udp (packet : List UInt8) : Checked (Option UdpDatagram) := do
  if packet.length < 28 then pure none else
  let first ← readAt packet 0
  if first >>> 4 ≠ 4 then pure none else
  let ihl := (first &&& 0x0f).toNat * 4
  if ihl < 20 ∨ packet.length < ihl + 8 then pure none else
  let proto ← readAt packet 9
  if proto ≠ ipProtoUdp then pure none else
  let totalLen ← readBe16At packet 2
  if totalLen.toNat > packet.length ∨ totalLen.toNat < ihl + 8 then pure none else
  let udpLen ← readBe16At packet (ihl + 4)
  if udpLen.toNat < 8 ∨ ihl + udpLen.toNat > totalLen.toNat then pure none else
  let srcIp ← readBe32At packet 12
  let dstIp ← readBe32At packet 16
  let srcPort ← readBe16At packet ihl
  let dstPort ← readBe16At packet (ihl + 2)
  pure (some ⟨srcIp, dstIp, srcPort, dstPort, (packet.drop (ihl + 8)).take (udpLen.toNat - 8)⟩)

/-! ## DHCP options -/

/-- The results of `parse_dhcp_options`. -/
structure DhcpOptions where
  msgType : UInt8
  serverId : UInt32
  subnet : UInt32
  router : UInt32
  dns : UInt32
deriving DecidableEq, Repr

/-- What one option of `optLen` bytes at `off` changes. -/
def dhcpOption (opts : List UInt8) (code : UInt8) (off optLen : Nat) (s : DhcpOptions) : Checked DhcpOptions := do
  if code = 53 ∧ optLen ≥ 1 then
    let msgType ← readAt opts off
    pure { s with msgType }
  else if code = 54 ∧ optLen ≥ 4 then
    let serverId ← readBe32At opts off
    pure { s with serverId }
  else if code = 1 ∧ optLen ≥ 4 then
    let subnet ← readBe32At opts off
    pure { s with subnet }
  else if code = 3 ∧ optLen ≥ 4 then
    let router ← readBe32At opts off
    pure { s with router }
  else if code = 6 ∧ optLen ≥ 4 then
    let dns ← readBe32At opts off
    pure { s with dns }
  else pure s

/-- The loop of `parse_dhcp_options` from `off`. -/
def parseDhcpOptionsFrom (opts : List UInt8) : Nat → Nat → DhcpOptions → Checked DhcpOptions
  | 0, _, _ => .error .endless
  | fuel + 1, off, s => do
      if off < opts.length then
        let code ← readAt opts off
        let off := off + 1
        if code = 255 then pure s
        else if code = 0 then parseDhcpOptionsFrom opts fuel off s
        else if off ≥ opts.length then pure s
        else
          let optLen ← readAt opts off
          let off := off + 1
          if off + optLen.toNat > opts.length then pure s
          else
            let s ← dhcpOption opts code off optLen.toNat s
            parseDhcpOptionsFrom opts fuel (off + optLen.toNat) s
      else pure s

/-- `parse_dhcp_options` with what the results are before. -/
def parseDhcpOptions (opts : List UInt8) (s : DhcpOptions) : Checked DhcpOptions :=
  parseDhcpOptionsFrom opts (opts.length + 1) 0 s

/-! ## DNS names -/

/-- The loop of `dns_skip_name` from `p`; `none` is -1. -/
def dnsSkipNameFrom (buf : List UInt8) : Nat → Nat → Checked (Option Nat)
  | 0, _ => .error .endless
  | fuel + 1, p => do
      if p < buf.length then
        let c ← readAt buf p
        let p := p + 1
        if c = 0 then pure (some p)
        else if c &&& 0xc0 = 0xc0 then
          if p ≥ buf.length then pure none else pure (some (p + 1))
        else if c &&& 0xc0 ≠ 0 ∨ p + c.toNat > buf.length then pure none
        else dnsSkipNameFrom buf fuel (p + c.toNat)
      else pure none

/-- `dns_skip_name`: the offset behind the name at `off`. -/
def dnsSkipName (buf : List UInt8) (off : Nat) : Checked (Option Nat) :=
  dnsSkipNameFrom buf (buf.length + 1) off

/-! ## Every read is inside -/

section Inside

variable {p opts buf packet : List UInt8} {off fuel : Nat}

theorem safe_readBe16At (h : off + 2 ≤ p.length) : Safe (fun v => v = getBe16 p off) (readBe16At p off) := by
  refine (safe_readAt (by omega)).bind fun high hhigh => ?_
  refine (safe_readAt (by omega)).bind fun low hlow => ?_
  exact safe_pure (by simp [getBe16, List.getD_eq_getElem?_getD, hhigh, hlow])

theorem safe_readBe32At (h : off + 4 ≤ p.length) : Safe (fun v => v = readBe32 p off) (readBe32At p off) := by
  refine (safe_readAt (by omega)).bind fun a ha => ?_
  refine (safe_readAt (by omega)).bind fun b hb => ?_
  refine (safe_readAt (by omega)).bind fun c hc => ?_
  refine (safe_readAt (by omega)).bind fun d hd => ?_
  exact safe_pure (by simp [readBe32, List.getD_eq_getElem?_getD, ha, hb, hc, hd])

/-- The datagram of a packet: its payload is what the IP header length, the total length and
the length of the datagram describe, and that lies within the packet. -/
structure UdpDatagram.Described (packet : List UInt8) (u : UdpDatagram) : Prop where
  header : 20 ≤ (packet.getD 0 0 &&& 0x0f).toNat * 4
  datagram : 8 ≤ (getBe16 packet ((packet.getD 0 0 &&& 0x0f).toNat * 4 + 4)).toNat
  inTotal : (packet.getD 0 0 &&& 0x0f).toNat * 4 + (getBe16 packet ((packet.getD 0 0 &&& 0x0f).toNat * 4 + 4)).toNat ≤
    (getBe16 packet 2).toNat
  inPacket : (getBe16 packet 2).toNat ≤ packet.length
  payload : u.payload = (packet.drop ((packet.getD 0 0 &&& 0x0f).toNat * 4 + 8)).take
    ((getBe16 packet ((packet.getD 0 0 &&& 0x0f).toNat * 4 + 4)).toNat - 8)

theorem safe_parseIpv4Udp (packet : List UInt8) :
    Safe (fun r => ∀ u, r = some u → u.Described packet) (parseIpv4Udp packet) := by
  unfold parseIpv4Udp
  split
  · exact safe_pure (by simp)
  next hlen =>
  refine (safe_readAt (by omega)).bind fun first hfirst => ?_
  obtain rfl : packet.getD 0 0 = first := by rw [List.getD_eq_getElem?_getD, hfirst, Option.getD_some]
  split
  · exact safe_pure (by simp)
  dsimp only
  split
  · exact safe_pure (by simp)
  next hihl =>
  refine (safe_readAt (by omega)).bind fun proto _ => ?_
  split
  · exact safe_pure (by simp)
  refine (safe_readBe16At (by omega)).bind ?_
  rintro totalLen rfl
  split
  · exact safe_pure (by simp)
  next hfits =>
  refine (safe_readBe16At (by omega)).bind ?_
  rintro udpLen rfl
  split
  · exact safe_pure (by simp)
  next hinner =>
  refine (safe_readBe32At (by omega)).bind fun srcIp _ => ?_
  refine (safe_readBe32At (by omega)).bind fun dstIp _ => ?_
  refine (safe_readBe16At (by omega)).bind fun srcPort _ => ?_
  refine (safe_readBe16At (by omega)).bind fun dstPort _ => ?_
  refine safe_pure fun u hu => ?_
  obtain rfl := Option.some.inj hu
  exact ⟨by omega, by omega, by omega, by omega, rfl⟩

theorem safe_dhcpOption {code : UInt8} {optLen : Nat} (h : off + optLen ≤ opts.length) (s : DhcpOptions) :
    Safe (fun _ => True) (dhcpOption opts code off optLen s) := by
  unfold dhcpOption
  split
  · exact (safe_readAt (by omega)).bind fun _ _ => safe_pure trivial
  split
  · exact (safe_readBe32At (by omega)).bind fun _ _ => safe_pure trivial
  split
  · exact (safe_readBe32At (by omega)).bind fun _ _ => safe_pure trivial
  split
  · exact (safe_readBe32At (by omega)).bind fun _ _ => safe_pure trivial
  split
  · exact (safe_readBe32At (by omega)).bind fun _ _ => safe_pure trivial
  · exact safe_pure trivial

theorem safe_parseDhcpOptionsFrom (hfuel : opts.length - off < fuel) (s : DhcpOptions) :
    Safe (fun _ => True) (parseDhcpOptionsFrom opts fuel off s) := by
  induction fuel generalizing off s with
  | zero => omega
  | succ fuel ih =>
      unfold parseDhcpOptionsFrom
      split
      · refine (safe_readAt (by omega)).bind fun code _ => ?_
        extract_lets next
        split
        · exact safe_pure trivial
        split
        · exact ih (by omega) s
        split
        · exact safe_pure trivial
        refine (safe_readAt (by omega)).bind fun optLen _ => ?_
        split
        · exact safe_pure trivial
        exact (safe_dhcpOption (by omega) s).bind fun t _ => ih (by omega) t
      · exact safe_pure trivial

theorem safe_dnsSkipNameFrom {p : Nat} (hfuel : buf.length - p < fuel) :
    Safe (fun r => ∀ next, r = some next → p < next ∧ next ≤ buf.length) (dnsSkipNameFrom buf fuel p) := by
  induction fuel generalizing p with
  | zero => omega
  | succ fuel ih =>
      unfold dnsSkipNameFrom
      split
      · refine (safe_readAt (by omega)).bind fun c _ => ?_
        dsimp only
        split
        · exact safe_pure (by grind)
        split
        · split
          · exact safe_pure (by grind)
          · exact safe_pure (by grind)
        split
        · exact safe_pure (by grind)
        · refine (ih (by omega)).mono fun r hr next hnext => ?_
          have hinside := hr next hnext
          omega
      · exact safe_pure (by grind)

/-- The readers of a received packet end and read nothing outside of it, whatever it holds: the
payload of a datagram is the part of the packet its lengths describe, the options of a message
are read within what follows its fixed part, and a name ends within its message. -/
theorem received_within_frame (packet : List UInt8) :
    Safe (fun r => ∀ u, r = some u → u.Described packet ∧
        (∀ s, Safe (fun _ => True) (parseDhcpOptions (u.payload.drop 240) s)) ∧
        ∀ off, Safe (fun r => ∀ next, r = some next → off < next ∧ next ≤ u.payload.length) (dnsSkipName u.payload off))
      (parseIpv4Udp packet) :=
  (safe_parseIpv4Udp packet).mono fun _ hr u hu =>
    ⟨hr u hu, safe_parseDhcpOptionsFrom (by omega), fun _ => safe_dnsSkipNameFrom (by omega)⟩

end Inside

end Orizon
