import Orizon.Sha256

/-!
# Orizon.Net.TcpServer

The listening TCP endpoint of `drivers/netstack.c`, which serves one peer at a
time: `netstack_tcp_server_init`, `netstack_tcp_server_close` and
`netstack_tcp_server_poll`.

What the network stack does on the outside during one call -- whether IPv4 is
configured, the received frame, whether a segment could be sent, the clock --
is an input of the call (`NetInput`).  The hardware addresses and the packet
counters of the source decide nothing and are left out.
-/

namespace Orizon

/-! ## Frames -/

/-- `NETSTACK_MTU`. -/
def netstackMtu : Nat := 1500

/-- `ETH_TYPE_ARP`. -/
def ethTypeArp : UInt16 := 0x0806

/-- `ETH_TYPE_IPV4`. -/
def ethTypeIpv4 : UInt16 := 0x0800

/-- `IP_PROTO_TCP`. -/
def ipProtoTcp : UInt8 := 6

/-- `TCP_FIN`. -/
def tcpFin : UInt8 := 0x01

/-- `TCP_SYN`. -/
def tcpSyn : UInt8 := 0x02

/-- `TCP_RST`. -/
def tcpRst : UInt8 := 0x04

/-- `TCP_ACK`. -/
def tcpAck : UInt8 := 0x10

/-- A frame as `recv_frame` leaves it in `frame_buf[NETSTACK_MTU]`. -/
structure Frame where
  ethType : UInt16
  data : List UInt8
  fits : data.length ≤ netstackMtu

/-- `get_be16` of the two bytes from `off`. -/
def getBe16 (p : List UInt8) (off : Nat) : UInt16 :=
  ((p.getD off 0).toUInt16 <<< 8) ||| (p.getD (off + 1) 0).toUInt16

/-- What `parse_ipv4_tcp` reads from a packet. -/
structure TcpSegment where
  srcIp : UInt32
  dstIp : UInt32
  srcPort : UInt16
  dstPort : UInt16
  seq : UInt32
  ack : UInt32
  flags : UInt8
  payload : List UInt8

/-- Whether a segment has the flag. -/
def TcpSegment.has (seg : TcpSegment) (flag : UInt8) : Bool := seg.flags &&& flag != 0

/-- `parse_ipv4_tcp`; `none` is -1. -/
def parseIpv4Tcp (packet : List UInt8) : Option TcpSegment :=
  if packet.length < 40 ∨ packet.getD 0 0 >>> 4 ≠ 4 then none
  else
    let ihl := (packet.getD 0 0 &&& 0x0f).toNat * 4
    let totalLen := (getBe16 packet 2).toNat
    if ihl < 20 ∨ totalLen > packet.length ∨ totalLen < ihl + 20 ∨
        packet.getD 9 0 ≠ ipProtoTcp then none
    else
      let tcp := packet.drop ihl
      let tcpHeaderLen := (tcp.getD 12 0 >>> 4).toNat * 4
      if tcpHeaderLen < 20 ∨ ihl + tcpHeaderLen > totalLen then none
      else
        some {
          srcIp := readBe32 packet 12
          dstIp := readBe32 packet 16
          srcPort := getBe16 tcp 0
          dstPort := getBe16 tcp 2
          seq := readBe32 tcp 4
          ack := readBe32 tcp 8
          flags := tcp.getD 13 0
          payload := (tcp.drop tcpHeaderLen).take (totalLen - ihl - tcpHeaderLen) }

/-- A 16-bit number in network order. -/
def putBe16 (v : UInt16) : List UInt8 := [(v >>> 8).toUInt8, v.toUInt8]

/-- A segment in an IPv4 packet, both without options. -/
def ipv4Tcp (seg : TcpSegment) : List UInt8 :=
  [0x45, 0] ++ putBe16 (UInt16.ofNat (40 + seg.payload.length)) ++ [0, 0, 0x40, 0, 64, ipProtoTcp, 0, 0] ++
    writeBe32 seg.srcIp ++ writeBe32 seg.dstIp ++ putBe16 seg.srcPort ++ putBe16 seg.dstPort ++
    writeBe32 seg.seq ++ writeBe32 seg.ack ++ [0x50, seg.flags, 0x10, 0, 0, 0, 0, 0] ++ seg.payload

/-- The packet in a frame, cut to the MTU. -/
def tcpFrame (seg : TcpSegment) : Frame where
  ethType := ethTypeIpv4
  data := (ipv4Tcp seg).take netstackMtu
  fits := List.length_take_le _ _

/-! ## The endpoint -/

/-- `netstack_tcp_server_state_t`. -/
inductive TcpServerState
  | closed
  | listen
  | synRcvd
  | established
deriving DecidableEq, Repr

/-- `netstack_tcp_server_t`. -/
structure TcpServer where
  enabled : Bool
  state : TcpServerState
  listenPort : UInt16
  remotePort : UInt16
  remoteIp : UInt32
  seq : UInt32
  ack : UInt32
  connections : UInt32
deriving DecidableEq, Repr

/-- A zeroed `netstack_tcp_server_t`. -/
def TcpServer.zero : TcpServer := ⟨false, .closed, 0, 0, 0, 0, 0, 0⟩

/-- What one call sees of the outside: `sendOk` when the segment it sends is
accepted by the driver, `frame` what `recv_frame` returns. -/
structure NetInput where
  ipv4Ready : Bool
  ip : UInt32
  ticks : UInt64
  sendOk : Bool
  frame : Option Frame

/-- The result of `netstack_tcp_server_poll`: the return value, the endpoint and
the received bytes. -/
structure TcpPoll where
  rc : Int
  srv : TcpServer
  rx : List UInt8

/-- `netstack_tcp_server_init`. -/
def netstackTcpServerInit (port : UInt16) : TcpServer :=
  { TcpServer.zero with enabled := true, state := .listen, listenPort := port }

/-- `tcp_server_send` of `len` bytes: 24 bytes of header with `SYN`, else 20, and 20
of IPv4 within the MTU. -/
def tcpServerSend (net : NetInput) (header len : Nat) : Bool :=
  decide (header + len ≤ netstackMtu - 20) && net.sendOk

/-- `tcp_server_reset_peer`. -/
def tcpServerResetPeer (srv : TcpServer) : TcpServer :=
  { srv with
    state := if srv.enabled then .listen else .closed
    remoteIp := 0
    remotePort := 0
    seq := 0
    ack := 0 }

/-- `netstack_tcp_server_close`: the `FIN` advances a number that
`tcp_server_reset_peer` then clears. -/
def netstackTcpServerClose (srv : TcpServer) : TcpServer :=
  tcpServerResetPeer { srv with enabled := false }

/-- A segment for the endpoint in state `LISTEN`. -/
def tcpServerListen (net : NetInput) (srv : TcpServer) (seg : TcpSegment) : TcpPoll :=
  if !seg.has tcpSyn then ⟨0, srv, []⟩
  else
    let srv := { srv with
      remoteIp := seg.srcIp
      remotePort := seg.srcPort
      seq := 0x53534800 ^^^ net.ticks.toUInt32
      ack := seg.seq + 1
      connections := srv.connections + 1
      state := .synRcvd }
    if tcpServerSend net 24 0 then ⟨2, srv, []⟩ else ⟨-3, tcpServerResetPeer srv, []⟩

/-- A segment of the peer, in state `SYN_RCVD`. -/
def tcpServerSynRcvd (srv : TcpServer) (seg : TcpSegment) : TcpPoll :=
  if seg.has tcpSyn && !seg.has tcpAck then ⟨2, srv, []⟩
  else if seg.has tcpAck && seg.ack == srv.seq + 1 then
    ⟨3, { srv with seq := srv.seq + 1, state := .established }, []⟩
  else ⟨0, srv, []⟩

/-- A segment of the peer, in state `ESTABLISHED`. -/
def tcpServerEstablished (srv : TcpServer) (seg : TcpSegment) (rxCap : Nat) : TcpPoll :=
  if seg.has tcpFin then ⟨5, tcpServerResetPeer { srv with ack := seg.seq + 1 }, []⟩
  else if seg.payload.length > 0 then
    if seg.seq = srv.ack then
      ⟨6, { srv with ack := srv.ack + UInt32.ofNat seg.payload.length }, seg.payload.take rxCap⟩
    else ⟨7, srv, []⟩
  else if seg.has tcpAck then ⟨8, srv, []⟩
  else ⟨0, srv, []⟩

/-- A segment addressed to the endpoint. -/
def tcpServerSegment (net : NetInput) (srv : TcpServer) (seg : TcpSegment) (rxCap : Nat) : TcpPoll :=
  if srv.state = .listen then tcpServerListen net srv seg
  else if srv.remoteIp ≠ seg.srcIp ∨ srv.remotePort ≠ seg.srcPort then ⟨0, srv, []⟩
  else if seg.has tcpRst then ⟨-4, tcpServerResetPeer srv, []⟩
  else if srv.state = .synRcvd then tcpServerSynRcvd srv seg
  else if srv.state ≠ .established then ⟨0, srv, []⟩
  else tcpServerEstablished srv seg rxCap

/-- The received frame; an ARP frame is answered outside the endpoint. -/
def tcpServerFrame (net : NetInput) (srv : TcpServer) (frame : Frame) (rxCap : Nat) : TcpPoll :=
  if frame.ethType = ethTypeArp then ⟨1, srv, []⟩
  else if frame.ethType ≠ ethTypeIpv4 then ⟨0, srv, []⟩
  else
    match parseIpv4Tcp frame.data with
    | none => ⟨0, srv, []⟩
    | some seg =>
        if seg.dstIp ≠ net.ip ∨ seg.dstPort ≠ srv.listenPort then ⟨0, srv, []⟩
        else tcpServerSegment net srv seg rxCap

/-- `netstack_tcp_server_poll`; no bytes to send are the `NULL` pointer or the
length 0. -/
def netstackTcpServerPoll (net : NetInput) (srv : TcpServer) (tx : List UInt8) (rxCap : Nat) :
    TcpPoll :=
  if !srv.enabled || srv.state == .closed then ⟨0, srv, []⟩
  else if !net.ipv4Ready then ⟨-1, srv, []⟩
  else if srv.state == .established && tx ≠ [] then
    if tcpServerSend net 20 tx.length then
      ⟨4, { srv with seq := srv.seq + UInt32.ofNat tx.length }, []⟩
    else ⟨-2, srv, []⟩
  else
    match net.frame with
    | none => ⟨0, srv, []⟩
    | some frame => if frame.data = [] then ⟨0, srv, []⟩ else tcpServerFrame net srv frame rxCap

/-! ## What one call can do -/

/-- The endpoint has a peer. -/
def TcpServer.HasPeer (srv : TcpServer) : Prop := srv.state = .synRcvd ∨ srv.state = .established

/-- What a call of `netstack_tcp_server_poll` can do: send the bytes, receive bytes
from the peer, open a connection, or none of these. -/
inductive TcpPollOutcome (srv : TcpServer) (tx : List UInt8) (rxCap : Nat) (r : TcpPoll) : Prop
  | sent (hrc : r.rc = 4) (hrx : r.rx = []) (hstate : srv.state = .established)
      (hconn : r.srv.connections = srv.connections) (hpeer : r.srv.HasPeer)
  | received (hrc : r.rc = 6) (htx : tx = []) (hstate : srv.state = .established)
      (hlen : r.rx.length ≤ rxCap) (hconn : r.srv.connections = srv.connections)
      (hpeer : r.srv.HasPeer)
  | connected (hrx : r.rx = []) (hrc : r.rc ≠ 4) (hstate : srv.state = .listen)
      (hconn : r.srv.connections = srv.connections + 1)
  | quiet (hrx : r.rx = []) (hrc : r.rc ≠ 4) (hconn : r.srv.connections = srv.connections)
      (hpeer : r.srv.HasPeer → srv.HasPeer)

variable {net : NetInput} {srv : TcpServer} {seg : TcpSegment} {tx : List UInt8} {rxCap : Nat}

theorem TcpServer.not_hasPeer_resetPeer (srv : TcpServer) : ¬ (tcpServerResetPeer srv).HasPeer := by
  cases henabled : srv.enabled <;> simp [HasPeer, tcpServerResetPeer, henabled]

theorem TcpPollOutcome.same {rc : Int} (hrc : rc ≠ 4) : TcpPollOutcome srv tx rxCap ⟨rc, srv, []⟩ :=
  .quiet rfl hrc rfl id

theorem TcpPollOutcome.opened {rc : Int} {srv' : TcpServer} (hrc : rc ≠ 4)
    (hstate : srv.state = .listen) (hconn : srv'.connections = srv.connections + 1) :
    TcpPollOutcome srv tx rxCap ⟨rc, srv', []⟩ :=
  .connected rfl hrc hstate hconn

theorem TcpPollOutcome.peerGone {rc : Int} {srv' : TcpServer} (hrc : rc ≠ 4)
    (hconn : srv'.connections = srv.connections) :
    TcpPollOutcome srv tx rxCap ⟨rc, tcpServerResetPeer srv', []⟩ :=
  .quiet rfl hrc hconn fun h => absurd h (TcpServer.not_hasPeer_resetPeer srv')

theorem tcpServerListen_outcome (h : srv.state = .listen) :
    TcpPollOutcome srv tx rxCap (tcpServerListen net srv seg) := by
  unfold tcpServerListen
  split
  · exact .same (by decide)
  split
  · exact .opened (by decide) h rfl
  · exact .opened (by decide) h rfl

theorem tcpServerSynRcvd_outcome (h : srv.state = .synRcvd) :
    TcpPollOutcome srv tx rxCap (tcpServerSynRcvd srv seg) := by
  unfold tcpServerSynRcvd
  split
  · exact .same (by decide)
  split
  · exact .quiet rfl (by simp) rfl fun _ => .inl h
  · exact .same (by decide)

theorem tcpServerEstablished_outcome (h : srv.state = .established)
    (htx : tx = [] ∨ srv.state ≠ .established) :
    TcpPollOutcome srv tx rxCap (tcpServerEstablished srv seg rxCap) := by
  unfold tcpServerEstablished
  split
  · exact .peerGone (by decide) rfl
  split
  · split
    · exact .received rfl (htx.resolve_right (not_not.mpr h)) h (List.length_take_le _ _) rfl
        (.inr h)
    · exact .same (by decide)
  split
  · exact .same (by decide)
  · exact .same (by decide)

theorem tcpServerSegment_outcome (htx : tx = [] ∨ srv.state ≠ .established) :
    TcpPollOutcome srv tx rxCap (tcpServerSegment net srv seg rxCap) := by
  unfold tcpServerSegment
  split
  next h => exact tcpServerListen_outcome h
  split
  · exact .same (by decide)
  split
  · exact .peerGone (by decide) rfl
  split
  next h => exact tcpServerSynRcvd_outcome h
  split
  · exact .same (by decide)
  next h => exact tcpServerEstablished_outcome (not_not.mp h) htx

theorem tcpServerFrame_outcome (frame : Frame) (htx : tx = [] ∨ srv.state ≠ .established) :
    TcpPollOutcome srv tx rxCap (tcpServerFrame net srv frame rxCap) := by
  unfold tcpServerFrame
  split
  · exact .same (by decide)
  split
  · exact .same (by decide)
  split
  · exact .same (by decide)
  split
  · exact .same (by decide)
  · exact tcpServerSegment_outcome htx

theorem netstackTcpServerPoll_outcome (net : NetInput) (srv : TcpServer) (tx : List UInt8)
    (rxCap : Nat) : TcpPollOutcome srv tx rxCap (netstackTcpServerPoll net srv tx rxCap) := by
  unfold netstackTcpServerPoll
  split
  · exact .same (by decide)
  split
  · exact .same (by decide)
  split
  next hsend =>
    rw [Bool.and_eq_true, beq_iff_eq, decide_eq_true_eq] at hsend
    split
    · exact .sent rfl rfl hsend.1 rfl (.inr hsend.1)
    · exact .same (by decide)
  next hsend =>
  have htx : tx = [] ∨ srv.state ≠ .established := by
    rw [Bool.and_eq_true, beq_iff_eq, decide_eq_true_eq] at hsend
    by_cases htx : tx = []
    · exact .inl htx
    · exact .inr fun h => hsend ⟨h, htx⟩
  split
  · exact .same (by decide)
  next frame _ =>
  split
  · exact .same (by decide)
  · exact tcpServerFrame_outcome frame htx

end Orizon
