import Orizon.Net.TcpServer

/-!
# Orizon.Net.TcpClient

The receive loops of the TCP client of `drivers/netstack.c`, `tcp_recv_all` and
`tcp_recv_bytes`, with the deadline they wait for.

One turn of a loop reads the clock, takes what `recv_frame` returns and answers
with an `ACK` whose fate it does not ask for; clock and frame are the input of
the turn (`NetTurn`).  The hardware address of the peer and the status text
decide nothing and are left out.
-/

namespace Orizon

/-! ## Deadlines -/

/-- `TIMER_HZ`. -/
def timerHz : UInt64 := 100

/-- `NETSTACK_FALLBACK_WAITS_PER_MS`. -/
def netstackFallbackWaitsPerMs : UInt64 := 16

/-- A deadline with the `net_deadline_*` counters, which bound the turns taken
while the clock stands still. -/
structure NetDeadline where
  deadline : UInt64
  lastTick : UInt64
  fallbackUsed : UInt64
  fallbackBudget : UInt64
deriving DecidableEq, Repr

/-- `deadline_from_ms`. -/
def deadlineFromMs (ms now : UInt64) : NetDeadline :=
  let ticks := (ms * timerHz + 999) / 1000
  { deadline := now + if ticks = 0 then 1 else ticks
    lastTick := now
    fallbackUsed := 0
    fallbackBudget := ms * netstackFallbackWaitsPerMs + 512 }

/-- `before_deadline`; `none` when the time is over. -/
def beforeDeadline (d : NetDeadline) (now : UInt64) : Option NetDeadline :=
  if now > d.deadline then none
  else if now ≠ d.lastTick then some { d with lastTick := now, fallbackUsed := 0 }
  else if d.fallbackUsed ≥ d.fallbackBudget then none
  else some { d with fallbackUsed := d.fallbackUsed + 1 }

/-! ## TLS records in a buffer -/

/-! ## The loops -/

/-- `tcp_conn_t`. -/
structure TcpConn where
  remoteIp : UInt32
  remotePort : UInt16
  localPort : UInt16
  seq : UInt32
  ack : UInt32
deriving DecidableEq, Repr

/-- What one turn of a loop sees of the outside: the clock, what `recv_frame`
returns, and the clock again when a new deadline is set. -/
structure NetTurn where
  ticks : UInt64
  frame : Option Frame
  renewTicks : UInt64

/-- How a loop ended. -/
inductive TcpRecvEnd
  | timeout
  | reset
  | enough
  | fin
deriving DecidableEq, Repr

/-- What the two loops do in their own way: the times they wait, how much of a
payload they copy when `used` bytes are collected, when they have enough, and
what they return.  A loop that cut a payload copies nothing any more. -/
structure TcpRecvRule where
  waitMs : UInt64
  renewMs : UInt64
  copy : Nat → Nat → Nat
  enough : List UInt8 → Bool
  result : TcpRecvEnd → Nat → Int
  copy_le : ∀ used len, copy used len ≤ len
  copy_cut : ∀ used len more, 0 < more → copy used len < len → copy (used + copy used len) more = 0

/-- `tcp_recv_all` into `out[out_cap]`, where the last byte is kept for the `NUL`. -/
def tcpRecvAll (outCap : Nat) : TcpRecvRule where
  waitMs := 9000
  renewMs := 1500
  copy used len := if 0 < outCap ∧ used + len ≥ outCap then outCap - used - 1 else len
  enough _ := false
  result
    | .reset, _ => -1
    | .fin, _ => 0
    | _, used => if used > 0 then 0 else -1
  copy_le used len := by split <;> omega
  copy_cut used len more hmore := by split <;> (try split) <;> omega

/-- A receive loop at the head of a turn; `ended` once it has been left. -/
structure TcpRecvLoop where
  rule : TcpRecvRule
  conn : TcpConn
  out : List UInt8
  deadline : NetDeadline
  ended : Option TcpRecvEnd

/-- The return value of a loop that has ended. -/
def TcpRecvLoop.rc (loop : TcpRecvLoop) : Option Int :=
  loop.ended.map fun how => loop.rule.result how loop.out.length

/-- A loop is entered. -/
def tcpRecvStart (rule : TcpRecvRule) (conn : TcpConn) (now : UInt64) : TcpRecvLoop :=
  { rule := rule, conn := conn, out := [], deadline := deadlineFromMs rule.waitMs now, ended := none }

/-- The segment in a received frame, when it belongs to the connection.  An ARP
frame is answered outside the loop. -/
def tcpConnSegment (conn : TcpConn) (frame : Frame) : Option TcpSegment :=
  if frame.ethType ≠ ethTypeIpv4 then none
  else
    match parseIpv4Tcp frame.data with
    | none => none
    | some seg =>
        if seg.srcIp ≠ conn.remoteIp ∨ seg.srcPort ≠ conn.remotePort ∨
            seg.dstPort ≠ conn.localPort then none
        else some seg

/-- The payload is the next one the connection waits for. -/
def TcpRecvLoop.accepts (loop : TcpRecvLoop) (seg : TcpSegment) : Bool :=
  decide (0 < seg.payload.length) && seg.seq == loop.conn.ack

/-- The payload of a segment. -/
def tcpRecvPayload (loop : TcpRecvLoop) (seg : TcpSegment) (now : UInt64) : TcpRecvLoop :=
  if loop.accepts seg then
    let loop := { loop with
      out := loop.out ++ seg.payload.take (loop.rule.copy loop.out.length seg.payload.length)
      conn := { loop.conn with ack := loop.conn.ack + UInt32.ofNat seg.payload.length } }
    if loop.rule.enough loop.out then { loop with ended := some .enough }
    else { loop with deadline := deadlineFromMs loop.rule.renewMs now }
  else loop

/-- The `FIN` of a segment. -/
def tcpRecvFin (loop : TcpRecvLoop) (seg : TcpSegment) : TcpRecvLoop :=
  if loop.ended.isNone && seg.has tcpFin then
    { loop with conn := { loop.conn with ack := loop.conn.ack + 1 }, ended := some .fin }
  else loop

/-- A segment of the connection. -/
def tcpRecvSegment (loop : TcpRecvLoop) (seg : TcpSegment) (now : UInt64) : TcpRecvLoop :=
  if seg.has tcpRst then { loop with ended := some .reset }
  else tcpRecvFin (tcpRecvPayload loop seg now) seg

/-- The segment a running loop reads in a turn. -/
def tcpTurnSegment (loop : TcpRecvLoop) (turn : NetTurn) : Option TcpSegment :=
  turn.frame.bind (tcpConnSegment loop.conn)

/-- One turn of `while (before_deadline(deadline))`. -/
def tcpRecvTurn (loop : TcpRecvLoop) (turn : NetTurn) : TcpRecvLoop :=
  if loop.ended.isSome then loop
  else
    match beforeDeadline loop.deadline turn.ticks with
    | none => { loop with ended := some .timeout }
    | some deadline =>
        let loop := { loop with deadline := deadline }
        match tcpTurnSegment loop turn with
        | none => loop
        | some seg => tcpRecvSegment loop seg turn.renewTicks

end Orizon
