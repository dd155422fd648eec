import Orizon.Net.TcpStream

/-!
# Orizon.Net.TcpServerStream

What the listening endpoint returns of the byte stream of its peer, over the
life of one connection: from the `SYN` to the reset of the peer.

The peer sends its stream in segments cut at any place; the network drops,
repeats and reorders them.  `TcpServing.Good` says that the bytes returned so
far are the stream up to what has been acknowledged, and the whole stream once
a `FIN` has been honoured.

* `tcpServing_good` -- the connection stays good while its calls meet `TcpServing.Meets`;
* `tcpServing_short_buffer` -- a buffer shorter than the segment loses acknowledged bytes.
-/

namespace Orizon

/-! ## One connection -/

/-- A connection of the endpoint: what the calls have returned, how many sequence
numbers from the first byte are acknowledged, and whether a `FIN` was honoured.
No code reads the last three. -/
structure TcpServing where
  srv : TcpServer
  returned : List UInt8
  acked : Nat
  finished : Bool

/-- The connection after the `SYN` has been answered. -/
def tcpServingStart (srv : TcpServer) : TcpServing :=
  { srv := srv, returned := [], acked := 0, finished := false }

/-- The endpoint has answered the `SYN` of the peer, whose number is the one before the
first byte. -/
def TcpPeer.Opened (peer : TcpPeer) (srv : TcpServer) : Prop :=
  srv.state = .synRcvd ∧ srv.ack = peer.first

/-- A step in the life of a connection: a call of `netstack_tcp_server_poll`, in
which `off` is where in the stream the received segment was cut, or the
endpoint is closed. -/
inductive TcpServeStep
  | poll (net : NetInput) (tx : List UInt8) (rxCap : Nat) (off : Nat)
  | close

/-- The segment of the peer that a call is about. -/
def TcpServer.takes (srv : TcpServer) (net : NetInput) (tx : List UInt8) : Option TcpSegment :=
  if !srv.enabled || !net.ipv4Ready || (srv.state == .established && tx ≠ []) then none
  else
    match net.frame with
    | none => none
    | some frame =>
        if frame.data = [] ∨ frame.ethType ≠ ethTypeIpv4 then none
        else (parseIpv4Tcp frame.data).filter fun seg =>
          seg.dstIp = net.ip ∧ seg.dstPort = srv.listenPort ∧ srv.remoteIp = seg.srcIp ∧
            srv.remotePort = seg.srcPort

/-- What the acknowledgement that answers the segment covers: a `FIN` is answered
with the number after its own. -/
def TcpServing.acks (r : TcpServing) (seg : TcpSegment) (off : Nat) : Nat :=
  if r.srv.state ≠ .established ∨ seg.has tcpRst then r.acked
  else if seg.has tcpFin then max r.acked (off + 1)
  else if seg.payload.length > 0 ∧ seg.seq = r.srv.ack then r.acked + seg.payload.length
  else r.acked

/-- A step of the connection; when the peer is reset its life is over. -/
def tcpServeStep (r : TcpServing) : TcpServeStep → TcpServing
  | .poll net tx rxCap off =>
      if r.srv.state = .synRcvd ∨ r.srv.state = .established then
        let result := netstackTcpServerPoll net r.srv tx rxCap
        { srv := result.srv
          returned := r.returned ++ result.rx
          acked := ((r.srv.takes net tx).map fun seg => r.acks seg off).getD r.acked
          finished := r.finished || result.rc == 5 }
      else r
  | .close => { r with srv := netstackTcpServerClose r.srv }

/-- The returned bytes are the stream up to what is acknowledged, and all of it when a
`FIN` was honoured. -/
def TcpServing.Good (peer : TcpPeer) (r : TcpServing) : Prop :=
  r.returned = peer.stream.take r.acked ∧ (r.finished = true → r.returned = peer.stream)

/-- The segment a call is about is one the peer sends. -/
def TcpServing.From (peer : TcpPeer) (r : TcpServing) : TcpServeStep → Prop
  | .poll net tx _ off => ∀ seg, r.srv.takes net tx = some seg → peer.Sends seg off
  | .close => True

/-- The awaited bytes fit the buffer and are not old ones that 2 ^ 32 bytes later have
the awaited number; and a `FIN` comes when everything before it is acknowledged. -/
structure TcpServing.MeetsSegment (r : TcpServing) (seg : TcpSegment) (rxCap off : Nat) : Prop where
  fresh : seg.has tcpFin = false → 0 < seg.payload.length → seg.seq = r.srv.ack → off = r.acked
  room : seg.has tcpFin = false → 0 < seg.payload.length → seg.seq = r.srv.ack →
    seg.payload.length ≤ rxCap
  arrived : seg.has tcpFin = true → off + seg.payload.length = r.acked

/-- When a step keeps a good connection good. -/
def TcpServing.Meets (r : TcpServing) : TcpServeStep → Prop
  | .poll net tx rxCap off => ∀ seg, r.srv.takes net tx = some seg →
      r.srv.state = .established → seg.has tcpRst = false → r.MeetsSegment seg rxCap off
  | .close => True

/-! ## One step -/

variable {peer : TcpPeer} {r : TcpServing} {srv : TcpServer} {net : NetInput} {tx : List UInt8}
  {rxCap : Nat}

theorem TcpServer.HasPeer.not_listen (hpeer : srv.HasPeer) : srv.state ≠ .listen ∧ srv.state ≠ .closed := by
  rcases hpeer with h | h <;> simp [h]

theorem netstackTcpServerPoll_idle (rxCap : Nat) (hpeer : srv.HasPeer) (h : srv.takes net tx = none) :
    (netstackTcpServerPoll net srv tx rxCap).rx = [] ∧
      (netstackTcpServerPoll net srv tx rxCap).rc ≠ 5 ∧
      (netstackTcpServerPoll net srv tx rxCap).srv.state = srv.state ∧
      (netstackTcpServerPoll net srv tx rxCap).srv.ack = srv.ack := by
  obtain ⟨hlisten, hclosed⟩ := hpeer.not_listen
  unfold netstackTcpServerPoll
  split
  · simp
  next henabled =>
  split
  · simp
  next hready =>
  split
  · split <;> simp
  next hsend =>
  rw [TcpServer.takes, if_neg (by simp_all)] at h
  split
  · simp
  next frame hframe =>
  split
  · simp
  next hdata =>
  unfold tcpServerFrame
  split
  · simp
  next harp =>
  split
  · simp
  next hip =>
  simp only [hframe, hdata, hip, false_or, if_false] at h
  split
  · simp
  next seg hseg =>
  split
  · simp
  next haddr =>
  simp only [not_or, ne_eq, not_not] at haddr
  have hother : srv.remoteIp ≠ seg.srcIp ∨ srv.remotePort ≠ seg.srcPort := by
    by_contra hsame
    simp only [not_or, ne_eq, not_not] at hsame
    simp [hseg, Option.filter, haddr, hsame] at h
  rw [tcpServerSegment, if_neg hlisten, if_pos hother]
  simp

theorem netstackTcpServerPoll_takes (rxCap : Nat) {seg : TcpSegment} (hpeer : srv.HasPeer)
    (h : srv.takes net tx = some seg) :
    netstackTcpServerPoll net srv tx rxCap =
      if seg.has tcpRst then ⟨-4, tcpServerResetPeer srv, []⟩
      else if srv.state = .synRcvd then tcpServerSynRcvd srv seg
      else tcpServerEstablished srv seg rxCap := by
  obtain ⟨hlisten, hclosed⟩ := hpeer.not_listen
  rw [TcpServer.takes] at h
  split at h
  · simp at h
  next hopen =>
  simp only [Bool.or_eq_true, not_or, Bool.not_eq_true, Bool.not_eq_false'] at hopen
  obtain ⟨⟨henabled, hready⟩, hsend⟩ := hopen
  split at h
  · simp at h
  next frame hframe =>
  split at h
  · simp at h
  next hdata =>
  simp only [not_or, ne_eq, not_not] at hdata
  rw [Option.filter_eq_some_iff] at h
  obtain ⟨hparse, hseg⟩ := h
  simp only [decide_eq_true_eq] at hseg
  have harp : ethTypeIpv4 ≠ ethTypeArp := by decide
  rw [netstackTcpServerPoll, if_neg (by simp [henabled, hclosed]), if_neg (by simp [hready]),
    if_neg (by simpa using hsend), hframe]
  simp only
  rw [if_neg hdata.1, tcpServerFrame, hdata.2, if_neg harp, if_neg (by simp), hparse]
  simp only
  rw [if_neg (by simp [hseg]), tcpServerSegment, if_neg hlisten, if_neg (by simp [hseg])]
  rcases hpeer with hstate | hstate <;> simp [hstate]

/-- What every step keeps: the connection is good, and while it lives the awaited
number is the one of the next byte. -/
structure TcpServing.Inv (peer : TcpPeer) (r : TcpServing) : Prop where
  good : r.Good peer
  acked_le : r.srv.HasPeer → r.acked ≤ peer.stream.length
  number : r.srv.HasPeer → r.srv.ack = peer.first + UInt32.ofNat r.acked

theorem TcpServing.Inv.of_over (hgood : r.Good peer) (hover : ¬ r.srv.HasPeer) : r.Inv peer :=
  ⟨hgood, fun h => absurd h hover, fun h => absurd h hover⟩

theorem TcpServing.Good.more (h : r.Good peer) {payload : List UInt8}
    (hpre : payload <+: peer.stream.drop r.acked) :
    r.returned ++ payload = peer.stream.take (r.acked + payload.length) := by
  rw [List.take_add, ← h.1, ← List.prefix_iff_eq_take.mp hpre]

/-- Before the connection is established nothing is taken from a segment. -/
theorem TcpServing.Inv.synRcvd (h : r.Inv peer) (hstate : r.srv.state = .synRcvd) {seg : TcpSegment} :
    TcpServing.Inv peer
      { srv := (tcpServerSynRcvd r.srv seg).srv
        returned := r.returned ++ (tcpServerSynRcvd r.srv seg).rx
        acked := r.acked
        finished := r.finished || (tcpServerSynRcvd r.srv seg).rc == 5 } := by
  have hpeer : r.srv.HasPeer := .inl hstate
  unfold tcpServerSynRcvd
  split
  · simpa using h
  split
  · exact ⟨by simpa [Good] using h.good, fun _ => h.acked_le hpeer, fun _ => h.number hpeer⟩
  · simpa using h

theorem TcpServing.Inv.established (h : r.Inv peer) (hstate : r.srv.state = .established)
    {seg : TcpSegment} {off : Nat} (hsends : peer.Sends seg off) (hrst : seg.has tcpRst = false)
    (hmeets : r.MeetsSegment seg rxCap off) :
    TcpServing.Inv peer
      { srv := (tcpServerEstablished r.srv seg rxCap).srv
        returned := r.returned ++ (tcpServerEstablished r.srv seg rxCap).rx
        acked := r.acks seg off
        finished := r.finished || (tcpServerEstablished r.srv seg rxCap).rc == 5 } := by
  have hpeer : r.srv.HasPeer := .inr hstate
  have hacked := h.acked_le hpeer
  unfold tcpServerEstablished
  split
  next hfin =>
    -- everything before the `FIN` is acknowledged, so it is the end of the stream
    have hend : r.acked = peer.stream.length := by
      rcases hsends with ⟨-, hno⟩ | ⟨-, -, -, hlast⟩
      · simp [hfin] at hno
      · rw [← hmeets.arrived hfin, hlast hfin]
    have hwhole : r.returned = peer.stream := by rw [h.good.1, hend, List.take_length]
    refine .of_over ⟨?_, fun _ => ?_⟩ (TcpServer.not_hasPeer_resetPeer _)
    · simp only [List.append_nil, acks, hstate, hrst, hfin]
      simp only [ne_eq, not_true_eq_false, Bool.false_eq_true, or_self, if_false, if_true]
      rw [List.take_of_length_le (by omega), hwhole]
    · simpa using hwhole
  next hfin =>
  have hfin : seg.has tcpFin = false := by simpa using hfin
  have hacks : r.acks seg off = if seg.payload.length > 0 ∧ seg.seq = r.srv.ack
      then r.acked + seg.payload.length else r.acked := by
    simp [acks, hstate, hrst, hfin]
  rw [hacks]
  split
  next hpos =>
    split
    next hseq =>
      have hoff := hmeets.fresh hfin hpos hseq
      have hpre : seg.payload <+: peer.stream.drop r.acked := by
        rcases hsends with ⟨hnil, -⟩ | ⟨-, hpre, -, -⟩
        · simp [hnil] at hpos
        · rwa [hoff] at hpre
      have hlen : r.acked + seg.payload.length ≤ peer.stream.length := by
        have := hpre.length_le
        rw [List.length_drop] at this
        omega
      have hfits := hmeets.room hfin hpos hseq
      have hmore := h.good.more hpre
      rw [if_pos ⟨hpos, hseq⟩, List.take_of_length_le hfits]
      refine ⟨⟨hmore, fun hfinished => ?_⟩, fun _ => hlen, fun _ => ?_⟩
      · -- nothing follows a honoured `FIN`
        have hwhole := h.good.2 (by simpa using hfinished)
        have hlast : r.acked = peer.stream.length := by
          have := congrArg List.length (h.good.1.symm.trans hwhole)
          rw [List.length_take] at this
          omega
        omega
      · simp only
        rw [h.number hpeer, UInt32.add_assoc, ← UInt32.ofNat_add]
    next hseq =>
      rw [if_neg (fun hboth => hseq hboth.2)]
      simpa using h
  next hpos =>
    have hnone : ¬ (seg.payload.length > 0 ∧ seg.seq = r.srv.ack) := fun hboth => hpos hboth.1
    simp only [if_neg hnone]
    split <;> simpa using h

theorem TcpServing.Inv.step (h : r.Inv peer) {step : TcpServeStep} (hfrom : r.From peer step)
    (hmeets : r.Meets step) : (tcpServeStep r step).Inv peer := by
  cases step with
  | close => exact .of_over h.good (TcpServer.not_hasPeer_resetPeer _)
  | poll net tx rxCap off =>
      rw [tcpServeStep]
      split
      next hpeer =>
        cases htakes : r.srv.takes net tx with
        | none =>
            obtain ⟨hrx, hrc, hstate, hack⟩ := netstackTcpServerPoll_idle rxCap hpeer htakes
            have hfin : (r.finished || (netstackTcpServerPoll net r.srv tx rxCap).rc == 5) = r.finished := by
              simp [hrc]
            simp only [hrx, List.append_nil, Option.map_none, Option.getD_none, hfin]
            refine ⟨h.good, fun _ => h.acked_le hpeer, fun _ => ?_⟩
            simp only [hack]
            exact h.number hpeer
        | some seg =>
            have hsends := hfrom seg htakes
            rw [netstackTcpServerPoll_takes rxCap hpeer htakes]
            simp only [Option.map_some, Option.getD_some]
            split
            next hrst =>
              have hacks : r.acks seg off = r.acked := by simp [acks, hrst]
              simp only [hacks, List.append_nil]
              exact .of_over (by simpa [Good] using h.good) (TcpServer.not_hasPeer_resetPeer _)
            next hrst =>
            split
            next hsyn =>
              have hacks : r.acks seg off = r.acked := by simp [acks, hsyn]
              simp only [hacks]
              exact h.synRcvd hsyn
            next hsyn =>
              have hrst : seg.has tcpRst = false := by simpa using hrst
              have hestablished := hpeer.resolve_left hsyn
              exact h.established hestablished hsends hrst (hmeets seg htakes hestablished hrst)
      · exact h

/-! ## Runs -/

/-- A connection starts when the endpoint in state `LISTEN` answers a `SYN`. -/
theorem tcpServerListen_opened {seg : TcpSegment} (hsyn : seg.has tcpSyn = true)
    (hsend : tcpServerSend net 24 0 = true) (hseq : seg.seq + 1 = peer.first) :
    peer.Opened (tcpServerListen net srv seg).srv := by
  rw [tcpServerListen, if_neg (by simp [hsyn])]
  simp only [hsend, if_true]
  exact ⟨rfl, hseq⟩

/-- Every life of a connection: while the calls meet it, the returned bytes are the
stream of the peer up to what is acknowledged, and the whole of it when a `FIN` was
honoured. -/
theorem tcpServing_good (peer : TcpPeer) (srv : TcpServer) (steps : List TcpServeStep)
    (hopened : peer.Opened srv)
    (hsteps : AllSteps tcpServeStep (fun r step => r.From peer step ∧ r.Meets step)
      (tcpServingStart srv) steps) :
    AllStates tcpServeStep (TcpServing.Good peer) (tcpServingStart srv) steps := by
  have hstart : (tcpServingStart srv).Inv peer := by
    refine ⟨⟨?_, ?_⟩, fun _ => Nat.zero_le _, fun _ => ?_⟩
    · simp [tcpServingStart]
    · simp [tcpServingStart]
    · simp [tcpServingStart, hopened.2]
  exact allStates_of_allSteps (fun _ _ hinv hok => hinv.step hok.1 hok.2) (fun _ hinv => hinv.good)
    hstart hsteps

/-! ## Sample runs -/

/-- A segment of the sample peer for port 22. -/
def sampleClientSegment (seq ack : UInt32) (flags : UInt8) (payload : List UInt8) : TcpSegment :=
  { srcIp := 0x0a000001, dstIp := 0x0a000002, srcPort := 50000, dstPort := 22, seq := seq, ack := ack,
    flags := flags, payload := payload }

/-- What a call sees when a segment arrives. -/
def sampleArrival (seg : TcpSegment) : NetInput :=
  { ipv4Ready := true, ip := 0x0a000002, ticks := 0, sendOk := true, frame := some (tcpFrame seg) }

/-- The endpoint after the `SYN` of the sample peer. -/
def sampleOpened : TcpServer :=
  (netstackTcpServerPoll (sampleArrival (sampleClientSegment 999 0 tcpSyn [])) (netstackTcpServerInit 22)
    [] 16).srv

/-- The `ACK` that ends the handshake. -/
def sampleHandshakeAck : TcpSegment := sampleClientSegment 1000 0x53534801 tcpAck []

/-- Both bytes of the stream. -/
def sampleBothBytes : TcpSegment := sampleClientSegment 1000 0x53534801 tcpAck [65, 66]

/-- The `FIN` after the second byte. -/
def sampleStreamFin : TcpSegment := sampleClientSegment 1002 0x53534801 tcpFin []

/-- The call in which a segment arrives, cut at `off`, with room for `rxCap` bytes. -/
def sampleServeCall (seg : TcpSegment) (rxCap off : Nat) : TcpServeStep :=
  .poll (sampleArrival seg) [] rxCap off

theorem tcpServing_good_sample :
    AllStates tcpServeStep (TcpServing.Good samplePeer) (tcpServingStart sampleOpened)
      [sampleServeCall sampleHandshakeAck 16 0, sampleServeCall sampleBothBytes 16 0,
        sampleServeCall sampleStreamFin 16 2] := by
  refine tcpServing_good samplePeer sampleOpened _ ⟨rfl, rfl⟩ ⟨⟨?_, ?_⟩, ⟨?_, ?_⟩, ⟨?_, ?_⟩, trivial⟩
  · intro seg hseg
    cases (show some sampleHandshakeAck = some seg from hseg)
    exact .inl ⟨rfl, by decide⟩
  · intro seg _ hstate
    exact absurd hstate (by decide)
  · intro seg hseg
    cases (show some sampleBothBytes = some seg from hseg)
    exact .inr ⟨rfl, by decide, by decide, by decide⟩
  · intro seg hseg _ _
    cases (show some sampleBothBytes = some seg from hseg)
    exact ⟨fun _ _ _ => rfl, fun _ _ _ => by decide, fun hfin => absurd hfin (by decide)⟩
  · intro seg hseg
    cases (show some sampleStreamFin = some seg from hseg)
    exact .inr ⟨rfl, by decide, by decide, by decide⟩
  · intro seg hseg _ _
    cases (show some sampleStreamFin = some seg from hseg)
    exact ⟨fun hfin => absurd hfin (by decide), fun hfin => absurd hfin (by decide), fun _ => rfl⟩

/-- The connection in which a buffer of one byte receives both bytes of the stream. -/
def sampleShortBuffer : TcpServing :=
  [sampleServeCall sampleHandshakeAck 1 0, sampleServeCall sampleBothBytes 1 0].foldl
    tcpServeStep (tcpServingStart sampleOpened)

/-- Both bytes are acknowledged and one of them is returned. -/
theorem tcpServing_short_buffer :
    samplePeer.Opened sampleOpened ∧
      AllSteps tcpServeStep (TcpServing.From samplePeer) (tcpServingStart sampleOpened)
        [sampleServeCall sampleHandshakeAck 1 0, sampleServeCall sampleBothBytes 1 0] ∧
      sampleShortBuffer.srv.ack = 1002 ∧ sampleShortBuffer.acked = 2 ∧
      sampleShortBuffer.returned = [65] ∧ ¬ sampleShortBuffer.Good samplePeer := by
  have hreturned : sampleShortBuffer.returned = [65] := rfl
  refine ⟨⟨rfl, rfl⟩, ⟨?_, ?_, trivial⟩, rfl, rfl, hreturned, fun hgood => ?_⟩
  · intro seg hseg
    cases (show some sampleHandshakeAck = some seg from hseg)
    exact .inl ⟨rfl, by decide⟩
  · intro seg hseg
    cases (show some sampleBothBytes = some seg from hseg)
    exact .inr ⟨rfl, by decide, by decide, by decide⟩
  · exact absurd (hreturned.symm.trans hgood.1) (by decide)

end Orizon
