import Orizon.Ssh.Handlers

/-!
# Orizon.Ssh.Service

The calls of the SSH server as sequences of moves: what `ssh_poll` receives and
sends, and `ssh_start`, `ssh_stop` and the administration around it.

Between two calls the server has seen every connection (`SshSettled`), so that a
session is reset only for a connection that was just opened, or without a peer.
Every state of a run is reached by moves (`sshRun_moves`).
-/

namespace Orizon

/-! ## Reception -/

/-- Nothing happened but in the packet layer's buffers and counters. -/
theorem SshServes.ofLink {env : SshEnv} {s : SshState} {link : SshLink} (h : link.core = s.neg.link.core) :
    SshServes env s { s with neg.link := link } := .quiet (.ofLink h)

variable (env : SshEnv) {s : SshState}

theorem sshProcessPacket_handler (origin : SshOrigin) (type : UInt8) (rest : List UInt8)
    (s : SshState) :
    SshHandlerMoves env (s.note (.packet origin (type :: rest) s.neg))
      (sshProcessPacket env origin (type :: rest) s) := sshDispatch_moves rfl

theorem sshProcessPacket_serves {origin : SshOrigin} (payload : List UInt8)
    (h : origin.Fits s.neg.link payload) (hpeer : s.server.HasPeer) :
    SshServes env s (sshProcessPacket env origin payload s) := by
  cases payload with
  | nil => exact .refl s
  | cons type rest =>
      have hpacket : SshMoves env s _ := .single (.packet origin (type :: rest) s h hpeer)
      have hhandler := sshProcessPacket_handler env origin type rest s
      exact ⟨hpacket.trans hhandler.moves, hhandler.frame.listener⟩

theorem sshProcessPacket_inEncrypted {origin : SshOrigin} (payload : List UInt8)
    (h : s.neg.link.inEncrypted = true) :
    (sshProcessPacket env origin payload s).neg.link.inEncrypted = true := by
  cases payload with
  | nil => exact h
  | cons type rest => exact (sshProcessPacket_handler env origin type rest s).frame.inEncrypted h

theorem sshTakeBinary_serves (payload : List UInt8) (totalLen : Nat)
    (h : s.neg.link.inEncrypted = false) (hpeer : s.server.HasPeer) :
    SshServes env s (sshTakeBinary env payload totalLen s) := by
  have hpacket : SshServes env s (sshProcessPacket env .clear payload s) :=
    sshProcessPacket_serves env payload h hpeer
  exact hpacket.trans (.ofLink rfl)

/-- While packets in clear are taken, the receiving side is not encrypted, or the
buffer is empty. -/
theorem sshDrainBinaryPackets_serves (fuel : Nat) (hpeer : s.server.HasPeer)
    (h : s.neg.link.inEncrypted = false ∨ s.neg.link.binaryRx = []) :
    SshServes env s (sshDrainBinaryPackets env fuel s) := by
  induction fuel generalizing s with
  | zero => exact .refl s
  | succ fuel ih =>
      unfold sshDrainBinaryPackets
      dsimp only
      split
      · exact .refl s
      next hrx =>
      have hclear : s.neg.link.inEncrypted = false := by
        obtain h | h := h
        · exact h
        · simp [h] at hrx
      split
      · exact .ofLink rfl
      split
      · exact .refl s
      split
      · refine SshServes.trans ?_ (ih hpeer (.inl hclear))
        exact .ofLink rfl
      have htake := sshTakeBinary_serves env
        (((s.neg.link.binaryRx).drop 5).take ((sshGetU32 s.neg.link.binaryRx 0).toNat -
          (s.neg.link.binaryRx.getD 4 0).toNat - 1))
        ((sshGetU32 s.neg.link.binaryRx 0).toNat + 4) hclear hpeer
      split
      · exact htake
      next hmore =>
      refine htake.trans (ih (htake.hasPeer hpeer) ?_)
      rwa [not_and_or, Bool.not_eq_true, not_not] at hmore

theorem sshCaptureBinary_serves (data : List UInt8) (hpeer : s.server.HasPeer)
    (h : s.neg.link.inEncrypted = false) : SshServes env s (sshCaptureBinary env data s) := by
  unfold sshCaptureBinary
  dsimp only
  split
  · exact .ofLink rfl
  · refine SshServes.trans ?_ (sshDrainBinaryPackets_serves env _ hpeer (.inl h))
    exact .ofLink rfl

theorem sshTakeEncrypted_serves {plain mac : List UInt8} (payloadLen totalLen : Nat)
    (h : SshOrigin.Fits s.neg.link ((plain.drop 5).take payloadLen) (.sealed plain mac))
    (hpeer : s.server.HasPeer) :
    SshServes env s (sshTakeEncrypted env plain mac payloadLen totalLen s) := by
  have hpacket := sshProcessPacket_serves env _ h hpeer
  exact hpacket.trans (.ofLink rfl)

theorem sshCheckEncrypted_serves (plain mac : List UInt8) (packetLen : Nat)
    (h : s.neg.link.inEncrypted = true) (hpeer : s.server.HasPeer) :
    SshServes env s (sshCheckEncrypted env plain mac packetLen s).2 ∧
      (sshCheckEncrypted env plain mac packetLen s).2.neg.link.inEncrypted = true := by
  unfold sshCheckEncrypted
  split
  · exact ⟨.ofLink rfl, h⟩
  next hmac =>
  dsimp only
  split
  · exact ⟨.ofLink rfl, h⟩
  · exact ⟨sshTakeEncrypted_serves env _ _ ⟨h, not_not.mp hmac, _, rfl⟩ hpeer,
      sshProcessPacket_inEncrypted env _ h⟩

theorem sshOpenEncrypted_serves (packetLen : Nat) (h : s.neg.link.inEncrypted = true)
    (hpeer : s.server.HasPeer) :
    SshServes env s (sshOpenEncrypted env packetLen s).2 ∧
      (sshOpenEncrypted env packetLen s).2.neg.link.inEncrypted = true := by
  have hopen : ∀ input, SshServes env s { s with neg.link.ctrC2s :=
      (aes128CtrCryptUpdate s.neg.link.keyC2s s.neg.link.ctrC2s input).2 } :=
    fun input => ⟨.single (.openCtr input s h), rfl⟩
  unfold sshOpenEncrypted
  dsimp only
  refine ⟨(hopen (s.neg.link.encryptedRx.take (4 + packetLen))).trans ?_, ?_⟩
  · refine (sshCheckEncrypted_serves env _ _ _ ?_ ?_).1
    · exact h
    · exact hpeer
  · refine (sshCheckEncrypted_serves env _ _ _ ?_ ?_).2
    · exact h
    · exact hpeer

theorem sshDrainEncrypted_serves (fuel : Nat) (hpeer : s.server.HasPeer)
    (h : s.neg.link.inEncrypted = true) : SshServes env s (sshDrainEncrypted env fuel s) := by
  induction fuel generalizing s with
  | zero => exact .refl s
  | succ fuel ih =>
      unfold sshDrainEncrypted
      dsimp only
      split
      · exact .refl s
      split
      · exact .ofLink rfl
      split
      · exact .refl s
      obtain ⟨hopen, hin⟩ := sshOpenEncrypted_serves env
        (sshGetU32 (aes128CtrCryptUpdate s.neg.link.keyC2s s.neg.link.ctrC2s
          (s.neg.link.encryptedRx.take 4)).1 0).toNat h hpeer
      split
      · exact hopen.trans (ih (hopen.hasPeer hpeer) hin)
      · exact hopen

theorem sshCaptureEncrypted_serves (data : List UInt8) (hpeer : s.server.HasPeer)
    (h : s.neg.link.inEncrypted = true) : SshServes env s (sshCaptureEncrypted env data s) := by
  unfold sshCaptureEncrypted
  dsimp only
  split
  · exact .ofLink rfl
  · refine SshServes.trans ?_ (sshDrainEncrypted_serves env _ hpeer h)
    exact .ofLink rfl

theorem sshCapturePackets_serves (data : List UInt8) (hpeer : s.server.HasPeer) :
    SshServes env s (sshCapturePackets env data s) := by
  unfold sshCapturePackets
  split
  · exact .refl s
  split
  next hin => exact sshCaptureEncrypted_serves env data hpeer hin
  next hin =>
  have hclear := sshCaptureBinary_serves env data hpeer (Bool.not_eq_true _ ▸ hin)
  dsimp only
  split
  next hmore =>
    refine (hclear.trans (sshCaptureEncrypted_serves env
      (sshCaptureBinary env data s).neg.link.binaryRx (hclear.hasPeer hpeer) hmore.1)).trans ?_
    exact .ofLink rfl
  · exact hclear

theorem sshReceived_serves (data : List UInt8) (hpeer : s.server.HasPeer) :
    SshServes env s (sshReceived data s) := by
  refine ⟨.single (.received data s hpeer), ?_⟩
  obtain ⟨banner, seen, len, h⟩ := sshReceived_frame data s
  rw [h]
  rfl

theorem sshCaptureClientData_serves (data : List UInt8) (hpeer : s.server.HasPeer) :
    SshServes env s (sshCaptureClientData env data s) := by
  have hcount : SshQuiet s { s with bytesRx := s.bytesRx + UInt32.ofNat data.length } :=
    ⟨rfl, Nat.le_refl _, rfl, rfl, rfl, rfl, rfl, rfl, rfl, rfl, rfl, .refl _ _⟩
  have hreceived := (SshServes.quiet hcount).trans (sshReceived_serves env data hpeer)
  have hpackets := fun rest => sshCapturePackets_serves env rest (hreceived.hasPeer hpeer)
  unfold sshCaptureClientData
  unfold sshReceived at hreceived hpackets
  dsimp only at hreceived hpackets ⊢
  split
  next hseen =>
    rw [if_pos hseen] at hreceived hpackets
    exact hreceived.trans (hpackets data)
  next hseen =>
    rw [if_neg hseen] at hreceived hpackets
    exact hreceived.trans (hpackets _)

/-! ## Sending -/

/-- What makes a packet of the key exchange due. -/
def SshDue (s : SshState) : SshTxKind → Prop
  | .kexinit => s.neg.kex.serverKexinitSent = false
  | .ecdhReply => s.neg.kex.ecdhReady = true ∧ s.neg.kex.ecdhReplySent = false
  | .newkeys => s.neg.kex.ecdhReplySent = true ∧ s.neg.link.newkeysSent = false
  | _ => True

theorem sshTxTests_due {test : Bool} {kind : SshTxKind} (h : (test, kind) ∈ sshTxTests s)
    (htest : test = true) : SshDue s kind := by
  subst htest
  unfold sshTxTests at h
  cases kind with
  | kexinit => simp_all [SshDue]
  | ecdhReply => simp_all [SshDue]
  | newkeys => simp_all [SshDue]
  | _ => trivial

theorem sshTxDue_due {kind : SshTxKind} (h : sshTxDue s = some kind) : SshDue s kind := by
  unfold sshTxDue at h
  split at h
  · obtain ⟨⟨test, kind'⟩, hfind, rfl⟩ := Option.map_eq_some_iff.mp h
    exact sshTxTests_due (List.mem_of_find?_eq_some hfind) (by simpa using List.find?_some hfind)
  · cases h

theorem SshSendable.congr {s' : SshState} {tx : List UInt8} {kind : SshTxKind}
    (h : SshSendable s tx kind) (hneg : s'.neg = s.neg) (hkey : s'.hostkey = s.hostkey) :
    SshSendable s' tx kind := by
  unfold SshSendable at h ⊢
  rw [hneg, hkey]
  exact h

theorem sshWrapPacket_some {payload : List UInt8} (h : sshWrapPacket env payload s ≠ []) :
    sshWrapPacketBlock (sshWrapSeed env s) 1400 payload 8 = some (sshWrapPacket env payload s) := by
  unfold sshWrapPacket at h ⊢
  cases hwrap : sshWrapPacketBlock (sshWrapSeed env s) 1400 payload 8 with
  | none => simp [hwrap] at h
  | some tx => rfl

/-- The bytes built for a packet that is due: what `ssh_poll` sends in the state after
it. -/
structure SshBuilt (s : SshState) (kind : SshTxKind) (r : List UInt8 × SshState) : Prop where
  serves : SshServes env s r.2
  sendable : r.1 ≠ [] → SshSendable r.2 r.1 kind

variable {env}

theorem SshBuilt.nothing {kind : SshTxKind} {s' : SshState} (h : SshServes env s s') :
    SshBuilt env s kind ([], s') := ⟨h, fun h => absurd rfl h⟩

theorem SshServes.ask (s : SshState) : SshServes env s s.ask := .quiet (.ask s)

theorem SshServes.ofHostkey {s' : SshState} (h : SshHostkeyMove s s') : SshServes env s s' :=
  ⟨.single (.hostkey h), h.listener⟩

variable (env)

theorem sshBuildKexinit_built (h : s.neg.kex.serverKexinitSent = false) :
    SshBuilt env s .kexinit (sshBuildKexinit env s) := by
  unfold sshBuildKexinit
  split
  · exact .nothing (.ask s)
  next payload _ =>
  have hbuilt : SshServes env s { s.ask with neg.kex.serverKexinitPayload := payload } :=
    (SshServes.ask s).trans ⟨.single (.kexinitBuilt payload s.ask h), rfl⟩
  refine ⟨hbuilt.trans (.ask _), fun htx => ⟨h, _, sshWrapPacket_some env htx⟩⟩

theorem sshBuildDisconnect_built : SshBuilt env s .disconnect (sshBuildDisconnect env s) :=
  ⟨.ask s, fun _ => trivial⟩

theorem sshBuildNewkeys_built (h : SshDue s .newkeys) :
    SshBuilt env s .newkeys (sshBuildNewkeys env s) := ⟨.ask s, fun _ => h⟩

theorem SshHostkeyMove.ecdhDue {s' : SshState} (h : SshHostkeyMove s s')
    (hdue : SshDue s .ecdhReply) : SshDue s' .ecdhReply := by
  unfold SshDue at hdue ⊢
  obtain ⟨hkex, -⟩ | hkex := h.kex
  · rw [hkex]
    exact hdue
  · rw [hkex]
    exact hdue

theorem sshBuildEcdhReply_built (h : SshDue s .ecdhReply) :
    SshBuilt env s .ecdhReply (sshBuildEcdhReply env s) := by
  have hblob := sshBuildHostKeyBlob_move env s
  unfold sshBuildEcdhReply
  dsimp only
  split
  · exact .nothing (.ofHostkey hblob)
  split
  · exact .nothing (.ofHostkey hblob)
  next sigBlob hsig =>
  split
  · exact .nothing (.ofHostkey hblob)
  next payload hpayload =>
  refine ⟨(SshServes.ofHostkey hblob).trans (.ask _), fun htx => ?_⟩
  exact ⟨(hblob.ecdhDue h).1, (hblob.ecdhDue h).2, _, sigBlob, payload, hsig, hpayload,
    sshWrapPacket_some env htx⟩

/-- The kinds that are sent encrypted, but for output of the channel. -/
def SshTxKind.Sealed : SshTxKind → Prop
  | .banner | .kexinit | .disconnect | .ecdhReply | .newkeys | .channelData => False
  | _ => True

/-- A packet is encrypted beside the channel. -/
structure SshEncrypted (s : SshState) (payload : List UInt8) (r : List UInt8 × SshState) :
    Prop where
  serves : SshServes env s r.2
  channel : r.2.neg.channel = s.neg.channel
  sealable : r.1 ≠ [] → SshSealable r.2.neg.link r.1 payload

theorem sshBuildEncryptedPacket_encrypted (payload : List UInt8) :
    SshEncrypted env s payload (sshBuildEncryptedPacket env payload s) := by
  unfold sshBuildEncryptedPacket
  dsimp only
  split
  · exact ⟨.refl s, rfl, fun h => absurd rfl h⟩
  next hready =>
  split
  · exact ⟨.ask s, rfl, fun h => absurd rfl h⟩
  next plain hplain =>
  split
  · exact ⟨.ask s, rfl, fun h => absurd rfl h⟩
  have hout : s.neg.link.outEncrypted = true := by
    rw [not_or, Bool.not_eq_false] at hready
    exact hready.1
  exact ⟨(SshServes.ask s).trans (.ofLink rfl), rfl,
    fun _ => ⟨hout, _, plain, hplain, rfl, rfl, rfl⟩⟩

theorem sshBuildEncryptedPacket_built {kind : SshTxKind} (payload : List UInt8)
    (hkind : kind.Sealed) : SshBuilt env s kind (sshBuildEncryptedPacket env payload s) := by
  have hbuilt := sshBuildEncryptedPacket_encrypted env (s := s) payload
  refine ⟨hbuilt.serves, fun htx => ?_⟩
  cases kind with
  | banner | kexinit | disconnect | ecdhReply | newkeys | channelData => exact hkind.elim
  | _ => exact ⟨payload, hbuilt.sealable htx⟩

theorem SshBuilt.after {kind : SshTxKind} {s' : SshState} {r : List UInt8 × SshState}
    (h : SshServes env s s') (h' : SshBuilt env s' kind r) : SshBuilt env s kind r :=
  ⟨h.trans h'.serves, h'.sendable⟩

theorem sshBuildChannelData_built : SshBuilt env s .channelData (sshBuildChannelData env s) := by
  have hchunk : ∀ len, SshServes env s { s with neg.channel.channelLastChunkLen := len } :=
    fun _ => .quiet (.ofChannel rfl rfl)
  unfold sshBuildChannelData
  dsimp only
  split
  · exact .nothing (hchunk 0)
  next hmore =>
  have hbuilt := sshBuildEncryptedPacket_encrypted env (sshChannelDataPayload s.neg.channel)
    (s := { s with neg.channel.channelLastChunkLen := (sshChannelChunk s.neg.channel).length })
  refine .after env (hchunk (sshChannelChunk s.neg.channel).length) ⟨hbuilt.serves, fun htx => ?_⟩
  have hsealable := hbuilt.sealable htx
  simp only [not_or, Nat.not_le] at hmore
  refine ⟨?_, ?_, ?_⟩
  · rw [hbuilt.channel]
    exact hsealable
  · rw [hbuilt.channel]
    exact hmore.2.2
  · rw [hbuilt.channel]
    rfl

theorem sshBuildTx_built {kind : SshTxKind} (h : SshDue s kind) :
    SshBuilt env s kind (sshBuildTx env kind s) := by
  unfold sshBuildTx
  cases kind with
  | banner => exact ⟨.refl s, fun _ => rfl⟩
  | kexinit => exact sshBuildKexinit_built env h
  | disconnect => exact sshBuildDisconnect_built env
  | ecdhReply => exact sshBuildEcdhReply_built env h
  | newkeys => exact sshBuildNewkeys_built env h
  | userauthFailure => exact .after env (.ask s) (sshBuildEncryptedPacket_built env _ trivial)
  | channelData => exact sshBuildChannelData_built env
  | _ => exact sshBuildEncryptedPacket_built env _ trivial

/-! ## Calls -/

/-- Between two calls, every connection was seen, and a stopped server has no peer. -/
structure SshSettled (s : SshState) : Prop where
  seen : s.server.connections = s.seenConnections
  stopped : s.enabled = false → ¬ s.server.HasPeer

/-- A call is a sequence of moves, and leaves the server settled. -/
structure SshCalled (s s' : SshState) : Prop where
  moves : SshMoves env s s'
  settled : SshSettled s'

theorem sshRefreshState_quiet (h : s.server.connections = s.seenConnections) :
    SshQuiet s (sshRefreshState env s) := by
  unfold sshRefreshState
  dsimp only
  rw [if_neg (not_not.mpr h)]
  exact ⟨rfl, Nat.le_refl _, rfl, rfl, rfl, rfl, rfl, rfl, rfl, rfl, rfl, .refl _ _⟩

theorem sshRefreshState_server (s : SshState) : (sshRefreshState env s).server = s.server := by
  unfold sshRefreshState
  dsimp only
  split
  · rfl
  · rfl

theorem sshRefreshState_enabled (s : SshState) : (sshRefreshState env s).enabled = s.enabled := by
  unfold sshRefreshState
  dsimp only
  split
  · rfl
  · rfl

theorem sshRefreshState_seen (s : SshState) :
    (sshRefreshState env s).seenConnections = s.server.connections := by
  unfold sshRefreshState
  dsimp only
  split
  · rfl
  next h => exact (not_not.mp h).symm

theorem sshRefreshState_settled (h : s.enabled = true) : SshSettled (sshRefreshState env s) := by
  refine ⟨?_, fun hstopped => ?_⟩
  · rw [sshRefreshState_server, sshRefreshState_seen]
  · rw [sshRefreshState_enabled, h] at hstopped
    cases hstopped

/-- The end of `ssh_poll` for a connection that was seen before. -/
theorem sshRefreshState_called {t : SshState} (h : SshServes env s t)
    (henabled : s.enabled = true) (hseen : s.server.connections = s.seenConnections) :
    SshCalled env s (sshRefreshState env t) := by
  have hserver : t.server = s.server := congrArg (·.2.1) h.listener
  have hcount : t.seenConnections = s.seenConnections := congrArg (·.2.2) h.listener
  have henabled' : t.enabled = true := (congrArg (·.1) h.listener).trans henabled
  have hquiet := sshRefreshState_quiet env (s := t) (by rw [hserver, hcount, hseen])
  exact ⟨h.moves.tail (.handler (.quiet hquiet)), sshRefreshState_settled env henabled'⟩

/-! ### The exchange with the peer -/

theorem sshReceive_serves (rx : List UInt8) (hpeer : s.server.HasPeer) :
    SshServes env s (sshReceive env rx s) := by
  have hactive : SshQuiet s { s.ask with lastActivityTick := timerTicks env s } :=
    ⟨rfl, Nat.le_succ _, rfl, rfl, rfl, rfl, rfl, rfl, rfl, rfl, rfl, .refl _ _⟩
  unfold sshReceive
  split
  · exact .refl s
  · exact (SshServes.quiet hactive).trans (sshCaptureClientData_serves env rx hpeer)

theorem sshCommitTx_listener (kind : SshTxKind) (tx : List UInt8) (s : SshState) :
    (sshCommitTx env kind tx s).listener = s.listener := by
  cases kind <;> rfl

theorem sshSent_serves {kind : SshTxKind} {tx : List UInt8} (rc : Int)
    (h : tx ≠ [] → SshSendable s tx kind) (hpeer : s.server.HasPeer) :
    SshServes env s (sshSent env kind tx rc s) := by
  unfold sshSent
  split
  next hsent =>
    exact ⟨.single (.sent kind tx s (h hsent.1) hpeer), sshCommitTx_listener env kind tx s⟩
  · exact .refl s

theorem sshServerPolled_same {r : TcpPoll} (h : r.srv.connections = s.server.connections) :
    sshServerPolled r s = { s with server := r.srv } := by
  unfold sshServerPolled
  rw [if_neg (not_not.mpr h)]

theorem SshCalled.after {s' t : SshState} (h : SshMoves env s s') (h' : SshCalled env s' t) :
    SshCalled env s t := ⟨h.trans h'.moves, h'.settled⟩

/-- A connection that was just opened: the session is reset before anything is
received. -/
theorem sshNewSession_connect (srv : TcpServer) (s : SshState)
    (h : srv.connections ≠ s.seenConnections) (hpolled : srv.connections ≠ s.server.connections) :
    SshConnectMove s (sshRefreshState env (sshServerPolled ⟨0, srv, []⟩ s.ask)) := by
  have hserver : sshServerPolled ⟨0, srv, []⟩ s.ask =
      { s.ask with server := srv }.note .connect := if_pos hpolled
  rw [hserver]
  unfold sshRefreshState
  dsimp only
  rw [if_pos]
  · exact ⟨rfl, Nat.le_add_right s.asked 2, rfl, rfl, rfl, rfl, rfl⟩
  · exact h

theorem sshExchange_called {kind : SshTxKind} {tx : List UInt8} (henabled : s.enabled = true)
    (hseen : s.server.connections = s.seenConnections)
    (hsend : tx ≠ [] → SshSendable s tx kind) :
    SshCalled env s (sshExchange env kind tx s).2 := by
  unfold sshExchange
  dsimp only
  have houtcome := netstackTcpServerPoll_outcome (env.net s.asked) s.server tx 2048
  generalize netstackTcpServerPoll (env.net s.asked) s.server tx 2048 = r at houtcome ⊢
  have hpolled : (r.srv.HasPeer → s.server.HasPeer) →
      SshMoves env s { s.ask with server := r.srv } :=
    fun h => (SshMoves.quiet (.ask s)).tail (.server r.srv s.ask h)
  cases houtcome with
  | sent hrc hrx hstate hconn hpeer =>
      rw [sshServerPolled_same (s := s.ask) hconn, hrx]
      refine .after env (hpolled fun _ => .inr hstate) ?_
      refine sshRefreshState_called env ?_ henabled (hconn.trans hseen)
      exact sshSent_serves env r.rc (fun h => (hsend h).congr rfl rfl) hpeer
  | received hrc htx hstate _ hconn hpeer =>
      rw [sshServerPolled_same (s := s.ask) hconn, sshSent, if_neg (by simp [htx])]
      refine .after env (hpolled fun _ => .inr hstate) ?_
      refine sshRefreshState_called env ?_ henabled (hconn.trans hseen)
      exact sshReceive_serves env r.rx hpeer
  | quiet hrx hrc hconn hpeer =>
      rw [sshServerPolled_same (s := s.ask) hconn, sshSent, if_neg (by simp [hrc]), hrx]
      refine .after env (hpolled hpeer) ?_
      exact sshRefreshState_called env (.refl _) henabled (hconn.trans hseen)
  | connected hrx hrc hstate hconn =>
      have hnew : r.srv.connections ≠ s.server.connections := by
        rw [hconn]
        simp
      rw [sshSent, if_neg (by simp [hrc]), hrx]
      refine ⟨.single (.connect ?_), sshRefreshState_settled env ?_⟩
      · exact sshNewSession_connect env r.srv s (hseen ▸ hnew) hnew
      · unfold sshServerPolled
        split
        · exact henabled
        · exact henabled

theorem not_hasPeer_sshListen (s : SshState) : ¬ (sshListen s).server.HasPeer := by
  simp [sshListen, netstackTcpServerInit, TcpServer.HasPeer]

/-- The listener opened anew and the session reset; then the state is refreshed. -/
theorem sshListen_called {s' t : SshState} (h : SshResetMove s (sshResetNegotiation (sshListen s')))
    (henabled : s'.enabled = true) (hquiet : SshQuiet (sshResetNegotiation (sshListen s')) t) :
    SshCalled env s (sshRefreshState env t) :=
  .after env (.single (.reset h)) (sshRefreshState_called env (.quiet hquiet) henabled rfl)

theorem sshRestart_called {s' : SshState} (h : SshResetMove s (sshResetNegotiation (sshListen s')))
    (henabled : s'.enabled = true) : SshCalled env s (sshRestart env s') := by
  unfold sshRestart
  refine sshListen_called env h henabled ?_
  exact ⟨rfl, Nat.le_succ _, rfl, rfl, rfl, rfl, rfl, rfl, rfl, rfl, rfl, .refl _ _⟩

theorem sshReopenListener_called (henabled : s.enabled = true) :
    SshCalled env s (sshReopenListener env s) := by
  unfold sshReopenListener
  refine sshRestart_called env ?_ henabled
  exact ⟨rfl, Nat.le_refl _, rfl, rfl, rfl, not_hasPeer_sshListen s⟩

theorem sshEnsureListenerAlive_called (h : SshSettled s) :
    SshCalled env s (sshEnsureListenerAlive env s) := by
  unfold sshEnsureListenerAlive
  split
  · exact ⟨.refl, h⟩
  next henabled =>
  split
  · exact ⟨.refl, h⟩
  · refine sshRestart_called env ?_ (by simpa using henabled)
    exact ⟨rfl, Nat.le_refl _, rfl, rfl, rfl, not_hasPeer_sshListen s⟩

theorem sshClosePoll_called (henabled : s.enabled = true)
    (hseen : s.server.connections = s.seenConnections) :
    SshCalled env s (sshClosePoll env s).2 := by
  have hcount : SshQuiet s { s with disconnectClosePolls := s.disconnectClosePolls - 1 } :=
    ⟨rfl, Nat.le_refl _, rfl, rfl, rfl, rfl, rfl, rfl, rfl, rfl, rfl, .refl _ _⟩
  unfold sshClosePoll
  dsimp only
  split
  · refine sshListen_called env ?_ ?_ (.refl _)
    · exact ⟨rfl, Nat.le_refl _, rfl, rfl, rfl, not_hasPeer_sshListen s⟩
    · exact henabled
  · refine .after env (.quiet hcount) (sshExchange_called env ?_ ?_ fun h => absurd rfl h)
    · exact henabled
    · exact hseen

theorem sshPollTx_called (henabled : s.enabled = true)
    (hseen : s.server.connections = s.seenConnections) :
    SshCalled env s (sshPollTx env s).2 := by
  unfold sshPollTx
  split
  next kind hkind =>
    have hbuilt := sshBuildTx_built env (sshTxDue_due hkind)
    have hserver := congrArg (·.2.1) hbuilt.serves.listener
    have hcount := congrArg (·.2.2) hbuilt.serves.listener
    refine .after env hbuilt.serves.moves (sshExchange_called env ?_ ?_ hbuilt.sendable)
    · exact (congrArg (·.1) hbuilt.serves.listener).trans henabled
    · exact ((congrArg TcpServer.connections hserver).trans hseen).trans hcount.symm
  · split
    · exact sshClosePoll_called env henabled hseen
    · exact sshExchange_called env henabled hseen fun h => absurd rfl h

theorem sshEnsureListenerAlive_enabled (s : SshState) :
    (sshEnsureListenerAlive env s).enabled = s.enabled := by
  unfold sshEnsureListenerAlive
  split
  · rfl
  split
  · rfl
  · exact sshRefreshState_enabled env _

theorem sshPoll_called (h : SshSettled s) : SshCalled env s (sshPoll env s).2 := by
  unfold sshPoll
  split
  · exact ⟨.refl, h⟩
  next hoff =>
  have henabled : s.enabled = true := by simpa using hoff
  have halive := sshEnsureListenerAlive_called env h
  have henabled' := (sshEnsureListenerAlive_enabled env s).trans henabled
  have hrefresh := sshRefreshState_called env (.refl (sshEnsureListenerAlive env s)) henabled'
    halive.settled.seen
  have hmoves := (halive.moves.trans hrefresh.moves).tail (.handler (.quiet (.ask _)))
  have hon := (sshRefreshState_enabled env (sshEnsureListenerAlive env s)).trans henabled'
  dsimp only
  split
  · exact .after env hmoves (sshReopenListener_called env hon)
  · exact .after env hmoves (sshPollTx_called env hon hrefresh.settled.seen)

/-! ### Start, stop and administration -/

theorem sshLoadConfig_listener (s : SshState) : (sshLoadConfig env s).listener = s.listener := by
  unfold sshLoadConfig
  split
  · rfl
  · rfl

/-- A server that is enabled and has seen its connections, configured and given a key. -/
theorem sshConfigured_called (henabled : s.enabled = true)
    (hseen : s.server.connections = s.seenConnections) :
    SshCalled env s (sshEnsureHostkey env (sshLoadConfig env s)).2 := by
  have hkey := sshEnsureHostkey_move env (sshLoadConfig env s)
  have hlistener := hkey.listener.trans (sshLoadConfig_listener env s)
  have hserver := congrArg (·.2.1) hlistener
  have hcount := congrArg (·.2.2) hlistener
  have hon := (congrArg (·.1) hlistener).trans henabled
  refine ⟨(Relation.ReflTransGen.single (.loadConfig s)).tail (.hostkey hkey), ?_, ?_⟩
  · exact ((congrArg TcpServer.connections hserver).trans hseen).trans hcount.symm
  · intro hstopped
    cases hon.symm.trans hstopped

theorem sshStart_called (h : SshSettled s) : SshCalled env s (sshStart env s) := by
  unfold sshStart
  split
  · exact ⟨.refl, h⟩
  split
  · exact ⟨.quiet (.ask s), h.seen, h.stopped⟩
  dsimp only
  refine .after env (.single (.reset ?_)) (sshConfigured_called env ?_ ?_)
  · exact ⟨rfl, Nat.le_add_right s.asked 2, rfl, rfl, rfl, not_hasPeer_sshListen s⟩
  · rfl
  · rfl

theorem sshStop_called (h : SshSettled s) : SshCalled env s (sshStop s) := by
  have hgone : ¬ (sshStop s).server.HasPeer := by
    unfold sshStop
    dsimp only [sshResetNegotiation, SshState.note]
    split
    · exact TcpServer.not_hasPeer_resetPeer _
    next hoff => exact h.stopped (by simpa using hoff)
  refine ⟨.single (.reset ⟨rfl, Nat.le_refl _, rfl, rfl, rfl, hgone⟩), ?_, fun _ => hgone⟩
  have hseen := h.seen
  unfold sshStop
  dsimp only [sshResetNegotiation, SshState.note]
  split
  · exact hseen
  · exact hseen

theorem sshAdmin_called (op : SshAdminOp) (h : SshSettled s) :
    SshCalled env s (sshAdmin env op s) := by
  have hlistener := (sshAdmin_effect env op s).listener
  have henabled : (sshAdmin env op s).enabled = s.enabled := congrArg (·.1) hlistener
  have hserver : (sshAdmin env op s).server = s.server := congrArg (·.2.1) hlistener
  have hcount : (sshAdmin env op s).seenConnections = s.seenConnections :=
    congrArg (·.2.2) hlistener
  refine ⟨.single (.handler (.admin op s)), ?_, ?_⟩
  · rw [hserver, hcount]
    exact h.seen
  · rw [henabled, hserver]
    exact h.stopped

theorem sshStep_called (call : SshCall) (h : SshSettled s) : SshCalled env s (sshStep env s call) := by
  cases call with
  | start => exact sshStart_called env h
  | stop => exact sshStop_called env h
  | poll => exact sshPoll_called env h
  | admin op => exact sshAdmin_called env op h

theorem sshRun_called (calls : List SshCall) : SshCalled env sshBoot (sshRun env calls) := by
  unfold sshRun
  induction calls using List.reverseRecOn with
  | nil => exact ⟨.refl, rfl, fun _ => by simp [sshBoot, TcpServer.HasPeer, TcpServer.zero]⟩
  | append_singleton calls call ih =>
      rw [List.foldl_append]
      exact .after env ih.moves (sshStep_called env call ih.settled)

/-- What holds at boot and is kept by every move holds in every state of every run. -/
theorem sshRun_invariant (inv : SshState → Prop) (h0 : inv sshBoot)
    (hmove : ∀ s s', inv s → SshMove env s s' → inv s') (calls : List SshCall) :
    inv (sshRun env calls) := (sshRun_called env calls).moves.invariant h0 hmove

end Orizon
