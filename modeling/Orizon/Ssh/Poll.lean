import Orizon.Ssh.Packet

/-!
# Orizon.Ssh.Poll

The service of `system/ssh.c`: `ssh_start`, `ssh_stop`, and `ssh_poll`, which
sends what is due, receives, and processes what it received.

A run is a sequence of these calls and of administrative commands from the
console (`sshStep`), from the state the kernel boots with (`sshBoot`).
-/

namespace Orizon

/-! ## Listener and session -/

/-- The listener opened anew: `netstack_tcp_server_init` on `ORIZON_SSH_PORT`, and
`ssh_seen_connections`. -/
def sshListen (s : SshState) : SshState :=
  let server := netstackTcpServerInit 22
  { s with server := server, seenConnections := server.connections, disconnectClosePolls := 0 }

/-- A new connection in `ssh_refresh_state`. -/
def sshNewSession (env : SshEnv) (s : SshState) : SshState :=
  sshResetNegotiation { s.ask with
    seenConnections := s.server.connections
    sessionTotal := s.sessionTotal + 1
    sessions := s.sessionTotal + 1
    lastActivityTick := timerTicks env s
    bannerSent := false
    clientBannerSeen := false
    disconnectClosePolls := 0
    remoteBanner := [] }

/-- `ssh_refresh_state`. -/
def sshRefreshState (env : SshEnv) (s : SshState) : SshState :=
  let s := { s with
    connected := s.enabled && s.server.state == .established
    sessions := s.sessionTotal }
  if s.server.connections ≠ s.seenConnections then sshNewSession env s else s

/-- The listener and the session reset, in `ssh_reopen_listener` and
`ssh_ensure_listener_alive`. -/
def sshRestart (env : SshEnv) (s : SshState) : SshState :=
  let s := sshResetNegotiation (sshListen s)
  sshRefreshState env { s.ask with lastActivityTick := timerTicks env s }

/-- `ssh_reopen_listener`. -/
def sshReopenListener (env : SshEnv) (s : SshState) : SshState :=
  sshRestart env { s with server := netstackTcpServerClose s.server }

/-- `ssh_ensure_listener_alive`. -/
def sshEnsureListenerAlive (env : SshEnv) (s : SshState) : SshState :=
  if !s.enabled then s
  else if s.server.enabled && s.server.state != .closed then s
  else sshRestart env s

/-- `ssh_has_pending_tx`. -/
def sshHasPendingTx (s : SshState) : Bool :=
  let session := s.neg.session
  let ch := s.neg.channel
  session.serviceAcceptPending || session.authFailurePending || session.authSuccessPending ||
    ch.channelOpenConfirmPending || ch.channelSuccessPending || ch.channelFailurePending ||
    ch.channelDataPending || ch.channelExitStatusPending || ch.channelClosePending ||
    decide (s.disconnectClosePolls > 0)

/-- The watchdog of `ssh_poll`: no activity for `SSH_SESSION_IDLE_TIMEOUT_TICKS`. -/
def sshIdle (env : SshEnv) (s : SshState) : Bool :=
  s.connected && !sshHasPendingTx s && decide (s.lastActivityTick > 0) &&
    decide (timerTicks env s - s.lastActivityTick > 1500)

/-! ## Sending -/

/-- What `ssh_poll` tests, in this order, and what it sends then. -/
def sshTxTests (s : SshState) : List (Bool × SshTxKind) :=
  let kex := s.neg.kex
  let link := s.neg.link
  let session := s.neg.session
  let ch := s.neg.channel
  [(!s.bannerSent, .banner),
    (s.clientBannerSeen && !kex.serverKexinitSent, .kexinit),
    (kex.serverKexinitSent && kex.clientKexinitSeen && !sshAlgorithmReady kex &&
      !kex.disconnectSent, .disconnect),
    (kex.ecdhReady && kex.clientKexPacketSeen && !kex.ecdhReplySent, .ecdhReply),
    (kex.ecdhReplySent && !link.newkeysSent, .newkeys),
    (link.newkeysSent && link.clientNewkeysSeen && session.serviceAcceptPending &&
      !session.serviceAcceptSent, .serviceAccept),
    (session.authSuccessPending, .userauthSuccess),
    (session.authFailurePending, .userauthFailure),
    (ch.channelOpenConfirmPending, .channelOpenConfirmation),
    (ch.channelSuccessPending, .channelSuccess),
    (ch.channelFailurePending, .channelFailure),
    (ch.channelDataPending, .channelData),
    (ch.channelExitStatusPending, .channelExitStatus),
    (ch.channelClosePending, .channelClose)]

/-- What is due to be sent. -/
def sshTxDue (s : SshState) : Option SshTxKind :=
  if s.connected then ((sshTxTests s).find? (·.1)).map (·.2) else none

/-- `SSH_BANNER`. -/
def sshBanner : List UInt8 := sshServerBanner ++ [0x0d, 0x0a]

/-- Whether `ssh_build_userauth_failure` offers the method `password`. -/
def sshOffersPassword (env : SshEnv) (s : SshState) : Bool :=
  s.auth.authConfigured && sshLockoutRemaining env s == 0

/-- The bytes of what is due; no bytes where they cannot be built. -/
def sshBuildTx (env : SshEnv) (kind : SshTxKind) (s : SshState) : List UInt8 × SshState :=
  match kind with
  | .banner => (sshBanner, s)
  | .kexinit => sshBuildKexinit env s
  | .disconnect => sshBuildDisconnect env s
  | .ecdhReply => sshBuildEcdhReply env s
  | .newkeys => sshBuildNewkeys env s
  | .serviceAccept => sshBuildEncryptedPacket env sshServiceAcceptPayload s
  | .userauthSuccess => sshBuildEncryptedPacket env [52] s
  | .userauthFailure =>
      sshBuildEncryptedPacket env (sshUserauthFailurePayload (sshOffersPassword env s)) s.ask
  | .channelOpenConfirmation =>
      sshBuildEncryptedPacket env (sshChannelOpenConfirmationPayload s.neg.channel) s
  | .channelSuccess => sshBuildEncryptedPacket env (sshChannelStatusPayload 99 s.neg.channel) s
  | .channelFailure => sshBuildEncryptedPacket env (sshChannelStatusPayload 100 s.neg.channel) s
  | .channelData => sshBuildChannelData env s
  | .channelExitStatus => sshBuildEncryptedPacket env (sshExitStatusPayload s.neg.channel) s
  | .channelClose => sshBuildEncryptedPacket env (sshChannelStatusPayload 97 s.neg.channel) s

/-- The counter of an encrypted packet that was sent. -/
def sshCommitCtr (link : SshLink) : SshLink :=
  let link :=
    if link.pendingCtrS2cReady then
      { link with ctrS2c := link.pendingCtrS2c, pendingCtrS2cReady := false }
    else link
  { link with seqOut := link.seqOut + 1 }

/-- The output of the channel after a part of it was sent. -/
def sshCommitData (ch : SshChannel) : SshChannel :=
  if ch.channelLastChunkLen > 0 ∧ ch.channelTxOff + ch.channelLastChunkLen < ch.channelTx.length then
    { ch with channelTxOff := ch.channelTxOff + ch.channelLastChunkLen, channelLastChunkLen := 0 }
  else
    { ch with
      channelDataPending := false
      channelTx := []
      channelTxOff := 0
      channelLastChunkLen := 0 }

/-- The session and the channel after an encrypted packet was sent. -/
def sshCommitReply (kind : SshTxKind) (neg : SshNegotiation) : SshNegotiation :=
  match kind with
  | .serviceAccept =>
      { neg with session.serviceAcceptSent := true, session.serviceAcceptPending := false }
  | .userauthSuccess => { neg with session.authSuccessPending := false }
  | .userauthFailure => { neg with session.authFailurePending := false }
  | .channelOpenConfirmation => { neg with channel.channelOpenConfirmPending := false }
  | .channelSuccess => { neg with channel.channelSuccessPending := false }
  | .channelFailure => { neg with channel.channelFailurePending := false }
  | .channelData => { neg with channel := sshCommitData neg.channel }
  | .channelClose =>
      { neg with channel.channelClosePending := false, channel.channelCloseSent := true }
  | .channelExitStatus => { neg with channel.channelExitStatusPending := false }
  | _ => neg

/-- `ssh_poll` after the bytes were sent. -/
def sshCommitTx (env : SshEnv) (kind : SshTxKind) (tx : List UInt8) (s : SshState) : SshState :=
  let s := { s.ask with lastActivityTick := timerTicks env s }.note (.sent kind tx s.neg)
  let count := { s with neg.link.seqOut := s.neg.link.seqOut + 1 }
  match kind with
  | .banner => { s with bannerSent := true }
  | .kexinit => { count with neg.kex.serverKexinitSent := true }
  | .disconnect => { count with neg.kex.disconnectSent := true, disconnectClosePolls := 8 }
  | .ecdhReply => { count with neg.kex.ecdhReplySent := true }
  | .newkeys => { count with neg.link.newkeysSent := true, neg.link.outEncrypted := true }
  | _ => { s with neg := sshCommitReply kind { s.neg with link := sshCommitCtr s.neg.link } }

/-! ## The three calls -/

/-- `ssh_start`; the counters it clears are left out. -/
def sshStart (env : SshEnv) (s : SshState) : SshState :=
  if s.enabled then s
  else if !env.configureIpv4 s.asked then s.ask
  else
    let server := netstackTcpServerInit 22
    let s := sshResetNegotiation { s.ask with
      server := server
      enabled := true
      bannerSent := false
      clientBannerSeen := false
      remoteBanner := []
      sessionTotal := 0 }
    let s := { s.ask with
      seenConnections := server.connections
      disconnectClosePolls := 0
      lastActivityTick := timerTicks env s }
    (sshEnsureHostkey env (sshLoadConfig env s)).2

/-- `ssh_stop`. -/
def sshStop (s : SshState) : SshState :=
  sshResetNegotiation { s with
    server := if s.enabled then netstackTcpServerClose s.server else s.server
    enabled := false
    connected := false
    bannerSent := false
    clientBannerSeen := false
    disconnectClosePolls := 0 }

/-- What `netstack_tcp_server_poll` did to the listener. -/
def sshServerPolled (r : TcpPoll) (s : SshState) : SshState :=
  if r.srv.connections ≠ s.server.connections then { s with server := r.srv }.note .connect
  else { s with server := r.srv }

/-- The bytes that were received. -/
def sshReceive (env : SshEnv) (rx : List UInt8) (s : SshState) : SshState :=
  if rx = [] then s
  else sshCaptureClientData env rx { s.ask with lastActivityTick := timerTicks env s }

/-- The bytes `tx` that were to be sent. -/
def sshSent (env : SshEnv) (kind : SshTxKind) (tx : List UInt8) (rc : Int) (s : SshState) : SshState :=
  if tx ≠ [] ∧ rc = 4 then sshCommitTx env kind tx s else s

/-- `ssh_poll` from the call of `netstack_tcp_server_poll` on. -/
def sshExchange (env : SshEnv) (kind : SshTxKind) (tx : List UInt8) (s : SshState) :
    Int × SshState :=
  let r := netstackTcpServerPoll (env.net s.asked) s.server tx 2048
  let s := sshServerPolled r s.ask
  (r.rc, sshRefreshState env (sshReceive env r.rx (sshSent env kind tx r.rc s)))

/-- The polls after a disconnect, at whose end the connection is closed. -/
def sshClosePoll (env : SshEnv) (s : SshState) : Int × SshState :=
  let s := { s with disconnectClosePolls := s.disconnectClosePolls - 1 }
  if s.disconnectClosePolls = 0 then
    (1, sshRefreshState env (sshResetNegotiation (sshListen s)))
  else sshExchange env .banner [] s

/-- `ssh_poll` from its choice of what to send on. -/
def sshPollTx (env : SshEnv) (s : SshState) : Int × SshState :=
  match sshTxDue s with
  | some kind =>
      let built := sshBuildTx env kind s
      sshExchange env kind built.1 built.2
  | none => if s.disconnectClosePolls > 0 then sshClosePoll env s else sshExchange env .banner [] s

/-- `ssh_poll`. -/
def sshPoll (env : SshEnv) (s : SshState) : Int × SshState :=
  if !s.enabled then (0, s)
  else
    let s := sshRefreshState env (sshEnsureListenerAlive env s)
    if sshIdle env s then (1, sshReopenListener env s.ask) else sshPollTx env s.ask

/-! ## Runs -/

/-- A call from the rest of the kernel. -/
inductive SshCall
  | start
  | stop
  | poll
  | admin (op : SshAdminOp)
deriving DecidableEq, Repr

/-- One call. -/
def sshStep (env : SshEnv) (s : SshState) : SshCall → SshState
  | .start => sshStart env s
  | .stop => sshStop s
  | .poll => (sshPoll env s).2
  | .admin op => sshAdmin env op s

/-- The state the kernel boots with. -/
def sshBoot : SshState where
  enabled := false
  connected := false
  bannerSent := false
  clientBannerSeen := false
  remoteBanner := []
  sessions := 0
  bytesRx := 0
  server := TcpServer.zero
  seenConnections := 0
  lastActivityTick := 0
  disconnectClosePolls := 0
  sessionTotal := 0
  auth := {}
  hostkey := ⟨orizonSshRsa, false, [], []⟩
  neg := {}
  asked := 0
  trace := []

/-- The state after the calls. -/
def sshRun (env : SshEnv) (calls : List SshCall) : SshState := calls.foldl (sshStep env) sshBoot

end Orizon
