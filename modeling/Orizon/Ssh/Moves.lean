import Orizon.Lib.Drain
import Orizon.Ssh.Poll
import Mathlib.Logic.Relation

/-!
# Orizon.Ssh.Moves

What the SSH server can do, as a transition relation: every call of the
service is a sequence of moves (`sshStep_moves`), and what every move keeps
holds in every state of every run.

A move changes one thing the properties of the server are about, and says when
it is made; whatever else a call does is quiet (`SshQuiet`).  So a property is
checked against the moves, and the functions of the server are unfolded here
only.
-/

namespace Orizon

/-! ## Quiet steps -/

/-- The packet layer without its buffers, its sequence numbers and the counter of a
packet that is not sent yet. -/
def SshLink.core (link : SshLink) : SshLink :=
  { link with
    binaryRx := []
    encryptedRx := []
    seqIn := 0
    seqOut := 0
    pendingCtrS2c := Vector.replicate 16 0
    pendingCtrS2cReady := false }

/-- The service, its endpoint and the connections it has seen. -/
def SshState.listener (s : SshState) : Bool × TcpServer × UInt32 :=
  (s.enabled, s.server, s.seenConnections)

/-- The output of the channel, and how much of it was sent. -/
def SshChannel.output (ch : SshChannel) : Drain UInt8 := ⟨ch.channelTx, ch.channelTxOff⟩

/-- The longest output in `ssh_channel_tx`. -/
def sshOutputMax : Nat := 65535

/-- Nothing happened that a property of the server is about, except that the channel
may have more output. -/
structure SshQuiet (s s' : SshState) : Prop where
  trace : s'.trace = s.trace
  asked : s.asked ≤ s'.asked
  listener : s'.listener = s.listener
  auth : s'.auth = s.auth
  hostkey : s'.hostkey = s.hostkey
  remoteBanner : s'.remoteBanner = s.remoteBanner
  clientBannerSeen : s'.clientBannerSeen = s.clientBannerSeen
  kex : s'.neg.kex = s.neg.kex
  link : s'.neg.link.core = s.neg.link.core
  authenticated : s'.neg.session.authenticated = s.neg.session.authenticated
  shellReady : s'.neg.channel.shellReady = s.neg.channel.shellReady
  output : Drain.Fills sshOutputMax s.neg.channel.output s'.neg.channel.output

/-! ## What is being handled -/

/-- The packet that was given to `ssh_process_packet` last, since the last reset. -/
def lastPacket : List SshEvent → Option (SshOrigin × List UInt8 × SshNegotiation)
  | [] => none
  | .packet origin payload before :: _ => some (origin, payload, before)
  | .reset :: _ => none
  | _ :: older => lastPacket older

/-- The negotiation lets the payload execute commands: a `CHANNEL_REQUEST` in an
authenticated session, `CHANNEL_DATA` for a shell. -/
def sshCommandsOn (payload : List UInt8) (n : SshNegotiation) : Bool :=
  match payload with
  | 98 :: _ => n.session.authenticated
  | 94 :: _ => n.channel.shellReady
  | _ => false

/-- The negotiation lets the payload be acted upon: a `USERAUTH_REQUEST` and a
`CHANNEL_OPEN` always are. -/
def sshActsOn (payload : List UInt8) (n : SshNegotiation) : Bool :=
  payload.head? == some 50 || payload.head? == some 90 || sshCommandsOn payload n

/-- A packet that may execute commands is being handled. -/
def SshCommanding (s : SshState) : Prop :=
  ∃ origin payload before, lastPacket s.trace = some (origin, payload, before) ∧
    sshCommandsOn payload before = true

/-- The packet of the given type is about to be handled. -/
def SshHandling (type : UInt8) (payload : List UInt8) (s : SshState) : Prop :=
  payload.head? = some type ∧
    ∃ origin older, s.trace = .packet origin payload s.neg :: older

/-! ## Accepted passwords -/

/-- The request is a `USERAUTH_REQUEST` of the user `orizon` for the service
`ssh-connection`, with a password whose hash is the configured one, and no lockout is
active. -/
def SshAccepts (auth : SshAuth) (now : UInt64) (payload : List UInt8) : Prop :=
  auth.authConfigured = true ∧ auth.authLockoutUntil ≤ now ∧
    ∃ password rest, sha256BufferHex password = auth.passwordSha256 ∧
      payload = 50 :: (sshPutU32 6 ++ asciiBytes "orizon" ++ sshPutU32 14 ++
        asciiBytes "ssh-connection" ++ sshPutU32 8 ++ asciiBytes "password" ++ 0 ::
        sshPutU32 (UInt32.ofNat password.length) ++ password ++ rest)

/-! ## Moves -/

/-- What `ssh_process_packet` can do. -/
inductive SshHandlerMove (env : SshEnv) : SshState → SshState → Prop
  | quiet {s s' : SshState} (h : SshQuiet s s') : SshHandlerMove env s s'
  | kexinit (payload : List UInt8) (s : SshState) (h : SshHandling 20 payload s) :
      SshHandlerMove env s (sshProcessKexinit payload s)
  | newkeys (payload : List UInt8) (s : SshState) (h : SshHandling 21 payload s) :
      SshHandlerMove env s (sshProcessNewkeys s)
  | kexdh (payload : List UInt8) (s : SshState) (h : SshHandling 30 payload s) :
      SshHandlerMove env s (sshProcessKexdhInit env payload s)
  | authFailure (compared : Option UInt64) (s : SshState)
      (h : ∀ t, compared = some t →
        s.auth.authLockoutUntil ≤ t ∧ ∃ i, i ≤ s.asked ∧ t = env.ticks i / 100) :
      SshHandlerMove env s (sshNoteAuthFailure env compared s)
  | authSuccess (payload : List UInt8) (now : UInt64) (s : SshState)
      (hpacket : ∃ origin before, lastPacket s.trace = some (origin, payload, before))
      (hnow : ∃ i, i ≤ s.asked ∧ now = env.ticks i / 100) (h : SshAccepts s.auth now payload) :
      SshHandlerMove env s (sshNoteAuthSuccess payload now s)
  | shellOpened (s : SshState) (h : s.neg.session.authenticated = true) :
      SshHandlerMove env s { s with neg.channel.shellReady := true }
  | shellClosed (s : SshState) : SshHandlerMove env s { s with neg.channel.shellReady := false }
  | command (line : List UInt8) (s : SshState) (h : SshCommanding s) :
      SshHandlerMove env s (s.note (.command line))
  | admin (op : SshAdminOp) (s : SshState) : SshHandlerMove env s (sshAdmin env op s)

/-- How a packet with this payload came in: in clear before the client's `NEWKEYS`, and
after it in a plaintext with the right code. -/
def SshOrigin.Fits (link : SshLink) (payload : List UInt8) : SshOrigin → Prop
  | .clear => link.inEncrypted = false
  | .sealed plain mac => link.inEncrypted = true ∧
      (sshMacPacket link.macC2s link.seqIn plain).toList = mac ∧
      ∃ payloadLen, payload = (plain.drop 5).take payloadLen

/-- The bytes received, with the banner they may belong to. -/
def sshReceived (data : List UInt8) (s : SshState) : SshState :=
  let s := s.note (.received data)
  if s.clientBannerSeen then s else (sshCaptureBanner data s).2

/-- The bytes are the payload in an encrypted packet, and the counter after it is
provisional. -/
def SshSealable (link : SshLink) (tx payload : List UInt8) : Prop :=
  link.outEncrypted = true ∧ ∃ seed plain, sshWrapPacketBlock seed 4096 payload 16 = some plain ∧
    tx = sshSealPacket link.keyS2c link.ctrS2c link.macS2c link.seqOut plain ∧
    link.pendingCtrS2cReady = true ∧
    link.pendingCtrS2c = (aes128CtrCryptUpdate link.keyS2c link.ctrS2c plain).2

/-- The bytes are what `ssh_poll` sends in this state. -/
def SshSendable (s : SshState) (tx : List UInt8) : SshTxKind → Prop
  | .banner => tx = sshBanner
  | .kexinit => s.neg.kex.serverKexinitSent = false ∧
      ∃ seed, sshWrapPacketBlock seed 1400 s.neg.kex.serverKexinitPayload 8 = some tx
  | .disconnect => True
  | .ecdhReply => s.neg.kex.ecdhReady = true ∧ s.neg.kex.ecdhReplySent = false ∧
      ∃ seed sigBlob payload, sshBuildSignatureBlob s.neg.kex = some sigBlob ∧
        sshEcdhReplyPayload s.hostkey.blob s.neg.kex.serverPublic.toList sigBlob = some payload ∧
        sshWrapPacketBlock seed 1400 payload 8 = some tx
  | .newkeys => s.neg.kex.ecdhReplySent = true ∧ s.neg.link.newkeysSent = false
  | .channelData => SshSealable s.neg.link tx (sshChannelDataPayload s.neg.channel) ∧
      s.neg.channel.channelTxOff < s.neg.channel.channelTx.length ∧
      s.neg.channel.channelLastChunkLen = (sshChannelChunk s.neg.channel).length
  | _ => ∃ payload, SshSealable s.neg.link tx payload

/-- The blob of a host key is that of its modulus. -/
def SshHostkey.BlobOk (key : SshHostkey) : Prop :=
  key.blob = [] ∨ sshHostKeyBlob key.material.n.toList = some key.blob

/-- The host key is loaded, built or replaced; a replaced key invalidates the
signature. -/
structure SshHostkeyMove (s s' : SshState) : Prop where
  trace : s'.trace = s.trace
  asked : s.asked ≤ s'.asked
  listener : s'.listener = s.listener
  auth : s'.auth = s.auth
  remoteBanner : s'.remoteBanner = s.remoteBanner
  clientBannerSeen : s'.clientBannerSeen = s.clientBannerSeen
  link : s'.neg.link = s.neg.link
  session : s'.neg.session = s.neg.session
  channel : s'.neg.channel = s.neg.channel
  kex : s'.neg.kex = s.neg.kex ∧ s'.hostkey.material = s.hostkey.material ∨
    s'.neg.kex = { s.neg.kex with hostSignatureReady := false }
  blobOk : s.hostkey.BlobOk → s'.hostkey.BlobOk

/-- The session is reset, with no peer. -/
structure SshResetMove (s s' : SshState) : Prop where
  trace : s'.trace = .reset :: s.trace
  asked : s.asked ≤ s'.asked
  auth : s'.auth = s.auth
  hostkey : s'.hostkey = s.hostkey
  neg : s'.neg = {}
  noPeer : ¬ s'.server.HasPeer

/-- A connection is opened, and the session is reset for it. -/
structure SshConnectMove (s s' : SshState) : Prop where
  trace : s'.trace = .reset :: .connect :: s.trace
  asked : s.asked ≤ s'.asked
  auth : s'.auth = s.auth
  hostkey : s'.hostkey = s.hostkey
  neg : s'.neg = {}
  remoteBanner : s'.remoteBanner = []
  clientBannerSeen : s'.clientBannerSeen = false

/-- What the server can do. -/
inductive SshMove (env : SshEnv) : SshState → SshState → Prop
  | handler {s s' : SshState} (h : SshHandlerMove env s s') : SshMove env s s'
  | server (srv : TcpServer) (s : SshState) (h : srv.HasPeer → s.server.HasPeer) :
      SshMove env s { s with server := srv }
  | packet (origin : SshOrigin) (payload : List UInt8) (s : SshState)
      (h : origin.Fits s.neg.link payload) (hpeer : s.server.HasPeer) :
      SshMove env s (s.note (.packet origin payload s.neg))
  | openCtr (input : List UInt8) (s : SshState) (h : s.neg.link.inEncrypted = true) :
      SshMove env s { s with
        neg.link.ctrC2s := (aes128CtrCryptUpdate s.neg.link.keyC2s s.neg.link.ctrC2s input).2 }
  | received (data : List UInt8) (s : SshState) (hpeer : s.server.HasPeer) :
      SshMove env s (sshReceived data s)
  | hostkey {s s' : SshState} (h : SshHostkeyMove s s') : SshMove env s s'
  | kexinitBuilt (payload : List UInt8) (s : SshState) (h : s.neg.kex.serverKexinitSent = false) :
      SshMove env s { s with neg.kex.serverKexinitPayload := payload }
  | sent (kind : SshTxKind) (tx : List UInt8) (s : SshState) (h : SshSendable s tx kind)
      (hpeer : s.server.HasPeer) : SshMove env s (sshCommitTx env kind tx s)
  | loadConfig (s : SshState) : SshMove env s (sshLoadConfig env s)
  | reset {s s' : SshState} (h : SshResetMove s s') : SshMove env s s'
  | connect {s s' : SshState} (h : SshConnectMove s s') : SshMove env s s'

/-- A sequence of moves. -/
abbrev SshMoves (env : SshEnv) : SshState → SshState → Prop := Relation.ReflTransGen (SshMove env)

/-- A sequence of moves of `ssh_process_packet`. -/
abbrev SshHandlerMoves (env : SshEnv) : SshState → SshState → Prop :=
  Relation.ReflTransGen (SshHandlerMove env)

theorem SshMoves.invariant {env : SshEnv} {inv : SshState → Prop} {s s' : SshState}
    (h : SshMoves env s s') (h0 : inv s) (hmove : ∀ s s', inv s → SshMove env s s' → inv s') :
    inv s' := by
  induction h with
  | refl => exact h0
  | tail _ hlast ih => exact hmove _ _ ih hlast

theorem SshHandlerMoves.moves {env : SshEnv} {s s' : SshState} (h : SshHandlerMoves env s s') :
    SshMoves env s s' := Relation.ReflTransGen.mono (fun _ _ => .handler) _ _ h

theorem SshHandlerMoves.quiet {env : SshEnv} {s s' : SshState} (h : SshQuiet s s') :
    SshHandlerMoves env s s' := .single (.quiet h)

theorem SshMoves.quiet {env : SshEnv} {s s' : SshState} (h : SshQuiet s s') : SshMoves env s s' :=
  .single (.handler (.quiet h))

/-! ## Frames -/

theorem SshQuiet.refl (s : SshState) : SshQuiet s s :=
  ⟨rfl, Nat.le_refl _, rfl, rfl, rfl, rfl, rfl, rfl, rfl, rfl, rfl, .refl _ _⟩

theorem SshQuiet.trans {s t u : SshState} (h : SshQuiet s t) (h' : SshQuiet t u) : SshQuiet s u :=
  ⟨h'.trace.trans h.trace, Nat.le_trans h.asked h'.asked, h'.listener.trans h.listener,
    h'.auth.trans h.auth, h'.hostkey.trans h.hostkey, h'.remoteBanner.trans h.remoteBanner,
    h'.clientBannerSeen.trans h.clientBannerSeen, h'.kex.trans h.kex, h'.link.trans h.link,
    h'.authenticated.trans h.authenticated, h'.shellReady.trans h.shellReady,
    h.output.trans h'.output⟩

theorem SshQuiet.ask (s : SshState) : SshQuiet s s.ask :=
  ⟨rfl, Nat.le_succ _, rfl, rfl, rfl, rfl, rfl, rfl, rfl, rfl, rfl, .refl _ _⟩

/-- A change of the channel that leaves the shell as it is, and fills its output. -/
theorem SshQuiet.fillChannel {s : SshState} {ch : SshChannel}
    (h : ch.shellReady = s.neg.channel.shellReady)
    (houtput : Drain.Fills sshOutputMax s.neg.channel.output ch.output) :
    SshQuiet s { s with neg.channel := ch } :=
  ⟨rfl, Nat.le_refl _, rfl, rfl, rfl, rfl, rfl, rfl, rfl, rfl, h, houtput⟩

/-- A change of the channel that leaves the shell and the output as they are. -/
theorem SshQuiet.ofChannel {s : SshState} {ch : SshChannel}
    (h : ch.shellReady = s.neg.channel.shellReady) (houtput : ch.output = s.neg.channel.output) :
    SshQuiet s { s with neg.channel := ch } :=
  .fillChannel h (houtput ▸ .refl _ _)

theorem SshQuiet.ofSession {s : SshState} {session : SshSession}
    (h : session.authenticated = s.neg.session.authenticated) :
    SshQuiet s { s with neg.session := session } :=
  ⟨rfl, Nat.le_refl _, rfl, rfl, rfl, rfl, rfl, rfl, rfl, h, rfl, .refl _ _⟩

theorem SshQuiet.ofLink {s : SshState} {link : SshLink} (h : link.core = s.neg.link.core) :
    SshQuiet s { s with neg.link := link } :=
  ⟨rfl, Nat.le_refl _, rfl, rfl, rfl, rfl, rfl, rfl, h, rfl, rfl, .refl _ _⟩

theorem sshCaptureBanner_frame (data : List UInt8) (s : SshState) :
    ∃ banner seen len, (sshCaptureBanner data s).2 = { s with
      remoteBanner := banner
      clientBannerSeen := seen
      neg.kex.remoteBannerLen := len } := by
  induction data generalizing s with
  | nil => exact ⟨s.remoteBanner, s.clientBannerSeen, s.neg.kex.remoteBannerLen, rfl⟩
  | cons ch rest ih =>
      unfold sshCaptureBanner
      split
      · exact ⟨_, _, _, rfl⟩
      obtain ⟨banner, seen, len, h⟩ := ih (sshBannerByte ch s)
      refine ⟨banner, seen, len, h.trans ?_⟩
      unfold sshBannerByte
      dsimp only
      split
      · rfl
      · rfl

theorem sshReceived_frame (data : List UInt8) (s : SshState) :
    ∃ banner seen len, sshReceived data s = { s.note (.received data) with
      remoteBanner := banner
      clientBannerSeen := seen
      neg.kex.remoteBannerLen := len } := by
  unfold sshReceived
  dsimp only
  split
  · exact ⟨s.remoteBanner, s.clientBannerSeen, s.neg.kex.remoteBannerLen, rfl⟩
  · exact sshCaptureBanner_frame data _

/-! ### The host key -/

theorem SshHostkeyMove.ask (s : SshState) : SshHostkeyMove s s.ask :=
  ⟨rfl, Nat.le_succ _, rfl, rfl, rfl, rfl, rfl, rfl, rfl, .inl ⟨rfl, rfl⟩, id⟩

theorem SshHostkeyMove.refl (s : SshState) : SshHostkeyMove s s :=
  ⟨rfl, Nat.le_refl _, rfl, rfl, rfl, rfl, rfl, rfl, rfl, .inl ⟨rfl, rfl⟩, id⟩

theorem SshHostkeyMove.trans {s t u : SshState} (h : SshHostkeyMove s t)
    (h' : SshHostkeyMove t u) : SshHostkeyMove s u where
  trace := h'.trace.trans h.trace
  asked := Nat.le_trans h.asked h'.asked
  listener := h'.listener.trans h.listener
  auth := h'.auth.trans h.auth
  remoteBanner := h'.remoteBanner.trans h.remoteBanner
  clientBannerSeen := h'.clientBannerSeen.trans h.clientBannerSeen
  link := h'.link.trans h.link
  session := h'.session.trans h.session
  channel := h'.channel.trans h.channel
  kex := by
    obtain ⟨hkex, hm⟩ | hkex := h.kex
    · obtain ⟨hkex', hm'⟩ | hkex' := h'.kex
      · exact .inl ⟨hkex'.trans hkex, hm'.trans hm⟩
      · exact .inr (by rw [hkex', hkex])
    · obtain ⟨hkex', -⟩ | hkex' := h'.kex
      · exact .inr (hkex'.trans hkex)
      · exact .inr (by rw [hkex', hkex])
  blobOk := h'.blobOk ∘ h.blobOk

theorem sshInstallHostkeyMaterial_move (m : SshHostkeyMaterial) (s : SshState) :
    SshHostkeyMove s (sshInstallHostkeyMaterial m s) :=
  ⟨rfl, Nat.le_refl _, rfl, rfl, rfl, rfl, rfl, rfl, rfl, .inr rfl, fun _ => .inl rfl⟩

theorem sshSetHostkeyReport_move (s : SshState) : SshHostkeyMove s (sshSetHostkeyReport s) :=
  ⟨rfl, Nat.le_refl _, rfl, rfl, rfl, rfl, rfl, rfl, rfl, .inl ⟨rfl, rfl⟩, id⟩

theorem sshRebuildHostKeyBlob_move (s : SshState) :
    SshHostkeyMove s (sshRebuildHostKeyBlob s).2 := by
  unfold sshRebuildHostKeyBlob
  cases hblob : sshHostKeyBlob s.hostkey.material.n.toList with
  | none => exact .refl s
  | some blob =>
      exact ⟨rfl, Nat.le_refl _, rfl, rfl, rfl, rfl, rfl, rfl, rfl, .inl ⟨rfl, rfl⟩,
        fun _ => .inr hblob⟩

theorem sshInstallBootstrapHostkey_move (s : SshState) :
    SshHostkeyMove s (sshInstallBootstrapHostkey s) :=
  (sshInstallHostkeyMaterial_move _ s).trans (sshSetHostkeyReport_move _)

theorem sshInstallHostkey_move (m : SshHostkeyMaterial) (s : SshState) :
    SshHostkeyMove s (sshInstallHostkey m s).2 := by
  have hbuilt := (sshInstallHostkeyMaterial_move m s).trans (sshRebuildHostKeyBlob_move _)
  unfold sshInstallHostkey
  dsimp only
  split
  · exact hbuilt.trans (sshSetHostkeyReport_move _)
  · exact hbuilt

theorem sshLoadHostkeyFile_move (env : SshEnv) (s : SshState) :
    SshHostkeyMove s (sshLoadHostkeyFile env s).2 := by
  unfold sshLoadHostkeyFile
  cases env.hostkeyFile s.asked with
  | none => exact .ask s
  | some m => exact (SshHostkeyMove.ask s).trans (sshInstallHostkey_move m _)

theorem sshInstallGenerated_move (generated : Except String (RsaGeneratedPrivateKey × String))
    (s : SshState) : SshHostkeyMove s (sshInstallGenerated generated s).2 := by
  cases generated with
  | error e => exact .refl s
  | ok g => exact sshInstallHostkey_move _ s

theorem sshGenerateInstallHostkey_move (env : SshEnv) (s : SshState) :
    SshHostkeyMove s (sshGenerateInstallHostkey env s).2 := by
  unfold sshGenerateInstallHostkey
  exact (SshHostkeyMove.ask s).trans (sshInstallGenerated_move _ _)

theorem sshWriteHostkeyFile_move (env : SshEnv) (s : SshState) :
    SshHostkeyMove s (sshWriteHostkeyFile env s).2 := by
  have hbuilt := sshRebuildHostKeyBlob_move s
  unfold sshWriteHostkeyFile
  dsimp only
  split
  · exact hbuilt
  split
  · exact (hbuilt.trans (.ask _)).trans (sshSetHostkeyReport_move _)
  · exact hbuilt.trans (.ask _)

theorem sshEnsureBootstrap_move (env : SshEnv) (s : SshState) :
    SshHostkeyMove s (sshEnsureBootstrap env s).2 := by
  have hwritten := (sshInstallBootstrapHostkey_move s).trans (sshWriteHostkeyFile_move env _)
  unfold sshEnsureBootstrap
  dsimp only
  split
  · exact hwritten
  · exact hwritten.trans (sshRebuildHostKeyBlob_move _)

theorem sshEnsureAfterGenerate_move (env : SshEnv) {s : SshState} {r : Bool × SshState}
    (h : SshHostkeyMove s r.2) : SshHostkeyMove s (sshEnsureAfterGenerate env r).2 := by
  have hwritten := h.trans (sshWriteHostkeyFile_move env r.2)
  unfold sshEnsureAfterGenerate
  dsimp only
  split
  · split
    · exact hwritten
    · exact hwritten.trans (sshEnsureBootstrap_move env _)
  · exact h.trans (sshEnsureBootstrap_move env _)

theorem sshEnsureGenerated_move (env : SshEnv) (s : SshState) :
    SshHostkeyMove s (sshEnsureGenerated env s).2 := by
  rw [sshEnsureGenerated]
  exact sshEnsureAfterGenerate_move env (sshGenerateInstallHostkey_move env s)

theorem sshEnsureHostkey_move (env : SshEnv) (s : SshState) :
    SshHostkeyMove s (sshEnsureHostkey env s).2 := by
  have hloaded := sshLoadHostkeyFile_move env s
  unfold sshEnsureHostkey
  dsimp only
  split
  · exact .refl s
  split
  · exact hloaded
  · exact hloaded.trans (sshEnsureGenerated_move env _)

theorem sshBuildHostKeyBlob_move (env : SshEnv) (s : SshState) :
    SshHostkeyMove s (sshBuildHostKeyBlob env s).2 := by
  have hensured := sshEnsureHostkey_move env s
  unfold sshBuildHostKeyBlob
  dsimp only
  split
  · exact hensured
  split
  · split
    · exact hensured.trans
        ⟨rfl, Nat.le_refl _, rfl, rfl, rfl, rfl, rfl, rfl, rfl, .inl ⟨rfl, rfl⟩, id⟩
    · exact hensured
  · exact hensured.trans (sshRebuildHostKeyBlob_move _)

theorem sshResetAfterGenerate_move (env : SshEnv) {s : SshState} {r : Bool × SshState}
    (h : SshHostkeyMove s r.2) : SshHostkeyMove s (sshResetAfterGenerate env r) := by
  unfold sshResetAfterGenerate
  split
  · exact h.trans (sshWriteHostkeyFile_move env _)
  · exact (h.trans (sshInstallBootstrapHostkey_move _)).trans (sshWriteHostkeyFile_move env _)

theorem sshResetHostkey_move (env : SshEnv) (s : SshState) :
    SshHostkeyMove s (sshResetHostkey env s) := by
  rw [sshResetHostkey]
  exact sshResetAfterGenerate_move env (sshGenerateInstallHostkey_move env s)

/-! ### The exchange -/

/-- The key exchange goes on: only it and the host key change. -/
structure SshKexStep (s s' : SshState) : Prop where
  trace : s'.trace = s.trace
  asked : s.asked ≤ s'.asked
  listener : s'.listener = s.listener
  auth : s'.auth = s.auth
  remoteBanner : s'.remoteBanner = s.remoteBanner
  clientBannerSeen : s'.clientBannerSeen = s.clientBannerSeen
  link : s'.neg.link = s.neg.link
  session : s'.neg.session = s.neg.session
  channel : s'.neg.channel = s.neg.channel

theorem SshHostkeyMove.kexStep {s s' : SshState} (h : SshHostkeyMove s s') : SshKexStep s s' :=
  ⟨h.trace, h.asked, h.listener, h.auth, h.remoteBanner, h.clientBannerSeen, h.link, h.session,
    h.channel⟩

theorem SshKexStep.refl (s : SshState) : SshKexStep s s := (SshHostkeyMove.refl s).kexStep

theorem SshKexStep.trans {s t u : SshState} (h : SshKexStep s t) (h' : SshKexStep t u) :
    SshKexStep s u :=
  ⟨h'.trace.trans h.trace, Nat.le_trans h.asked h'.asked, h'.listener.trans h.listener,
    h'.auth.trans h.auth, h'.remoteBanner.trans h.remoteBanner,
    h'.clientBannerSeen.trans h.clientBannerSeen, h'.link.trans h.link,
    h'.session.trans h.session, h'.channel.trans h.channel⟩

theorem SshKexStep.ofKex (s : SshState) (kex : SshKex) : SshKexStep s { s with neg.kex := kex } :=
  ⟨rfl, Nat.le_refl _, rfl, rfl, rfl, rfl, rfl, rfl, rfl⟩

theorem SshKexStep.askKex (s : SshState) (kex : SshKex) :
    SshKexStep s { s.ask with neg.kex := kex } :=
  ⟨rfl, Nat.le_succ _, rfl, rfl, rfl, rfl, rfl, rfl, rfl⟩

theorem sshComputeExchangeHash_step (env : SshEnv) (s : SshState) :
    SshKexStep s (sshComputeExchangeHash env s).2 := by
  have hbuilt := (sshBuildHostKeyBlob_move env s).kexStep
  unfold sshComputeExchangeHash
  dsimp only
  split
  · exact hbuilt
  · exact hbuilt.trans (.ofKex _ _)

theorem sshStoreSignature_step (signature : Option (List UInt8)) (failed : List UInt8)
    (s : SshState) : SshKexStep s (sshStoreSignature signature failed s).2 := by
  cases signature with
  | none => exact .ofKex s _
  | some signature => exact .ofKex s _

theorem sshSignExchangeHash_step (env : SshEnv) (s : SshState) :
    SshKexStep s (sshSignExchangeHash env s).2 := by
  have hensured := (sshEnsureHostkey_move env s).kexStep
  unfold sshSignExchangeHash
  dsimp only
  split
  · exact hensured
  · exact hensured.trans (sshStoreSignature_step _ _ _)

theorem sshAgree_step (env : SshEnv) (clientPublic : List UInt8) (s : SshState) :
    SshKexStep s (sshAgree env clientPublic s) := by
  unfold sshAgree
  exact .askKex s _

/-- The keys were derived: the end of a key exchange. -/
structure SshKeysStep (s s' : SshState) : Prop where
  derived : ∃ kBlob kex, s'.neg.link = sshTrafficKeys kBlob kex s.neg.link
  trace : s'.trace = .keysDerived s'.neg.link :: s.trace
  asked : s.asked ≤ s'.asked
  listener : s'.listener = s.listener
  auth : s'.auth = s.auth
  remoteBanner : s'.remoteBanner = s.remoteBanner
  clientBannerSeen : s'.clientBannerSeen = s.clientBannerSeen
  session : s'.neg.session = s.neg.session
  channel : s'.neg.channel = s.neg.channel

theorem SshKexStep.keys {s t u : SshState} (h : SshKexStep s t) (h' : SshKeysStep t u) :
    SshKeysStep s u := by
  obtain ⟨kBlob, kex, hlink⟩ := h'.derived
  exact ⟨⟨kBlob, kex, by rw [hlink, h.link]⟩, by rw [h'.trace, h.trace],
    Nat.le_trans h.asked h'.asked, h'.listener.trans h.listener, h'.auth.trans h.auth,
    h'.remoteBanner.trans h.remoteBanner, h'.clientBannerSeen.trans h.clientBannerSeen,
    h'.session.trans h.session, h'.channel.trans h.channel⟩

theorem SshKeysStep.kex {s t : SshState} (h : SshKeysStep s t) (kex : SshKex) :
    SshKeysStep s { t with neg.kex := kex } :=
  ⟨h.derived, h.trace, h.asked, h.listener, h.auth, h.remoteBanner, h.clientBannerSeen, h.session,
    h.channel⟩

theorem sshDeriveTrafficKeys_cases (s : SshState) :
    SshKexStep s (sshDeriveTrafficKeys s).2 ∨ SshKeysStep s (sshDeriveTrafficKeys s).2 := by
  unfold sshDeriveTrafficKeys
  dsimp only
  cases sshPutMpint 37 [] (sshSetSessionId s.neg.kex).sharedSecret.toList with
  | none => exact .inl (.ofKex _ _)
  | some kBlob =>
      exact .inr ⟨⟨kBlob, sshSetSessionId s.neg.kex, rfl⟩, rfl, Nat.le_refl _, rfl, rfl, rfl, rfl,
        rfl, rfl⟩

/-- `ssh_process_kexdh_init` past the shared secret derives the keys or stops before
that. -/
theorem sshFinishKexdh_cases (env : SshEnv) (s : SshState) :
    SshKexStep s (sshFinishKexdh env s) ∨ SshKeysStep s (sshFinishKexdh env s) := by
  have hhashed := sshComputeExchangeHash_step env s
  have hsigned := hhashed.trans (sshSignExchangeHash_step env (sshComputeExchangeHash env s).2)
  have hderived := sshDeriveTrafficKeys_cases
    (sshSignExchangeHash env (sshComputeExchangeHash env s).2).2
  unfold sshFinishKexdh
  dsimp only
  split
  · exact .inl hhashed
  split
  · exact .inl hsigned
  obtain h | h := hderived
  · split
    · exact .inl (hsigned.trans h)
    · exact .inl ((hsigned.trans h).trans (.ofKex _ _))
  · split
    · exact .inr (hsigned.keys h)
    · exact .inr ((hsigned.keys h).kex _)

/-- `ssh_process_kexdh_init` derives the keys or stops before that. -/
theorem sshProcessKexdhInit_cases (env : SshEnv) (payload : List UInt8) (s : SshState) :
    SshKexStep s (sshProcessKexdhInit env payload s) ∨
      SshKeysStep s (sshProcessKexdhInit env payload s) := by
  unfold sshProcessKexdhInit
  split
  · exact .inl (.refl s)
  next clientPublic off _ =>
  split
  · exact .inl (.refl s)
  have hagreed := sshAgree_step env clientPublic s
  dsimp only
  split
  · exact .inl hagreed
  · obtain h | h := sshFinishKexdh_cases env (sshAgree env clientPublic s)
    · exact .inl (hagreed.trans h)
    · exact .inr (hagreed.keys h)

end Orizon
