import Orizon.Aes
import Orizon.Net.TcpServer
import Orizon.Rsa.Crt

/-!
# Orizon.Ssh.State

The state of the SSH server of `system/ssh.c`: its globals and the fields of
`ssh_status` that decide something.  Counters, texts and digests that are only
shown to the user are left out.

What `ssh_reset_negotiation` clears is one structure, `SshNegotiation`, whose
defaults are what it is cleared to.

Everything the server asks of the rest of the kernel is numbered: question `i`
is answered by `SshEnv` at `i`, and `asked` counts the questions so far.  So
every reading of the clock may differ from the last one, every frame may be
any frame, and the configuration and the host key file may change at any time.

`trace` records what a run has done, the newest first.  No function reads it.
-/

namespace Orizon

/-! ## Authentication and host key -/

/-- The password, the policy and the lockout. -/
structure SshAuth where
  passwordSha256 : List UInt8 := []
  authConfigured : Bool := false
  authFailures : UInt32 := 0
  authLockoutUntil : UInt64 := 0
  maxAuthAttempts : UInt32 := 3
  authLockoutSeconds : UInt32 := 30

/-- The numbers `ssh_install_hostkey_material` installs; without `d` the pointer is
`NULL`. -/
structure SshHostkeyMaterial where
  n : Vector UInt8 128
  p : Vector UInt8 64
  q : Vector UInt8 64
  dmp1 : Vector UInt8 64
  dmq1 : Vector UInt8 64
  iqmp : Vector UInt8 64
  d : Option (Vector UInt8 128)

/-- `ssh_hostkey`, `ssh_status.hostkey_loaded` and `.hostkey_sha256`, and
`ssh_host_key_blob`. -/
structure SshHostkey where
  material : SshHostkeyMaterial
  loaded : Bool
  sha256 : List UInt8
  blob : List UInt8

/-! ## The negotiation -/

/-- 32 bytes of an X25519 key. -/
abbrev X25519Key := Vector UInt8 32

/-- The key exchange: what was sent and received, and what was computed of it. -/
structure SshKex where
  serverKexinitSent : Bool := false
  clientKexinitSeen : Bool := false
  clientKexPacketSeen : Bool := false
  ecdhReady : Bool := false
  ecdhReplySent : Bool := false
  disconnectSent : Bool := false
  remoteBannerLen : Nat := 0
  kexAlgorithm : List UInt8 := []
  hostkeyAlgorithm : List UInt8 := []
  cipherC2s : List UInt8 := []
  cipherS2c : List UInt8 := []
  macC2s : List UInt8 := []
  macS2c : List UInt8 := []
  clientKexinitPayload : List UInt8 := []
  serverKexinitPayload : List UInt8 := []
  clientPublic : X25519Key := Vector.replicate 32 0
  serverPrivate : X25519Key := Vector.replicate 32 0
  serverPublic : X25519Key := Vector.replicate 32 0
  sharedSecret : X25519Key := Vector.replicate 32 0
  exchangeHash : Sha256Digest := Vector.replicate 32 0
  sessionId : Sha256Digest := Vector.replicate 32 0
  sessionIdReady : Bool := false
  hostSignature : List UInt8 := List.replicate 128 0
  hostSignatureReady : Bool := false

/-- The packet layer: the receive buffers, the traffic keys, the counters and the
sequence numbers. -/
structure SshLink where
  newkeysSent : Bool := false
  clientNewkeysSeen : Bool := false
  trafficKeysReady : Bool := false
  binaryRx : List UInt8 := []
  encryptedRx : List UInt8 := []
  ivC2s : AesBlock := Vector.replicate 16 0
  ivS2c : AesBlock := Vector.replicate 16 0
  keyC2s : AesBlock := Vector.replicate 16 0
  keyS2c : AesBlock := Vector.replicate 16 0
  macC2s : Sha256Digest := Vector.replicate 32 0
  macS2c : Sha256Digest := Vector.replicate 32 0
  ctrC2s : AesBlock := Vector.replicate 16 0
  ctrS2c : AesBlock := Vector.replicate 16 0
  seqIn : UInt32 := 0
  seqOut : UInt32 := 0
  inEncrypted : Bool := false
  outEncrypted : Bool := false
  pendingCtrS2c : AesBlock := Vector.replicate 16 0
  pendingCtrS2cReady : Bool := false

/-- User authentication. -/
structure SshSession where
  serviceAcceptSent : Bool := false
  serviceAcceptPending : Bool := false
  authenticated : Bool := false
  authFailurePending : Bool := false
  authSuccessPending : Bool := false

/-- The session channel and its shell.  `channelTx` and `shellLine` are the bytes
before the length the source keeps beside its buffers. -/
structure SshChannel where
  shellReady : Bool := false
  channelOpenConfirmPending : Bool := false
  channelSuccessPending : Bool := false
  channelFailurePending : Bool := false
  channelDataPending : Bool := false
  channelExitStatusPending : Bool := false
  channelExitCode : UInt32 := 0
  channelClosePending : Bool := false
  channelCloseSent : Bool := false
  clientChannel : UInt32 := 0
  serverChannel : UInt32 := 0
  clientWindow : UInt32 := 0
  clientMaxPacket : UInt32 := 0
  channelTx : List UInt8 := []
  channelTxOff : Nat := 0
  channelLastChunkLen : Nat := 0
  shellLine : List UInt8 := []
  shellLastWasCr : Bool := false

/-- What `ssh_reset_negotiation` clears. -/
structure SshNegotiation where
  kex : SshKex := {}
  link : SshLink := {}
  session : SshSession := {}
  channel : SshChannel := {}

/-! ## The record of a run -/

/-- What `ssh_poll` sends; the numbers are its `tx_kind`. -/
inductive SshTxKind
  /-- 1 -/
  | banner
  /-- 2 -/
  | kexinit
  /-- 3 -/
  | disconnect
  /-- 4 -/
  | ecdhReply
  /-- 5 -/
  | newkeys
  /-- 6 -/
  | serviceAccept
  /-- 7 -/
  | userauthSuccess
  /-- 8 -/
  | userauthFailure
  /-- 9 -/
  | channelOpenConfirmation
  /-- 10 -/
  | channelSuccess
  /-- 11 -/
  | channelFailure
  /-- 12 -/
  | channelData
  /-- 14 -/
  | channelExitStatus
  /-- 13 -/
  | channelClose
deriving DecidableEq, Repr

/-- How a packet arrived: in clear, or as `plain` after decryption, followed by the
bytes `mac`. -/
inductive SshOrigin
  | clear
  | sealed (plain mac : List UInt8)

/-- The administration of the server, from the console or from a session. -/
inductive SshAdminOp
  | setPassword (password : List UInt8)
  | disablePassword
  | reloadConfig
  | clearLockout
  | setAuthPolicy (maxAttempts lockoutSeconds : UInt32)
  | reloadHostkey
  | resetHostkey
deriving DecidableEq, Repr

/-- What a run records. -/
inductive SshEvent
  /-- A `SYN` opened a connection. -/
  | connect
  /-- `ssh_reset_negotiation`. -/
  | reset
  /-- Bytes of the peer were given to `ssh_capture_client_data`. -/
  | received (bytes : List UInt8)
  /-- The bytes were sent, with the negotiation before that. -/
  | sent (kind : SshTxKind) (bytes : List UInt8) (before : SshNegotiation)
  /-- `ssh_process_packet`, with the negotiation before it. -/
  | packet (origin : SshOrigin) (payload : List UInt8) (before : SshNegotiation)
  /-- `ssh_derive_traffic_keys` derived the keys of `link`. -/
  | keysDerived (link : SshLink)
  /-- `ssh_note_auth_success`, for the request `payload`, with the password and the
  lockout as they were, at the time the lockout was checked. -/
  | authSuccess (payload : List UInt8) (auth : SshAuth) (now : UInt64)
  /-- `ssh_note_auth_failure` at the time `now`, with the policy as it was; `compared`
  is the time the lockout was checked, for a password that was compared. -/
  | authFailure (compared : Option UInt64) (auth : SshAuth) (now : UInt64)
  /-- A command of the shell or of an `exec` request is executed. -/
  | command (line : List UInt8)
  /-- An administrative command. -/
  | admin (op : SshAdminOp)

/-! ## The server -/

/-- The globals of the SSH server. -/
structure SshState where
  enabled : Bool
  connected : Bool
  bannerSent : Bool
  clientBannerSeen : Bool
  remoteBanner : List UInt8
  sessions : UInt32
  bytesRx : UInt32
  server : TcpServer
  seenConnections : UInt32
  lastActivityTick : UInt64
  disconnectClosePolls : Nat
  sessionTotal : UInt32
  auth : SshAuth
  hostkey : SshHostkey
  neg : SshNegotiation
  asked : Nat
  trace : List SshEvent

/-- What a command of the shell prints, and the exit code it sets, if any. -/
structure SshOutput where
  texts : List (List UInt8)
  exitCode : Option UInt32

/-- The answers of the rest of the kernel, by the number of the question.
`configFile` is what `vfs_read` returns of the configuration, `hostkeyFile` what
`ssh_load_hostkey_file` parses; they are `none` where that fails. -/
structure SshEnv where
  ticks : Nat → UInt64
  net : Nat → NetInput
  configureIpv4 : Nat → Bool
  configFile : Nat → Option (List UInt8)
  hostkeyFile : Nat → Option SshHostkeyMaterial
  hostkeySeed : Nat → Sha256Digest
  hostkeyWritten : Nat → Bool
  output : Nat → SshOutput

/-- One question asked. -/
def SshState.ask (s : SshState) : SshState := { s with asked := s.asked + 1 }

/-- An event recorded. -/
def SshState.note (s : SshState) (e : SshEvent) : SshState := { s with trace := e :: s.trace }

/-- `timer_ticks`. -/
def timerTicks (env : SshEnv) (s : SshState) : UInt64 := env.ticks s.asked

/-- `timer_uptime_seconds`. -/
def timerUptimeSeconds (env : SshEnv) (s : SshState) : UInt64 := env.ticks s.asked / 100

/-- `ssh_reset_negotiation`. -/
def sshResetNegotiation (s : SshState) : SshState := { s with neg := {} }.note .reset

/-- The bytes of a C string before its terminator. -/
def cstringBytes (bytes : List UInt8) : List UInt8 := bytes.takeWhile (· ≠ 0)

end Orizon
