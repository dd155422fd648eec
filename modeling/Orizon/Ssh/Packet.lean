import Orizon.Ssh.Channel

/-!
# Orizon.Ssh.Packet

The packet layer of `system/ssh.c`: encrypted packets out, packets in clear and
encrypted packets in, and `ssh_process_packet`, which serves both ways in.

The loops take fuel; each round takes at least ten bytes from its buffer, so
the length of the buffer is enough.
-/

namespace Orizon

/-! ## Out -/

/-- `ssh_mac_packet`, with `ssh_mac_input[4100]`. -/
def sshMacPacket (key : Sha256Digest) (seq : UInt32) (packet : List UInt8) : Sha256Digest :=
  if packet.length + 4 > 4100 then Vector.replicate 32 0
  else hmacSha256 key.toList (sshPutU32 seq ++ packet)

/-- A packet encrypted and its code appended. -/
def sshSealPacket (key ctr : AesBlock) (mac : Sha256Digest) (seq : UInt32) (plain : List UInt8) :
    List UInt8 :=
  (aes128CtrCryptUpdate key ctr plain).1 ++ (sshMacPacket mac seq plain).toList

/-- `ssh_build_encrypted_packet` into the `SSH_TX_BUF` bytes of `ssh_poll_tx`. -/
def sshBuildEncryptedPacket (env : SshEnv) (payload : List UInt8) (s : SshState) :
    List UInt8 × SshState :=
  let link := s.neg.link
  if link.outEncrypted = false ∨ link.trafficKeysReady = false then ([], s)
  else
    match sshWrapPacketBlock (sshWrapSeed env s) 4096 payload 16 with
    | none => ([], s.ask)
    | some plain =>
        if 1400 < plain.length + 32 then ([], s.ask)
        else
          (sshSealPacket link.keyS2c link.ctrS2c link.macS2c link.seqOut plain,
            { s.ask with
              neg.link.pendingCtrS2c := (aes128CtrCryptUpdate link.keyS2c link.ctrS2c plain).2
              neg.link.pendingCtrS2cReady := true })

/-- `ssh_build_service_accept`. -/
def sshServiceAcceptPayload : List UInt8 := (sshPutCstring 64 [6] "ssh-userauth").getD []

/-- `ssh_build_userauth_failure`, with the methods that can go on. -/
def sshUserauthFailurePayload (password : Bool) : List UInt8 :=
  (sshPutCstring 64 [51] (if password then "password" else "")).getD [] ++ [0]

/-- `ssh_build_channel_open_confirmation`. -/
def sshChannelOpenConfirmationPayload (ch : SshChannel) : List UInt8 :=
  91 :: sshPutU32 ch.clientChannel ++ sshPutU32 ch.serverChannel ++ sshPutU32 65536 ++
    sshPutU32 1024

/-- `ssh_build_channel_status`. -/
def sshChannelStatusPayload (msgType : UInt8) (ch : SshChannel) : List UInt8 :=
  msgType :: sshPutU32 ch.clientChannel

/-- The next `SSH_CHANNEL_DATA_CHUNK` bytes of output. -/
def sshChannelChunk (ch : SshChannel) : List UInt8 := (ch.channelTx.drop ch.channelTxOff).take 960

/-- `ssh_build_channel_data`. -/
def sshChannelDataPayload (ch : SshChannel) : List UInt8 :=
  (sshPutString 1100 (94 :: sshPutU32 ch.clientChannel) (sshChannelChunk ch)).getD []

/-- `ssh_build_channel_exit_status`. -/
def sshExitStatusPayload (ch : SshChannel) : List UInt8 :=
  (sshPutCstring 64 (98 :: sshPutU32 ch.clientChannel) "exit-status").getD [] ++
    0 :: sshPutU32 ch.channelExitCode

/-- `ssh_build_channel_data` with its bookkeeping. -/
def sshBuildChannelData (env : SshEnv) (s : SshState) : List UInt8 × SshState :=
  let ch := s.neg.channel
  let s := { s with neg.channel.channelLastChunkLen := 0 }
  if ch.channelDataPending = false ∨ ch.channelTx.length = 0 ∨
      ch.channelTxOff ≥ ch.channelTx.length then ([], s)
  else
    sshBuildEncryptedPacket env (sshChannelDataPayload ch)
      { s with neg.channel.channelLastChunkLen := (sshChannelChunk ch).length }

/-! ## Messages in -/

/-- A `CHANNEL_EOF` or `CHANNEL_CLOSE`. -/
def sshProcessChannelClose (s : SshState) : SshState :=
  if s.neg.channel.channelCloseSent then s
  else { s with neg.channel.channelClosePending := true }

/-- `ssh_process_service_request`. -/
def sshProcessServiceRequest (payload : List UInt8) (s : SshState) : SshState :=
  match sshReadString payload 1 with
  | none => s
  | some (service, _) =>
      if service = asciiBytes "ssh-userauth" then
        { s with neg.session.serviceAcceptPending := true }
      else s

/-- A client's `NEWKEYS`. -/
def sshProcessNewkeys (s : SshState) : SshState :=
  { s with
    neg.link.clientNewkeysSeen := true
    neg.link.inEncrypted := true }

/-- The message of the given type. -/
def sshDispatch (env : SshEnv) (type : UInt8) (payload : List UInt8) (s : SshState) : SshState :=
  if type = 20 then sshProcessKexinit payload s
  else if type = 21 then sshProcessNewkeys s
  else if type = 30 then sshProcessKexdhInit env payload s
  else if type = 5 then sshProcessServiceRequest payload s
  else if type = 50 then sshProcessUserauthRequest env payload s
  else if type = 90 then sshProcessChannelOpen payload s
  else if type = 98 then sshProcessChannelRequest env payload s
  else if type = 94 then sshProcessChannelData env payload s
  else if type = 96 ∨ type = 97 then sshProcessChannelClose s
  else s

/-- `ssh_process_packet`. -/
def sshProcessPacket (env : SshEnv) (origin : SshOrigin) (payload : List UInt8) (s : SshState) :
    SshState :=
  match payload with
  | [] => s
  | type :: _ => sshDispatch env type payload (s.note (.packet origin payload s.neg))

/-! ## Packets in clear -/

/-- A packet of `ssh_drain_binary_packets` processed, and taken from the buffer. -/
def sshTakeBinary (env : SshEnv) (payload : List UInt8) (totalLen : Nat) (s : SshState) : SshState :=
  let s := sshProcessPacket env .clear payload s
  { s with
    neg.link.seqIn := s.neg.link.seqIn + 1
    neg.link.binaryRx := s.neg.link.binaryRx.drop totalLen }

/-- `ssh_drain_binary_packets`. -/
def sshDrainBinaryPackets (env : SshEnv) : Nat → SshState → SshState
  | 0, s => s
  | fuel + 1, s =>
      let rx := s.neg.link.binaryRx
      if rx.length < 5 then s
      else
        let packetLen := (sshGetU32 rx 0).toNat
        if packetLen < 6 ∨ packetLen > 4092 then { s with neg.link.binaryRx := [] }
        else if rx.length < packetLen + 4 then s
        else
          let paddingLen := (rx.getD 4 0).toNat
          if paddingLen + 1 ≥ packetLen then
            sshDrainBinaryPackets env fuel { s with neg.link.binaryRx := rx.drop (packetLen + 4) }
          else
            let payload := (rx.drop 5).take (packetLen - paddingLen - 1)
            let s := sshTakeBinary env payload (packetLen + 4) s
            if s.neg.link.inEncrypted ∧ s.neg.link.binaryRx ≠ [] then s
            else sshDrainBinaryPackets env fuel s

/-- `ssh_capture_binary`, with `ssh_binary_rx[4096]`. -/
def sshCaptureBinary (env : SshEnv) (data : List UInt8) (s : SshState) : SshState :=
  let rx := s.neg.link.binaryRx
  if data.length > 4096 - rx.length then { s with neg.link.binaryRx := [] }
  else
    sshDrainBinaryPackets env (rx ++ data).length { s with neg.link.binaryRx := rx ++ data }

/-! ## Encrypted packets -/

/-- A packet of `ssh_capture_encrypted` whose code is right, processed and taken from
the buffer. -/
def sshTakeEncrypted (env : SshEnv) (plain mac : List UInt8) (payloadLen totalLen : Nat)
    (s : SshState) : SshState :=
  let s := sshProcessPacket env (.sealed plain mac) ((plain.drop 5).take payloadLen) s
  { s with
    neg.link.seqIn := s.neg.link.seqIn + 1
    neg.link.encryptedRx := s.neg.link.encryptedRx.drop totalLen }

/-- A decrypted packet checked and taken; `false` where the buffer is dropped. -/
def sshCheckEncrypted (env : SshEnv) (plain mac : List UInt8) (packetLen : Nat) (s : SshState) :
    Bool × SshState :=
  if (sshMacPacket s.neg.link.macC2s s.neg.link.seqIn plain).toList ≠ mac then
    (false, { s with neg.link.encryptedRx := [] })
  else
    let paddingLen := (plain.getD 4 0).toNat
    if paddingLen + 1 ≥ packetLen then (false, { s with neg.link.encryptedRx := [] })
    else
      (true, sshTakeEncrypted env plain mac (packetLen - paddingLen - 1) (4 + packetLen + 32) s)

/-- A packet that arrived completely, decrypted, checked and taken. -/
def sshOpenEncrypted (env : SshEnv) (packetLen : Nat) (s : SshState) : Bool × SshState :=
  let link := s.neg.link
  let opened := aes128CtrCryptUpdate link.keyC2s link.ctrC2s (link.encryptedRx.take (4 + packetLen))
  sshCheckEncrypted env opened.1 ((link.encryptedRx.drop (4 + packetLen)).take 32) packetLen
    { s with neg.link.ctrC2s := opened.2 }

/-- The loop of `ssh_capture_encrypted`. -/
def sshDrainEncrypted (env : SshEnv) : Nat → SshState → SshState
  | 0, s => s
  | fuel + 1, s =>
      let link := s.neg.link
      let rx := link.encryptedRx
      if rx.length < 36 then s
      else
        let lenBlock := (aes128CtrCryptUpdate link.keyC2s link.ctrC2s (rx.take 4)).1
        let packetLen := (sshGetU32 lenBlock 0).toNat
        if packetLen < 6 ∨ packetLen > 4092 then { s with neg.link.encryptedRx := [] }
        else if rx.length < 4 + packetLen + 32 then s
        else
          let r := sshOpenEncrypted env packetLen s
          if r.1 then sshDrainEncrypted env fuel r.2 else r.2

/-- `ssh_capture_encrypted`, with `ssh_encrypted_rx[4128]`. -/
def sshCaptureEncrypted (env : SshEnv) (data : List UInt8) (s : SshState) : SshState :=
  let rx := s.neg.link.encryptedRx
  if data.length > 4128 - rx.length then { s with neg.link.encryptedRx := [] }
  else sshDrainEncrypted env (rx ++ data).length { s with neg.link.encryptedRx := rx ++ data }

/-! ## The bytes of the peer -/

/-- A byte of the client's banner, into `remote_banner[128]`. -/
def sshBannerByte (ch : UInt8) (s : SshState) : SshState :=
  let len := s.neg.kex.remoteBannerLen
  if ch ≠ 0x0d ∧ len < 127 then
    { s with remoteBanner := s.remoteBanner.take len ++ [ch], neg.kex.remoteBannerLen := len + 1 }
  else s

/-- The banner, and the bytes after its line end. -/
def sshCaptureBanner : List UInt8 → SshState → List UInt8 × SshState
  | [], s => ([], s)
  | ch :: rest, s =>
      if ch = 0x0a then
        (rest, { s with
          remoteBanner := s.remoteBanner.take s.neg.kex.remoteBannerLen
          clientBannerSeen := true })
      else sshCaptureBanner rest (sshBannerByte ch s)

/-- Bytes after the banner. -/
def sshCapturePackets (env : SshEnv) (data : List UInt8) (s : SshState) : SshState :=
  if data = [] then s
  else if s.neg.link.inEncrypted then sshCaptureEncrypted env data s
  else
    let s := sshCaptureBinary env data s
    if s.neg.link.inEncrypted ∧ s.neg.link.binaryRx ≠ [] then
      let s := sshCaptureEncrypted env s.neg.link.binaryRx s
      { s with neg.link.binaryRx := [] }
    else s

/-- `ssh_capture_client_data`. -/
def sshCaptureClientData (env : SshEnv) (data : List UInt8) (s : SshState) : SshState :=
  let s := { s with bytesRx := s.bytesRx + UInt32.ofNat data.length }.note (.received data)
  if s.clientBannerSeen then sshCapturePackets env data s
  else
    let r := sshCaptureBanner data s
    sshCapturePackets env r.1 r.2

end Orizon
