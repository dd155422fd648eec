import Orizon.Rsa.Keygen
import Orizon.Ssh.State
import Orizon.Ssh.Wire
import Orizon.X25519.Ladder

/-!
# Orizon.Ssh.Kex

The key exchange of `system/ssh.c`: the host key, the `KEXINIT` of both sides,
and `ssh_process_kexdh_init`, which computes the shared secret, signs the
exchange hash and derives the traffic keys.

A function that returns an `int` returns whether it was 0, and the state.
-/

namespace Orizon

/-- `memcpy` of `k` bytes. -/
def copyBytes (k : Nat) (bs : List UInt8) : Vector UInt8 k := Vector.ofFn fun i => bs.getD i 0

/-! ## The host key -/

/-- A big-endian number as an array. -/
def bigBytes (k n : Nat) : Vector UInt8 k := ⟨(beBytes k n).toArray, by simp⟩

/-- The compiled key `ORIZON_SSH_RSA_*`. -/
def orizonSshRsa : SshHostkeyMaterial where
  n := bigBytes 128 0xac571b625743ecaa073dfee68885a472acb5fe49426031669c4bdc3d42834823722bae99eec400e9113d33121eb45fb4a04d4dec9df85d8d4a55c1e13e35bb664538a94d644d72878a51dc6d13440bad5f2f598f58417019bc2baed185fc4a74ca42bb124860d837f7c6478d6578d873482978b352459765a0a24412cd3d3d3f
  p := bigBytes 64 0xdab2ff0c3701b2413d74532be19e8e93e1a751f149d3e99fbdad233a61a8263394d9cd4fd9718ada1372a7d4ff6aa384cca4335651a1c25291f8ee8e994740f3
  q := bigBytes 64 0xc9bbf3ebe9d01922ba022c94df270b8f9d8064c059ba449fc45bda0a2d037337d3c7c9de467cda810db20cfc064114883bd2b0b89d04b6b027e76c02442d4585
  dmp1 := bigBytes 64 0x12e0aa854a663a15c99135f0aebbfa00a7d4c28cfa5b716a197c4d7327a4d50f54c4ec24fd5700ae4c4974553d6ade0c838194f0d98105fe0c9d9931f3e723a3
  dmq1 := bigBytes 64 0xa2907f83c0ab1d564aa6adde59e550ffae6064d04c7e3a06b5697f4f6beeb7ce692f3a919023d4c0e29474ba332006b7b1dd9ae36a44fe22fe451358d02fdb31
  iqmp := bigBytes 64 0x5957565172730b88711fbd5215781ed3362e6b1634b0098d0f1594322facbe98b0ec4f9186a773195d08881f33b9ce3507acfd5ce97508d53b244760184a8278
  d := none

/-- The key as the signature function reads it. -/
def SshHostkeyMaterial.toKey (m : SshHostkeyMaterial) : RsaCrtPrivateKey where
  n := some m.n.toList
  d := m.d.map Vector.toList
  p := some m.p.toList
  q := some m.q.toList
  dmp1 := some m.dmp1.toList
  dmq1 := some m.dmq1.toList
  iqmp := some m.iqmp.toList

/-- `ssh_install_hostkey_material`. -/
def sshInstallHostkeyMaterial (m : SshHostkeyMaterial) (s : SshState) : SshState :=
  { s with
    hostkey := { s.hostkey with material := m, sha256 := [], blob := [] }
    neg.kex.hostSignatureReady := false }

/-- `ssh_set_hostkey_report`: the key is loaded. -/
def sshSetHostkeyReport (s : SshState) : SshState := { s with hostkey.loaded := true }

/-- The bytes of `ssh_host_key_blob[192]` for the modulus `n`. -/
def sshHostKeyBlob (n : List UInt8) : Option (List UInt8) :=
  match sshPutCstring 192 [] "ssh-rsa" with
  | none => none
  | some out =>
      match sshPutMpint 192 out [0x01, 0x00, 0x01] with
      | none => none
      | some out => sshPutMpint 192 out n

/-- `ssh_rebuild_host_key_blob`. -/
def sshRebuildHostKeyBlob (s : SshState) : Bool × SshState :=
  match sshHostKeyBlob s.hostkey.material.n.toList with
  | none => (false, s)
  | some blob => (true, { s with hostkey.blob := blob, hostkey.sha256 := sha256BufferHex blob })

/-- `ssh_install_bootstrap_hostkey`. -/
def sshInstallBootstrapHostkey (s : SshState) : SshState :=
  sshSetHostkeyReport (sshInstallHostkeyMaterial orizonSshRsa s)

/-- Material installed and its blob built: the end of `ssh_load_hostkey_file` and of
`ssh_generate_install_hostkey`. -/
def sshInstallHostkey (m : SshHostkeyMaterial) (s : SshState) : Bool × SshState :=
  let r := sshRebuildHostKeyBlob (sshInstallHostkeyMaterial m s)
  if r.1 then (true, sshSetHostkeyReport r.2) else r

/-- `ssh_load_hostkey_file`. -/
def sshLoadHostkeyFile (env : SshEnv) (s : SshState) : Bool × SshState :=
  match env.hostkeyFile s.asked with
  | none => (false, s.ask)
  | some m => sshInstallHostkey m s.ask

/-- The material of a generated key; `iqmp` is zero. -/
def sshGeneratedMaterial (g : RsaGeneratedPrivateKey) : SshHostkeyMaterial where
  n := copyBytes 128 g.n
  p := copyBytes 64 g.p
  q := copyBytes 64 g.q
  dmp1 := copyBytes 64 g.dmp1
  dmq1 := copyBytes 64 g.dmq1
  iqmp := Vector.replicate 64 0
  d := some (copyBytes 128 g.d)

/-- `ssh_generate_install_hostkey` with the key generator's result. -/
def sshInstallGenerated (generated : Except String (RsaGeneratedPrivateKey × String))
    (s : SshState) : Bool × SshState :=
  match generated with
  | .error _ => (false, s)
  | .ok (g, _) => sshInstallHostkey (sshGeneratedMaterial g) s

/-- `ssh_generate_install_hostkey`; the seed that `ssh_collect_hostkey_seed` gathers
is an answer. -/
def sshGenerateInstallHostkey (env : SshEnv) (s : SshState) : Bool × SshState :=
  sshInstallGenerated (rsaGeneratePrivateKey1024 (env.hostkeySeed s.asked)) s.ask

/-- `ssh_write_hostkey_file`. -/
def sshWriteHostkeyFile (env : SshEnv) (s : SshState) : Bool × SshState :=
  let r := sshRebuildHostKeyBlob s
  if !r.1 then r
  else if env.hostkeyWritten r.2.asked then (true, sshSetHostkeyReport r.2.ask)
  else (false, r.2.ask)

/-- The key of last resort in `ssh_ensure_hostkey`. -/
def sshEnsureBootstrap (env : SshEnv) (s : SshState) : Bool × SshState :=
  let r := sshWriteHostkeyFile env (sshInstallBootstrapHostkey s)
  if r.1 then r else sshRebuildHostKeyBlob r.2

/-- `ssh_ensure_hostkey` after the attempt to generate a key. -/
def sshEnsureAfterGenerate (env : SshEnv) (r : Bool × SshState) : Bool × SshState :=
  if r.1 then
    let w := sshWriteHostkeyFile env r.2
    if w.1 then w else sshEnsureBootstrap env w.2
  else sshEnsureBootstrap env r.2

/-- `ssh_ensure_hostkey` once no key file could be loaded. -/
def sshEnsureGenerated (env : SshEnv) (s : SshState) : Bool × SshState :=
  sshEnsureAfterGenerate env (sshGenerateInstallHostkey env s)

/-- `ssh_ensure_hostkey`. -/
def sshEnsureHostkey (env : SshEnv) (s : SshState) : Bool × SshState :=
  if s.hostkey.loaded && !s.hostkey.sha256.isEmpty then (true, s)
  else
    let r := sshLoadHostkeyFile env s
    if r.1 then r else sshEnsureGenerated env r.2

/-- `ssh_build_host_key_blob`. -/
def sshBuildHostKeyBlob (env : SshEnv) (s : SshState) : Bool × SshState :=
  let r := sshEnsureHostkey env s
  if !r.1 then r
  else if r.2.hostkey.blob.length > 0 then
    if r.2.hostkey.sha256.isEmpty then
      (true, { r.2 with hostkey.sha256 := sha256BufferHex r.2.hostkey.blob })
    else (true, r.2)
  else sshRebuildHostKeyBlob r.2

/-- `ssh_reload_hostkey`. -/
def sshReloadHostkey (env : SshEnv) (s : SshState) : SshState := (sshLoadHostkeyFile env s).2

/-- `ssh_reset_hostkey` after the attempt to generate a key. -/
def sshResetAfterGenerate (env : SshEnv) (r : Bool × SshState) : SshState :=
  (sshWriteHostkeyFile env (if r.1 then r.2 else sshInstallBootstrapHostkey r.2)).2

/-- `ssh_reset_hostkey`. -/
def sshResetHostkey (env : SshEnv) (s : SshState) : SshState :=
  sshResetAfterGenerate env (sshGenerateInstallHostkey env s)

/-! ## KEXINIT -/

/-- The seed of the padding. -/
def sshWrapSeed (env : SshEnv) (s : SshState) : UInt32 :=
  0x4f5a5353 ^^^ (timerTicks env s).toUInt32 ^^^ s.sessions

/-- `ssh_wrap_packet` into the `SSH_TX_BUF` bytes of `ssh_poll_tx`; no bytes are the
length 0. -/
def sshWrapPacket (env : SshEnv) (payload : List UInt8) (s : SshState) : List UInt8 :=
  (sshWrapPacketBlock (sshWrapSeed env s) 1400 payload 8).getD []

/-- `ssh_fill_cookie`. -/
def sshFillCookie (env : SshEnv) (s : SshState) : List UInt8 :=
  let parts := [asciiBytes "orizon-ssh-kex-cookie", leBytes 8 (timerTicks env s).toNat,
    leBytes 4 s.sessions.toNat, leBytes 4 s.bytesRx.toNat]
  (sha256Final (parts.foldl sha256Update sha256Init)).toList.take 16

/-- `SSH_KEX_ALGORITHMS`. -/
def sshKexAlgorithms : String := "curve25519-sha256,curve25519-sha256@libssh.org"

/-- `SSH_HOSTKEY_ALGORITHMS`. -/
def sshHostkeyAlgorithms : String := "rsa-sha2-256"

/-- `SSH_CIPHER_ALGORITHMS`. -/
def sshCipherAlgorithms : String := "aes128-ctr,aes128-gcm@openssh.com"

/-- `SSH_MAC_ALGORITHMS`. -/
def sshMacAlgorithms : String := "hmac-sha2-256,hmac-sha1"

/-- `SSH_COMPRESSION_ALGORITHMS`. -/
def sshCompressionAlgorithms : String := "none"

/-- The payload of `ssh_build_kexinit`, in `payload[768]`. -/
def sshKexinitPayload (cookie : List UInt8) : Option (List UInt8) :=
  match [sshKexAlgorithms, sshHostkeyAlgorithms, sshCipherAlgorithms, sshCipherAlgorithms,
      sshMacAlgorithms, sshMacAlgorithms, sshCompressionAlgorithms, sshCompressionAlgorithms, "",
      ""].foldlM (sshPutNamelist 768) (20 :: cookie) with
  | none => none
  | some out => if out.length + 5 > 768 then none else some (out ++ 0 :: sshPutU32 0)

/-- `ssh_build_kexinit`. -/
def sshBuildKexinit (env : SshEnv) (s : SshState) : List UInt8 × SshState :=
  match sshKexinitPayload (sshFillCookie env s) with
  | none => ([], s.ask)
  | some payload =>
      let s := { s.ask with neg.kex.serverKexinitPayload := payload }
      (sshWrapPacket env payload s, s.ask)

/-- The name lists of a client's `KEXINIT`, chosen from. -/
def sshChooseAlgorithms (lists : List (List UInt8)) (kex : SshKex) : SshKex :=
  { kex with
    kexAlgorithm := sshChooseAlgorithm (lists.getD 0 []) sshKexAlgorithms 64
    hostkeyAlgorithm := sshChooseAlgorithm (lists.getD 1 []) sshHostkeyAlgorithms 64
    cipherC2s := sshChooseAlgorithm (lists.getD 2 []) sshCipherAlgorithms 64
    cipherS2c := sshChooseAlgorithm (lists.getD 3 []) sshCipherAlgorithms 64
    macC2s := sshChooseAlgorithm (lists.getD 4 []) sshMacAlgorithms 64
    macS2c := sshChooseAlgorithm (lists.getD 5 []) sshMacAlgorithms 64
    clientKexinitSeen := true }

/-- `ssh_process_kexinit` on the exchange it changes: the payload is stored in
`ssh_client_kexinit_payload[2048]` when it fits, then read. -/
def sshReadKexinit (payload : List UInt8) (kex : SshKex) : SshKex :=
  if payload.length < 22 then kex
  else
    let kex := if payload.length ≤ 2048 then { kex with clientKexinitPayload := payload } else kex
    match sshReadNamelists payload 10 17 with
    | none => kex
    | some (lists, off) =>
        if off + 5 > payload.length then kex else sshChooseAlgorithms lists kex

/-- `ssh_process_kexinit`. -/
def sshProcessKexinit (payload : List UInt8) (s : SshState) : SshState :=
  { s with neg.kex := sshReadKexinit payload s.neg.kex }

/-- `ssh_algorithm_ready`. -/
def sshAlgorithmReady (kex : SshKex) : Bool :=
  [kex.kexAlgorithm, kex.hostkeyAlgorithm, kex.cipherC2s, kex.cipherS2c, kex.macC2s,
    kex.macS2c].all (· ≠ asciiBytes "none")

/-! ## The exchange -/

/-- `ssh_make_server_private`. -/
def sshMakeServerPrivate (env : SshEnv) (kex : SshKex) (s : SshState) : X25519Key :=
  let parts := [asciiBytes "orizon-ssh-x25519-server", leBytes 8 (timerTicks env s).toNat,
    leBytes 4 s.sessions.toNat, kex.clientPublic.toList, kex.clientKexinitPayload,
    kex.serverKexinitPayload]
  copyBytes 32 (x25519ClampPrivate (sha256Final (parts.foldl sha256Update sha256Init)).toList)

/-- `ssh_all_zero`. -/
def sshAllZero (data : List UInt8) : Bool := data.foldl (· ||| ·) 0 == 0

/-- What `ssh_hash_string` hashes. -/
def sshHashString (data : List UInt8) : List (List UInt8) :=
  [sshPutU32 (UInt32.ofNat data.length), data]

/-- The banner of the server, without its line end. -/
def sshServerBanner : List UInt8 := asciiBytes "SSH-2.0-OrizonSSH_0.1"

/-- What `ssh_compute_exchange_hash` hashes: the banners, the two `KEXINIT`s, the host
key, the public keys and the shared secret. -/
def sshExchangeParts (kex : SshKex) (remoteBanner blob : List UInt8) : List (List UInt8) :=
  sshHashString (cstringBytes remoteBanner) ++ sshHashString sshServerBanner ++
    sshHashString kex.clientKexinitPayload ++ sshHashString kex.serverKexinitPayload ++
    sshHashString blob ++ sshHashString kex.clientPublic.toList ++
    sshHashString kex.serverPublic.toList ++ sshHashString (sshMpintBody kex.sharedSecret.toList)

/-- `ssh_compute_exchange_hash`. -/
def sshComputeExchangeHash (env : SshEnv) (s : SshState) : Bool × SshState :=
  let r := sshBuildHostKeyBlob env s
  if !r.1 then r
  else
    let parts := sshExchangeParts r.2.neg.kex r.2.remoteBanner r.2.hostkey.blob
    (true, { r.2 with neg.kex.exchangeHash := sha256Final (parts.foldl sha256Update sha256Init) })

/-- What `rsa_pkcs1v15_sha256_sign_crt` leaves in the signature's buffer when it
fails: with the private exponent, the result that did not verify. -/
def rsaFailedSignature (digest : Sha256Digest) (key : SshHostkeyMaterial) (old : List UInt8) :
    List UInt8 :=
  match key.d, rsaEncodePkcs1Sha256 128 digest with
  | some d, some em => (rsaModexp em d.toList key.n.toList).getD old
  | _, _ => old

/-- `ssh_sign_exchange_hash` with the signature function's result. -/
def sshStoreSignature (signature : Option (List UInt8)) (failed : List UInt8) (s : SshState) :
    Bool × SshState :=
  match signature with
  | none => (false, { s with neg.kex.hostSignature := failed })
  | some signature =>
      (true, { s with neg.kex.hostSignature := signature, neg.kex.hostSignatureReady := true })

/-- `ssh_sign_exchange_hash`. -/
def sshSignExchangeHash (env : SshEnv) (s : SshState) : Bool × SshState :=
  let r := sshEnsureHostkey env s
  if !r.1 then r
  else
    let digest := sha256Buffer r.2.neg.kex.exchangeHash.toList
    let key := r.2.hostkey.material
    sshStoreSignature (rsaPkcs1v15Sha256SignCrt 128 digest key.toKey)
      (rsaFailedSignature digest key r.2.neg.kex.hostSignature) r.2

/-- `ssh_derive_key`: the digest of which the key is the first bytes. -/
def sshDeriveKey (kBlob : List UInt8) (kex : SshKex) (letter : UInt8) : List UInt8 :=
  let parts := [kBlob, kex.exchangeHash.toList, [letter], kex.sessionId.toList]
  (sha256Final (parts.foldl sha256Update sha256Init)).toList

/-- The keys `ssh_derive_traffic_keys` derives. -/
def sshTrafficKeys (kBlob : List UInt8) (kex : SshKex) (link : SshLink) : SshLink :=
  let ivC2s := copyBytes 16 (sshDeriveKey kBlob kex 0x41)
  let ivS2c := copyBytes 16 (sshDeriveKey kBlob kex 0x42)
  { link with
    ivC2s := ivC2s
    ivS2c := ivS2c
    keyC2s := copyBytes 16 (sshDeriveKey kBlob kex 0x43)
    keyS2c := copyBytes 16 (sshDeriveKey kBlob kex 0x44)
    macC2s := copyBytes 32 (sshDeriveKey kBlob kex 0x45)
    macS2c := copyBytes 32 (sshDeriveKey kBlob kex 0x46)
    ctrC2s := ivC2s
    ctrS2c := ivS2c
    trafficKeysReady := true }

/-- The first exchange hash of a connection is its session identifier. -/
def sshSetSessionId (kex : SshKex) : SshKex :=
  if kex.sessionIdReady then kex
  else { kex with sessionId := kex.exchangeHash, sessionIdReady := true }

/-- `ssh_derive_traffic_keys`. -/
def sshDeriveTrafficKeys (s : SshState) : Bool × SshState :=
  let s := { s with neg.kex := sshSetSessionId s.neg.kex }
  match sshPutMpint 37 [] s.neg.kex.sharedSecret.toList with
  | none => (false, s)
  | some kBlob =>
      let link := sshTrafficKeys kBlob s.neg.kex s.neg.link
      (true, { s with neg.link := link }.note (.keysDerived link))

/-- `ssh_process_kexdh_init` once the shared secret is known. -/
def sshFinishKexdh (env : SshEnv) (s : SshState) : SshState :=
  let hashed := sshComputeExchangeHash env s
  if !hashed.1 then hashed.2
  else
    let signed := sshSignExchangeHash env hashed.2
    if !signed.1 then signed.2
    else
      let derived := sshDeriveTrafficKeys signed.2
      if !derived.1 then derived.2
      else
        { derived.2 with
          neg.kex.clientKexPacketSeen := true
          neg.kex.ecdhReady := true }

/-- The key pair of the server and the shared secret, of its private key. -/
def sshKeyPair (serverPrivate : X25519Key) (kex : SshKex) : SshKex :=
  { kex with
    serverPrivate := serverPrivate
    serverPublic := copyBytes 32 (x25519PublicFromPrivate (m := Id) serverPrivate)
    sharedSecret := copyBytes 32 (x25519SharedSecret (m := Id) serverPrivate kex.clientPublic) }

/-- The exchange with the public key of the client. -/
def sshAgree (env : SshEnv) (clientPublic : List UInt8) (s : SshState) : SshState :=
  let kex := { s.neg.kex with clientPublic := copyBytes 32 clientPublic }
  { s.ask with neg.kex := sshKeyPair (sshMakeServerPrivate env kex s) kex }

/-- `ssh_process_kexdh_init`. -/
def sshProcessKexdhInit (env : SshEnv) (payload : List UInt8) (s : SshState) : SshState :=
  match sshReadString payload 1 with
  | none => s
  | some (clientPublic, _) =>
      if clientPublic.length ≠ 32 then s
      else
        let s := sshAgree env clientPublic s
        if sshAllZero s.neg.kex.sharedSecret.toList then s else sshFinishKexdh env s

/-! ## What the server sends in clear -/

/-- `ssh_build_disconnect`. -/
def sshBuildDisconnect (env : SshEnv) (s : SshState) : List UInt8 × SshState :=
  let message := asciiBytes "Orizon SSH staged handshake stopped before authentication."
  let payload := 1 :: sshPutU32 3 ++ sshPutU32 (UInt32.ofNat message.length) ++ message ++ sshPutU32 0
  (sshWrapPacket env payload s, s.ask)

/-- `ssh_build_newkeys`. -/
def sshBuildNewkeys (env : SshEnv) (s : SshState) : List UInt8 × SshState :=
  (sshWrapPacket env [21] s, s.ask)

/-- `ssh_build_signature_blob`, in `sig_blob[192]`. -/
def sshBuildSignatureBlob (kex : SshKex) : Option (List UInt8) :=
  if !kex.hostSignatureReady then none
  else
    match sshPutCstring 192 [] "rsa-sha2-256" with
    | none => none
    | some out => sshPutString 192 out kex.hostSignature

/-- The payload of `KEXDH_REPLY`, in `payload[512]`. -/
def sshEcdhReplyPayload (blob serverPublic sigBlob : List UInt8) : Option (List UInt8) :=
  [blob, serverPublic, sigBlob].foldlM (sshPutString 512) [31]

/-- `ssh_build_ecdh_reply`. -/
def sshBuildEcdhReply (env : SshEnv) (s : SshState) : List UInt8 × SshState :=
  let r := sshBuildHostKeyBlob env s
  if !r.1 then ([], r.2)
  else
    let s := r.2
    match sshBuildSignatureBlob s.neg.kex with
    | none => ([], s)
    | some sigBlob =>
        match sshEcdhReplyPayload s.hostkey.blob s.neg.kex.serverPublic.toList sigBlob with
        | none => ([], s)
        | some payload => (sshWrapPacket env payload s, s.ask)

end Orizon
