import Orizon.HashStandard
import Orizon.Lib.Frames
import Orizon.Net.CertificateChain
import Orizon.Net.TlsRecord
import Orizon.X25519.Ladder

/-!
# Orizon.Net.TlsHandshake

The handshake of the TLS client of `drivers/netstack.c`: the client hello, the
messages of the server's flight, the key schedule, the client's finished message,
and the server's answer to it (`tls_decrypt_server_secure_reply`).

The flight is first split into its handshake messages, which does not depend on
what they say, and then read message by message.  What the source keeps for its
report only (counters, hex digests, ALPN, the server's version, alerts and
tickets) is left out; the signature algorithm of the key exchange is kept,
although nothing reads it but the report, to show that nothing reads it.

The pseudorandom function is that of RFC 5246 for labels and seeds of up to 128
bytes together (`tlsPrfSha256_eq`).
-/

namespace Orizon

/-! ## The pseudorandom function -/

/-- `tls_hmac_sha256_vector`. -/
def tlsHmacSha256Vector (key : List UInt8) (parts : List (List UInt8)) : Sha256Digest :=
  let innerPad := (hmacKeyBlock key).map (· ^^^ 0x36)
  let outerPad := (hmacKeyBlock key).map (· ^^^ 0x5c)
  let innerHash := sha256Final (parts.foldl sha256Update (sha256Update sha256Init innerPad))
  sha256Final (sha256Update (sha256Update sha256Init outerPad) innerHash.toList)

/-- The loop of `tls_prf_sha256`, which has `outLen` bytes to go. -/
def tlsPrfLoop (secret seed : List UInt8) : Nat → Sha256Digest → Nat → List UInt8
  | 0, _, _ => []
  | fuel + 1, a, outLen =>
      if outLen = 0 then []
      else
        let chunk := tlsHmacSha256Vector secret [a.toList, seed]
        chunk.toList.take outLen ++
          tlsPrfLoop secret seed fuel (tlsHmacSha256Vector secret [a.toList]) (outLen - 32)

/-- `tls_prf_sha256`; `none` is -1. -/
def tlsPrfSha256 (secret : List UInt8) (label : String) (seed : List UInt8) (outLen : Nat) :
    Option (List UInt8) :=
  let seed := asciiBytes label ++ seed
  if seed.length > 128 then none
  else some (tlsPrfLoop secret seed outLen (tlsHmacSha256Vector secret [seed]) outLen)

theorem length_tlsPrfLoop {secret seed : List UInt8} {fuel outLen : Nat} (a : Sha256Digest)
    (h : outLen ≤ fuel) : (tlsPrfLoop secret seed fuel a outLen).length = outLen := by
  induction fuel generalizing a outLen with
  | zero => simp [tlsPrfLoop, Nat.le_zero.mp h]
  | succ fuel ih =>
      unfold tlsPrfLoop
      split
      next hzero => simp [hzero]
      next hzero =>
        rw [List.length_append, ih _ (by omega)]
        simp
        omega

/-- With a short label and seed the function has a value of the length asked for. -/
theorem exists_tlsPrfSha256 (secret : List UInt8) (label : String) (seed : List UInt8) (outLen : Nat)
    (h : (asciiBytes label).length + seed.length ≤ 128) :
    ∃ out, tlsPrfSha256 secret label seed outLen = some out ∧ out.length = outLen := by
  refine ⟨_, if_neg ?_, length_tlsPrfLoop _ (Nat.le_refl _)⟩
  simpa using h

/-! ## Messages -/

/-- A handshake message. -/
structure TlsMessage where
  type : UInt8
  body : List UInt8
deriving DecidableEq

/-- `put_be24`. -/
def putBe24 (n : Nat) : List UInt8 :=
  [UInt8.ofNat (n / 65536), UInt8.ofNat (n / 256), UInt8.ofNat n]

/-- A message as it travels and is hashed. -/
def TlsMessage.bytes (m : TlsMessage) : List UInt8 := m.type :: (putBe24 m.body.length ++ m.body)

/-- The first message of a buffer, when it is complete, and the bytes after it. -/
def tlsNextMessage (p : List UInt8) : Option (TlsMessage × List UInt8) :=
  if p.length < 4 ∨ 4 + getBe24 p 1 > p.length then none
  else some (⟨p.getD 0 0, (p.drop 4).take (getBe24 p 1)⟩, p.drop (4 + getBe24 p 1))

/-- The messages of a record. -/
def tlsMessages (p : List UInt8) : List TlsMessage := (unframe tlsNextMessage p.length p).1

/-- The record ends within a message: `partial_handshake`. -/
def tlsPartialHandshake (p : List UInt8) : Bool :=
  decide (4 ≤ (unframe tlsNextMessage p.length p).2.length)

/-- The server's flight: its handshake messages, and whether a record or a message
is incomplete. -/
structure TlsFlight where
  messages : List TlsMessage
  partialRecord : Bool
  partialHandshake : Bool
deriving DecidableEq

/-- The records and messages `tls_parse_records` visits. -/
def tlsFlight (rx : List UInt8) : TlsFlight :=
  let records := unframe tlsNextRecord rx.length rx
  let bodies := (records.1.filter fun r => r.type = 22).map TlsRecord.body
  { messages := bodies.flatMap tlsMessages
    partialRecord := !records.2.isEmpty
    partialHandshake := bodies.any tlsPartialHandshake }

/-! ## The client hello -/

/-- One step of the generator of the client's random. -/
def tlsSeedStep (seed : UInt32) : UInt32 := seed * 1664525 + 1013904223

/-- `tls_client_random`, seeded with the timer. -/
def tlsClientRandom (ticks : UInt64) : List UInt8 :=
  (List.range 32).map fun i => ((tlsSeedStep^[i + 1] (0x4f5a544c ^^^ ticks.toUInt32)) >>> 24).toUInt8

/-- The header of `tls_put_extension_header` and the body. -/
def tlsExtension (type : UInt16) (body : List UInt8) : List UInt8 :=
  putBe16 type ++ putBe16 (UInt16.ofNat body.length) ++ body

/-- `suites`. -/
def tlsSuites : List UInt16 :=
  [0xc02f, 0xc02b, 0xc030, 0xc02c, 0xcca8, 0xcca9, 0x009e, 0x009c]

/-- `groups`. -/
def tlsGroups : List UInt16 := [0x001d, 0x0017, 0x0018]

/-- `sigs`. -/
def tlsSigs : List UInt16 := [0x0403, 0x0804, 0x0401, 0x0503, 0x0805, 0x0501]

/-- The extensions of the client hello. -/
def tlsClientExtensions (host : List UInt8) : List UInt8 :=
  let alpn := asciiBytes "http/1.1"
  tlsExtension 0x0000 (putBe16 (UInt16.ofNat (3 + host.length)) ++
      0 :: (putBe16 (UInt16.ofNat host.length) ++ host)) ++
    tlsExtension 0x000a (putBe16 6 ++ tlsGroups.flatMap putBe16) ++
    tlsExtension 0x000b [1, 0] ++
    tlsExtension 0x000d (putBe16 12 ++ tlsSigs.flatMap putBe16) ++
    tlsExtension 0x0017 [] ++ tlsExtension 0x0023 [] ++ tlsExtension 0xff01 [0] ++
    tlsExtension 0x0010 (putBe16 9 ++ 8 :: alpn)

/-- `build_tls_client_hello`: the message in `tls_tx_buf`, which has room for it; `none`
is -1. -/
def buildTlsClientHello (host : List UInt8) (ticks : UInt64) : Option TlsMessage :=
  if host.length = 0 ∨ host.length > 253 then none
  else
    let extensions := tlsClientExtensions host
    some ⟨1, putBe16 0x0303 ++ tlsClientRandom ticks ++ 0 :: (putBe16 16 ++
      tlsSuites.flatMap putBe16 ++ [1, 0] ++ putBe16 (UInt16.ofNat extensions.length) ++
      extensions)⟩

/-- What a run of the handshake starts from: the host, the client hello that was
sent, and the ticks when the client's key is made. -/
structure TlsClient where
  host : List UInt8
  random : List UInt8
  hello : TlsMessage
  keyTicks : UInt64

/-! ## Reading the flight -/

/-- The two values the key agreement leaves. -/
structure TlsAgreement where
  clientPublic : List UInt8
  sharedSecret : List UInt8
deriving DecidableEq

/-- `tls_parse_info_t`, as far as the flight fills it, with the client's scalar. -/
structure TlsParseInfo where
  serverRandom : List UInt8
  cipher : UInt16
  extendedMasterSecret : Bool
  serverHelloDoneSeen : Bool
  keySignatureAlg : UInt16
  scalar : Option (Vector UInt8 32)
  agreement : Option TlsAgreement
  handshakeCtx : Option Sha256Ctx
  certs : TlsCertInfo

/-- Before the flight: `memset`, and the client hello hashed. -/
def TlsParseInfo.start (hello : TlsMessage) : TlsParseInfo where
  serverRandom := List.replicate 32 0
  cipher := 0
  extendedMasterSecret := false
  serverHelloDoneSeen := false
  keySignatureAlg := 0
  scalar := none
  agreement := none
  handshakeCtx :=
    if hello.bytes.length > 0 ∧ hello.bytes.length ≤ tlsTxMax - 5 then
      some (sha256Update sha256Init hello.bytes)
    else none
  certs := .zero

/-- What is read from a server hello. -/
structure TlsServerHello where
  random : List UInt8
  cipher : UInt16
  extendedMasterSecret : Bool
deriving DecidableEq

/-- The loop over the extensions: whether the extended master secret is among them. -/
def tlsExtendedMasterSecret (body : List UInt8) (last : Nat) : Nat → Nat → Bool
  | 0, _ => false
  | fuel + 1, pos =>
      if pos + 4 > last then false
      else
        let len := (getBe16 body (pos + 2)).toNat
        if pos + 4 + len > last then false
        else
          (getBe16 body pos == 0x0017 && len == 0) ||
            tlsExtendedMasterSecret body last fuel (pos + 4 + len)

/-- The reader of `tls_parse_server_hello`. -/
def tlsReadServerHello (body : List UInt8) : Option TlsServerHello :=
  let cipherPos := 35 + (body.getD 34 0).toNat
  if body.length < 38 ∨ cipherPos + 3 > body.length then none
  else
    let extPos := cipherPos + 3
    let last := extPos + 2 + (getBe16 body extPos).toNat
    some
      { random := (body.drop 2).take 32
        cipher := getBe16 body cipherPos
        extendedMasterSecret :=
          decide (extPos + 2 ≤ body.length ∧ last ≤ body.length) &&
            tlsExtendedMasterSecret body last body.length (extPos + 2) }

/-- `tls_parse_server_hello`. -/
def tlsParseServerHello (body : List UInt8) (info : TlsParseInfo) : TlsParseInfo :=
  match tlsReadServerHello body with
  | none => info
  | some hello =>
      { info with
        serverRandom := hello.random
        cipher := hello.cipher
        extendedMasterSecret := info.extendedMasterSecret || hello.extendedMasterSecret }

/-- What is read from a server key exchange: the named group, the public value, and
the algorithm of the signature when there are bytes for it. -/
structure TlsKeyExchange where
  group : UInt16
  publicValue : List UInt8
  signatureAlg : Option UInt16
deriving DecidableEq

/-- The reader of `tls_parse_server_key_exchange`. -/
def tlsReadServerKeyExchange (body : List UInt8) : Option TlsKeyExchange :=
  let sigPos := 4 + (body.getD 3 0).toNat
  if body.length < 4 ∨ body.getD 0 0 ≠ 3 ∨ sigPos > body.length then none
  else
    some
      { group := getBe16 body 1
        publicValue := (body.drop 4).take (body.getD 3 0).toNat
        signatureAlg := if sigPos + 2 ≤ body.length then some (getBe16 body sigPos) else none }

/-- The public value that `tls_prepare_x25519_key_agreement` takes. -/
def TlsKeyExchange.share (k : TlsKeyExchange) : Option (Vector UInt8 32) :=
  if h : k.group = 0x001d ∧ k.publicValue.length = 32 then
    some ⟨k.publicValue.toArray, by simpa using h.2⟩
  else none

/-- `x25519_scalar_mult`, the same function as `x25519_shared_secret`. -/
def x25519ScalarMult (scalar point : Vector UInt8 32) : List UInt8 :=
  x25519SharedSecret (m := Id) scalar point

/-- `tls_make_x25519_scalar` of a handshake that has no scalar yet. -/
def tlsMakeX25519Scalar (client : TlsClient) (serverRandom : List UInt8)
    (share : Vector UInt8 32) : Vector UInt8 32 :=
  let digest := sha256Final (sha256Update (sha256Update (sha256Update (sha256Update (sha256Update
    sha256Init (asciiBytes "orizon-tls-x25519-bootstrap")) client.random) serverRandom)
      share.toList) (storeLe64 client.keyTicks.toNat))
  Vector.ofFn fun i => (x25519ClampPrivate digest.toList).getD i 0

/-- What both sides get from the client's scalar and the server's public value. -/
def tlsAgree (scalar share : Vector UInt8 32) : TlsAgreement where
  clientPublic := x25519ScalarMult scalar (Vector.ofFn fun i => if i.val = 0 then 9 else 0)
  sharedSecret := x25519ScalarMult scalar share

/-- `tls_prepare_x25519_key_agreement`. -/
def tlsPrepareX25519KeyAgreement (client : TlsClient) (k : TlsKeyExchange) (info : TlsParseInfo) :
    TlsParseInfo :=
  match k.share with
  | none => info
  | some share =>
      let scalar := info.scalar.getD (tlsMakeX25519Scalar client info.serverRandom share)
      { info with scalar := some scalar, agreement := some (tlsAgree scalar share) }

/-- `tls_parse_server_key_exchange`. -/
def tlsParseServerKeyExchange (client : TlsClient) (body : List UInt8) (info : TlsParseInfo) :
    TlsParseInfo :=
  match tlsReadServerKeyExchange body with
  | none => info
  | some k =>
      tlsPrepareX25519KeyAgreement client k
        { info with keySignatureAlg := k.signatureAlg.getD info.keySignatureAlg }

/-- `tls_parse_handshake_message`; `none` when it does not end. -/
def tlsParseHandshakeMessage (client : TlsClient) (info : TlsParseInfo) (m : TlsMessage) :
    Option TlsParseInfo :=
  match m.type with
  | 2 => some (tlsParseServerHello m.body info)
  | 11 => (tlsParseCertificate client.host m.body info.certs).map fun certs =>
      { info with certs := certs }
  | 12 => some (tlsParseServerKeyExchange client m.body info)
  | 14 => some { info with serverHelloDoneSeen := true }
  | _ => some info

/-- A message of the flight is hashed and parsed. -/
def tlsFlightMessage (client : TlsClient) (info : TlsParseInfo) (m : TlsMessage) :
    Option TlsParseInfo :=
  tlsParseHandshakeMessage client
    { info with handshakeCtx := info.handshakeCtx.map fun ctx => sha256Update ctx m.bytes } m

/-! ## The key schedule -/

/-- `tls_key_block_len`. -/
def tlsKeyBlockLen (cipher : UInt16) : Nat :=
  if cipher = 0xc02f ∨ cipher = 0xc02b then 40 else 0

/-- The traffic keys out of `key_block`. -/
def tlsTraffic (keyBlock : List UInt8) : TlsTraffic where
  clientWriteKey := Vector.ofFn fun i => keyBlock.getD i 0
  serverWriteKey := Vector.ofFn fun i => keyBlock.getD (16 + i) 0
  clientWriteIv := Vector.ofFn fun i => keyBlock.getD (32 + i) 0
  serverWriteIv := Vector.ofFn fun i => keyBlock.getD (36 + i) 0

/-- What is ready for the protected part: the master secret, the traffic keys, and
the client's finished message. -/
structure TlsSecure where
  masterSecret : List UInt8
  traffic : TlsTraffic
  finishedPlain : List UInt8

/-- `client_secure_flight`: the change of cipher and the finished record. -/
def TlsSecure.flight (s : TlsSecure) : List UInt8 :=
  (⟨20, 0x0303, [1]⟩ : TlsRecord).bytes ++ (tlsClientRecord s.traffic 0 22 s.finishedPlain).bytes

/-- What `tls_prepare_key_schedule` leaves once the client key exchange is built. -/
structure TlsKeySchedule where
  clientKeyExchange : List UInt8
  secure : Option TlsSecure

/-- `client_key_exchange` of `tls_build_client_key_exchange`. -/
def tlsBuildClientKeyExchange (a : TlsAgreement) : List UInt8 :=
  (⟨16, 32 :: a.clientPublic⟩ : TlsMessage).bytes

/-- The master secret, extended or from the two randoms. -/
def tlsMasterSecret (clientRandom : List UInt8) (info : TlsParseInfo) (a : TlsAgreement)
    (sessionHash : Sha256Digest) : Option (List UInt8) :=
  if info.extendedMasterSecret then
    tlsPrfSha256 a.sharedSecret "extended master secret" sessionHash.toList 48
  else tlsPrfSha256 a.sharedSecret "master secret" (clientRandom ++ info.serverRandom) 48

/-- The steps of `tls_prepare_key_schedule` after the master secret; ends with
`tls_build_client_finished`. -/
def tlsPrepareSecure (clientRandom : List UInt8) (info : TlsParseInfo)
    (sessionHash : Sha256Digest) (master : List UInt8) : Option TlsSecure :=
  if tlsKeyBlockLen info.cipher = 0 then none
  else do
    let keyBlock ← tlsPrfSha256 master "key expansion" (info.serverRandom ++ clientRandom)
      (tlsKeyBlockLen info.cipher)
    let verify ← tlsPrfSha256 master "client finished" sessionHash.toList 12
    some ⟨master, tlsTraffic keyBlock, (⟨20, verify⟩ : TlsMessage).bytes⟩

/-- `tls_prepare_key_schedule`; `none` when it returns before anything is built. -/
def tlsPrepareKeySchedule (clientRandom : List UInt8) (info : TlsParseInfo) :
    Option TlsKeySchedule :=
  match info.agreement, info.handshakeCtx with
  | some a, some ctx =>
      if !info.serverHelloDoneSeen then none
      else
        let cke := tlsBuildClientKeyExchange a
        let sessionHash := sha256Final (sha256Update ctx cke)
        some ⟨cke, do
          let master ← tlsMasterSecret clientRandom info a sessionHash
          tlsPrepareSecure clientRandom info sessionHash master⟩
  | _, _ => none

/-- `tls_parse_records` with the key schedule it prepares; `none` when it does not end. -/
def tlsParseRecords (client : TlsClient) (rx : List UInt8) :
    Option (TlsParseInfo × Option TlsKeySchedule) :=
  let flight := tlsFlight rx
  (flight.messages.foldlM (tlsFlightMessage client) (.start client.hello)).map fun info =>
    (info, if flight.partialRecord || flight.partialHandshake then none
      else tlsPrepareKeySchedule client.random info)

/-! ## The server's finished message -/

/-- `tls_decrypt_server_secure_reply` so far: the handshake messages, whether the cipher
was changed, the bytes in `tls_server_plain_buf`, and the next sequence number. -/
structure TlsSecureReply where
  messages : List TlsMessage
  changeCipherSpecSeen : Bool
  plainTotal : Nat
  seq : UInt64

/-- Before the first record. -/
def TlsSecureReply.start : TlsSecureReply := ⟨[], false, 0, 0⟩

/-- A record of the secure reply; before the change of cipher handshake messages
travel in clear. -/
def tlsSecureRecord (keys : TlsTraffic) (reply : TlsSecureReply) (r : TlsRecord) : TlsSecureReply :=
  if r.type = 22 ∧ reply.changeCipherSpecSeen = false then
    { reply with messages := reply.messages ++ tlsMessages r.body }
  else if r.type = 20 ∧ r.body = [1] then { reply with changeCipherSpecSeen := true }
  else if (r.type = 22 ∨ r.type = 21) ∧ reply.plainTotal < tlsServerPlainMax then
    match tlsDecryptAesGcmRecord keys reply.seq r (tlsServerPlainMax - reply.plainTotal) with
    | none => reply
    | some plain =>
        { reply with
          messages := reply.messages ++ if r.type = 22 then tlsMessages plain else []
          plainTotal := reply.plainTotal + plain.length
          seq := reply.seq + 1 }
  else reply

/-- The records of the secure reply. -/
def tlsSecureRecords (keys : TlsTraffic) (rx : List UInt8) : TlsSecureReply :=
  (unframe tlsNextRecord rx.length rx).1.foldl (tlsSecureRecord keys) .start

/-- The server's finished message is right after the transcript `ctx`. -/
def tlsFinishedOk (master : List UInt8) (ctx : Sha256Ctx) (m : TlsMessage) : Bool :=
  m.type == 20 && decide (12 ≤ m.body.length) &&
    tlsPrfSha256 master "server finished" (sha256Final ctx).toList 12 == some (m.body.take 12)

/-- A message of `tls_parse_decrypted_server_handshake`, with the transcript so far and
`server_finished_verified`. -/
def tlsServerHandshakeMessage (master : List UInt8) (s : Sha256Ctx × Bool) (m : TlsMessage) :
    Sha256Ctx × Bool :=
  (sha256Update s.1 m.bytes, s.2 || tlsFinishedOk master s.1 m)

/-- The transcript the server's finished message is about. -/
def tlsServerCtx (ctx : Sha256Ctx) (schedule : TlsKeySchedule) (secure : TlsSecure) : Sha256Ctx :=
  sha256Update (sha256Update ctx schedule.clientKeyExchange) secure.finishedPlain

/-- `tls_decrypt_server_secure_reply`: `server_finished_verified` and `server_read_seq_next`. -/
def tlsDecryptServerSecureReply (ctx : Sha256Ctx) (schedule : TlsKeySchedule) (secure : TlsSecure)
    (rx : List UInt8) : Bool × UInt64 :=
  let reply := tlsSecureRecords secure.traffic rx
  ((reply.messages.foldl (tlsServerHandshakeMessage secure.masterSecret)
    (tlsServerCtx ctx schedule secure, false)).2, reply.seq)

/-! ## Messages are read back -/

theorem getBe24_putBe24 {n : Nat} (h : n < 2 ^ 24) (type : UInt8) (rest : List UInt8) :
    getBe24 (type :: (putBe24 n ++ rest)) 1 = n := by
  simp only [getBe24, putBe24, List.getD_eq_getElem?_getD]
  simp
  omega

theorem tlsNextMessage_bytes (m : TlsMessage) (rest : List UInt8) (h : m.body.length < 2 ^ 24) :
    tlsNextMessage (m.bytes ++ rest) = some (m, rest) := by
  have hlen : getBe24 (m.bytes ++ rest) 1 = m.body.length := by
    rw [TlsMessage.bytes, List.cons_append, List.append_assoc]
    exact getBe24_putBe24 h m.type (m.body ++ rest)
  have hdrop : (m.bytes ++ rest).drop 4 = m.body ++ rest := by
    simp [TlsMessage.bytes, putBe24]
  have hrest : (m.bytes ++ rest).drop (4 + m.body.length) = rest := by
    rw [← List.drop_drop, hdrop, List.drop_left]
  have hsize : (m.bytes ++ rest).length = 4 + m.body.length + rest.length := by
    simp [TlsMessage.bytes, putBe24]
    omega
  simp only [tlsNextMessage, hlen, hdrop, hrest, hsize, List.take_left]
  rw [if_neg (by omega)]
  rfl

/-- What is found is what was written: the hashed bytes of a message are the bytes
that arrived. -/
theorem tlsNextMessage_sound {p rest : List UInt8} {m : TlsMessage}
    (h : tlsNextMessage p = some (m, rest)) : p = m.bytes ++ rest ∧ m.body.length < 2 ^ 24 := by
  unfold tlsNextMessage at h
  split at h
  · simp at h
  next hfits =>
  obtain ⟨rfl, rfl⟩ : _ ∧ _ := by simpa using h
  obtain ⟨type, a, b, c, q, rfl⟩ : ∃ type a b c q, p = type :: a :: b :: c :: q := by
    match p, hfits with
    | [], hfits | [_], hfits | [_, _], hfits | [_, _, _], hfits => simp at hfits
    | type :: a :: b :: c :: q, _ => exact ⟨type, a, b, c, q, rfl⟩
  have ha := a.toNat_lt
  have hb := b.toNat_lt
  have hc := c.toNat_lt
  have hlen : getBe24 (type :: a :: b :: c :: q) 1 = a.toNat * 65536 + b.toNat * 256 + c.toNat := rfl
  rw [hlen] at hfits ⊢
  have hbytes : putBe24 (a.toNat * 65536 + b.toNat * 256 + c.toNat) = [a, b, c] := by
    simp only [putBe24, List.cons.injEq, ← UInt8.toNat_inj, UInt8.toNat_ofNat', and_true]
    omega
  have htake : (q.take (a.toNat * 65536 + b.toNat * 256 + c.toNat)).length =
      a.toNat * 65536 + b.toNat * 256 + c.toNat := by
    rw [List.length_take]
    simp at hfits
    omega
  have hdrop : (type :: a :: b :: c :: q).drop
      (4 + (a.toNat * 65536 + b.toNat * 256 + c.toNat)) =
        q.drop (a.toNat * 65536 + b.toNat * 256 + c.toNat) := by
    rw [← List.drop_drop]
    rfl
  simp only [TlsMessage.bytes, List.drop_succ_cons, List.drop_zero, htake, hbytes, hdrop]
  refine ⟨by simp, ?_⟩
  omega

/-- The messages of a payload and what is left of it are the one way to read its bytes. -/
theorem tlsMessages_iff {p rest : List UInt8} {messages : List TlsMessage} :
    unframe tlsNextMessage p.length p = (messages, rest) ↔ p = messages.flatMap TlsMessage.bytes ++ rest ∧
      (∀ m ∈ messages, m.body.length < 2 ^ 24) ∧ tlsNextMessage rest = none :=
  unframe_eq_iff (fun _ _ _ => tlsNextMessage_sound) (fun m => by simp [TlsMessage.bytes]) tlsNextMessage_bytes

theorem unframe_tlsNextMessage {messages : List TlsMessage}
    (h : ∀ m ∈ messages, m.body.length < 2 ^ 24) :
    unframe tlsNextMessage (messages.flatMap TlsMessage.bytes).length
      (messages.flatMap TlsMessage.bytes) = (messages, []) := by
  have hfuel : messages.length ≤ (messages.flatMap TlsMessage.bytes).length := by
    have := List.length_le_sum_of_one_le (messages.map fun m => m.bytes.length) (by
      simp [TlsMessage.bytes])
    simpa [List.length_flatMap] using this
  have := unframe_flatMap (fun m : TlsMessage => m.body.length < 2 ^ 24) tlsNextMessage_bytes h
    (rfl : tlsNextMessage [] = none) hfuel
  simpa using this

/-- A record is read back as the only one of its bytes, or as the first of two. -/
theorem unframe_tlsNextRecord (records : List TlsRecord)
    (h : ∀ r ∈ records, r.body.length < 2 ^ 16) :
    unframe tlsNextRecord (records.flatMap TlsRecord.bytes).length
      (records.flatMap TlsRecord.bytes) = (records, []) := by
  have hfuel : records.length ≤ (records.flatMap TlsRecord.bytes).length := by
    have := List.length_le_sum_of_one_le (records.map fun r => r.bytes.length) (by
      simp [TlsRecord.bytes])
    simpa [List.length_flatMap] using this
  have := unframe_flatMap (fun r : TlsRecord => r.body.length < 2 ^ 16) tlsNextRecord_bytes h
    (rfl : tlsNextRecord [] = none) hfuel
  simpa using this

theorem tlsMessages_bytes (messages : List TlsMessage)
    (h : ∀ m ∈ messages, m.body.length < 2 ^ 24) :
    tlsMessages (messages.flatMap TlsMessage.bytes) = messages := by
  rw [tlsMessages, unframe_tlsNextMessage h]

theorem tlsFlight_bytes {messages : List TlsMessage} {version : UInt16}
    (h : ∀ m ∈ messages, m.body.length < 2 ^ 24)
    (hrecord : (messages.flatMap TlsMessage.bytes).length < 2 ^ 16) :
    tlsFlight (⟨22, version, messages.flatMap TlsMessage.bytes⟩ : TlsRecord).bytes =
      ⟨messages, false, false⟩ := by
  have hread := unframe_tlsNextRecord
    [⟨22, version, messages.flatMap TlsMessage.bytes⟩] (by simpa using hrecord)
  simp only [List.flatMap_cons, List.flatMap_nil, List.append_nil] at hread
  have hcomplete : tlsPartialHandshake (messages.flatMap TlsMessage.bytes) = false := by
    rw [tlsPartialHandshake, unframe_tlsNextMessage h]
    rfl
  simp [tlsFlight, hread, tlsMessages_bytes _ h, hcomplete]

/-! ## What the flight leaves -/

/-- The public value of a message that is an X25519 server key exchange. -/
def tlsMessageShare (m : TlsMessage) : Option (Vector UInt8 32) :=
  if m.type = 12 then (tlsReadServerKeyExchange m.body).bind TlsKeyExchange.share else none

/-- The public value of the last X25519 server key exchange. -/
def tlsServerKeyShare (messages : List TlsMessage) : Option (Vector UInt8 32) :=
  messages.foldl (fun share m => (tlsMessageShare m).or share) none

/-- The certificate fields after the `Certificate` messages of the flight. -/
def tlsFlightCertificates (host : List UInt8) (messages : List TlsMessage) : Option TlsCertInfo :=
  (messages.filter fun m => m.type = 11).foldlM
    (fun certs m => tlsParseCertificate host m.body certs) .zero

variable {client : TlsClient} {info info' : TlsParseInfo} {m : TlsMessage}

/-- The key agreement is about the public value `share`, if there is one. -/
def TlsParseInfo.Agreed (info : TlsParseInfo) : Option (Vector UInt8 32) → Prop
  | none => info.agreement = none
  | some share => ∃ scalar, info.scalar = some scalar ∧ info.agreement = some (tlsAgree scalar share)

/-- A message that is not a key exchange does not touch the key agreement. -/
theorem tlsParseHandshakeMessage_agreement
    (h : tlsParseHandshakeMessage client info m = some info') (htype : m.type ≠ 12) :
    info'.scalar = info.scalar ∧ info'.agreement = info.agreement := by
  unfold tlsParseHandshakeMessage at h
  split at h
  · obtain rfl := Option.some.inj h
    unfold tlsParseServerHello
    split <;> simp
  · obtain ⟨certs, -, rfl⟩ := Option.map_eq_some_iff.mp h
    simp
  · contradiction
  · obtain rfl := Option.some.inj h
    simp
  · obtain rfl := Option.some.inj h
    simp

/-- A key exchange with an X25519 value replaces the key agreement; any other one
keeps it. -/
theorem TlsParseInfo.Agreed.keyExchange {share : Option (Vector UInt8 32)} (h : info.Agreed share)
    (client : TlsClient) (body : List UInt8) :
    (tlsParseServerKeyExchange client body info).Agreed
      (((tlsReadServerKeyExchange body).bind TlsKeyExchange.share).or share) := by
  unfold tlsParseServerKeyExchange
  cases hread : tlsReadServerKeyExchange body with
  | none => simpa using h
  | some k =>
      simp only [Option.bind_some, tlsPrepareX25519KeyAgreement]
      cases hshare : k.share with
      | none => cases share <;> simpa [TlsParseInfo.Agreed] using h
      | some value => simp [TlsParseInfo.Agreed]

theorem TlsParseInfo.Agreed.step {share : Option (Vector UInt8 32)} (h : info.Agreed share)
    (hstep : tlsFlightMessage client info m = some info') :
    info'.Agreed ((tlsMessageShare m).or share) := by
  have hhashed (ctx : Option Sha256Ctx) :
      ({ info with handshakeCtx := ctx } : TlsParseInfo).Agreed share := by
    cases share <;> exact h
  by_cases htype : m.type = 12
  · simp only [tlsFlightMessage, tlsParseHandshakeMessage, htype, Option.some.injEq] at hstep
    rw [← hstep, tlsMessageShare, if_pos htype]
    exact (hhashed _).keyExchange client m.body
  · obtain ⟨hscalar, hagreement⟩ := tlsParseHandshakeMessage_agreement hstep htype
    rw [tlsMessageShare, if_neg htype, Option.none_or]
    cases share <;> simpa [TlsParseInfo.Agreed, hscalar, hagreement] using h

/-- The key agreement of a flight is about the last X25519 key exchange in it. -/
theorem TlsParseInfo.Agreed.run {share : Option (Vector UInt8 32)} (h : info.Agreed share)
    {messages : List TlsMessage}
    (hrun : messages.foldlM (tlsFlightMessage client) info = some info') :
    info'.Agreed (messages.foldl (fun share m => (tlsMessageShare m).or share) share) := by
  induction messages generalizing info share with
  | nil =>
      obtain rfl : info = info' := by simpa using hrun
      exact h
  | cons m messages ih =>
      rw [List.foldlM_cons] at hrun
      obtain ⟨next, hnext, hrest⟩ := Option.bind_eq_some_iff.mp hrun
      exact ih (h.step hnext) hrest

theorem tlsFlight_agreed {messages : List TlsMessage}
    (h : messages.foldlM (tlsFlightMessage client) (.start client.hello) = some info') :
    info'.Agreed (tlsServerKeyShare messages) := by
  have hstart : (TlsParseInfo.start client.hello).Agreed none := rfl
  exact hstart.run h

theorem tlsFlightMessage_certs (h : tlsFlightMessage client info m = some info') :
    if m.type = 11 then tlsParseCertificate client.host m.body info.certs = some info'.certs
    else info'.certs = info.certs := by
  simp only [tlsFlightMessage, tlsParseHandshakeMessage] at h
  split at h
  next htype =>
    obtain rfl := Option.some.inj h
    rw [htype, if_neg (by decide)]
    unfold tlsParseServerHello
    split <;> simp
  next htype =>
    obtain ⟨certs, hcerts, rfl⟩ := Option.map_eq_some_iff.mp h
    simpa [htype] using hcerts
  next htype =>
    obtain rfl := Option.some.inj h
    rw [htype, if_neg (by decide)]
    unfold tlsParseServerKeyExchange
    split
    · simp
    · unfold tlsPrepareX25519KeyAgreement
      split <;> simp
  next htype =>
    obtain rfl := Option.some.inj h
    simp [htype]
  next _ hother _ _ =>
    obtain rfl := Option.some.inj h
    rw [if_neg hother]

/-- The certificate fields of a flight come from its `Certificate` messages. -/
theorem tlsFlight_certs {messages : List TlsMessage}
    (h : messages.foldlM (tlsFlightMessage client) info = some info') :
    (messages.filter fun m => m.type = 11).foldlM
      (fun certs m => tlsParseCertificate client.host m.body certs) info.certs =
        some info'.certs := by
  induction messages generalizing info with
  | nil => simpa using congrArg TlsParseInfo.certs (Option.some.inj h)
  | cons m messages ih =>
      rw [List.foldlM_cons] at h
      obtain ⟨next, hnext, hrest⟩ := Option.bind_eq_some_iff.mp h
      have hstep := tlsFlightMessage_certs hnext
      have htail := ih hrest
      by_cases htype : m.type = 11
      · rw [if_pos htype] at hstep
        simp [htype, hstep, htail]
      · rw [if_neg htype] at hstep
        rw [hstep] at htail
        simp [htype, htail]

/-! ## The finished message -/

/-- The finished message is accepted exactly when one of the messages carries the
code of the transcript before it. -/
theorem tlsServerHandshake_verified {master : List UInt8} {ctx : Sha256Ctx}
    {messages : List TlsMessage} :
    (messages.foldl (tlsServerHandshakeMessage master) (ctx, false)).2 = true ↔
      ∃ before m after, messages = before ++ m :: after ∧
        tlsFinishedOk master (before.foldl (fun ctx m => sha256Update ctx m.bytes) ctx) m = true := by
  suffices hgen : ∀ seen, (messages.foldl (tlsServerHandshakeMessage master) (ctx, seen)).2 = true ↔
      seen = true ∨ ∃ before m after, messages = before ++ m :: after ∧
        tlsFinishedOk master (before.foldl (fun ctx m => sha256Update ctx m.bytes) ctx) m = true by
    simpa using hgen false
  induction messages generalizing ctx with
  | nil => simp
  | cons m messages ih =>
      intro seen
      rw [List.foldl_cons, tlsServerHandshakeMessage, ih, Bool.or_eq_true, or_assoc]
      refine or_congr_right ⟨?_, ?_⟩
      · rintro (hm | ⟨before, m', after, rfl, hm'⟩)
        · exact ⟨[], m, messages, rfl, hm⟩
        · exact ⟨m :: before, m', after, rfl, hm'⟩
      · rintro ⟨before, m', after, hsplit, hm'⟩
        cases before with
        | nil =>
            obtain ⟨rfl, -⟩ := List.cons.inj hsplit
            exact .inl hm'
        | cons b before =>
            obtain ⟨rfl, htail⟩ := List.cons.inj hsplit
            exact .inr ⟨before, m', after, htail, hm'⟩

/-! ## A complete flight -/

/-- A flight of the four messages in one record, when they can be read. -/
theorem tlsParseRecords_flight (client : TlsClient) {hello cert exchange : List UInt8} {version : UInt16}
    {server : TlsServerHello} {certs : TlsCertInfo} {k : TlsKeyExchange} {share : Vector UInt8 32}
    (hsize : ([⟨2, hello⟩, ⟨11, cert⟩, ⟨12, exchange⟩, ⟨14, []⟩].flatMap TlsMessage.bytes).length <
      2 ^ 16)
    (hserver : tlsReadServerHello hello = some server)
    (hcert : tlsParseCertificate client.host cert .zero = some certs)
    (hexchange : tlsReadServerKeyExchange exchange = some k) (hshare : k.share = some share) :
    ∃ info, tlsParseRecords client (⟨22, version,
          [⟨2, hello⟩, ⟨11, cert⟩, ⟨12, exchange⟩, ⟨14, []⟩].flatMap TlsMessage.bytes⟩ :
            TlsRecord).bytes = some (info, tlsPrepareKeySchedule client.random info) ∧
      info.certs = certs ∧ info.cipher = server.cipher ∧ info.serverRandom = server.random ∧
      info.agreement.isSome ∧ info.serverHelloDoneSeen = true ∧
      info.handshakeCtx.isSome = (TlsParseInfo.start client.hello).handshakeCtx.isSome := by
  have hsmall : ∀ m ∈ [(⟨2, hello⟩ : TlsMessage), ⟨11, cert⟩, ⟨12, exchange⟩, ⟨14, []⟩],
      m.body.length < 2 ^ 24 := by
    simp [TlsMessage.bytes, putBe24] at hsize ⊢
    omega
  rw [tlsParseRecords, tlsFlight_bytes hsmall hsize]
  simp only [List.foldlM_cons, List.foldlM_nil, tlsFlightMessage, tlsParseHandshakeMessage,
    tlsParseServerHello, hserver, Option.bind_eq_bind, Option.bind_some]
  have hzero : (TlsParseInfo.start client.hello).certs = .zero := rfl
  simp only [hzero, hcert, Option.map_some, Option.bind_some, tlsParseServerKeyExchange, hexchange,
    tlsPrepareX25519KeyAgreement, hshare]
  exact ⟨_, rfl, by simp⟩

/-- After a complete flight with a supported cipher the keys are ready. -/
theorem tlsPrepareKeySchedule_secure {clientRandom : List UInt8}
    (hrandom : clientRandom.length = 32) (hserver : info.serverRandom.length = 32)
    (hcipher : tlsKeyBlockLen info.cipher ≠ 0) (hagreement : info.agreement.isSome)
    (hctx : info.handshakeCtx.isSome) (hdone : info.serverHelloDoneSeen = true) :
    ∃ schedule secure, tlsPrepareKeySchedule clientRandom info = some schedule ∧
      schedule.secure = some secure := by
  obtain ⟨a, ha⟩ := Option.isSome_iff_exists.mp hagreement
  obtain ⟨ctx, hctx⟩ := Option.isSome_iff_exists.mp hctx
  obtain ⟨hash, hhash⟩ : ∃ hash,
      hash = sha256Final (sha256Update ctx (tlsBuildClientKeyExchange a)) := ⟨_, rfl⟩
  have hmaster : ∃ master, tlsMasterSecret clientRandom info a hash = some master := by
    unfold tlsMasterSecret
    split
    · obtain ⟨out, hout, -⟩ := exists_tlsPrfSha256 a.sharedSecret "extended master secret"
        hash.toList 48 (by rw [Vector.length_toList]; decide)
      exact ⟨out, hout⟩
    · obtain ⟨out, hout, -⟩ := exists_tlsPrfSha256 a.sharedSecret "master secret"
        (clientRandom ++ info.serverRandom) 48 (by
          rw [List.length_append, hrandom, hserver]; decide)
      exact ⟨out, hout⟩
  obtain ⟨master, hmaster⟩ := hmaster
  obtain ⟨keyBlock, hkeyBlock, -⟩ := exists_tlsPrfSha256 master "key expansion"
    (info.serverRandom ++ clientRandom) (tlsKeyBlockLen info.cipher) (by
      rw [List.length_append, hrandom, hserver]; decide)
  obtain ⟨verify, hverify, -⟩ := exists_tlsPrfSha256 master "client finished" hash.toList 12 (by
    rw [Vector.length_toList]; decide)
  refine ⟨⟨tlsBuildClientKeyExchange a, some ⟨master, tlsTraffic keyBlock,
    (⟨20, verify⟩ : TlsMessage).bytes⟩⟩, _, ?_, rfl⟩
  simp [tlsPrepareKeySchedule, ha, hctx, hdone, ← hhash, hmaster, tlsPrepareSecure, hcipher,
    hkeyBlock, hverify]

/-! ## A peer that holds the keys -/

/-- The traffic keys as the server uses them. -/
def TlsTraffic.swap (keys : TlsTraffic) : TlsTraffic where
  clientWriteKey := keys.serverWriteKey
  serverWriteKey := keys.clientWriteKey
  clientWriteIv := keys.serverWriteIv
  serverWriteIv := keys.clientWriteIv

/-- The code the server's finished message has to carry. -/
def tlsServerVerify (ctx : Sha256Ctx) (schedule : TlsKeySchedule) (secure : TlsSecure) :
    List UInt8 :=
  (tlsPrfSha256 secure.masterSecret "server finished"
    (sha256Final (tlsServerCtx ctx schedule secure)).toList 12).getD []

/-- The change of cipher and the finished message of a server that holds the keys. -/
def tlsServerFinished (ctx : Sha256Ctx) (schedule : TlsKeySchedule) (secure : TlsSecure) :
    List UInt8 :=
  [(⟨20, 0x0303, [1]⟩ : TlsRecord), tlsClientRecord secure.traffic.swap 0 22
    (⟨20, tlsServerVerify ctx schedule secure⟩ : TlsMessage).bytes].flatMap TlsRecord.bytes

/-- The server's finished message is accepted; the next record has number 1. -/
theorem tlsDecryptServerSecureReply_serverFinished (ctx : Sha256Ctx) (schedule : TlsKeySchedule)
    (secure : TlsSecure) :
    tlsDecryptServerSecureReply ctx schedule secure (tlsServerFinished ctx schedule secure) =
      (true, 1) := by
  obtain ⟨verify, hverify, hlen⟩ := exists_tlsPrfSha256 secure.masterSecret "server finished"
    (sha256Final (tlsServerCtx ctx schedule secure)).toList 12 (by rw [Vector.length_toList]; decide)
  obtain ⟨m, hm⟩ : ∃ m : TlsMessage, m = ⟨20, verify⟩ := ⟨_, rfl⟩
  have hsize : m.bytes.length = 16 := by simp [hm, TlsMessage.bytes, putBe24, hlen]
  have hserver : tlsServerFinished ctx schedule secure = [(⟨20, 0x0303, [1]⟩ : TlsRecord),
      tlsClientRecord secure.traffic.swap 0 22 m.bytes].flatMap TlsRecord.bytes := by
    rw [tlsServerFinished, tlsServerVerify, hverify, hm, Option.getD_some]
  have hread := unframe_tlsNextRecord [(⟨20, 0x0303, [1]⟩ : TlsRecord),
      tlsClientRecord secure.traffic.swap 0 22 m.bytes] (by
    simp [length_tlsClientRecord, hsize])
  have hopens : tlsDecryptAesGcmRecord secure.traffic 0
      (tlsClientRecord secure.traffic.swap 0 22 m.bytes) tlsServerPlainMax = some m.bytes :=
    tlsClientRecord_opens rfl rfl (by rw [hsize]; decide)
  have hmessages : tlsMessages m.bytes = [m] := by
    have := tlsMessages_bytes [m] (by simp [hm, hlen])
    simpa using this
  have hrecords : tlsSecureRecords secure.traffic (tlsServerFinished ctx schedule secure) =
      ⟨[m], true, 16, 1⟩ := by
    have hchange : tlsSecureRecord secure.traffic .start ⟨20, 0x0303, [1]⟩ = ⟨[], true, 0, 0⟩ := by
      simp [tlsSecureRecord, TlsSecureReply.start]
    have hfinished : tlsSecureRecord secure.traffic ⟨[], true, 0, 0⟩
        (tlsClientRecord secure.traffic.swap 0 22 m.bytes) = ⟨[m], true, 16, 1⟩ := by
      have htype : (tlsClientRecord secure.traffic.swap 0 22 m.bytes).type = 22 := rfl
      have hroom : 0 < tlsServerPlainMax := by decide
      simp [tlsSecureRecord, htype, hroom, hopens, hmessages, hsize]
    rw [tlsSecureRecords, hserver, hread]
    simp only [List.foldl_cons, List.foldl_nil, hchange, hfinished]
  have hok : tlsFinishedOk secure.masterSecret (tlsServerCtx ctx schedule secure) m = true := by
    simp [tlsFinishedOk, hm, hlen, hverify]
  rw [tlsDecryptServerSecureReply, hrecords]
  simp [tlsServerHandshakeMessage, hok]

/-! ## The pseudorandom function of RFC 5246 -/

/-- `PRF(secret, label, seed)` of RFC 5246, 5: its first `n` bytes. -/
def rfc5246Prf (secret : List UInt8) (label : String) (seed : List UInt8) (n : Nat) : List UInt8 :=
  pHash (standardHmac fipsSha256 secret) 32 (asciiBytes label ++ seed) n

theorem tlsHmacSha256Vector_eq (key : List UInt8) (parts : List (List UInt8)) :
    (tlsHmacSha256Vector key parts).toList = standardHmac fipsSha256 key parts.flatten :=
  hmac_sha256_stream key parts

/-- The rounds of the loop make the blocks that follow `A(i)`. -/
theorem tlsPrfLoop_eq {secret seed : List UInt8} {fuel n : Nat} (a : Sha256Digest) (h : n ≤ fuel) :
    tlsPrfLoop secret seed fuel a n =
      expand 32 (fun i => standardHmac fipsSha256 secret
        ((standardHmac fipsSha256 secret)^[i] a.toList ++ seed)) n := by
  have hblock : ∀ m, (standardHmac fipsSha256 secret m).length = 32 := fun m => length_fipsSha256 _
  induction fuel generalizing a n with
  | zero => simp [tlsPrfLoop, Nat.le_zero.mp h, expand]
  | succ fuel ih =>
      rw [tlsPrfLoop]
      split
      · next hzero => rw [hzero, expand_zero]
      · next hpos =>
        rw [expand_pos (fun i => hblock _) (by decide) (Nat.pos_of_ne_zero hpos)]
        dsimp only
        rw [ih _ (by omega), tlsHmacSha256Vector_eq, tlsHmacSha256Vector_eq]
        simp [Function.iterate_succ_apply]

/-- The function is that of the RFC, and an error exactly if its buffer does not take label and seed. -/
theorem tlsPrfSha256_eq (secret : List UInt8) (label : String) (seed : List UInt8) (n : Nat) :
    tlsPrfSha256 secret label seed n =
      if (asciiBytes label ++ seed).length ≤ 128 then some (rfc5246Prf secret label seed n) else none := by
  rw [tlsPrfSha256]
  by_cases hlong : (asciiBytes label ++ seed).length ≤ 128
  · rw [if_pos hlong, if_neg (by omega), tlsPrfLoop_eq _ le_rfl, tlsHmacSha256Vector_eq, rfc5246Prf, pHash]
    simp [Function.iterate_succ_apply]
  · rw [if_neg hlong, if_pos (by omega)]

/-- Every use in the handshake fits: the labels, and the digests and pairs of randoms behind them. -/
theorem tlsPrfSha256_uses (secret : List UInt8) {label : String} {seed : List UInt8} (n : Nat)
    (hlabel : label ∈ ["extended master secret", "master secret", "key expansion", "client finished",
      "server finished"]) (hseed : seed.length ≤ 64) :
    tlsPrfSha256 secret label seed n = some (rfc5246Prf secret label seed n) := by
  have hshort : (asciiBytes label).length ≤ 22 := by
    simp only [List.mem_cons, List.not_mem_nil, or_false] at hlabel
    obtain rfl | rfl | rfl | rfl | rfl := hlabel <;> decide
  rw [tlsPrfSha256_eq, if_pos (by rw [List.length_append]; omega)]

/-- A seed of 129 bytes. -/
theorem tlsPrfSha256_long_seed : ¬ ∀ (secret : List UInt8) (label : String) (seed : List UInt8) (n : Nat),
    tlsPrfSha256 secret label seed n = some (rfc5246Prf secret label seed n) := by
  intro h
  have hlong := h [] "" (List.replicate 129 0) 32
  rw [tlsPrfSha256, if_pos (by simp [asciiBytes])] at hlong
  cases hlong

end Orizon
