import Orizon.Lib.Attempt
import Orizon.Net.TlsHandshake

/-!
# Orizon.Net.HttpsRange

`netstack_https_range_get` of `drivers/netstack.c`: one ranged download over TLS.

A download returns data only when the certificates of the flight passed the
policy and the server's finished message is right under the master secret of the
agreed key (`netstackHttpsRangeGet_session`).  The signature over the server's
public value is not looked at: a server key exchange that ends after the public
value is as good as a signed one (`netstackHttpsRangeGet_unsigned`).
-/

namespace Orizon

open Attempt

/-! ## The call -/

/-- What the call meets: the answers of DNS and of the connection, and of the peer to
everything that was sent so far.  The answers of `tcp_recv_bytes` are what it put
into the buffer. -/
structure HttpsPeer where
  resolve : List UInt8 → Option UInt32
  connect : UInt32 → Bool
  send : List (List UInt8) → Bool
  recv : List (List UInt8) → Option (List UInt8)
  helloTicks : UInt64
  keyTicks : UInt64

/-- The code returned and the text left in `diag`. -/
structure HttpsRangeError where
  code : Int
  diag : List UInt8
deriving DecidableEq

/-- The body put into `out` and the text left in `diag`. -/
structure HttpsRangeReply where
  body : List UInt8
  diag : List UInt8
deriving DecidableEq

/-- `https_range_error`. -/
def httpsRangeError (code : Int) (message : String) : HttpsRangeError :=
  ⟨code, asciiBytes ("https range error " ++ toString code ++ ": " ++ message)⟩

/-- `%lu`. -/
def decimalBytes (n : Nat) : List UInt8 := asciiBytes (toString n)

/-- `http_get`, cut to the buffer of 512 bytes. -/
def httpsRangeRequest (host path : List UInt8) (start last : UInt64) : List UInt8 :=
  (asciiBytes "GET " ++ path ++ asciiBytes " HTTP/1.1\r\nHost: " ++ host ++
    asciiBytes "\r\nUser-Agent: OrizonOS-update/1.0\r\nAccept: */*\r\nRange: bytes=" ++
    decimalBytes start.toNat ++ asciiBytes "-" ++ decimalBytes last.toNat ++
    asciiBytes "\r\nConnection: close\r\n\r\n").take 511

/-- `http_body_start`. -/
def httpBodyStart : List UInt8 → Option (List UInt8)
  | 13 :: 10 :: 13 :: 10 :: body => some body
  | _ :: plain => httpBodyStart plain
  | [] => none

/-- `tls_copy_http_status`, or `unknown` in a report. -/
def tlsHttpStatus (plain : List UInt8) : List UInt8 :=
  let status := ((plain.take 79).takeWhile fun c => c ≠ 13 ∧ c ≠ 10).map fun c =>
    if 32 ≤ c ∧ c ≤ 126 then c else 63
  if status.isEmpty then asciiBytes "unknown" else status

/-- The error -17. -/
def httpsBodyError (plain body : List UInt8) (outCap : Nat) : HttpsRangeError :=
  ⟨-17, asciiBytes "https range error -17: invalid body status=" ++ tlsHttpStatus plain ++
    asciiBytes " body=" ++ decimalBytes body.length ++ asciiBytes " cap=" ++ decimalBytes outCap ++
    asciiBytes " plain=" ++ decimalBytes plain.length⟩

/-- The report of a download. -/
def httpsRangeReply (plain body : List UInt8) : HttpsRangeReply where
  body := body
  diag := asciiBytes "https range status=" ++ tlsHttpStatus plain ++ asciiBytes " bytes=" ++
    decimalBytes body.length ++ asciiBytes " plain=" ++ decimalBytes plain.length ++
    asciiBytes " sha256=" ++ if plain.isEmpty then [] else sha256BufferHex plain

/-- What was sent before the flight: the client hello. -/
def httpsHelloSent (hello : TlsMessage) : List (List UInt8) :=
  [(⟨22, 0x0301, hello.bytes⟩ : TlsRecord).bytes]

/-- What was sent before the secure reply: the client key exchange and the secure flight. -/
def httpsFinishedSent (hello : TlsMessage) (schedule : TlsKeySchedule) (secure : TlsSecure) :
    List (List UInt8) :=
  httpsHelloSent hello ++ [(⟨22, 0x0303, schedule.clientKeyExchange⟩ : TlsRecord).bytes] ++
    [secure.flight]

/-- `netstack_https_range_get` with the arguments that are not NULL. -/
def netstackHttpsRangeGet (peer : HttpsPeer) (host path : List UInt8) (start last : UInt64)
    (outCap : Nat) : Attempt HttpsRangeError HttpsRangeReply := do
  require (outCap ≠ 0 ∧ start ≤ last) (httpsRangeError (-1) "invalid arguments")
  let ip ← answer (peer.resolve host) (httpsRangeError (-2) "dns resolve failed")
  require (peer.connect ip = true) (httpsRangeError (-3) "tcp connect failed")
  let hello ← answer (buildTlsClientHello host peer.helloTicks)
    (httpsRangeError (-4) "clienthello build failed")
  require (peer.send (httpsHelloSent hello) = true)
    (httpsRangeError (-5) "clienthello send failed")
  let rx ← answer (peer.recv (httpsHelloSent hello)) (httpsRangeError (-6) "serverhello timeout")
  let client : TlsClient := ⟨host, tlsClientRandom peer.helloTicks, hello, peer.keyTicks⟩
  let parsed ← await (tlsParseRecords client rx)
  refuse (tlsPolicyFailure parsed.1.certs) (httpsRangeError (-18))
  let schedule ← answer parsed.2 (httpsRangeError (-7) "client key exchange unavailable")
  require (peer.send (httpsHelloSent hello ++
      [(⟨22, 0x0303, schedule.clientKeyExchange⟩ : TlsRecord).bytes]) = true)
    (httpsRangeError (-8) "client key exchange send failed")
  let secure ← answer schedule.secure (httpsRangeError (-9) "client finished unavailable")
  let sent := httpsFinishedSent hello schedule secure
  require (peer.send sent = true) (httpsRangeError (-10) "client finished send failed")
  let secureRx ← answer (peer.recv sent) (httpsRangeError (-11) "server finished timeout")
  let finished := tlsDecryptServerSecureReply (parsed.1.handshakeCtx.getD sha256Init) schedule
    secure secureRx
  require (finished.1 = true) (httpsRangeError (-12) "server finished verification failed")
  let record ← answer (tlsBuildEncryptedClientRecord secure.traffic 1 23
      (httpsRangeRequest host path start last) tlsTxMax)
    (httpsRangeError (-13) "http record build failed")
  require (peer.send (sent ++ [record]) = true) (httpsRangeError (-14) "http send failed")
  let appRx ← answer (peer.recv (sent ++ [record]))
    (httpsRangeError (-15) "http response timeout")
  let http := tlsDecryptServerHttpReply (some secure.traffic) finished.1 finished.2 appRx
  require (http.decrypted = true) (httpsRangeError (-16) "http decrypt failed")
  let body := (httpBodyStart http.plain).getD []
  require (body ≠ [] ∧ body.length ≤ outCap) (httpsBodyError http.plain body outCap)
  pure (httpsRangeReply http.plain body)

/-! ## What a download rests on -/

/-- What the client has checked of a session with the traffic keys of `secure`: the
certificates of the flight passed the policy; the master secret comes from the
last X25519 value of the flight; and the server's messages after the change of
cipher hold the finished code of that master secret over the transcript. -/
structure TlsSessionChecked (client : TlsClient) (rx secureRx : List UInt8) (secure : TlsSecure) :
    Prop where
  certificates : ∃ certs, tlsFlightCertificates client.host (tlsFlight rx).messages = some certs ∧
    tlsPolicyFailure certs = none
  keys : ∃ share scalar info schedule,
    tlsServerKeyShare (tlsFlight rx).messages = some share ∧
    tlsParseRecords client rx = some (info, some schedule) ∧
    info.agreement = some (tlsAgree scalar share) ∧ schedule.secure = some secure ∧
    ∃ ctx, info.handshakeCtx = some ctx ∧
      tlsMasterSecret client.random info (tlsAgree scalar share)
        (sha256Final (sha256Update ctx schedule.clientKeyExchange)) = some secure.masterSecret ∧
      ∃ before m after, (tlsSecureRecords secure.traffic secureRx).messages = before ++ m :: after ∧
        tlsFinishedOk secure.masterSecret
          (before.foldl (fun ctx m => sha256Update ctx m.bytes)
            (tlsServerCtx ctx schedule secure)) m = true

/-- A key schedule exists after a complete flight with a key agreement; its master
secret is the one of the agreement. -/
theorem tlsPrepareKeySchedule_eq_some {clientRandom : List UInt8} {info : TlsParseInfo}
    {schedule : TlsKeySchedule} {secure : TlsSecure}
    (h : tlsPrepareKeySchedule clientRandom info = some schedule)
    (hsecure : schedule.secure = some secure) :
    ∃ a ctx, info.agreement = some a ∧ info.handshakeCtx = some ctx ∧
      tlsMasterSecret clientRandom info a
        (sha256Final (sha256Update ctx schedule.clientKeyExchange)) = some secure.masterSecret := by
  unfold tlsPrepareKeySchedule at h
  split at h
  next a ctx hagreement hctx =>
    split at h
    · simp at h
    obtain rfl := Option.some.inj h
    obtain ⟨master, hmaster, hprepared⟩ := Option.bind_eq_some_iff.mp hsecure
    refine ⟨a, ctx, hagreement, hctx, ?_⟩
    suffices secure.masterSecret = master by rw [this, hmaster]
    unfold tlsPrepareSecure at hprepared
    split at hprepared
    · simp at hprepared
    obtain ⟨keyBlock, -, hprepared⟩ := Option.bind_eq_some_iff.mp hprepared
    obtain ⟨verify, -, hprepared⟩ := Option.bind_eq_some_iff.mp hprepared
    rw [← Option.some.inj hprepared]
  · simp at h

/-- A download returns data only from a checked session, and the data are the body of
what the traffic keys of that session decrypt. -/
theorem netstackHttpsRangeGet_session {peer : HttpsPeer} {host path : List UInt8}
    {start last : UInt64} {outCap : Nat} {reply : HttpsRangeReply}
    (h : (netstackHttpsRangeGet peer host path start last outCap).Returns reply) :
    ∃ hello rx secureRx appRx secure,
      buildTlsClientHello host peer.helloTicks = some hello ∧
      peer.recv (httpsHelloSent hello) = some rx ∧
      (∃ sent, peer.recv sent = some secureRx) ∧ (∃ sent, peer.recv sent = some appRx) ∧
      TlsSessionChecked ⟨host, tlsClientRandom peer.helloTicks, hello, peer.keyTicks⟩ rx secureRx
        secure ∧
      httpBodyStart (tlsDecryptServerHttpReply (some secure.traffic) true
        (tlsSecureRecords secure.traffic secureRx).seq appRx).plain = some reply.body := by
  simp only [netstackHttpsRangeGet, returns_bind, returns_require, returns_answer, returns_refuse,
    returns_await, returns_pure, exists_const] at h
  obtain ⟨-, ip, -, -, hello, hhello, -, rx, hrx, ⟨info, schedule?⟩, hparse, hpolicy, schedule,
    rfl, -, secure, hsecure, -, secureRx, hsecureRx, hfinished, record, -, -, appRx, happRx, -,
    ⟨hbody, -⟩, rfl⟩ := h
  obtain ⟨info', hrun, hprepared⟩ := Option.map_eq_some_iff.mp hparse
  obtain ⟨rfl, hschedule⟩ := Prod.mk.inj hprepared
  split at hschedule
  · simp at hschedule
  obtain ⟨a, ctx, hagreement, hctx, hmaster⟩ := tlsPrepareKeySchedule_eq_some hschedule hsecure
  obtain ⟨share, hshare⟩ : ∃ share, tlsServerKeyShare (tlsFlight rx).messages = some share := by
    cases hshare : tlsServerKeyShare (tlsFlight rx).messages with
    | none =>
        have hagreed := tlsFlight_agreed hrun
        simp [hshare, TlsParseInfo.Agreed, hagreement] at hagreed
    | some share => exact ⟨share, rfl⟩
  obtain ⟨scalar, -, hscalar⟩ := hshare ▸ tlsFlight_agreed hrun
  obtain rfl : a = tlsAgree scalar share := Option.some.inj (hagreement.symm.trans hscalar)
  have hseq : (tlsDecryptServerSecureReply (info'.handshakeCtx.getD sha256Init) schedule secure
      secureRx).2 = (tlsSecureRecords secure.traffic secureRx).seq := rfl
  simp only [hfinished, hseq, httpsRangeReply] at hbody ⊢
  simp only [hctx, Option.getD_some, tlsDecryptServerSecureReply] at hfinished
  refine ⟨hello, rx, secureRx, appRx, secure, hhello, hrx, ⟨_, hsecureRx⟩, ⟨_, happRx⟩,
    ⟨⟨info'.certs, tlsFlight_certs hrun, hpolicy⟩, share, scalar, info', schedule, hshare, hparse,
      hagreement, hsecure, ctx, hctx, hmaster, tlsServerHandshake_verified.mp hfinished⟩, ?_⟩
  cases hstart : httpBodyStart (tlsDecryptServerHttpReply (some secure.traffic) true
      (tlsSecureRecords secure.traffic secureRx).seq appRx).plain with
  | none => simp [hstart] at hbody
  | some body => simp

/-! ## A peer without the certificate's key -/

/-- The signature field of a server key exchange is a signature, as `verify` tells, of
both randoms and of the named group with the public value. -/
def TlsKeyExchangeSigned (verify : UInt16 → List UInt8 → List UInt8 → Prop)
    (clientRandom serverRandom exchange : List UInt8) : Prop :=
  ∃ alg signature, exchange.drop (4 + (exchange.getD 3 0).toNat) =
      putBe16 alg ++ (putBe16 (UInt16.ofNat signature.length) ++ signature) ∧
    verify alg (clientRandom ++ serverRandom ++ exchange.take (4 + (exchange.getD 3 0).toNat))
      signature

/-- The secure reply and the application data of a peer that knows the client's keys
because it chose the public value. -/
def tlsPeerAnswers (client : TlsClient) (rx plain : List UInt8) :
    Option (List UInt8 × List UInt8) := do
  let parsed ← tlsParseRecords client rx
  let ctx ← parsed.1.handshakeCtx
  let schedule ← parsed.2
  let secure ← schedule.secure
  some (tlsServerFinished ctx schedule secure,
    (tlsClientRecord secure.traffic.swap 1 23 plain).bytes)

/-- A peer that answers the client hello with the flight `rx`, the client's finished
message with its own, and the request with `plain`. -/
def httpsPeerOf (client : TlsClient) (rx plain : List UInt8) : HttpsPeer where
  resolve := fun _ => some 0x0a000202
  connect := fun _ => true
  send := fun _ => true
  recv := fun sent =>
    match sent.length with
    | 1 => some rx
    | 3 => (tlsPeerAnswers client rx plain).map Prod.fst
    | _ => (tlsPeerAnswers client rx plain).map Prod.snd
  helloTicks := 0
  keyTicks := client.keyTicks

/-- Whoever has the keys of the session is served: the download returns the body of
what this peer sends. -/
theorem httpsPeerOf_returns {host path rx plain body : List UInt8} {start last : UInt64}
    {outCap : Nat} {hello : TlsMessage} {client : TlsClient} {info : TlsParseInfo}
    {schedule : TlsKeySchedule} {secure : TlsSecure} (hargs : outCap ≠ 0 ∧ start ≤ last)
    (hhello : buildTlsClientHello host 0 = some hello)
    (hclient : client = ⟨host, tlsClientRandom 0, hello, client.keyTicks⟩)
    (hparse : tlsParseRecords client rx = some (info, some schedule))
    (hpolicy : tlsPolicyFailure info.certs = none) (hsecure : schedule.secure = some secure)
    (hctx : info.handshakeCtx.isSome)
    (hrequest : (httpsRangeRequest host path start last).length + 29 ≤ tlsTxMax)
    (hplain : plain.length + 29 ≤ tlsTxMax) (hbody : httpBodyStart plain = some body)
    (hfits : body ≠ [] ∧ body.length ≤ outCap) :
    (netstackHttpsRangeGet (httpsPeerOf client rx plain) host path start last outCap).Returns
      (httpsRangeReply plain body) := by
  obtain ⟨ctx, hctx⟩ := Option.isSome_iff_exists.mp hctx
  have hanswers : tlsPeerAnswers client rx plain = some (tlsServerFinished ctx schedule secure,
      (tlsClientRecord secure.traffic.swap 1 23 plain).bytes) := by
    simp [tlsPeerAnswers, hparse, hctx, hsecure]
  have hfinished := tlsDecryptServerSecureReply_serverFinished ctx schedule secure
  have hhttp : tlsDecryptServerHttpReply (some secure.traffic) true 1
      (tlsClientRecord secure.traffic.swap 1 23 plain).bytes =
        { tlsHttpReplyStart 1 with plain := plain, decrypted := true, seq := 1 + 1 } :=
    tlsHttpReply_tlsClientRecord rfl rfl
      (tlsBuildEncryptedClientRecord_eq_some.mpr ⟨rfl, hplain⟩)
  simp only [netstackHttpsRangeGet, returns_bind, returns_require, returns_answer, returns_refuse,
    returns_await, returns_pure, exists_const]
  refine ⟨hargs, _, rfl, rfl, hello, hhello, rfl, rx, rfl, (info, some schedule), ?_, hpolicy,
    schedule, rfl, rfl, secure, hsecure, rfl, tlsServerFinished ctx schedule secure, ?_, ?_,
    _, tlsBuildEncryptedClientRecord_eq_some.mpr ⟨rfl, hrequest⟩, rfl,
    (tlsClientRecord secure.traffic.swap 1 23 plain).bytes, ?_, ?_⟩
  · rw [← hparse, hclient]
    rfl
  · simp [httpsPeerOf, httpsFinishedSent, httpsHelloSent, hanswers]
  · simp [hctx, hfinished]
  · simp [httpsPeerOf, httpsFinishedSent, httpsHelloSent, hanswers]
  · simp [hctx, hfinished, hhttp, hbody, hfits]

/-- The client hello of the sample session. -/
def sampleClientHello : TlsMessage := (buildTlsClientHello sampleHost 0).getD ⟨1, []⟩

theorem sampleClientHello_built : buildTlsClientHello sampleHost 0 = some sampleClientHello := by
  decide +kernel

def sampleClient : TlsClient := ⟨sampleHost, tlsClientRandom 0, sampleClientHello, 0⟩

/-- A server hello without extensions. -/
def sampleServerHello : List UInt8 :=
  putBe16 0x0303 ++ List.replicate 32 7 ++ 0 :: (putBe16 0xc02f ++ [0])

/-- A server key exchange that ends after the public value. -/
def sampleKeyExchange : List UInt8 := 3 :: (putBe16 0x001d ++ 32 :: List.replicate 32 9)

/-- The messages of the sample flight. -/
def sampleFlightMessages : List TlsMessage :=
  [⟨2, sampleServerHello⟩, ⟨11, sampleMessage⟩, ⟨12, sampleKeyExchange⟩, ⟨14, []⟩]

def sampleFlight : List UInt8 :=
  (⟨22, 0x0303, sampleFlightMessages.flatMap TlsMessage.bytes⟩ : TlsRecord).bytes

/-- The answer to the request: an empty header and two bytes. -/
def samplePage : List UInt8 := [13, 10, 13, 10, 79, 75]

theorem sampleFlight_size : (sampleFlightMessages.flatMap TlsMessage.bytes).length < 2 ^ 16 := by
  decide +kernel

theorem sampleFlight_messages : tlsFlight sampleFlight = ⟨sampleFlightMessages, false, false⟩ := by
  refine tlsFlight_bytes ?_ sampleFlight_size
  decide +kernel

theorem sampleRange_returns :
    (netstackHttpsRangeGet (httpsPeerOf sampleClient sampleFlight samplePage) sampleHost
      (asciiBytes "/manifest") 0 1 4096).Returns (httpsRangeReply samplePage [79, 75]) := by
  have hserver : tlsReadServerHello sampleServerHello =
      some ⟨List.replicate 32 7, 0xc02f, false⟩ := by decide
  have hexchange : tlsReadServerKeyExchange sampleKeyExchange =
      some ⟨0x001d, List.replicate 32 9, none⟩ := by decide
  have hstart : (TlsParseInfo.start sampleClientHello).handshakeCtx.isSome := by
    rw [TlsParseInfo.start, if_pos (by decide +kernel)]
    rfl
  obtain ⟨info, hparse, hcerts, hcipher, hrandom, hagreement, hdone, hctx⟩ :=
    tlsParseRecords_flight sampleClient sampleFlight_size hserver sampleMessage_info hexchange rfl
  have hclientLen : sampleClient.random.length = 32 := by simp [sampleClient, tlsClientRandom]
  have hserverLen : info.serverRandom.length = 32 := by simp [hrandom]
  obtain ⟨schedule, secure, hschedule, hsecure⟩ := tlsPrepareKeySchedule_secure hclientLen
    hserverLen (by simp [hcipher, tlsKeyBlockLen]) hagreement (hctx.trans hstart) hdone
  rw [hschedule] at hparse
  exact httpsPeerOf_returns (by decide) sampleClientHello_built rfl hparse (hcerts ▸ rfl) hsecure
    (hctx.trans hstart) (by decide +kernel) (by decide) rfl (by decide)

theorem netstackHttpsRangeGet_session_sample :
    ∃ rx secureRx secure, TlsSessionChecked sampleClient rx secureRx secure := by
  obtain ⟨hello, rx, secureRx, appRx, secure, hhello, -, -, -, hchecked, -⟩ :=
    netstackHttpsRangeGet_session sampleRange_returns
  have hsample : some hello = some sampleClientHello := hhello.symm.trans sampleClientHello_built
  obtain rfl := Option.some.inj hsample
  exact ⟨rx, secureRx, secure, hchecked⟩

/-- The sample download returns data, although the only server key exchange of its
flight carries no signature at all. -/
theorem netstackHttpsRangeGet_unsigned :
    (netstackHttpsRangeGet (httpsPeerOf sampleClient sampleFlight samplePage) sampleHost
      (asciiBytes "/manifest") 0 1 4096).Returns (httpsRangeReply samplePage [79, 75]) ∧
    ¬ ∃ verify serverRandom, ∃ m ∈ (tlsFlight sampleFlight).messages, m.type = 12 ∧
      TlsKeyExchangeSigned verify sampleClient.random serverRandom m.body := by
  refine ⟨sampleRange_returns, ?_⟩
  rintro ⟨verify, serverRandom, m, hm, htype, alg, signature, hsigned, -⟩
  rw [sampleFlight_messages] at hm
  obtain rfl : m = ⟨12, sampleKeyExchange⟩ := by
    simp only [sampleFlightMessages, List.mem_cons, List.not_mem_nil, or_false] at hm
    rcases hm with rfl | rfl | rfl | rfl <;> first | rfl | contradiction
  simp [sampleKeyExchange, putBe16] at hsigned

end Orizon
