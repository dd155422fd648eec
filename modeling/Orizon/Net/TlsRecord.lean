import Orizon.Gcm
import Orizon.Lib.Digits
import Orizon.Lib.Run
import Orizon.Net.TcpServer
import Orizon.Words
import Mathlib.Tactic.Ring

/-!
# Orizon.Net.TlsRecord

The protected records of the TLS client of `drivers/netstack.c`: the encoder of
client records, the decoder of server records, and the loop that collects the
application data of a reply (`tls_decrypt_server_http_reply`).

The nonce is the fixed part of the key block and eight bytes that travel in the
record; the additional data are the sequence number, which does not travel, the
type, the version and the length.

The type and length of the first record are kept by the source for its report
only and are left out.
-/

namespace Orizon

/-! ## Records -/

/-- The traffic keys of `tls_parse_info_t`. -/
structure TlsTraffic where
  clientWriteKey : AesBlock
  serverWriteKey : AesBlock
  clientWriteIv : Vector UInt8 4
  serverWriteIv : Vector UInt8 4
deriving DecidableEq

/-- A record as it travels: header and body. -/
structure TlsRecord where
  type : UInt8
  version : UInt16
  body : List UInt8
deriving DecidableEq

/-- The nonce from its fixed part and eight explicit bytes. -/
def tlsNonce (iv : Vector UInt8 4) (explicitNonce : List UInt8) : GcmNonce :=
  (iv ++ (Vector.ofFn fun i => explicitNonce.getD i 0 : Vector UInt8 8) : Vector UInt8 (4 + 8))

/-- `aad[13]`. -/
def tlsAad (seq : UInt64) (type : UInt8) (version : UInt16) (len : Nat) : List UInt8 :=
  writeBe64 seq ++ (type :: (putBe16 version ++ putBe16 (UInt16.ofNat len)))

/-- A record in the byte stream. -/
def TlsRecord.bytes (r : TlsRecord) : List UInt8 :=
  r.type :: (putBe16 r.version ++ (putBe16 (UInt16.ofNat r.body.length) ++ r.body))

/-- The sealed body: explicit nonce, ciphertext and tag. -/
def tlsSealBody (key : AesBlock) (iv : Vector UInt8 4) (explicitNonce : List UInt8)
    (aad plain : List UInt8) : List UInt8 :=
  let s := aes128GcmEncrypt key (tlsNonce iv explicitNonce) aad plain
  explicitNonce ++ (s.1 ++ s.2.toList)

/-- `tls_build_encrypted_client_record` into `out[out_cap]`; `none` is -1. -/
def tlsBuildEncryptedClientRecord (keys : TlsTraffic) (seq : UInt64) (type : UInt8)
    (plain : List UInt8) (outCap : Nat) : Option (List UInt8) :=
  if outCap < 5 + 8 + plain.length + 16 then none
  else
    some (type :: (putBe16 0x0303 ++ (putBe16 (UInt16.ofNat (8 + plain.length + 16)) ++
      tlsSealBody keys.clientWriteKey keys.clientWriteIv (writeBe64 seq)
        (tlsAad seq type 0x0303 plain.length) plain)))

/-- `tls_decrypt_aes_gcm_record` into `plain[plain_cap]`; `none` is -1. -/
def tlsDecryptAesGcmRecord (keys : TlsTraffic) (seq : UInt64) (r : TlsRecord) (plainCap : Nat) :
    Option (List UInt8) :=
  if r.body.length < 24 then none
  else
    let len := r.body.length - 8 - 16
    if len > plainCap then none
    else
      aes128GcmDecrypt keys.serverWriteKey (tlsNonce keys.serverWriteIv (r.body.take 8))
        (tlsAad seq r.type r.version len) ((r.body.drop 8).take len) (r.body.drop (8 + len))

/-! ## The reply -/

/-- `NETSTACK_HTTPS_RX_MAX`, the size of `tls_app_plain_buf`. -/
def netstackHttpsRxMax : Nat := 5 * 1024 * 1024

/-- The size of `tls_server_plain_buf`. -/
def tlsServerPlainMax : Nat := 2048

/-- The size of `tls_tx_buf`. -/
def tlsTxMax : Nat := 512

/-- What `tls_decrypt_server_http_reply` has done so far: the application data, whether
any record was decrypted, the next sequence number, the failures, and whether a
session ticket was seen. -/
structure TlsHttpReply where
  plain : List UInt8
  decrypted : Bool
  seq : UInt64
  failures : Nat
  ticketSeen : Bool
deriving DecidableEq

/-- The room for the plaintext of a record; `none` when the record is not
decrypted at all. -/
def tlsHttpPlainCap (reply : TlsHttpReply) (r : TlsRecord) : Option Nat :=
  if r.type = 23 ∧ reply.plain.length < netstackHttpsRxMax then
    some (netstackHttpsRxMax - reply.plain.length)
  else if r.type = 22 then some tlsServerPlainMax
  else if r.type = 21 then some 2
  else none

/-- A complete record of the reply. -/
def tlsHttpRecord (keys : TlsTraffic) (reply : TlsHttpReply) (r : TlsRecord) : TlsHttpReply :=
  match tlsHttpPlainCap reply r with
  | none => reply
  | some cap =>
      match tlsDecryptAesGcmRecord keys reply.seq r cap with
      | none => { reply with failures := reply.failures + 1 }
      | some plain =>
          if r.type = 23 then
            { reply with plain := reply.plain ++ plain, decrypted := true, seq := reply.seq + 1 }
          else
            { reply with
              seq := reply.seq + 1
              ticketSeen := reply.ticketSeen ||
                (r.type = 22 && decide (4 ≤ plain.length) && plain.getD 0 0 == 4) }

/-- The first record of a buffer, when it is complete, and the bytes after it. -/
def tlsNextRecord (rx : List UInt8) : Option (TlsRecord × List UInt8) :=
  if rx.length < 5 then none
  else
    let len := (getBe16 rx 3).toNat
    if 5 + len > rx.length then none
    else some (⟨rx.getD 0 0, getBe16 rx 1, (rx.drop 5).take len⟩, rx.drop (5 + len))

/-- The loop over the records; a record takes five bytes at least, and an
incomplete one is a failure. -/
def tlsHttpReplyLoop (keys : TlsTraffic) : Nat → TlsHttpReply → List UInt8 → TlsHttpReply
  | 0, reply, _ => reply
  | fuel + 1, reply, rx =>
      match tlsNextRecord rx with
      | none => if rx.length < 5 then reply else { reply with failures := reply.failures + 1 }
      | some (r, rest) => tlsHttpReplyLoop keys fuel (tlsHttpRecord keys reply r) rest

/-- A reply before its first record. -/
def tlsHttpReplyStart (seqNext : UInt64) : TlsHttpReply :=
  { plain := [], decrypted := false, seq := seqNext, failures := 0, ticketSeen := false }

/-- `tls_decrypt_server_http_reply` of the bytes received, `traffic` the keys once they are
ready and `seqNext` the number `server_read_seq_next`. -/
def tlsDecryptServerHttpReply (traffic : Option TlsTraffic) (serverFinishedVerified : Bool)
    (seqNext : UInt64) (rx : List UInt8) : TlsHttpReply :=
  match traffic with
  | none => tlsHttpReplyStart seqNext
  | some keys =>
      if !serverFinishedVerified || rx.length = 0 then tlsHttpReplyStart seqNext
      else tlsHttpReplyLoop keys (rx.length + 1) (tlsHttpReplyStart seqNext) rx

/-! ## Reading records back -/

@[simp] theorem length_putBe16 (v : UInt16) : (putBe16 v).length = 2 := rfl

theorem getBe16_putBe16 (pre rest : List UInt8) (v : UInt16) :
    getBe16 (pre ++ (putBe16 v ++ rest)) pre.length = v := by
  have hsplit := be16_split v
  simp only [getBe16, putBe16, List.getD_eq_getElem?_getD]
  simpa using hsplit

theorem tlsNextRecord_bytes (r : TlsRecord) (rest : List UInt8) (h : r.body.length < 2 ^ 16) :
    tlsNextRecord (r.bytes ++ rest) = some (r, rest) := by
  have hversion : getBe16 (r.bytes ++ rest) 1 = r.version :=
    getBe16_putBe16 [r.type] (putBe16 (UInt16.ofNat r.body.length) ++ (r.body ++ rest)) r.version
  have hlen : getBe16 (r.bytes ++ rest) 3 = UInt16.ofNat r.body.length := by
    have := getBe16_putBe16 (r.type :: putBe16 r.version) (r.body ++ rest)
      (UInt16.ofNat r.body.length)
    simpa [TlsRecord.bytes] using this
  have hnat : (UInt16.ofNat r.body.length).toNat = r.body.length := by
    rw [UInt16.toNat_ofNat', Nat.mod_eq_of_lt h]
  have hdrop : (r.bytes ++ rest).drop 5 = r.body ++ rest := rfl
  have hrest : (r.bytes ++ rest).drop (5 + r.body.length) = rest := by
    rw [← List.drop_drop, hdrop, List.drop_left]
  have hsize : (r.bytes ++ rest).length = 5 + r.body.length + rest.length := by
    simp [TlsRecord.bytes]
    omega
  simp only [tlsNextRecord, hversion, hlen, hnat, hdrop, List.take_left, hrest, hsize]
  rw [if_neg (by omega), if_neg (by omega)]
  rfl

theorem tlsAad_inj {seq seq' : UInt64} {type type' : UInt8} {version version' : UInt16}
    {len len' : Nat} (h : tlsAad seq type version len = tlsAad seq' type' version' len') :
    seq = seq' ∧ type = type' := by
  obtain ⟨hseq, hrest⟩ := List.append_inj h (by simp)
  exact ⟨writeBe64_inj hseq, (List.cons.inj hrest).1⟩

/-! ## The server -/

/-- A record the server sends: what it encrypts, and the explicit nonce it takes. -/
structure TlsPlainRecord where
  type : UInt8
  explicitNonce : List UInt8
  plain : List UInt8

/-- The server of a session from the record numbered `first` on; the numbers of a
session are never used twice. -/
structure TlsSender where
  keys : TlsTraffic
  first : UInt64
  records : List TlsPlainRecord
  fresh : records.length < 2 ^ 64

/-- The application data of records: the byte stream the server encrypted. -/
def tlsAppData (records : List TlsPlainRecord) : List UInt8 :=
  (records.filter fun s => s.type = 23).flatMap fun s => s.plain

/-- What a decryption is given: nonce, additional data, ciphertext and tag. -/
structure TlsSealed where
  nonce : GcmNonce
  aad : List UInt8
  ciphertext : List UInt8
  tag : List UInt8

/-- What the server seals as record `i`. -/
def TlsSender.seal (sender : TlsSender) (i : Nat) (s : TlsPlainRecord) : TlsSealed :=
  let nonce := tlsNonce sender.keys.serverWriteIv s.explicitNonce
  let aad := tlsAad (sender.first + UInt64.ofNat i) s.type 0x0303 s.plain.length
  let sealed := aes128GcmEncrypt sender.keys.serverWriteKey nonce aad s.plain
  ⟨nonce, aad, sealed.1, sealed.2.toList⟩

/-- What `tls_decrypt_aes_gcm_record` gives to the decryption. -/
def TlsRecord.opened (keys : TlsTraffic) (seq : UInt64) (r : TlsRecord) : TlsSealed :=
  let len := r.body.length - 8 - 16
  ⟨tlsNonce keys.serverWriteIv (r.body.take 8), tlsAad seq r.type r.version len,
    (r.body.drop 8).take len, r.body.drop (8 + len)⟩

/-- No forgery in this step: a record that is decrypted was sealed by the server. -/
def TlsSender.NoForgery (sender : TlsSender) (reply : TlsHttpReply) (r : TlsRecord) : Prop :=
  ∀ cap plain, tlsHttpPlainCap reply r = some cap →
    tlsDecryptAesGcmRecord sender.keys reply.seq r cap = some plain →
    ∃ i s, sender.records[i]? = some s ∧ r.opened sender.keys reply.seq = sender.seal i s

variable {sender : TlsSender} {reply : TlsHttpReply} {r : TlsRecord}

/-- A decrypted record is long enough and opens to the key stream over its
ciphertext. -/
theorem tlsDecryptAesGcmRecord_eq_some {keys : TlsTraffic} {seq : UInt64} {cap : Nat}
    {plain : List UInt8} : tlsDecryptAesGcmRecord keys seq r cap = some plain ↔
      24 ≤ r.body.length ∧ r.body.length - 24 ≤ cap ∧
      aes128GcmDecrypt keys.serverWriteKey (r.opened keys seq).nonce (r.opened keys seq).aad
        (r.opened keys seq).ciphertext (r.opened keys seq).tag = some plain := by
  simp only [tlsDecryptAesGcmRecord, TlsRecord.opened]
  grind

/-- What the server sealed as a record opens to the plaintext of that record, and
the additional data tell which record it is. -/
theorem TlsSender.open_seal {i k cap : Nat} {s : TlsPlainRecord} {plain : List UInt8}
    (hi : sender.records[i]? = some s) (hk : k ≤ sender.records.length)
    (hseq : reply.seq = sender.first + UInt64.ofNat k)
    (hseal : r.opened sender.keys reply.seq = sender.seal i s)
    (hopen : tlsDecryptAesGcmRecord sender.keys reply.seq r cap = some plain) :
    i = k ∧ r.type = s.type ∧ plain = s.plain := by
  have haad : tlsAad reply.seq r.type r.version (r.body.length - 8 - 16) =
      tlsAad (sender.first + UInt64.ofNat i) s.type 0x0303 s.plain.length :=
    congrArg TlsSealed.aad hseal
  obtain ⟨hnumber, htype⟩ := tlsAad_inj haad
  have hbound := sender.fresh
  have hlt : i < sender.records.length := (List.getElem?_eq_some_iff.mp hi).1
  have hik : i = k := by
    rw [hseq, UInt64.add_right_inj, ← UInt64.toNat_inj, UInt64.toNat_ofNat', UInt64.toNat_ofNat',
      Nat.mod_eq_of_lt (by omega), Nat.mod_eq_of_lt (by omega)] at hnumber
    exact hnumber.symm
  have hdecrypt := (tlsDecryptAesGcmRecord_eq_some.mp hopen).2.2
  rw [hseal] at hdecrypt
  simp only [TlsSender.seal, aes128GcmDecrypt_encrypt, Option.some.injEq] at hdecrypt
  exact ⟨hik, htype, hdecrypt.symm⟩

/-! ## The application data of a reply -/

/-- The reply has read the first `k` records of the server. -/
def TlsSender.Read (sender : TlsSender) (k : Nat) (reply : TlsHttpReply) : Prop :=
  k ≤ sender.records.length ∧ reply.seq = sender.first + UInt64.ofNat k ∧
    reply.plain = tlsAppData (sender.records.take k)

theorem tlsAppData_append (a b : List TlsPlainRecord) :
    tlsAppData (a ++ b) = tlsAppData a ++ tlsAppData b := by
  simp [tlsAppData]

theorem TlsSender.Read.step {k : Nat} (h : sender.Read k reply)
    (hforge : sender.NoForgery reply r) :
    ∃ k', sender.Read k' (tlsHttpRecord sender.keys reply r) := by
  unfold tlsHttpRecord
  split
  · exact ⟨k, h⟩
  next cap hcap =>
  split
  · exact ⟨k, h⟩
  next plain hplain =>
  obtain ⟨i, s, hi, hseal⟩ := hforge cap plain hcap hplain
  obtain ⟨rfl, htype, rfl⟩ := sender.open_seal hi h.1 h.2.1 hseal hplain
  have hlt : i < sender.records.length := (List.getElem?_eq_some_iff.mp hi).1
  have hnext : sender.first + UInt64.ofNat i + 1 = sender.first + UInt64.ofNat (i + 1) := by
    rw [UInt64.ofNat_add, UInt64.add_assoc]
    rfl
  have htake : sender.records.take (i + 1) = sender.records.take i ++ [s] := by
    rw [List.take_add_one, hi, Option.toList_some]
  split
  next happ =>
    refine ⟨i + 1, hlt, by simp [h.2.1, hnext], ?_⟩
    simp [htake, h.2.2, tlsAppData, ← htype, happ]
  next hother =>
    refine ⟨i + 1, hlt, by simp [h.2.1, hnext], ?_⟩
    simp [htake, h.2.2, tlsAppData, ← htype, hother]

/-- The complete records of a buffer, in order. -/
def tlsRecords : Nat → List UInt8 → List TlsRecord
  | 0, _ => []
  | fuel + 1, rx =>
      match tlsNextRecord rx with
      | none => []
      | some (r, rest) => r :: tlsRecords fuel rest

@[simp] theorem tlsRecords_nil (fuel : Nat) : tlsRecords fuel [] = [] := by
  cases fuel <;> rfl

theorem tlsRecords_succ {fuel : Nat} {rx rest : List UInt8}
    (h : tlsNextRecord rx = some (r, rest)) :
    tlsRecords (fuel + 1) rx = r :: tlsRecords fuel rest := by
  simp [tlsRecords, h]

theorem TlsSender.Read.loop {k fuel : Nat} {rx : List UInt8} (h : sender.Read k reply)
    (hforge : AllSteps (tlsHttpRecord sender.keys) sender.NoForgery reply (tlsRecords fuel rx)) :
    ∃ k', sender.Read k' (tlsHttpReplyLoop sender.keys fuel reply rx) := by
  induction fuel generalizing k reply rx with
  | zero => exact ⟨k, h⟩
  | succ fuel ih =>
      simp only [tlsRecords] at hforge
      simp only [tlsHttpReplyLoop]
      cases hnext : tlsNextRecord rx with
      | none =>
          simp only
          split
          · exact ⟨k, h⟩
          · exact ⟨k, h⟩
      | some next =>
          rw [hnext] at hforge
          obtain ⟨k', hread⟩ := h.step hforge.1
          exact ih hread hforge.2

/-! ## The client's own records -/

/-- The record the client builds, before it is put into the stream. -/
def tlsClientRecord (keys : TlsTraffic) (seq : UInt64) (type : UInt8) (plain : List UInt8) :
    TlsRecord where
  type := type
  version := 0x0303
  body := tlsSealBody keys.clientWriteKey keys.clientWriteIv (writeBe64 seq)
    (tlsAad seq type 0x0303 plain.length) plain

variable {keys reader : TlsTraffic} {seq : UInt64} {type : UInt8} {plain record : List UInt8}

theorem length_tlsClientRecord :
    (tlsClientRecord keys seq type plain).body.length = 8 + plain.length + 16 := by
  simp [tlsClientRecord, tlsSealBody]
  omega

theorem tlsBuildEncryptedClientRecord_eq_some :
    tlsBuildEncryptedClientRecord keys seq type plain tlsTxMax = some record ↔
      record = (tlsClientRecord keys seq type plain).bytes ∧ plain.length + 29 ≤ tlsTxMax := by
  have hbytes : (tlsClientRecord keys seq type plain).bytes =
      type :: (putBe16 0x0303 ++ (putBe16 (UInt16.ofNat (8 + plain.length + 16)) ++
        tlsSealBody keys.clientWriteKey keys.clientWriteIv (writeBe64 seq)
          (tlsAad seq type 0x0303 plain.length) plain)) := by
    rw [TlsRecord.bytes, length_tlsClientRecord]
    rfl
  rw [tlsBuildEncryptedClientRecord, hbytes]
  grind

/-- What the decoder finds in the client's record is what was sealed. -/
theorem tlsClientRecord_opened (hiv : reader.serverWriteIv = keys.clientWriteIv) :
    (tlsClientRecord keys seq type plain).opened reader seq =
      let nonce := tlsNonce keys.clientWriteIv (writeBe64 seq)
      let aad := tlsAad seq type 0x0303 plain.length
      let sealed := aes128GcmEncrypt keys.clientWriteKey nonce aad plain
      ⟨nonce, aad, sealed.1, sealed.2.toList⟩ := by
  have hlen : (tlsClientRecord keys seq type plain).body.length - 8 - 16 = plain.length := by
    rw [length_tlsClientRecord]
    omega
  have htake : (tlsClientRecord keys seq type plain).body.take 8 = writeBe64 seq :=
    List.take_left' (by simp)
  have hdrop : (tlsClientRecord keys seq type plain).body.drop 8 =
      (aes128GcmEncrypt keys.clientWriteKey (tlsNonce keys.clientWriteIv (writeBe64 seq))
          (tlsAad seq type 0x0303 plain.length) plain).1 ++
        (aes128GcmEncrypt keys.clientWriteKey (tlsNonce keys.clientWriteIv (writeBe64 seq))
          (tlsAad seq type 0x0303 plain.length) plain).2.toList :=
    List.drop_left' (by simp)
  simp only [TlsRecord.opened, hlen, htake, ← List.drop_drop, hdrop, hiv]
  rw [List.take_left' (by simp), List.drop_left' (by simp)]
  rfl

/-- The decoder that holds the client's keys opens the client's record. -/
theorem tlsClientRecord_opens {cap : Nat} (hkey : reader.serverWriteKey = keys.clientWriteKey)
    (hiv : reader.serverWriteIv = keys.clientWriteIv) (hcap : plain.length ≤ cap) :
    tlsDecryptAesGcmRecord reader seq (tlsClientRecord keys seq type plain) cap = some plain := by
  rw [tlsDecryptAesGcmRecord_eq_some, length_tlsClientRecord, tlsClientRecord_opened hiv, hkey]
  exact ⟨by omega, by omega, aes128GcmDecrypt_encrypt plain⟩

theorem tlsNextRecord_tlsClientRecord
    (h : tlsBuildEncryptedClientRecord keys seq type plain tlsTxMax = some record) :
    tlsNextRecord (tlsClientRecord keys seq type plain).bytes =
      some (tlsClientRecord keys seq type plain, []) := by
  obtain ⟨-, hfits⟩ := tlsBuildEncryptedClientRecord_eq_some.mp h
  have hnext := tlsNextRecord_bytes (tlsClientRecord keys seq type plain) [] (by
    rw [length_tlsClientRecord]
    simp only [tlsTxMax] at hfits
    omega)
  rwa [List.append_nil] at hnext

/-- The reply loop returns the plaintext of a client record with application data. -/
theorem tlsHttpReply_tlsClientRecord (hkey : reader.serverWriteKey = keys.clientWriteKey)
    (hiv : reader.serverWriteIv = keys.clientWriteIv)
    (h : tlsBuildEncryptedClientRecord keys seq 23 plain tlsTxMax = some record) :
    tlsDecryptServerHttpReply (some reader) true seq record =
      { tlsHttpReplyStart seq with plain := plain, decrypted := true, seq := seq + 1 } := by
  obtain ⟨hrecord, hfits⟩ := tlsBuildEncryptedClientRecord_eq_some.mp h
  have hnext := tlsNextRecord_tlsClientRecord h
  rw [← hrecord] at hnext
  have hlen : record.length ≠ 0 := by
    intro hzero
    rw [List.length_eq_zero_iff.mp hzero] at hnext
    simp [tlsNextRecord] at hnext
  have hcap : tlsHttpPlainCap (tlsHttpReplyStart seq) (tlsClientRecord keys seq 23 plain) =
      some netstackHttpsRxMax := rfl
  have hopens : tlsDecryptAesGcmRecord reader seq (tlsClientRecord keys seq 23 plain)
      netstackHttpsRxMax = some plain := by
    refine tlsClientRecord_opens hkey hiv ?_
    simp only [tlsTxMax] at hfits
    simp only [netstackHttpsRxMax]
    omega
  have hstep : tlsHttpRecord reader (tlsHttpReplyStart seq) (tlsClientRecord keys seq 23 plain) =
      { tlsHttpReplyStart seq with plain := plain, decrypted := true, seq := seq + 1 } := by
    rw [tlsHttpRecord, hcap]
    simp only [show (tlsHttpReplyStart seq).seq = seq from rfl, hopens]
    simp [tlsHttpReplyStart, tlsClientRecord]
  obtain ⟨fuel, hfuel⟩ := Nat.exists_eq_succ_of_ne_zero hlen
  simp only [tlsDecryptServerHttpReply, hfuel, tlsHttpReplyLoop, hnext, hstep]
  simp [tlsNextRecord]

/-! ## Integrity -/

/-- The application data of a reply are a prefix of what the server encrypted from
the number `server_read_seq_next` on, made of whole records in order, whatever
bytes arrive; and a record of the client is read back as the one it was built
from, by the decoder and by the reply loop. -/
theorem tlsDecryptServerHttpReply_spec (sender : TlsSender) (verified : Bool) (rx : List UInt8)
    (keys reader : TlsTraffic) (seq : UInt64) (type : UInt8) (plain record : List UInt8)
    (hforge : AllSteps (tlsHttpRecord sender.keys) sender.NoForgery
      (tlsHttpReplyStart sender.first) (tlsRecords (rx.length + 1) rx))
    (hkey : reader.serverWriteKey = keys.clientWriteKey)
    (hiv : reader.serverWriteIv = keys.clientWriteIv)
    (hbuild : tlsBuildEncryptedClientRecord keys seq type plain tlsTxMax = some record) :
    (∃ k ≤ sender.records.length,
      (tlsDecryptServerHttpReply (some sender.keys) verified sender.first rx).plain =
        tlsAppData (sender.records.take k) ∧
      (tlsDecryptServerHttpReply (some sender.keys) verified sender.first rx).plain <+:
        tlsAppData sender.records) ∧
    (∃ r, tlsNextRecord record = some (r, []) ∧ r.type = type ∧
      tlsDecryptAesGcmRecord reader seq r plain.length = some plain) ∧
    (type = 23 → (tlsDecryptServerHttpReply (some reader) true seq record).plain = plain) := by
  have hnext : tlsNextRecord (tlsClientRecord keys seq type plain).bytes =
      some (tlsClientRecord keys seq type plain, []) := tlsNextRecord_tlsClientRecord hbuild
  refine ⟨?_, ?_, ?_⟩
  · obtain ⟨k, hk, -, hplain⟩ :
        ∃ k, sender.Read k
          (tlsDecryptServerHttpReply (some sender.keys) verified sender.first rx) := by
      have hstart : sender.Read 0 (tlsHttpReplyStart sender.first) := by
        simp [TlsSender.Read, tlsHttpReplyStart, tlsAppData]
      simp only [tlsDecryptServerHttpReply]
      split
      · exact ⟨0, hstart⟩
      · exact hstart.loop hforge
    refine ⟨k, hk, hplain, ?_⟩
    rw [hplain]
    exact ⟨tlsAppData (sender.records.drop k), by
      rw [← tlsAppData_append, List.take_append_drop]⟩
  · obtain ⟨hrecord, -⟩ := tlsBuildEncryptedClientRecord_eq_some.mp hbuild
    exact ⟨_, hrecord ▸ hnext, rfl, tlsClientRecord_opens hkey hiv (Nat.le_refl _)⟩
  · intro htype
    rw [tlsHttpReply_tlsClientRecord hkey hiv (htype ▸ hbuild)]

/-- The keys of the sample session, the same in both directions. -/
def sampleTraffic : TlsTraffic :=
  { clientWriteKey := Vector.replicate 16 1, serverWriteKey := Vector.replicate 16 1,
    clientWriteIv := Vector.replicate 4 2, serverWriteIv := Vector.replicate 4 2 }

/-- The server of the sample session sends one record, numbered 1. -/
def sampleSender : TlsSender where
  keys := sampleTraffic
  first := 1
  records := [⟨23, writeBe64 1, [79, 75]⟩]
  fresh := by decide

theorem tlsDecryptServerHttpReply_spec_sample :
    (tlsDecryptServerHttpReply (some sampleTraffic) true 1
      (tlsClientRecord sampleTraffic 1 23 [79, 75]).bytes).plain <+: [79, 75] := by
  have hbuild : tlsBuildEncryptedClientRecord sampleTraffic 1 23 [79, 75] tlsTxMax =
      some (tlsClientRecord sampleTraffic 1 23 [79, 75]).bytes :=
    tlsBuildEncryptedClientRecord_eq_some.mpr ⟨rfl, by decide⟩
  have hrecords (fuel : Nat) : tlsRecords (fuel + 1)
      (tlsClientRecord sampleTraffic 1 23 [79, 75]).bytes =
        [tlsClientRecord sampleTraffic 1 23 [79, 75]] := by
    rw [tlsRecords_succ (tlsNextRecord_tlsClientRecord hbuild), tlsRecords_nil]
  have hseal : (tlsClientRecord sampleTraffic 1 23 [79, 75]).opened sampleTraffic 1 =
      sampleSender.seal 0 ⟨23, writeBe64 1, [79, 75]⟩ :=
    tlsClientRecord_opened rfl
  have hforge : AllSteps (tlsHttpRecord sampleTraffic) sampleSender.NoForgery
      (tlsHttpReplyStart 1) [tlsClientRecord sampleTraffic 1 23 [79, 75]] := by
    simp only [AllSteps, and_true]
    exact fun _ _ _ _ => ⟨0, _, rfl, hseal⟩
  obtain ⟨-, -, -, hpre⟩ := (tlsDecryptServerHttpReply_spec sampleSender true _ sampleTraffic
    sampleTraffic 1 23 [79, 75] _ (by rw [hrecords]; exact hforge) rfl rfl hbuild).1
  exact hpre

end Orizon
