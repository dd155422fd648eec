import Orizon.Ssh.Flow
import Orizon.Ssh.Lockout

/-!
# Orizon.Ssh.RoundTrip

The two sides of the packet layer against each other: what `ssh_poll` encrypts and
sends, the receive procedure processes, in order, however the bytes are cut
(`sshCaptureEncrypted_tries`).

Both sides advance a counter and a sequence number by code of their own.  They meet
in the wire (`sshWire`): the bytes of a list of packets from one counter and one
sequence number on.  A try to send adds a packet to it if the bytes were sent and
none otherwise, and what the receiver has buffered and what has not arrived yet are
the wire of the packets to come.
-/

namespace Orizon

/-! ## Packets -/

/-- `plain` is a packet around the payload, no longer than `ssh_poll_tx` allows. -/
structure SshWrapped (payload plain : List UInt8) : Prop where
  length_ge : 10 ≤ plain.length
  length_le : plain.length + 32 ≤ 1400
  packetLen : (sshGetU32 plain 0).toNat + 4 = plain.length
  paddingLen : (plain.getD 4 0).toNat + payload.length + 5 = plain.length
  payload_eq : (plain.drop 5).take payload.length = payload
  nonempty : payload ≠ []

@[simp] theorem length_sshPaddingBytes (n : Nat) (seed : UInt32) :
    (sshPaddingBytes n seed).length = n := by
  induction n generalizing seed with
  | zero => rfl
  | succ n ih => simp [sshPaddingBytes, ih]

theorem sshPaddingLen_bounds (payloadLen : Nat) :
    4 ≤ sshPaddingLen payloadLen 16 ∧ sshPaddingLen payloadLen 16 ≤ 19 := by
  have hmod : (payloadLen + 5) % 16 < 16 := Nat.mod_lt _ (by omega)
  have hmax : max 16 8 = 16 := rfl
  unfold sshPaddingLen
  dsimp only
  rw [hmax]
  split
  · omega
  · omega

theorem sshWrapPacketBlock_wrapped {seed : UInt32} {payload plain : List UInt8}
    (h : sshWrapPacketBlock seed 4096 payload 16 = some plain) (hcap : plain.length + 32 ≤ 1400)
    (hpayload : payload ≠ []) : SshWrapped payload plain := by
  unfold sshWrapPacketBlock at h
  dsimp only at h
  split at h
  · cases h
  obtain ⟨hlow, hhigh⟩ := sshPaddingLen_bounds payload.length
  generalize sshPaddingLen payload.length 16 = n at *
  obtain rfl := Option.some.inj h
  have hpos := List.length_pos_iff.mpr hpayload
  have hlen : (sshPutU32 (UInt32.ofNat (1 + payload.length + n)) ++ UInt8.ofNat n :: payload ++
      sshPaddingBytes n seed).length = payload.length + n + 5 := by
    simp
    omega
  rw [hlen] at hcap
  refine ⟨?_, ?_, ?_, ?_, ?_, hpayload⟩
  · omega
  · omega
  · have hword := @sshGetU32_append [] (UInt32.ofNat (1 + payload.length + n))
      (UInt8.ofNat n :: payload ++ sshPaddingBytes n seed)
    rw [List.nil_append, List.length_nil, ← List.append_assoc] at hword
    rw [hword, hlen, UInt32.toNat_ofNat', Nat.mod_eq_of_lt (by omega)]
    omega
  · have hbyte : (sshPutU32 (UInt32.ofNat (1 + payload.length + n)) ++ UInt8.ofNat n :: payload ++
        sshPaddingBytes n seed).getD 4 0 = UInt8.ofNat n := rfl
    rw [hbyte, hlen, UInt8.toNat_ofNat', Nat.mod_eq_of_lt (by omega)]
    omega
  · have hdrop : (sshPutU32 (UInt32.ofNat (1 + payload.length + n)) ++ UInt8.ofNat n :: payload ++
        sshPaddingBytes n seed).drop 5 = payload ++ sshPaddingBytes n seed := rfl
    rw [hdrop, List.take_left]

theorem sshGetU32_take (p : List UInt8) : sshGetU32 (p.take 4) 0 = sshGetU32 p 0 := by
  simp [sshGetU32, readBe32, List.getD_eq_getElem?_getD]

/-! ## The wire -/

/-- The bytes of packets, each with its payload, from a counter and a sequence number
on. -/
def sshWire (key : AesBlock) (mac : Sha256Digest) :
    AesBlock → UInt32 → List (List UInt8 × List UInt8) → List UInt8
  | _, _, [] => []
  | ctr, seq, packet :: packets => sshSealPacket key ctr mac seq packet.2 ++
      sshWire key mac (aes128CtrCryptUpdate key ctr packet.2).2 (seq + 1) packets

section Wire

variable {key ctr : AesBlock} {mac : Sha256Digest} {seq : UInt32} {payload plain : List UInt8}

@[simp] theorem length_sshSealPacket :
    (sshSealPacket key ctr mac seq plain).length = plain.length + 32 := by
  simp [sshSealPacket, length_aes128CtrCryptUpdate]

/-- The first bytes of a packet are the ciphertext, which decrypts to it, and the counter
goes on as it did. -/
theorem sshSealPacket_open (rest : List UInt8) :
    aes128CtrCryptUpdate key ctr ((sshSealPacket key ctr mac seq plain ++ rest).take plain.length) =
      (plain, (aes128CtrCryptUpdate key ctr plain).2) := by
  have htake : (sshSealPacket key ctr mac seq plain ++ rest).take plain.length =
      (aes128CtrCryptUpdate key ctr plain).1 := by
    have hlen := length_aes128CtrCryptUpdate key ctr plain
    rw [sshSealPacket, List.append_assoc, List.take_left' hlen]
  rw [htake, aes128CtrCryptUpdate_self]

theorem sshSealPacket_length (h : 4 ≤ plain.length) (rest : List UInt8) :
    sshGetU32 (aes128CtrCryptUpdate key ctr
      ((sshSealPacket key ctr mac seq plain ++ rest).take 4)).1 0 = sshGetU32 plain 0 := by
  have htake : (sshSealPacket key ctr mac seq plain ++ rest).take 4 =
      ((sshSealPacket key ctr mac seq plain ++ rest).take plain.length).take 4 := by
    rw [List.take_take, Nat.min_eq_left h]
  rw [htake, aes128CtrCryptUpdate_take, sshSealPacket_open, sshGetU32_take]

theorem sshSealPacket_mac (rest : List UInt8) :
    ((sshSealPacket key ctr mac seq plain ++ rest).drop plain.length).take 32 =
      (sshMacPacket mac seq plain).toList := by
  have hlen := length_aes128CtrCryptUpdate key ctr plain
  rw [sshSealPacket, List.append_assoc, List.drop_left' hlen, List.take_left']
  simp

end Wire

/-! ## Handling -/

/-- The packet came in encrypted, with the right code. -/
def SshOrigin.verified (link : SshLink) : SshOrigin → Bool
  | .clear => false
  | .sealed plain mac => (sshMacPacket link.macC2s link.seqIn plain).toList == mac

/-- The packets processed in a run, the newest first: whether they were verified, and
their payloads. -/
def sshProcessed (trace : List SshEvent) : List (Bool × List UInt8) :=
  trace.filterMap fun e => match e with
    | .packet origin payload before => some (origin.verified before.link, payload)
    | _ => none

/-- The payload is no message of the key exchange. -/
def SshNoKex (payload : List UInt8) : Prop :=
  ∃ type rest, payload = type :: rest ∧ type ≠ 20 ∧ type ≠ 21 ∧ type ≠ 30

section Handling

variable (env : SshEnv) {s s' : SshState}

theorem SshHandlerMove.processed_eq (h : SshHandlerMove env s s') :
    sshProcessed s'.trace = sshProcessed s.trace := by
  cases h with
  | quiet h => rw [h.trace]
  | kexinit => rfl
  | newkeys => rfl
  | kexdh payload =>
      obtain h | h := sshProcessKexdhInit_cases env payload s
      · rw [h.trace]
      · rw [h.trace]
        rfl
  | authFailure => rfl
  | authSuccess => rfl
  | shellOpened => rfl
  | shellClosed => rfl
  | command => rfl
  | admin op =>
      rw [(sshAdmin_effect env op s).trace]
      rfl

theorem SshHandlerMoves.processed_eq (h : SshHandlerMoves env s s') :
    sshProcessed s'.trace = sshProcessed s.trace := by
  induction h with
  | refl => rfl
  | tail _ hlast ih => exact hlast.processed_eq.trans ih

theorem sshProcessed_sshProcessPacket (origin : SshOrigin) {payload : List UInt8}
    (h : payload ≠ []) (s : SshState) : sshProcessed (sshProcessPacket env origin payload s).trace =
      (origin.verified s.neg.link, payload) :: sshProcessed s.trace := by
  cases payload with
  | nil => exact absurd rfl h
  | cons type rest => exact (sshProcessPacket_handler env origin type rest s).processed_eq

/-! ### The packet layer is left as it is -/

@[simp] theorem link_sshPrint (s : SshState) : (sshPrint env s).neg.link = s.neg.link := rfl

@[simp] theorem link_sshEcho (text : List UInt8) (s : SshState) :
    (sshEcho text s).neg.link = s.neg.link := rfl

@[simp] theorem link_sshFailChannel (s : SshState) : (sshFailChannel s).neg.link = s.neg.link := rfl

@[simp] theorem link_sshRefuseAuth (s : SshState) : (sshRefuseAuth s).neg.link = s.neg.link := rfl

@[simp] theorem link_sshNoteAuthFailure (compared : Option UInt64) (s : SshState) :
    (sshNoteAuthFailure env compared s).neg.link = s.neg.link := rfl

@[simp] theorem link_sshAcceptChannel (wantReply : Bool) (s : SshState) :
    (sshAcceptChannel wantReply s).neg.link = s.neg.link := by
  unfold sshAcceptChannel
  split
  · rfl
  · rfl

@[simp] theorem link_sshShellLine (line : List UInt8) (s : SshState) :
    (sshShellLine env line s).neg.link = s.neg.link := by
  unfold sshShellLine
  dsimp only
  split
  next op _ => exact (sshAdmin_effect env op _).link
  · rfl

@[simp] theorem link_sshRemoteShellExecute (line : List UInt8) (s : SshState) :
    (sshRemoteShellExecute env line s).neg.link = s.neg.link := by
  unfold sshRemoteShellExecute
  dsimp only
  split
  · rfl
  split
  · exact link_sshShellLine env line _
  · exact link_sshShellLine env line _

@[simp] theorem link_sshRemoteExecExecute (command : List UInt8) (s : SshState) :
    (sshRemoteExecExecute env command s).neg.link = s.neg.link := by
  unfold sshRemoteExecExecute
  exact link_sshShellLine env _ _

@[simp] theorem link_sshExecRequest (payload : List UInt8) (off : Nat) (wantReply : Bool)
    (s : SshState) : (sshExecRequest env payload off wantReply s).neg.link = s.neg.link := by
  unfold sshExecRequest
  split
  · rw [link_sshRemoteExecExecute, link_sshAcceptChannel]
  · split
    · rfl
    · rfl

@[simp] theorem link_sshProcessChannelRequest (payload : List UInt8) (s : SshState) :
    (sshProcessChannelRequest env payload s).neg.link = s.neg.link := by
  unfold sshProcessChannelRequest
  split
  · rfl
  split
  · rfl
  split
  · rfl
  split
  · rfl
  dsimp only
  split
  · exact link_sshAcceptChannel _ s
  split
  · rw [link_sshPrint, link_sshAcceptChannel]
  split
  · exact link_sshExecRequest env payload _ _ s
  split
  · rfl
  · rfl

@[simp] theorem link_sshShellByte (ch : UInt8) (s : SshState) :
    (sshShellByte env s ch).neg.link = s.neg.link := by
  unfold sshShellByte
  split
  · unfold sshShellEnter
    split
    · rfl
    · exact link_sshRemoteShellExecute env _ _
  · unfold sshShellType
    dsimp only
    split
    · split
      · rfl
      · rfl
    split
    · split
      · rfl
      · rfl
    · rfl

@[simp] theorem link_sshProcessChannelData (payload : List UInt8) (s : SshState) :
    (sshProcessChannelData env payload s).neg.link = s.neg.link := by
  unfold sshProcessChannelData
  split
  · rfl
  split
  · rfl
  split
  · rfl
  next data _ _ =>
  clear * -
  induction data generalizing s with
  | nil => rfl
  | cons ch data ih => exact (ih _).trans (link_sshShellByte env ch s)

@[simp] theorem link_sshProcessChannelClose (s : SshState) :
    (sshProcessChannelClose s).neg.link = s.neg.link := by
  unfold sshProcessChannelClose
  split
  · rfl
  · rfl

@[simp] theorem link_sshProcessServiceRequest (payload : List UInt8) (s : SshState) :
    (sshProcessServiceRequest payload s).neg.link = s.neg.link := by
  unfold sshProcessServiceRequest
  split
  · rfl
  split
  · rfl
  · rfl

@[simp] theorem link_sshProcessUserauthRequest (payload : List UInt8) (s : SshState) :
    (sshProcessUserauthRequest env payload s).neg.link = s.neg.link := by
  unfold sshProcessUserauthRequest sshProcessPassword
  split
  · rfl
  split
  · rfl
  split
  · rfl
  split
  · rfl
  split
  · split
    · rfl
    split
    · rfl
    split
    · rfl
    split
    · rfl
    · rfl
  · rfl

/-- A message that is none of the key exchange leaves the packet layer as it is. -/
theorem link_sshProcessPacket (origin : SshOrigin) {payload : List UInt8} (h : SshNoKex payload)
    (s : SshState) : (sshProcessPacket env origin payload s).neg.link = s.neg.link := by
  obtain ⟨type, rest, rfl, hkexinit, hnewkeys, hkexdh⟩ := h
  unfold sshProcessPacket sshDispatch
  dsimp only
  rw [if_neg hkexinit, if_neg hnewkeys, if_neg hkexdh]
  split
  · exact link_sshProcessServiceRequest _ _
  split
  · exact link_sshProcessUserauthRequest env _ _
  split
  · rfl
  split
  · exact link_sshProcessChannelRequest env _ _
  split
  · exact link_sshProcessChannelData env _ _
  split
  · exact link_sshProcessChannelClose _
  · rfl

end Handling

/-! ## Receiving -/

/-- What the receiver has buffered and what has not arrived yet are the wire of the
packets to come. -/
def SshReceiving (s : SshState) (pending : List UInt8) (packets : List (List UInt8 × List UInt8)) :
    Prop :=
  s.neg.link.encryptedRx ++ pending =
    sshWire s.neg.link.keyC2s s.neg.link.macC2s s.neg.link.ctrC2s s.neg.link.seqIn packets

/-- The first packet to come is not complete in the buffer. -/
def SshShort (s : SshState) (packets : List (List UInt8 × List UInt8)) : Prop :=
  ∀ packet ∈ packets.head?, s.neg.link.encryptedRx.length < packet.2.length + 32

/-- The packets are such as the sender makes, and none is of the key exchange. -/
def SshPackets (packets : List (List UInt8 × List UInt8)) : Prop :=
  ∀ packet ∈ packets, SshWrapped packet.1 packet.2 ∧ SshNoKex packet.1

section Receiving

variable (env : SshEnv) {s : SshState} {pending : List UInt8} {payload plain : List UInt8}
  {packets : List (List UInt8 × List UInt8)}

theorem sshOpenEncrypted_seal {rest : List UInt8} (hwrapped : SshWrapped payload plain)
    (hrx : s.neg.link.encryptedRx = sshSealPacket s.neg.link.keyC2s s.neg.link.ctrC2s
      s.neg.link.macC2s s.neg.link.seqIn plain ++ rest) :
    sshOpenEncrypted env (sshGetU32 plain 0).toNat s = (true, sshTakeEncrypted env plain
      (sshMacPacket s.neg.link.macC2s s.neg.link.seqIn plain).toList payload.length
      (plain.length + 32) { s with
        neg.link.ctrC2s := (aes128CtrCryptUpdate s.neg.link.keyC2s s.neg.link.ctrC2s plain).2 }) := by
  have hlen : 4 + (sshGetU32 plain 0).toNat = plain.length := by
    rw [Nat.add_comm]
    exact hwrapped.packetLen
  have hpadding := hwrapped.paddingLen
  have hpos := List.length_pos_iff.mpr hwrapped.nonempty
  have hopened : aes128CtrCryptUpdate s.neg.link.keyC2s s.neg.link.ctrC2s
      (s.neg.link.encryptedRx.take plain.length) =
        (plain, (aes128CtrCryptUpdate s.neg.link.keyC2s s.neg.link.ctrC2s plain).2) := by
    rw [hrx]
    exact sshSealPacket_open rest
  have hmac : (s.neg.link.encryptedRx.drop plain.length).take 32 =
      (sshMacPacket s.neg.link.macC2s s.neg.link.seqIn plain).toList := by
    rw [hrx]
    exact sshSealPacket_mac rest
  have hpayload : (sshGetU32 plain 0).toNat - (plain.getD 4 0).toNat - 1 = payload.length := by omega
  unfold sshOpenEncrypted
  dsimp only
  rw [hlen, hopened, hmac]
  unfold sshCheckEncrypted
  dsimp only
  rw [if_neg (by simp), if_neg (by omega), hpayload, hlen]

/-- A packet that is taken is processed, and the receiver goes on behind it. -/
theorem sshTakeEncrypted_receives (hwrapped : SshWrapped payload plain)
    (hkex : SshNoKex payload) (h : SshReceiving s pending ((payload, plain) :: packets))
    (hfull : plain.length + 32 ≤ s.neg.link.encryptedRx.length) :
    let s' := sshTakeEncrypted env plain
      (sshMacPacket s.neg.link.macC2s s.neg.link.seqIn plain).toList payload.length
      (plain.length + 32) { s with
        neg.link.ctrC2s := (aes128CtrCryptUpdate s.neg.link.keyC2s s.neg.link.ctrC2s plain).2 }
    SshReceiving s' pending packets ∧
      s'.neg.link.encryptedRx.length + (plain.length + 32) = s.neg.link.encryptedRx.length ∧
      sshProcessed s'.trace = (true, payload) :: sshProcessed s.trace := by
  have hlink := fun origin => link_sshProcessPacket env origin hkex { s with
    neg.link.ctrC2s := (aes128CtrCryptUpdate s.neg.link.keyC2s s.neg.link.ctrC2s plain).2 }
  have hprocessed := fun origin => sshProcessed_sshProcessPacket env origin hwrapped.nonempty { s with
    neg.link.ctrC2s := (aes128CtrCryptUpdate s.neg.link.keyC2s s.neg.link.ctrC2s plain).2 }
  have hverified := beq_self_eq_true (sshMacPacket s.neg.link.macC2s s.neg.link.seqIn plain).toList
  unfold sshTakeEncrypted
  rw [hwrapped.payload_eq]
  dsimp only
  specialize hlink (.sealed plain (sshMacPacket s.neg.link.macC2s s.neg.link.seqIn plain).toList)
  specialize hprocessed
    (.sealed plain (sshMacPacket s.neg.link.macC2s s.neg.link.seqIn plain).toList)
  rw [SshOrigin.verified, hverified] at hprocessed
  generalize sshProcessPacket env (.sealed plain _) payload _ = t at hlink hprocessed ⊢
  refine ⟨?_, ?_, hprocessed⟩
  · unfold SshReceiving at h ⊢
    dsimp only
    rw [hlink]
    dsimp only
    rw [sshWire] at h
    have hdrop := congrArg (List.drop (plain.length + 32)) h
    rw [List.drop_append_of_le_length hfull, List.drop_left' length_sshSealPacket] at hdrop
    exact hdrop
  · rw [hlink, List.length_drop]
    dsimp only
    omega

theorem SshReceiving.packetLen (h : SshReceiving s pending ((payload, plain) :: packets))
    (hwrapped : SshWrapped payload plain) (hrx : 4 ≤ s.neg.link.encryptedRx.length) :
    sshGetU32 (aes128CtrCryptUpdate s.neg.link.keyC2s s.neg.link.ctrC2s
      (s.neg.link.encryptedRx.take 4)).1 0 = sshGetU32 plain 0 := by
  rw [← List.take_append_of_le_length hrx, h, sshWire]
  exact sshSealPacket_length (Nat.le_trans (by omega) hwrapped.length_ge) _

/-- The bytes of a complete packet stand at the start of the buffer. -/
theorem SshReceiving.buffered (h : SshReceiving s pending ((payload, plain) :: packets))
    (hfull : plain.length + 32 ≤ s.neg.link.encryptedRx.length) :
    s.neg.link.encryptedRx = sshSealPacket s.neg.link.keyC2s s.neg.link.ctrC2s s.neg.link.macC2s
      s.neg.link.seqIn plain ++ s.neg.link.encryptedRx.drop (plain.length + 32) := by
  have htake := congrArg (List.take (plain.length + 32)) h
  rw [List.take_append_of_le_length hfull, sshWire, List.take_left' length_sshSealPacket] at htake
  rw [← htake, List.take_append_drop]

theorem sshDrainEncrypted_short (fuel : Nat) (hpackets : SshPackets packets)
    (h : SshReceiving s pending packets) (hshort : SshShort s packets) :
    sshDrainEncrypted env fuel s = s := by
  cases fuel with
  | zero => rfl
  | succ fuel =>
      unfold sshDrainEncrypted
      dsimp only
      split
      · rfl
      next hrx =>
      cases packets with
      | nil =>
          have hnil : s.neg.link.encryptedRx = [] := (List.append_eq_nil_iff.mp h).1
          rw [hnil] at hrx
          exact absurd (Nat.zero_lt_succ 35) hrx
      | cons packet packets =>
          obtain ⟨payload, plain⟩ := packet
          have hwrapped : SshWrapped payload plain := (hpackets _ List.mem_cons_self).1
          have hlen := hwrapped.packetLen
          have hlow := hwrapped.length_ge
          have hhigh := hwrapped.length_le
          have hless : s.neg.link.encryptedRx.length < plain.length + 32 := hshort _ rfl
          rw [h.packetLen hwrapped (by omega), if_neg (by omega), if_pos (by omega)]

theorem sshDrainEncrypted_full (fuel : Nat) (hwrapped : SshWrapped payload plain)
    (h : SshReceiving s pending ((payload, plain) :: packets))
    (hfull : plain.length + 32 ≤ s.neg.link.encryptedRx.length) :
    sshDrainEncrypted env (fuel + 1) s = sshDrainEncrypted env fuel
      (sshTakeEncrypted env plain (sshMacPacket s.neg.link.macC2s s.neg.link.seqIn plain).toList
        payload.length (plain.length + 32) { s with
          neg.link.ctrC2s := (aes128CtrCryptUpdate s.neg.link.keyC2s s.neg.link.ctrC2s plain).2 }) := by
  have hlen := hwrapped.packetLen
  have hlow := hwrapped.length_ge
  have hhigh := hwrapped.length_le
  rw [sshDrainEncrypted]
  dsimp only
  rw [if_neg (by omega), h.packetLen hwrapped (by omega), if_neg (by omega), if_neg (by omega),
    sshOpenEncrypted_seal env hwrapped (h.buffered hfull), if_pos rfl]

/-- Where the receiver has come after the packets `done`. -/
structure SshReceived (s s' : SshState) (pending : List UInt8)
    (done rest : List (List UInt8 × List UInt8)) : Prop where
  receiving : SshReceiving s' pending rest
  short : SshShort s' rest
  processed : sshProcessed s'.trace =
    (done.map fun packet => (true, packet.1)).reverse ++ sshProcessed s.trace

/-- The loop takes the packets that are complete, and stops at the first that is not. -/
theorem sshDrainEncrypted_received (fuel : Nat) (hpackets : SshPackets packets)
    (h : SshReceiving s pending packets) (hfuel : s.neg.link.encryptedRx.length ≤ fuel) :
    ∃ done rest, packets = done ++ rest ∧
      SshReceived s (sshDrainEncrypted env fuel s) pending done rest := by
  induction packets generalizing s fuel with
  | nil =>
      have hshort : SshShort s [] := fun packet hpacket => by cases hpacket
      refine ⟨[], [], rfl, ?_⟩
      rw [sshDrainEncrypted_short env fuel hpackets h hshort]
      exact ⟨h, hshort, rfl⟩
  | cons packet packets ih =>
      obtain ⟨payload, plain⟩ := packet
      obtain ⟨hwrapped, hkex⟩ := hpackets (payload, plain) List.mem_cons_self
      by_cases hfull : plain.length + 32 ≤ s.neg.link.encryptedRx.length
      · obtain ⟨fuel, rfl⟩ : ∃ k, fuel = k + 1 := Nat.exists_eq_succ_of_ne_zero (by omega)
        obtain ⟨hnext, hless, hprocessed⟩ := sshTakeEncrypted_receives env hwrapped hkex h hfull
        rw [sshDrainEncrypted_full env fuel hwrapped h hfull]
        generalize sshTakeEncrypted env plain _ payload.length (plain.length + 32) _ = t at *
        obtain ⟨done, rest, rfl, hreceived⟩ :=
          ih fuel (fun p hp => hpackets p (List.mem_cons_of_mem _ hp)) hnext (by omega)
        refine ⟨(payload, plain) :: done, rest, rfl, hreceived.receiving, hreceived.short, ?_⟩
        rw [hreceived.processed, hprocessed]
        simp
      · have hshort : SshShort s ((payload, plain) :: packets) := by
          rintro packet ⟨⟩
          exact Nat.lt_of_not_le hfull
        refine ⟨[], (payload, plain) :: packets, rfl, ?_⟩
        rw [sshDrainEncrypted_short env fuel hpackets h hshort]
        exact ⟨h, hshort, rfl⟩

theorem sshCaptureEncrypted_received {data : List UInt8} (hpackets : SshPackets packets)
    (h : SshReceiving s (data ++ pending) packets) (hshort : SshShort s packets)
    (hdata : data.length ≤ 2048) : ∃ done rest, packets = done ++ rest ∧
      SshReceived s (sshCaptureEncrypted env data s) pending done rest := by
  have hroom : s.neg.link.encryptedRx.length < 1400 := by
    cases packets with
    | nil =>
        have hnil : s.neg.link.encryptedRx = [] := (List.append_eq_nil_iff.mp h).1
        rw [hnil]
        exact Nat.zero_lt_succ 1399
    | cons packet packets =>
        exact Nat.lt_of_lt_of_le (hshort packet rfl) (hpackets _ List.mem_cons_self).1.length_le
  have hnext : SshReceiving { s with
      neg.link.encryptedRx := s.neg.link.encryptedRx ++ data } pending packets := by
    unfold SshReceiving at h ⊢
    dsimp only
    rw [List.append_assoc]
    exact h
  unfold sshCaptureEncrypted
  dsimp only
  rw [if_neg (by omega)]
  obtain ⟨done, rest, hsplit, hreceived⟩ :=
    sshDrainEncrypted_received env _ hpackets hnext (Nat.le_refl _)
  exact ⟨done, rest, hsplit, hreceived.receiving, hreceived.short, hreceived.processed⟩

theorem sshCaptureEncrypted_segments (segments : List (List UInt8)) (hpackets : SshPackets packets)
    (h : SshReceiving s segments.flatten packets) (hshort : SshShort s packets)
    (hsegments : ∀ data ∈ segments, data.length ≤ 2048) : ∃ done rest, packets = done ++ rest ∧
      SshReceived s (segments.foldl (fun s data => sshCaptureEncrypted env data s) s) [] done rest := by
  induction segments generalizing s packets with
  | nil => exact ⟨[], packets, rfl, h, hshort, rfl⟩
  | cons data segments ih =>
      obtain ⟨done, rest, rfl, hfirst⟩ := sshCaptureEncrypted_received env hpackets h hshort
        (hsegments data List.mem_cons_self)
      obtain ⟨done', rest', rfl, hrest⟩ := ih
        (fun p hp => hpackets p (List.mem_append_right _ hp)) hfirst.receiving hfirst.short
        fun d hd => hsegments d (List.mem_cons_of_mem _ hd)
      refine ⟨done ++ done', rest', (List.append_assoc _ _ _).symm, hrest.receiving, hrest.short, ?_⟩
      rw [List.foldl_cons, hrest.processed, hfirst.processed]
      simp

/-- When everything has arrived, everything was processed and nothing is left. -/
theorem sshCaptureEncrypted_all (segments : List (List UInt8)) (hpackets : SshPackets packets)
    (hempty : s.neg.link.encryptedRx = []) (hwire : segments.flatten = sshWire s.neg.link.keyC2s
      s.neg.link.macC2s s.neg.link.ctrC2s s.neg.link.seqIn packets)
    (hsegments : ∀ data ∈ segments, data.length ≤ 2048) :
    let s' := segments.foldl (fun s data => sshCaptureEncrypted env data s) s
    s'.neg.link.encryptedRx = [] ∧ sshProcessed s'.trace =
      (packets.map fun packet => (true, packet.1)).reverse ++ sshProcessed s.trace := by
  have h : SshReceiving s segments.flatten packets := by
    unfold SshReceiving
    rw [hempty, List.nil_append, hwire]
  have hshort : SshShort s packets := by
    intro packet _
    rw [hempty]
    exact Nat.succ_pos _
  obtain ⟨done, rest, rfl, hreceived⟩ :=
    sshCaptureEncrypted_segments env segments hpackets h hshort hsegments
  have hreceiving := hreceived.receiving
  unfold SshReceiving at hreceiving
  rw [List.append_nil] at hreceiving
  cases rest with
  | nil =>
      rw [List.append_nil]
      exact ⟨hreceiving, hreceived.processed⟩
  | cons packet rest =>
      have hless := hreceived.short packet rfl
      rw [hreceiving, sshWire, List.length_append, length_sshSealPacket] at hless
      omega

end Receiving

/-! ## Sending -/

/-- A try of `ssh_poll` to send an encrypted packet: the state it finds, what it builds,
and what `netstack_tcp_server_poll` returns. -/
structure SshTry where
  found : SshState
  kind : SshTxKind
  rc : Int

/-- What is sent encrypted. -/
def SshTxKind.Encrypted (kind : SshTxKind) : Prop := kind.Sealed ∨ kind = .channelData

/-- The payload `ssh_poll` builds. -/
def sshTxPayload (env : SshEnv) (s : SshState) : SshTxKind → List UInt8
  | .serviceAccept => sshServiceAcceptPayload
  | .userauthSuccess => [52]
  | .userauthFailure => sshUserauthFailurePayload (sshOffersPassword env s)
  | .channelOpenConfirmation => sshChannelOpenConfirmationPayload s.neg.channel
  | .channelSuccess => sshChannelStatusPayload 99 s.neg.channel
  | .channelFailure => sshChannelStatusPayload 100 s.neg.channel
  | .channelData => sshChannelDataPayload s.neg.channel
  | .channelExitStatus => sshExitStatusPayload s.neg.channel
  | .channelClose => sshChannelStatusPayload 97 s.neg.channel
  | _ => []

/-- The bytes a try builds. -/
def sshTryTx (env : SshEnv) (t : SshTry) : List UInt8 := (sshBuildTx env t.kind t.found).1

/-- The state after a try. -/
def sshTryAfter (env : SshEnv) (t : SshTry) : SshState :=
  let built := sshBuildTx env t.kind t.found
  sshSent env t.kind built.1 t.rc built.2

/-- What a try puts on the wire. -/
def sshTryWire (env : SshEnv) (t : SshTry) : List UInt8 := if t.rc = 4 then sshTryTx env t else []

/-- The payload a try sends, if it sends one. -/
def sshTryPayload (env : SshEnv) (t : SshTry) : Option (List UInt8) :=
  if t.rc = 4 ∧ sshTryTx env t ≠ [] then some (sshTxPayload env t.found t.kind) else none

/-- What the sending side encrypts with. -/
def SshLink.sending (link : SshLink) : AesBlock × Sha256Digest × AesBlock × UInt32 :=
  (link.keyS2c, link.macS2c, link.ctrS2c, link.seqOut)

/-- Each try finds the sending side as the try before it left it; all else may have
changed in between. -/
def SshTries (env : SshEnv) : SshLink → List SshTry → Prop
  | _, [] => True
  | link, t :: tries => t.kind.Encrypted ∧ t.found.neg.link.sending = link.sending ∧
      SshTries env (sshTryAfter env t).neg.link tries

section Sending

variable (env : SshEnv) {s : SshState} {kind : SshTxKind} {link : SshLink}

theorem sshTxPayload_noKex (h : kind.Encrypted) (s : SshState) :
    SshNoKex (sshTxPayload env s kind) := by
  cases kind with
  | banner | kexinit | disconnect | ecdhReply | newkeys =>
      obtain h | h := h
      · exact h.elim
      · cases h
  | serviceAccept => exact ⟨6, _, rfl, by decide⟩
  | userauthSuccess => exact ⟨52, [], rfl, by decide⟩
  | userauthFailure =>
      unfold sshTxPayload
      cases sshOffersPassword env s with
      | true => exact ⟨51, _, rfl, by decide⟩
      | false => exact ⟨51, _, rfl, by decide⟩
  | channelOpenConfirmation => exact ⟨91, _, rfl, by decide⟩
  | channelSuccess => exact ⟨99, _, rfl, by decide⟩
  | channelFailure => exact ⟨100, _, rfl, by decide⟩
  | channelData =>
      unfold sshTxPayload
      rw [sshChannelDataPayload_eq]
      exact ⟨94, _, rfl, by decide⟩
  | channelExitStatus => exact ⟨98, _, rfl, by decide⟩
  | channelClose => exact ⟨97, _, rfl, by decide⟩

/-- What an encrypted packet is built to: no bytes, or the packet sealed, with the
counter after it kept aside. -/
structure SshSealed (payload : List UInt8) (link : SshLink) (r : List UInt8 × SshState) : Prop where
  sending : r.2.neg.link.sending = link.sending
  sealed : r.1 ≠ [] → ∃ plain, SshWrapped payload plain ∧
    r.1 = sshSealPacket link.keyS2c link.ctrS2c link.macS2c link.seqOut plain ∧
    sshCommitCtr r.2.neg.link = { r.2.neg.link with
      ctrS2c := (aes128CtrCryptUpdate link.keyS2c link.ctrS2c plain).2
      pendingCtrS2cReady := false
      seqOut := link.seqOut + 1 }

theorem SshSealed.nothing {payload : List UInt8} {s' : SshState}
    (h : s'.neg.link.sending = link.sending) : SshSealed payload link ([], s') :=
  ⟨h, fun h => absurd rfl h⟩

theorem sshBuildEncryptedPacket_sealed {payload : List UInt8} (h : payload ≠ []) (s : SshState) :
    SshSealed payload s.neg.link (sshBuildEncryptedPacket env payload s) := by
  unfold sshBuildEncryptedPacket
  dsimp only
  split
  · exact .nothing rfl
  split
  · exact .nothing rfl
  next plain hplain =>
  split
  · exact .nothing rfl
  next hcap =>
  exact ⟨rfl, fun _ => ⟨plain, sshWrapPacketBlock_wrapped hplain (Nat.le_of_not_lt hcap) h, rfl, rfl⟩⟩

theorem sshBuildTx_sealed (h : kind.Encrypted) (s : SshState) :
    SshSealed (sshTxPayload env s kind) s.neg.link (sshBuildTx env kind s) := by
  obtain ⟨type, rest, hpayload, -⟩ := sshTxPayload_noKex env h s
  have hne : sshTxPayload env s kind ≠ [] := by simp [hpayload]
  cases kind with
  | banner | kexinit | disconnect | ecdhReply | newkeys =>
      obtain h | h := h
      · exact h.elim
      · cases h
  | channelData =>
      unfold sshBuildTx sshBuildChannelData
      dsimp only
      split
      · exact .nothing rfl
      · exact sshBuildEncryptedPacket_sealed env hne { s with
          neg.channel.channelLastChunkLen := (sshChannelChunk s.neg.channel).length }
  | userauthFailure => exact sshBuildEncryptedPacket_sealed env hne s.ask
  | _ => exact sshBuildEncryptedPacket_sealed env hne s

theorem link_sshCommitTx (h : kind.Encrypted) (tx : List UInt8) (s : SshState) :
    (sshCommitTx env kind tx s).neg.link = sshCommitCtr s.neg.link := by
  cases kind with
  | banner | kexinit | disconnect | ecdhReply | newkeys =>
      obtain h | h := h
      · exact h.elim
      · cases h
  | _ => rfl

variable {t : SshTry}

/-- A try that succeeds: its packet is on the wire, and the sending side goes on behind
it. -/
theorem sshTry_sent (hkind : t.kind.Encrypted) (hrc : t.rc = 4) (htx : sshTryTx env t ≠ []) :
    ∃ plain, SshWrapped (sshTxPayload env t.found t.kind) plain ∧
      sshTryWire env t = sshSealPacket t.found.neg.link.keyS2c t.found.neg.link.ctrS2c
        t.found.neg.link.macS2c t.found.neg.link.seqOut plain ∧
      (sshTryAfter env t).neg.link.sending = (t.found.neg.link.keyS2c, t.found.neg.link.macS2c,
        (aes128CtrCryptUpdate t.found.neg.link.keyS2c t.found.neg.link.ctrS2c plain).2,
        t.found.neg.link.seqOut + 1) := by
  have hbuilt := sshBuildTx_sealed env hkind t.found
  obtain ⟨plain, hwrapped, hseal, hcommit⟩ := hbuilt.sealed htx
  refine ⟨plain, hwrapped, ?_, ?_⟩
  · rw [sshTryWire, if_pos hrc]
    exact hseal
  · have hsending := hbuilt.sending
    simp only [SshLink.sending, Prod.mk.injEq] at hsending
    unfold sshTryAfter sshSent
    dsimp only
    rw [if_pos ⟨htx, hrc⟩, link_sshCommitTx env hkind, hcommit]
    simp only [SshLink.sending, hsending.1, hsending.2.1]

/-- A try that fails: nothing is on the wire, and the sending side is as before. -/
theorem sshTry_failed (hkind : t.kind.Encrypted) (h : ¬ (t.rc = 4 ∧ sshTryTx env t ≠ [])) :
    sshTryWire env t = [] ∧ (sshTryAfter env t).neg.link.sending = t.found.neg.link.sending := by
  have hbuilt := sshBuildTx_sealed env hkind t.found
  refine ⟨?_, ?_⟩
  · unfold sshTryWire
    split
    next hrc => exact not_not.mp fun htx => h ⟨hrc, htx⟩
    · rfl
  · unfold sshTryAfter sshSent
    dsimp only
    rw [if_neg fun hsent => h hsent.symm]
    exact hbuilt.sending

theorem neg_sshSent {s s' : SshState} (h : s'.neg = s.neg) (kind : SshTxKind) (tx : List UInt8)
    (rc : Int) : (sshSent env kind tx rc s').neg = (sshSent env kind tx rc s).neg := by
  unfold sshSent
  split
  · unfold sshCommitTx
    cases kind with
    | _ => simp only [SshState.note, SshState.ask, h]
  · exact h

theorem sshExchange_try {tx : List UInt8} (htx : tx ≠ [])
    (hseen : s.server.connections = s.seenConnections) :
    (sshExchange env kind tx s).2.neg = {} ∨
      ∃ rc, (sshExchange env kind tx s).2.neg = (sshSent env kind tx rc s).neg := by
  have hrefresh : ∀ t : SshState, t.server.connections = t.seenConnections →
      (sshRefreshState env t).neg = t.neg := by
    intro t ht
    unfold sshRefreshState
    dsimp only
    rw [if_neg (not_not.mpr ht)]
  have hlistener : ∀ (rc : Int) (t : SshState), (sshSent env kind tx rc t).listener = t.listener := by
    intro rc t
    unfold sshSent
    split
    · exact sshCommitTx_listener env kind tx t
    · rfl
  unfold sshExchange
  dsimp only
  have houtcome := netstackTcpServerPoll_outcome (env.net s.asked) s.server tx 2048
  generalize netstackTcpServerPoll (env.net s.asked) s.server tx 2048 = r at houtcome ⊢
  have hsame (hrx : r.rx = []) (hconn : r.srv.connections = s.server.connections) :
      (sshRefreshState env (sshReceive env r.rx
        (sshSent env kind tx r.rc (sshServerPolled r s.ask)))).neg =
          (sshSent env kind tx r.rc s).neg := by
    rw [sshServerPolled_same (s := s.ask) hconn, hrx, sshReceive, if_pos rfl, hrefresh]
    · have hneg : ({ s.ask with server := r.srv } : SshState).neg = s.neg := rfl
      exact neg_sshSent env hneg kind tx r.rc
    · have hserver := congrArg (·.2.1) (hlistener r.rc { s.ask with server := r.srv })
      have hcount := congrArg (·.2.2) (hlistener r.rc { s.ask with server := r.srv })
      exact ((congrArg TcpServer.connections hserver).trans (hconn.trans hseen)).trans hcount.symm
  cases houtcome with
  | sent hrc hrx hstate hconn hpeer => exact .inr ⟨r.rc, hsame hrx hconn⟩
  | received hrc hnil => exact absurd hnil htx
  | quiet hrx hrc hconn hpeer => exact .inr ⟨r.rc, hsame hrx hconn⟩
  | connected hrx hrc hstate hconn =>
      refine .inl ?_
      have hnew : r.srv.connections ≠ s.server.connections := by
        rw [hconn]
        simp
      rw [sshSent, if_neg (by simp [hrc]), hrx]
      exact (sshNewSession_connect env r.srv s (hseen ▸ hnew) hnew).neg

/-- A call of `ssh_poll` that has an encrypted packet to send is a try, unless it finds
that a connection was opened. -/
theorem sshPollTx_try (hdue : sshTxDue s = some kind) (htx : (sshBuildTx env kind s).1 ≠ [])
    (hseen : s.server.connections = s.seenConnections) :
    (sshPollTx env s).2.neg = {} ∨
      ∃ rc, (sshPollTx env s).2.neg = (sshTryAfter env ⟨s, kind, rc⟩).neg := by
  have hbuilt := sshBuildTx_built env (sshTxDue_due hdue)
  have hserver := congrArg (·.2.1) hbuilt.serves.listener
  have hcount := congrArg (·.2.2) hbuilt.serves.listener
  unfold sshPollTx
  rw [hdue]
  exact sshExchange_try env htx
    (((congrArg TcpServer.connections hserver).trans hseen).trans hcount.symm)

/-- The packets of the tries whose bytes were sent are on the wire, one behind the other:
a try that failed leaves nothing on it. -/
theorem SshTries.wire {tries : List SshTry} (h : SshTries env link tries) :
    ∃ packets, packets.map Prod.fst = tries.filterMap (sshTryPayload env) ∧ SshPackets packets ∧
      tries.flatMap (sshTryWire env) =
        sshWire link.keyS2c link.macS2c link.ctrS2c link.seqOut packets := by
  induction tries generalizing link with
  | nil => exact ⟨[], rfl, (fun packet hpacket => by cases hpacket), rfl⟩
  | cons t tries ih =>
      obtain ⟨hkind, hfound, hnext⟩ := h
      obtain ⟨packets, hpayloads, hpackets, hwire⟩ := ih hnext
      simp only [SshLink.sending, Prod.mk.injEq] at hfound
      obtain ⟨hkey, hmac, hctr, hseq⟩ := hfound
      rw [List.flatMap_cons, hwire]
      by_cases hsent : t.rc = 4 ∧ sshTryTx env t ≠ []
      · obtain ⟨plain, hwrapped, hseal, hafter⟩ := sshTry_sent env hkind hsent.1 hsent.2
        simp only [SshLink.sending, Prod.mk.injEq] at hafter
        obtain ⟨hkey', hmac', hctr', hseq'⟩ := hafter
        refine ⟨(sshTxPayload env t.found t.kind, plain) :: packets, ?_, ?_, ?_⟩
        · have hpayload : sshTryPayload env t = some (sshTxPayload env t.found t.kind) := if_pos hsent
          rw [List.map_cons, hpayloads, List.filterMap_cons_some hpayload]
        · intro packet hpacket
          obtain rfl | hpacket := List.mem_cons.mp hpacket
          · exact ⟨hwrapped, sshTxPayload_noKex env hkind t.found⟩
          · exact hpackets packet hpacket
        · rw [hseal, hkey', hmac', hctr', hseq', hkey, hmac, hctr, hseq, sshWire]
      · obtain ⟨hnone, hafter⟩ := sshTry_failed env hkind hsent
        simp only [SshLink.sending, Prod.mk.injEq] at hafter
        obtain ⟨hkey', hmac', hctr', hseq'⟩ := hafter
        refine ⟨packets, ?_, hpackets, ?_⟩
        · have hpayload : sshTryPayload env t = none := if_neg hsent
          rw [hpayloads, List.filterMap_cons_none hpayload]
        · rw [hnone, List.nil_append, hkey', hmac', hctr', hseq', hkey, hmac, hctr, hseq]

end Sending

/-! ## The two sides -/

/-- Whatever `ssh_poll` tries to send encrypted, with any failures in between: the bytes
that were sent, cut into segments of at most 2048 bytes, make a receiver with the same
key, counter, code key and sequence number process the payloads that were sent, all of
them verified, in this order, and leave nothing in its buffer. -/
theorem sshCaptureEncrypted_tries (env receiver : SshEnv) (link : SshLink) (tries : List SshTry)
    (s : SshState) (segments : List (List UInt8)) (htries : SshTries env link tries)
    (hsame : (s.neg.link.keyC2s, s.neg.link.macC2s, s.neg.link.ctrC2s, s.neg.link.seqIn) =
      link.sending)
    (hempty : s.neg.link.encryptedRx = [])
    (hwire : segments.flatten = tries.flatMap (sshTryWire env))
    (hsegments : ∀ data ∈ segments, data.length ≤ 2048) :
    let s' := segments.foldl (fun s data => sshCaptureEncrypted receiver data s) s
    s'.neg.link.encryptedRx = [] ∧ sshProcessed s'.trace =
      ((tries.filterMap (sshTryPayload env)).map fun payload => (true, payload)).reverse ++
        sshProcessed s.trace := by
  obtain ⟨packets, hpayloads, hpackets, hpacketsWire⟩ := htries.wire
  simp only [SshLink.sending, Prod.mk.injEq] at hsame
  obtain ⟨hkey, hmac, hctr, hseq⟩ := hsame
  have hall := sshCaptureEncrypted_all receiver segments hpackets hempty
    (by rw [hwire, hpacketsWire, hkey, hmac, hctr, hseq]) hsegments
  rw [← hpayloads, List.map_map]
  exact hall

/-- A server with traffic keys, all of them zero. -/
def sampleSealing : SshState := { sshBoot with
  neg.link.outEncrypted := true
  neg.link.trafficKeysReady := true }

/-- A `USERAUTH_SUCCESS` that is sent at the second try. -/
def sampleTries : List SshTry :=
  [⟨sampleSealing, .userauthSuccess, 0⟩, ⟨sampleSealing, .userauthSuccess, 4⟩]

theorem sshCaptureEncrypted_tries_sample :
    let wire := sampleTries.flatMap (sshTryWire sampleGuessEnv)
    let s' := [wire.take 5, wire.drop 5].foldl
      (fun s data => sshCaptureEncrypted sampleGuessEnv data s) sshBoot
    s'.neg.link.encryptedRx = [] ∧ sshProcessed s'.trace = [(true, [52])] := by
  have hlen : (sampleTries.flatMap (sshTryWire sampleGuessEnv)).length = 48 := by decide +kernel
  have hpayloads : sampleTries.filterMap (sshTryPayload sampleGuessEnv) = [[52]] := by
    decide +kernel
  have htries : SshTries sampleGuessEnv sampleSealing.neg.link sampleTries := by
    refine ⟨.inl trivial, rfl, .inl trivial, ?_, trivial⟩
    exact (sshTry_failed (t := ⟨sampleSealing, .userauthSuccess, 0⟩) sampleGuessEnv (.inl trivial)
      (by rintro ⟨hrc, -⟩; cases hrc)).2.symm
  have h := sshCaptureEncrypted_tries sampleGuessEnv sampleGuessEnv sampleSealing.neg.link sampleTries
    sshBoot [(sampleTries.flatMap (sshTryWire sampleGuessEnv)).take 5,
      (sampleTries.flatMap (sshTryWire sampleGuessEnv)).drop 5] htries rfl rfl (by simp) (by
        simp only [List.mem_cons, List.not_mem_nil, or_false, forall_eq_or_imp, forall_eq,
          List.length_take, List.length_drop, hlen]
        omega)
  rw [hpayloads] at h
  exact h

end Orizon
