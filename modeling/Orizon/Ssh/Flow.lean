import Orizon.Lib.History
import Orizon.Ssh.Service

/-!
# Orizon.Ssh.Flow

The output of the channel over whole runs: what `CHANNEL_DATA` carries, and what
bounds it.

The server keeps the window and the packet size a client announces and reads
neither, and it does not handle `WINDOW_ADJUST`.  What bounds its output are its
own buffers: a chunk of `SSH_CHANNEL_DATA_CHUNK` bytes, and `ssh_channel_tx`,
which is sent from its start to its end before it is filled anew.
-/

namespace Orizon

/-! ## What was sent -/

/-- The `CHANNEL_DATA` bytes sent since the output was last filled anew, of the events
of a run, the newest first. -/
def sshOutputSent : List SshEvent → List UInt8
  | [] => []
  | .sent .channelData _ before :: older => before.channel.output.emit 960 (sshOutputSent older)
  | _ :: older => sshOutputSent older

/-- The event is not a `CHANNEL_DATA` of the server. -/
def SshEvent.NoData (e : SshEvent) : Prop := ∀ tx before, e ≠ .sent .channelData tx before

theorem sshOutputSent_noData {events trace : List SshEvent} (h : ∀ e ∈ events, e.NoData) :
    sshOutputSent (events ++ trace) = sshOutputSent trace := by
  induction events with
  | nil => rfl
  | cons e events ih =>
      have hrest := ih fun e he => h e (.tail _ he)
      have hhead := h e (.head _)
      rw [List.cons_append, ← hrest]
      cases e with
      | sent kind tx before =>
          cases kind with
          | channelData => exact absurd rfl (hhead tx before)
          | _ => rfl
      | _ => rfl

/-- The payload of a `CHANNEL_DATA` fits its buffer. -/
theorem sshChannelDataPayload_eq (ch : SshChannel) : sshChannelDataPayload ch =
    94 :: sshPutU32 ch.clientChannel ++ sshPutU32 (UInt32.ofNat (sshChannelChunk ch).length) ++
      sshChannelChunk ch := by
  have hchunk : (sshChannelChunk ch).length ≤ 960 := List.length_take_le _ _
  unfold sshChannelDataPayload sshPutString
  rw [if_neg]
  · rfl
  · rw [List.length_cons, length_sshPutU32]
    omega

/-! ## Moves -/

/-- What a move does to the output: it fills it, or a chunk of it was sent. -/
inductive SshOutputStep (s s' : SshState) : Prop
  | filled (events : List SshEvent) (htrace : s'.trace = events ++ s.trace)
      (hdata : ∀ e ∈ events, e.NoData)
      (hfill : Drain.Fills sshOutputMax s.neg.channel.output s'.neg.channel.output)
  | sent (tx : List UInt8) (htrace : s'.trace = .sent .channelData tx s.neg :: s.trace)
      (hsend : SshSendable s tx .channelData)
      (hchannel : s'.neg.channel = sshCommitData s.neg.channel)

variable {env : SshEnv} {s s' : SshState}

theorem SshOutputStep.quiet (htrace : s'.trace = s.trace)
    (hfill : Drain.Fills sshOutputMax s.neg.channel.output s'.neg.channel.output) :
    SshOutputStep s s' := .filled [] htrace (fun _ he => absurd he List.not_mem_nil) hfill

theorem SshOutputStep.event {e : SshEvent} (htrace : s'.trace = e :: s.trace) (he : e.NoData)
    (hfill : Drain.Fills sshOutputMax s.neg.channel.output s'.neg.channel.output) :
    SshOutputStep s s' := by
  refine .filled [e] htrace (fun x hx => ?_) hfill
  obtain rfl := List.mem_singleton.mp hx
  exact he

theorem Drain.fills_reset (ch : SshChannel) :
    Drain.Fills sshOutputMax ch.output ({} : SshChannel).output :=
  ⟨.inr rfl, fun _ => Nat.zero_le _⟩

theorem SshHandlerMove.outputStep (h : SshHandlerMove env s s') : SshOutputStep s s' := by
  cases h with
  | quiet h => exact .quiet h.trace h.output
  | kexinit => exact .quiet rfl (.refl _ _)
  | newkeys => exact .quiet rfl (.refl _ _)
  | kexdh payload =>
      obtain h | h := sshProcessKexdhInit_cases env payload s
      · exact .quiet h.trace (h.channel ▸ .refl _ _)
      · exact .event h.trace (by rintro _ _ ⟨⟩) (h.channel ▸ .refl _ _)
  | authFailure => exact .event rfl (by rintro _ _ ⟨⟩) (.refl _ _)
  | authSuccess => exact .event rfl (by rintro _ _ ⟨⟩) (.refl _ _)
  | shellOpened => exact .quiet rfl (.refl _ _)
  | shellClosed => exact .quiet rfl (.refl _ _)
  | command => exact .event rfl (by rintro _ _ ⟨⟩) (.refl _ _)
  | admin op =>
      have h := sshAdmin_effect env op s
      exact .event h.trace (by rintro _ _ ⟨⟩) (h.channel ▸ .refl _ _)

theorem sshCommitTx_outputStep {kind : SshTxKind} {tx : List UInt8} (h : SshSendable s tx kind) :
    SshOutputStep s (sshCommitTx env kind tx s) := by
  cases kind with
  | channelData => exact .sent tx rfl h rfl
  | _ => exact .event rfl (by rintro _ _ ⟨⟩) (.refl _ _)

theorem SshMove.outputStep (h : SshMove env s s') : SshOutputStep s s' := by
  cases h with
  | handler h => exact h.outputStep
  | server => exact .quiet rfl (.refl _ _)
  | packet => exact .event rfl (by rintro _ _ ⟨⟩) (.refl _ _)
  | openCtr => exact .quiet rfl (.refl _ _)
  | received data =>
      obtain ⟨banner, seen, len, h⟩ := sshReceived_frame data s
      rw [h]
      exact .event rfl (by rintro _ _ ⟨⟩) (.refl _ _)
  | hostkey h => exact .quiet h.trace (h.channel ▸ .refl _ _)
  | kexinitBuilt => exact .quiet rfl (.refl _ _)
  | sent kind tx _ h => exact sshCommitTx_outputStep h
  | loadConfig =>
      unfold sshLoadConfig
      split
      · exact .quiet rfl (.refl _ _)
      · exact .quiet rfl (.refl _ _)
  | reset h => exact .event h.trace (by rintro _ _ ⟨⟩) (h.neg ▸ Drain.fills_reset _)
  | connect h =>
      refine .filled [.reset, .connect] h.trace (fun e he => ?_) (h.neg ▸ Drain.fills_reset _)
      obtain rfl | he := List.mem_cons.mp he
      · rintro _ _ ⟨⟩
      · obtain rfl := List.mem_singleton.mp he
        rintro _ _ ⟨⟩

/-! ## Runs -/

/-- A `CHANNEL_DATA` of the server: the packet carries between 1 and 960 bytes of the
output, and all that went out since the output was last filled anew is its start, of
no more than 65535 bytes. -/
structure SshDataFits (tx : List UInt8) (before : SshNegotiation) (older : List SshEvent) :
    Prop where
  packet : SshSealable before.link tx (94 :: sshPutU32 before.channel.clientChannel ++
    sshPutU32 (UInt32.ofNat (sshChannelChunk before.channel).length) ++
      sshChannelChunk before.channel)
  nonempty : sshChannelChunk before.channel ≠ []
  chunk : (sshChannelChunk before.channel).length ≤ 960
  inOrder : sshOutputSent (.sent .channelData tx before :: older) = before.channel.channelTx.take
    (before.channel.channelTxOff + (sshChannelChunk before.channel).length)
  bounded : (sshOutputSent (.sent .channelData tx before :: older)).length ≤ 65535

/-- The invariant: what was sent of the output, and every chunk that was sent fits. -/
structure SshOutputInv (s : SshState) : Prop where
  off_le : s.neg.channel.output.off ≤ s.neg.channel.output.buffer.length
  fits : s.neg.channel.output.buffer.length ≤ sshOutputMax
  sent : s.neg.channel.output.Sent (sshOutputSent s.trace)
  chunks : History (fun e older => ∀ tx before, e = .sent .channelData tx before →
    SshDataFits tx before older) s.trace

/-- After a chunk was sent the output goes on behind it, or it is empty. -/
theorem output_sshCommitData {ch : SshChannel}
    (h : ch.channelLastChunkLen = (sshChannelChunk ch).length) :
    (sshCommitData ch).output = ⟨ch.channelTx, ch.channelTxOff + (sshChannelChunk ch).length⟩ ∨
      (sshCommitData ch).output = ⟨[], 0⟩ := by
  unfold sshCommitData
  split
  · rw [h]
    exact .inl rfl
  · exact .inr rfl

theorem SshOutputInv.chunkFits {tx : List UInt8} (h : SshOutputInv s)
    (hsend : SshSendable s tx .channelData) : SshDataFits tx s.neg s.trace := by
  obtain ⟨hpacket, hmore, -⟩ := hsend
  have hsent : sshOutputSent (.sent .channelData tx s.neg :: s.trace) =
      s.neg.channel.channelTx.take
        (s.neg.channel.channelTxOff + (sshChannelChunk s.neg.channel).length) := h.sent.emit_eq
  refine ⟨?_, ?_, List.length_take_le _ _, hsent, ?_⟩
  · rw [← sshChannelDataPayload_eq]
    exact hpacket
  · unfold sshChannelChunk
    rw [ne_eq, List.take_eq_nil_iff, List.drop_eq_nil_iff]
    omega
  · rw [hsent]
    exact Nat.le_trans (List.length_take_le' _ _) h.fits

theorem SshOutputInv.step (h : SshOutputInv s) (hstep : SshOutputStep s s') : SshOutputInv s' := by
  cases hstep with
  | filled events htrace hdata hfill =>
      refine ⟨hfill.off_le h.off_le, hfill.fits h.fits, ?_, ?_⟩
      · rw [htrace, sshOutputSent_noData hdata]
        exact h.sent.fills h.off_le hfill
      · rw [htrace]
        refine .append (fun new e rest hsplit tx before he => ?_) h.chunks
        exact absurd he (hdata e (by simp [hsplit]) tx before)
  | sent tx htrace hsend hchannel =>
      have hfit := h.chunkFits hsend
      have hchunks : History (fun e older => ∀ tx before, e = .sent .channelData tx before →
          SshDataFits tx before older) s'.trace := by
        rw [htrace]
        refine ⟨fun tx' before he => ?_, h.chunks⟩
        cases he
        exact hfit
      obtain hmore | hdone := output_sshCommitData hsend.2.2
      · refine ⟨?_, ?_, ?_, hchunks⟩
        · rw [hchannel, hmore]
          exact Drain.off_chunk_le h.off_le
        · rw [hchannel, hmore]
          exact h.fits
        · rw [hchannel, hmore, htrace]
          exact .inr hfit.inOrder
      · refine ⟨?_, ?_, ?_, hchunks⟩
        · rw [hchannel, hdone]
          exact Nat.le_refl _
        · rw [hchannel, hdone]
          exact Nat.zero_le _
        · rw [hchannel, hdone]
          exact .inl rfl

theorem sshRun_outputInv (env : SshEnv) (calls : List SshCall) : SshOutputInv (sshRun env calls) := by
  refine sshRun_invariant env SshOutputInv ?_ (fun s s' h hmove => h.step hmove.outputStep) calls
  exact ⟨Nat.le_refl _, Nat.zero_le _, .inl rfl, trivial⟩

/-- Whatever window and packet size the client announced, and whatever it sends, a
`CHANNEL_DATA` carries between 1 and 960 bytes, continues what went out of the output
before it, and no more than 65535 bytes go out before the output was empty. -/
theorem sshRun_dataFits (env : SshEnv) (calls : List SshCall) :
    History (fun e older => ∀ tx before, e = .sent .channelData tx before → SshDataFits tx before older)
      (sshRun env calls).trace :=
  (sshRun_outputInv env calls).chunks

end Orizon
