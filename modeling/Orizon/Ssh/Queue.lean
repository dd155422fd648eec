import Orizon.Lib.Run
import Orizon.Ssh.Flow

/-!
# Orizon.Ssh.Queue

The output of the channel as a queue: texts go in at its end, `CHANNEL_DATA`
takes bytes from its front.

What is unsent is the part of `ssh_channel_tx` from the offset on.  A send takes
the front of it and a failed one nothing, so every byte goes out once and in
order.  A text is appended behind the bytes that were sent already, which leave
the buffer only when all of it has gone; so a text is cut although what is unsent
and the text fit the buffer exactly if it is queued while output is pending and
passes the end of the buffer from there (`fifoStep_iff`).
-/

namespace Orizon

/-! ## The queue -/

/-- A text queued, or a `CHANNEL_DATA` that was sent or failed. -/
inductive SshOutputOp
  | queue (text : List UInt8)
  | sent
  | failed

/-- What a queue of at most `sshOutputMax` bytes may do: `q` is what is unsent,
`out` what goes out.  A text is cut only if the queue cannot hold it. -/
def FifoStep (q : List UInt8) (op : SshOutputOp) (out q' : List UInt8) : Prop :=
  match op with
  | .queue text => out = [] ∧ ∃ part, part <+: cstringBytes text ∧ q' = q ++ part ∧
      (part = cstringBytes text ∨ sshOutputMax < q.length + (cstringBytes text).length)
  | .sent => out ++ q' = q ∧ (q ≠ [] → out ≠ [])
  | .failed => out = [] ∧ q' = q

/-! ## The channel -/

/-- The channel after `ssh_build_channel_data`. -/
def sshDataBuilt (ch : SshChannel) : SshChannel :=
  if ch.channelDataPending = false ∨ ch.channelTx.length = 0 ∨
      ch.channelTxOff ≥ ch.channelTx.length then { ch with channelLastChunkLen := 0 }
  else { ch with channelLastChunkLen := (sshChannelChunk ch).length }

/-- The bytes of the `CHANNEL_DATA` that is due. -/
def sshDataDue (ch : SshChannel) : List UInt8 :=
  if ch.channelDataPending = false ∨ ch.channelTx.length = 0 ∨
      ch.channelTxOff ≥ ch.channelTx.length then []
  else sshChannelChunk ch

/-- The channel after a text was queued or a `CHANNEL_DATA` was built, and sent or
not; without bytes nothing is sent. -/
def sshOutputNext (ch : SshChannel) : SshOutputOp → SshChannel
  | .queue text => sshQueueChannelText text ch
  | .sent => if sshDataDue ch = [] then sshDataBuilt ch else sshCommitData (sshDataBuilt ch)
  | .failed => sshDataBuilt ch

/-- The bytes a step sends. -/
def sshOutputOut (ch : SshChannel) : SshOutputOp → List UInt8
  | .sent => sshDataDue ch
  | _ => []

/-- What is queued and not sent. -/
def sshUnsent (ch : SshChannel) : List UInt8 :=
  if ch.channelDataPending then ch.channelTx.drop ch.channelTxOff else []

/-- The part of a text that `ssh_queue_channel_text` takes. -/
def sshTextTaken (ch : SshChannel) (text : List UInt8) : List UInt8 :=
  (cstringBytes text).take
    (sshOutputMax - if ch.channelDataPending then ch.channelTx.length else 0)

/-- The bytes a step takes in. -/
def sshOutputIn (ch : SshChannel) : SshOutputOp → List UInt8
  | .queue text => sshTextTaken ch text
  | _ => []

/-- The condition on a text and the channel before it: nothing is pending, the text
ends within the buffer, or not even what is unsent and the text fit it. -/
def TextFits (ch : SshChannel) : SshOutputOp → Prop
  | .queue text => ch.channelDataPending = false ∨
      ch.channelTx.length + (cstringBytes text).length ≤ sshOutputMax ∨
      sshOutputMax < (sshUnsent ch).length + (cstringBytes text).length
  | _ => True

section Channel

variable {ch : SshChannel}

/-- The offset and the end of the output lie in the buffer. -/
structure SshOutputOk (ch : SshChannel) : Prop where
  off_le : ch.channelTxOff ≤ ch.channelTx.length
  fits : ch.channelTx.length ≤ sshOutputMax

theorem sshQueueChannelText_idle (hidle : ch.channelDataPending = false) (text : List UInt8) :
    sshQueueChannelText text ch = { ch with
      channelTx := (cstringBytes text).take sshOutputMax
      channelTxOff := 0
      channelLastChunkLen := 0
      channelDataPending := true } := by
  have hnot : ¬ ch.channelDataPending = true := by
    rw [hidle]
    decide
  unfold sshQueueChannelText
  dsimp only
  rw [if_neg hnot, if_neg (by decide : ¬ 0 ≥ 65535), if_neg hnot]
  rfl

theorem sshQueueChannelText_eq (h : SshOutputOk ch) (text : List UInt8) :
    sshUnsent (sshQueueChannelText text ch) = sshUnsent ch ++ sshTextTaken ch text ∧
      SshOutputOk (sshQueueChannelText text ch) := by
  have hoff := h.off_le
  have hfits := h.fits
  by_cases hpending : ch.channelDataPending = true
  swap
  · rw [sshQueueChannelText_idle (by simpa using hpending)]
    unfold sshUnsent sshTextTaken
    dsimp only
    rw [if_pos rfl, if_neg hpending, if_neg hpending, List.nil_append]
    refine ⟨rfl, ⟨Nat.zero_le _, ?_⟩⟩
    simp only [List.length_take]
    omega
  · unfold sshOutputMax at hfits
    unfold sshQueueChannelText sshTextTaken sshUnsent sshOutputMax
    dsimp only
    simp only [if_pos hpending]
    by_cases hfull : ch.channelTx.length ≥ 65535
    · rw [if_pos hfull, if_pos hpending, Nat.sub_eq_zero_of_le hfull, List.take_zero,
        List.append_nil]
      exact ⟨rfl, h⟩
    · rw [if_neg hfull]
      dsimp only
      rw [if_pos rfl, List.take_length, List.drop_append_of_le_length hoff]
      refine ⟨rfl, ⟨?_, ?_⟩⟩
      · simp only [List.length_append]
        omega
      · simp only [List.length_append, List.length_take, sshOutputMax]
        omega

/-- What is due is the front of what is unsent, and not empty if that is not. -/
theorem sshDataDue_eq (ch : SshChannel) : sshDataDue ch = (sshUnsent ch).take 960 := by
  unfold sshDataDue sshUnsent sshChannelChunk
  cases hpending : ch.channelDataPending with
  | false => simp
  | true =>
      by_cases hend : ch.channelTx.length = 0 ∨ ch.channelTxOff ≥ ch.channelTx.length
      · rw [if_pos (Or.inr hend), if_pos rfl, List.drop_of_length_le (by omega), List.take_nil]
      · rw [if_neg (by simpa using hend), if_pos rfl]

theorem sshDataBuilt_same (h : SshOutputOk ch) :
    sshUnsent (sshDataBuilt ch) = sshUnsent ch ∧ SshOutputOk (sshDataBuilt ch) := by
  unfold sshDataBuilt
  split
  · exact ⟨rfl, h.off_le, h.fits⟩
  · exact ⟨rfl, h.off_le, h.fits⟩

theorem sshCommitData_eq (h : SshOutputOk ch) (hdue : sshDataDue ch ≠ []) :
    sshDataDue ch ++ sshUnsent (sshCommitData (sshDataBuilt ch)) = sshUnsent ch ∧
      SshOutputOk (sshCommitData (sshDataBuilt ch)) := by
  have hsome : ¬ (ch.channelDataPending = false ∨ ch.channelTx.length = 0 ∨
      ch.channelTxOff ≥ ch.channelTx.length) := by
    intro hnone
    unfold sshDataDue at hdue
    exact hdue (if_pos hnone)
  have hlen : (sshChannelChunk ch).length = min 960 (ch.channelTx.length - ch.channelTxOff) := by
    unfold sshChannelChunk
    rw [List.length_take, List.length_drop]
  have hbuilt : sshDataBuilt ch = { ch with channelLastChunkLen := (sshChannelChunk ch).length } :=
    if_neg hsome
  have hdueEq : sshDataDue ch = sshChannelChunk ch := if_neg hsome
  simp only [not_or, Bool.not_eq_false, Nat.not_le] at hsome
  obtain ⟨hpending, -, hoff⟩ := hsome
  have hunsent : sshUnsent ch = ch.channelTx.drop ch.channelTxOff := if_pos hpending
  rw [hbuilt, hdueEq, hunsent]
  unfold sshCommitData
  dsimp only
  by_cases hmore : (sshChannelChunk ch).length > 0 ∧
      ch.channelTxOff + (sshChannelChunk ch).length < ch.channelTx.length
  · rw [if_pos hmore]
    refine ⟨?_, ⟨Nat.le_of_lt hmore.2, h.fits⟩⟩
    unfold sshUnsent
    dsimp only
    rw [if_pos hpending, ← List.drop_drop]
    have hchunk : sshChannelChunk ch = (ch.channelTx.drop ch.channelTxOff).take
        (sshChannelChunk ch).length := by
      unfold sshChannelChunk
      rw [List.length_take, List.take_eq_take_iff]
      omega
    nth_rewrite 1 [hchunk]
    exact List.take_append_drop _ _
  · rw [if_neg hmore]
    refine ⟨?_, ⟨le_rfl, Nat.zero_le _⟩⟩
    have hall : sshChannelChunk ch = ch.channelTx.drop ch.channelTxOff := by
      unfold sshChannelChunk
      refine List.take_of_length_le ?_
      rw [List.length_drop]
      omega
    rw [hall]
    exact List.append_nil _

theorem sshOutputNext_more (hpending : ch.channelDataPending = true)
    (hmore : ch.channelTxOff + 960 < ch.channelTx.length) :
    sshOutputNext ch .sent =
      { ch with channelTxOff := ch.channelTxOff + 960, channelLastChunkLen := 0 } := by
  have hsome : ¬ (ch.channelDataPending = false ∨ ch.channelTx.length = 0 ∨
      ch.channelTxOff ≥ ch.channelTx.length) := by
    rintro (hnone | hnone | hnone)
    · rw [hpending] at hnone
      cases hnone
    · omega
    · omega
  have hlen : (sshChannelChunk ch).length = 960 := by
    unfold sshChannelChunk
    rw [List.length_take, List.length_drop]
    omega
  have hdue : sshDataDue ch ≠ [] := by
    unfold sshDataDue
    rw [if_neg hsome, ← List.length_pos_iff, hlen]
    decide
  have hbuilt : sshDataBuilt ch = { ch with channelLastChunkLen := 960 } := by
    rw [← hlen]
    exact if_neg hsome
  dsimp only [sshOutputNext]
  rw [if_neg hdue, hbuilt]
  exact if_pos (show 960 > 0 ∧ ch.channelTxOff + 960 < ch.channelTx.length from
    ⟨by decide, hmore⟩)

/-- Every step keeps the output in its buffer, takes bytes in at the end and
sends them from the front. -/
theorem sshOutputNext_balance (h : SshOutputOk ch) (op : SshOutputOp) :
    sshUnsent ch ++ sshOutputIn ch op = sshOutputOut ch op ++ sshUnsent (sshOutputNext ch op) ∧
      SshOutputOk (sshOutputNext ch op) := by
  cases op with
  | queue text =>
      obtain ⟨heq, hok⟩ := sshQueueChannelText_eq h text
      exact ⟨heq.symm, hok⟩
  | failed =>
      obtain ⟨heq, hok⟩ := sshDataBuilt_same h
      refine ⟨?_, hok⟩
      change sshUnsent ch ++ [] = [] ++ sshUnsent (sshDataBuilt ch)
      rw [heq, List.append_nil, List.nil_append]
  | sent =>
      dsimp only [sshOutputIn, sshOutputOut, sshOutputNext]
      rw [List.append_nil]
      by_cases hdue : sshDataDue ch = []
      · obtain ⟨heq, hok⟩ := sshDataBuilt_same h
        rw [if_pos hdue, hdue, heq]
        exact ⟨rfl, hok⟩
      · obtain ⟨heq, hok⟩ := sshCommitData_eq h hdue
        rw [if_neg hdue]
        exact ⟨heq.symm, hok⟩

/-- A step of the channel is one of the queue exactly if the text fits. -/
theorem fifoStep_iff (h : SshOutputOk ch) (op : SshOutputOp) :
    FifoStep (sshUnsent ch) op (sshOutputOut ch op) (sshUnsent (sshOutputNext ch op)) ↔
      TextFits ch op := by
  obtain ⟨hbalance, -⟩ := sshOutputNext_balance h op
  cases op with
  | failed =>
      refine iff_of_true ⟨rfl, ?_⟩ trivial
      exact (sshDataBuilt_same h).1
  | sent =>
      refine iff_of_true ⟨?_, fun hne => ?_⟩ trivial
      · rw [← hbalance]
        exact List.append_nil _
      · change sshDataDue ch ≠ []
        rw [sshDataDue_eq, ne_eq, List.take_eq_nil_iff, not_or]
        exact ⟨by decide, hne⟩
  | queue text =>
      dsimp only [FifoStep, TextFits, sshOutputOut, sshOutputNext]
      obtain ⟨heq, -⟩ := sshQueueChannelText_eq h text
      have hpart : sshTextTaken ch text = cstringBytes text ↔ (cstringBytes text).length ≤
          sshOutputMax - if ch.channelDataPending then ch.channelTx.length else 0 :=
        List.take_eq_self_iff _
      have hfits := h.fits
      rw [heq]
      constructor
      · rintro ⟨-, part, -, hsame, hwhole | hlarge⟩
        · obtain rfl := List.append_cancel_left hsame
          rw [hpart] at hwhole
          cases hpending : ch.channelDataPending with
          | false => exact Or.inl rfl
          | true =>
              rw [hpending, if_pos rfl] at hwhole
              exact Or.inr (Or.inl (by omega))
        · exact Or.inr (Or.inr hlarge)
      · intro hok
        refine ⟨rfl, sshTextTaken ch text, List.take_prefix _ _, rfl, ?_⟩
        rcases hok with hidle | hroom | hlarge
        · rw [hpart]
          by_cases hlong : (cstringBytes text).length ≤ sshOutputMax
          · refine Or.inl ?_
            rw [hidle, if_neg (by decide)]
            omega
          · exact Or.inr (by omega)
        · refine Or.inl ?_
          rw [hpart]
          split <;> omega
        · exact Or.inr hlarge

end Channel

/-! ## Polls -/

section Polls

variable (env : SshEnv) (s : SshState)

end Polls

/-! ## Runs -/

theorem sshOutputOk_open (ch : SshChannel) : SshOutputOk (sshOpenSession ch) :=
  ⟨le_rfl, Nat.zero_le _⟩

/-- **The output in order**: on a newly opened channel, however texts are queued
and sends succeed or fail, the bytes sent and those unsent are the bytes taken in,
in order.  Every step is one of the queue, which cuts a text only if what is
unsent and the text pass its capacity, exactly if every text queued while output
is pending ends within the buffer or does not fit the queue. -/
theorem sshOutput_run (ch : SshChannel) (ops : List SshOutputOp) :
    outputs sshOutputNext sshOutputOut (sshOpenSession ch) ops ++
        sshUnsent (ops.foldl sshOutputNext (sshOpenSession ch)) =
      outputs sshOutputNext sshOutputIn (sshOpenSession ch) ops ∧
    (AllSteps sshOutputNext (fun ch op => FifoStep (sshUnsent ch) op (sshOutputOut ch op)
        (sshUnsent (sshOutputNext ch op))) (sshOpenSession ch) ops ↔
      AllSteps sshOutputNext TextFits (sshOpenSession ch) ops) := by
  have hok := sshOutputOk_open ch
  constructor
  · have hsteps : AllSteps sshOutputNext (fun ch op => sshUnsent ch ++ sshOutputIn ch op =
        sshOutputOut ch op ++ sshUnsent (sshOutputNext ch op)) (sshOpenSession ch) ops :=
      allSteps_imp (fun _ op h _ => sshOutputNext_balance h op) hok (allSteps_of_forall fun _ _ => trivial)
    exact (outputs_balance hsteps).symm
  · exact allSteps_iff (fun _ op h => (sshOutputNext_balance h op).2) (fun _ op h => fifoStep_iff h op) hok

/-- On a new channel, after a text that fills the buffer and a send, a byte does
not fit. -/
theorem not_textFits_full {text : List UInt8} (htext : (cstringBytes text).length = sshOutputMax) :
    ¬ TextFits (sshOutputNext (sshOutputNext (sshOpenSession {}) (.queue text)) .sent)
      (.queue [0x42]) := by
  obtain ⟨ch, hch, hpending, htx, hoff⟩ : ∃ ch, sshOutputNext (sshOpenSession {}) (.queue text) = ch ∧
      ch.channelDataPending = true ∧ ch.channelTx.length = sshOutputMax ∧ ch.channelTxOff = 0 := by
    refine ⟨sshQueueChannelText text (sshOpenSession {}), rfl, ?_, ?_, ?_⟩
    · rw [sshQueueChannelText_idle rfl]
    · rw [sshQueueChannelText_idle rfl]
      dsimp only
      rw [List.length_take, htext, Nat.min_self]
    · rw [sshQueueChannelText_idle rfl]
  have hmore : ch.channelTxOff + 960 < ch.channelTx.length := by
    rw [htx, hoff]
    decide
  have hone : (cstringBytes [0x42]).length = 1 := by decide
  rw [hch, sshOutputNext_more hpending hmore]
  unfold TextFits sshUnsent
  dsimp only
  rw [hpending, if_pos rfl, hone, List.length_drop, htx, hoff]
  decide

/-- A text that fills the buffer, a send, and one more byte: the byte is lost,
although 960 bytes of the buffer have gone out. -/
theorem sshOutput_run_fails : ¬ ∀ (ch : SshChannel) (ops : List SshOutputOp),
    AllSteps sshOutputNext (fun ch op => FifoStep (sshUnsent ch) op (sshOutputOut ch op)
      (sshUnsent (sshOutputNext ch op))) (sshOpenSession ch) ops := by
  intro h
  have htext : ∀ n, (cstringBytes (List.replicate n 0x41)).length = n := by
    intro n
    induction n with
    | zero => rfl
    | succ n ih =>
        rw [List.replicate_succ]
        exact congrArg Nat.succ ih
  obtain ⟨-, -, hlast, -⟩ := h {} [.queue (List.replicate sshOutputMax 0x41), .sent, .queue [0x42]]
  have hok₁ := (sshOutputNext_balance (sshOutputOk_open {})
    (.queue (List.replicate sshOutputMax 0x41))).2
  rw [fifoStep_iff (sshOutputNext_balance hok₁ .sent).2] at hlast
  exact not_textFits_full (htext sshOutputMax) hlast

end Orizon
