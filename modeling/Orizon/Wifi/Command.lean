import Orizon.Lib.Run
import Orizon.Wifi.Rx

/-!
# Orizon.Wifi.Command

Commands to the firmware (`kernel/drivers/wifi.c`): `wifi_stage_command_payload` puts one on
the command ring, `wifi_command_probe` rings the doorbell and polls, and the arm steps of the
binding, of the keys and of transmission look whether the firmware answered.

The poll ends with the first packet it consumes, whatever that is, and a sequence number of 0
is never taken for an answer.  So an arm step sees its answer when the answer is the first
completion on the ring and the command is not at index 0 (`wifiArmStep_ack`); otherwise it
misses an answer that does arrive (`wifiArmStep_missed`).
-/

namespace Orizon

/-! ## The machine -/

/-- A buffer whose physical address the driver asks for. -/
inductive WifiDma
  | cmdBcTbl
  | cmdBuffer (idx : Nat)

/-- What lies below the commands: the addresses of `wifi_phys_addr`, and the setup of
`wifi_prepare_context_info` and `wifi_prepare_host_queues`, which only run while the context
or the queues are not ready. -/
structure WifiMachine where
  physAddr : WifiDma → UInt64
  prepareContextInfo : WifiDriver → Bool × WifiDriver
  prepareHostQueues : WifiDriver → Bool × WifiDriver

/-! ## Staging -/

/-- `WIFI_CMD_QUEUE_ENTRIES`. -/
def wifiCmdQueueEntries : Nat := 32

/-- `sizeof(wifi_cmd_header_wide_t)`. -/
def wifiCmdHeaderBytes : Nat := 8

/-- `WIFI_CMD_BUFFER_BYTES`. -/
def wifiCmdBufferBytes : Nat := 2048

/-- The index of the next command on the ring. -/
def WifiCmd.index (c : WifiCmd) : Nat := c.writePtr % wifiCmdQueueEntries

/-- The sequence number of the next command: the command queue is queue 0. -/
def WifiCmd.nextSequence (c : WifiCmd) : UInt16 := UInt16.ofNat (c.index &&& 0xff)

/-- `cmd_bc_phys`, asked for where it is missing. -/
def WifiCmd.resolved (m : WifiMachine) (c : WifiCmd) : WifiCmd :=
  if c.bcPhys = 0 then { c with bcPhys := m.physAddr .cmdBcTbl } else c

/-- The command is on the ring. -/
def WifiCmd.staged (c : WifiCmd) (cmdId groupId : UInt8) : WifiCmd :=
  { c with
    schedulerId := cmdId
    schedulerGroup := groupId
    schedulerSequence := c.nextSequence
    schedulerIndex := c.index
    ready := true
    failed := false
    timeout := false }

/-- `wifi_stage_command_payload`; `false` is -1. -/
def wifiStageCommandPayload (m : WifiMachine) (d : WifiDriver) (cmdId groupId : UInt8) (payloadLen : Nat) :
    Bool × WifiDriver :=
  let r := if d.cmd.contextReady then (true, d) else m.prepareContextInfo d
  let d := r.2
  if !r.1 then (false, d)
  else if !d.cmd.contextReady || !d.cmd.queuesReady then (false, d)
  else if d.cmd.tfdPhys = 0 then (false, d)
  else
    let d := { d with cmd := d.cmd.resolved m }
    if d.cmd.bcPhys = 0 then (false, d)
    else if payloadLen = 0 || wifiCmdBufferBytes < wifiCmdHeaderBytes + payloadLen then (false, d)
    else if m.physAddr (.cmdBuffer d.cmd.index) = 0 then (false, d)
    else (true, { d with cmd := d.cmd.staged cmdId groupId })

/-- `wifi_prepare_scheduler_command`. -/
def wifiPrepareSchedulerCommand (m : WifiMachine) (d : WifiDriver) : Bool × WifiDriver :=
  let r := if d.cmd.contextReady then (true, d) else m.prepareContextInfo d
  let d := r.2
  if !r.1 then (false, d)
  else if !d.cmd.contextReady || !d.cmd.queuesReady then (false, d)
  else
    let d := { d with cmd := d.cmd.resolved m }
    if d.cmd.bcPhys = 0 then (false, d)
    else if d.cmd.tfdPhys = 0 then (false, d)
    else wifiStageCommandPayload m d 0x1d 0x01 24

/-! ## The doorbell -/

/-- A round of the poll: what the firmware posts before it, and whether `CSR_INT` then shows
a hardware or software error. -/
structure WifiRound where
  posts : List WifiCompletion
  error : Bool

/-- What the firmware posts in the window. -/
def wifiArrivals (w : List WifiRound) : List WifiCompletion := w.flatMap WifiRound.posts

/-- `wifi_command_mark_failure`. -/
def wifiCommandMarkFailure (d : WifiDriver) : WifiDriver :=
  { d with cmd := { d.cmd with ready := false, sent := false, failed := true } }

/-- The polling loop of `wifi_command_probe`.  Where it ends before the window does, what is
posted later waits on the ring. -/
def wifiCommandPoll (packetsBefore : Nat) : List WifiRound → WifiDriver → Bool × WifiDriver
  | [], d => (false, d)
  | round :: w, d =>
      let d := d.post round.posts
      if round.error then (false, (wifiCommandMarkFailure d).post (wifiArrivals w))
      else
        let r := wifiRxParseOne d
        if 0 < r.1 && packetsBefore < r.2.rx.packets then
          (true, { r.2 with cmd := { r.2.cmd with responseSeen := true } }.post (wifiArrivals w))
        else wifiCommandPoll packetsBefore w r.2

/-- The command goes out. -/
def WifiCmd.rung (c : WifiCmd) : WifiCmd :=
  { c with
    responseSeen := false
    timeout := false
    writePtr := (c.schedulerIndex + 1) % wifiCmdQueueEntries
    sent := true
    failed := false }

/-- `wifi_command_probe(1, ..)`; `false` is -1. -/
def wifiCommandProbe (m : WifiMachine) (d : WifiDriver) (w : List WifiRound) : Bool × WifiDriver :=
  let r := if d.cmd.ready then (true, d) else wifiPrepareSchedulerCommand m d
  if !d.wifi.present then (false, d.post (wifiArrivals w))
  else if !r.1 then (false, r.2.post (wifiArrivals w))
  else
    let d := r.2
    if !d.cmd.contextArmed || !d.cmd.ready || !d.rx.pathReady then
      (false, (wifiCommandMarkFailure d).post (wifiArrivals w))
    else
      let r := wifiCommandPoll d.rx.packets w { d with cmd := d.cmd.rung }
      let d := r.2
      let d := if !r.1 && !d.cmd.failed then { d with cmd := { d.cmd with timeout := true, failed := true } }
        else d
      (!d.cmd.failed, d)

/-! ## The arm steps -/

/-- The last packet answers the command that went out. -/
def wifiResponseMatches (d : WifiDriver) (cmdId groupId : UInt8) : Bool :=
  d.cmd.responseSeen && !d.cmd.failed && d.rx.lastCmd = cmdId && d.rx.lastGroup = groupId &&
    d.rx.lastSequence = d.cmd.schedulerSequence && d.rx.lastSequence ≠ 0

/-- `wifi_bind_response_matches`. -/
def wifiBindResponseMatches (d : WifiDriver) (cmdId groupId : UInt8) :
    Bool := wifiResponseMatches d cmdId groupId

/-- `wifi_key_response_matches`. -/
def wifiKeyResponseMatches (d : WifiDriver) : Bool := wifiResponseMatches d 0x18 0x05

/-- `wifi_txcmd_response_matches`. -/
def wifiTxcmdResponseMatches (d : WifiDriver) : Bool := wifiResponseMatches d 0x1c 0x00

/-- `WIFI_BIND_STEP_`. -/
inductive WifiBindStep
  | mac
  | link
  | sta
  deriving DecidableEq

/-- `wifi_bind_mark_failure`. -/
def WifiBind.markFailure (b : WifiBind) :
    WifiBind := { b with ready := false, failed := true, armed := false }

/-- The binding fields of the driver are written. -/
def WifiDriver.bind (d : WifiDriver) (f : WifiBind → WifiBind) : WifiDriver :=
  { d with wifi := { d.wifi with bind := f d.wifi.bind } }

/-- The step is acknowledged. -/
def WifiBind.acked (b : WifiBind) (step : WifiBindStep) : WifiBind :=
  { b with
    sent := true
    responseSeen := true
    failed := false
    macResponseSeen := b.macResponseSeen || step = .mac
    linkResponseSeen := b.linkResponseSeen || step = .link
    staResponseSeen := b.staResponseSeen || step = .sta }

/-- `wifi_bind_arm_one`; `true` is `ack=yes`. -/
def wifiBindArmOne (m : WifiMachine) (d : WifiDriver) (step : WifiBindStep) (cmdId groupId : UInt8)
    (commandLen : Nat) (w : List WifiRound) : Bool × WifiDriver :=
  if commandLen ≤ wifiCmdHeaderBytes then (false, (d.bind WifiBind.markFailure).post (wifiArrivals w))
  else
    let r := wifiStageCommandPayload m d cmdId groupId (commandLen - wifiCmdHeaderBytes)
    if !r.1 then (false, (r.2.bind WifiBind.markFailure).post (wifiArrivals w))
    else
      let d := r.2.bind fun b => { b with armed := true, timeout := false }
      let d := (wifiCommandProbe m d w).2
      if wifiBindResponseMatches d cmdId groupId then (true, d.bind fun b => b.acked step)
      else
        (false, d.bind fun b =>
          { b with sent := d.cmd.sent, timeout := d.cmd.timeout }.markFailure)

/-- The flags of the keys are written, and what follows from them. -/
def wifiKeyInstalled (d : WifiDriver) : WifiDriver :=
  let wpa := if d.keyPlan.isGroup then { d.wifi.wpa with gtkKeyInstalled := true }
    else { d.wifi.wpa with keyInstalled := true }
  { d with wifi := wifiConnectRefreshAssociationState { d.wifi with wpa := wpa } }

/-- The checks of `wifi_key_arm_plan`. -/
def wifiKeyArmable (d : WifiDriver) : Bool :=
  (if d.keyPlan.isGroup then d.wifi.wpa.keyInstalled else d.wifi.wpa.m2TxAcked) && d.cmd.contextArmed &&
    d.rx.pathReady && d.keyPlan.ready && wifiCmdHeaderBytes < d.keyPlan.commandLen

/-- `wifi_key_arm_plan`; `true` is `ack=yes`. -/
def wifiKeyArmPlan (m : WifiMachine) (d : WifiDriver) (w : List WifiRound) : Bool × WifiDriver :=
  if !wifiKeyArmable d then (false, d.post (wifiArrivals w))
  else
    let r := wifiStageCommandPayload m d 0x18 0x05 (d.keyPlan.commandLen - wifiCmdHeaderBytes)
    if !r.1 then (false, r.2.post (wifiArrivals w))
    else
      let d := (wifiCommandProbe m r.2 w).2
      if wifiKeyResponseMatches d then (true, wifiKeyInstalled d) else (false, d)

/-- The flag of the frame that went out is written, and what follows from it. -/
def wifiTxcmdAcked (d : WifiDriver) : WifiDriver :=
  let s := d.wifi
  let s := match d.txPlan.kind with
    | .auth => { s with connect := { s.connect with authTxAcked := true } }
    | .assoc => { s with connect := { s.connect with assocTxAcked := true } }
    | .eapolM2 => { s with wpa := { s.wpa with m2TxAcked := true } }
    | .eapolM4 => { s with wpa := { s.wpa with m4TxAcked := true } }
    | .data => { s with ccmp := { s.ccmp with txAcked := true } }
  { d with wifi := wifiConnectRefreshAssociationState s }

/-- The checks of `wifi_txcmd_arm_plan`. -/
def wifiTxcmdArmable (d : WifiDriver) : Bool :=
  d.wifi.bind.staResponseSeen && d.cmd.contextArmed && d.rx.pathReady && d.txPlan.ready &&
    wifiCmdHeaderBytes < d.txPlan.commandLen

/-- `wifi_txcmd_arm_plan`; `true` is `ack=yes`. -/
def wifiTxcmdArmPlan (m : WifiMachine) (d : WifiDriver) (w : List WifiRound) : Bool × WifiDriver :=
  if !wifiTxcmdArmable d then (false, d.post (wifiArrivals w))
  else
    let r := wifiStageCommandPayload m d 0x1c 0x00 (d.txPlan.commandLen - wifiCmdHeaderBytes)
    if !r.1 then (false, r.2.post (wifiArrivals w))
    else
      let d := (wifiCommandProbe m r.2 w).2
      if wifiTxcmdResponseMatches d then (true, wifiTxcmdAcked d) else (false, d)

/-- `wifi_txcmd_header_len`; 0 where the frame is shorter than its header. -/
def wifiTxcmdHeaderLen (frame : List UInt8) : Nat :=
  let fc := wifiReadLe16 frame 0
  let hdrLen := if wifiFcType fc = wifiTypeData then wifi80211DataHeaderLen fc (wifiFcSubtype fc)
    else wifiMgmtHeaderBytes
  if frame.length < wifiMgmtHeaderBytes || frame.length < hdrLen then 0 else hdrLen

/-- `wifi_txcmd_build_plan`; the TX_CMD header is 28 bytes long. -/
def wifiTxcmdBuildPlan (d : WifiDriver) (kind : WifiTxKind) (frame : List UInt8) : Bool × WifiDriver :=
  let commandLen := wifiCmdHeaderBytes + (28 + frame.length)
  if !d.wifi.connect.ready || frame.length < wifiMgmtHeaderBytes || 2342 < frame.length then
    (false, { d with txPlan := { d.txPlan with ready := false } })
  else if wifiTxcmdHeaderLen frame = 0 || wifiCmdBufferBytes < commandLen then
    (false, { d with txPlan := { d.txPlan with ready := false } })
  else (true, { d with txPlan := { ready := true, kind := kind, commandLen := commandLen } })

/-! ## What the poll sees -/

/-- The first completion that the poll looks at, on a ring that holds `pending`: `none` when an
error is flagged before there is one, or when none arrives. -/
def wifiWindowSees (pending : List WifiCompletion) : List WifiRound → Option WifiCompletion
  | [] => none
  | round :: w =>
      if round.error then none
      else
        match pending ++ round.posts with
        | [] => wifiWindowSees [] w
        | c :: _ => some c

/-- A poll that consumes `c`. -/
structure WifiPollTaken (d : WifiDriver) (w : List WifiRound) (c : WifiCompletion) (t : WifiDriver) : Prop where
  wifi : t.wifi = wifiRxHandle d.wifi c.packet
  cmd : t.cmd = { d.cmd with responseSeen := true }
  last : t.rx.lastCmd = c.packet.cmd ∧ t.rx.lastGroup = c.packet.groupId ∧
    t.rx.lastSequence = c.packet.sequence
  packets : t.rx.packets = d.rx.packets + 1
  pathReady : t.rx.pathReady = true
  waiting : d.waiting ++ wifiArrivals w = c :: t.waiting
  plans : t.keyPlan = d.keyPlan ∧ t.txPlan = d.txPlan

/-- A poll that consumes nothing. -/
structure WifiPollMissed (d : WifiDriver) (w : List WifiRound) (t : WifiDriver) : Prop where
  wifi : t.wifi = d.wifi
  cmd : t.cmd = d.cmd ∨ t.cmd = { d.cmd with ready := false, sent := false, failed := true }
  packets : t.rx.packets = d.rx.packets
  pathReady : t.rx.pathReady = d.rx.pathReady
  waiting : t.waiting = d.waiting ++ wifiArrivals w
  plans : t.keyPlan = d.keyPlan ∧ t.txPlan = d.txPlan

theorem wifiWindowSees_cons {c c' : WifiCompletion} {cs : List WifiCompletion} {w : List WifiRound}
    (h : wifiWindowSees (c :: cs) w = some c') : c' = c := by
  cases w with
  | nil => simp [wifiWindowSees] at h
  | cons round w =>
      rw [wifiWindowSees] at h
      split at h
      · simp at h
      · simpa using h.symm

theorem WifiDriver.Room.post {d : WifiDriver} {round : WifiRound} {w : List WifiRound}
    (h : d.Room (wifiArrivals (round :: w)).length) :
    (d.post round.posts).waiting = d.waiting ++ round.posts ∧
      (d.post round.posts).Room (wifiArrivals w).length := by
  simp only [wifiArrivals, List.flatMap_cons, List.length_append, Room] at h
  have hwaiting := @WifiDriver.waiting_post d round.posts (show _ < 64 by omega)
  refine ⟨hwaiting, ?_⟩
  rw [Room, hwaiting, List.length_append, wifiArrivals]
  omega

theorem wifiArrivals_cons (round : WifiRound) (w : List WifiRound) :
    wifiArrivals (round :: w) = round.posts ++ wifiArrivals w := List.flatMap_cons

/-- The loop consumes the completion it sees if that is good, and nothing else.  A bad one stays in
front of all later ones. -/
theorem wifiCommandPoll_spec {d : WifiDriver} {w : List WifiRound} (hroom : d.Room (wifiArrivals w).length) :
    (∀ c, wifiWindowSees d.waiting w = some c → c.good = true →
        (wifiCommandPoll d.rx.packets w d).1 = true ∧
          WifiPollTaken d w c (wifiCommandPoll d.rx.packets w d).2) ∧
      ((∀ c, wifiWindowSees d.waiting w = some c → c.good = false) →
        (wifiCommandPoll d.rx.packets w d).1 = false ∧
          WifiPollMissed d w (wifiCommandPoll d.rx.packets w d).2) := by
  induction w generalizing d with
  | nil =>
      refine ⟨fun c hc => by simp [wifiWindowSees] at hc, fun _ => ⟨rfl, ?_⟩⟩
      exact ⟨rfl, .inl rfl, rfl, rfl, by simp [wifiArrivals, wifiCommandPoll], rfl, rfl⟩
  | cons round w ih =>
      obtain ⟨hwaiting, hroom'⟩ := hroom.post
      have hlater := @WifiDriver.waiting_post (d.post round.posts) (wifiArrivals w) hroom'
      rw [wifiWindowSees, wifiCommandPoll]
      cases herror : round.error with
      | true =>
          refine ⟨fun c hc => by simp at hc, fun _ => ?_⟩
          refine ⟨rfl, rfl, .inr rfl, rfl, rfl, ?_, rfl, rfl⟩
          rw [wifiArrivals_cons, ← List.append_assoc, ← hwaiting, ← hlater]
          rfl
      | false =>
          rw [← hwaiting]
          simp only [Bool.false_eq_true, if_false]
          cases hhead : (d.post round.posts).waiting with
          | nil =>
              rw [wifiRxParseOne_empty hhead]
              simp only [lt_irrefl, decide_false, Bool.false_and, Bool.false_eq_true, if_false]
              obtain ⟨htaken, hmissed⟩ := ih hroom'
              rw [hhead] at htaken hmissed
              rw [hwaiting] at hhead
              refine ⟨fun c hc hgood => ?_, fun hbad => ?_⟩
              · obtain ⟨hcode, h⟩ := htaken c hc hgood
                refine ⟨hcode, h.wifi, h.cmd, h.last, h.packets, h.pathReady, ?_, h.plans⟩
                rw [wifiArrivals_cons, ← List.append_assoc, ← hwaiting]
                exact h.waiting
              · obtain ⟨hcode, h⟩ := hmissed hbad
                refine ⟨hcode, h.wifi, h.cmd, h.packets, h.pathReady, ?_, h.plans⟩
                rw [wifiArrivals_cons, ← List.append_assoc, ← hwaiting]
                exact h.waiting
          | cons c cs =>
              cases hgood : c.good with
              | true =>
                  obtain ⟨hparse, hrest⟩ := wifiRxParseOne_good hhead hgood
                  rw [hparse]
                  have hmore : d.rx.packets < ((d.post round.posts).consumed c).rx.packets :=
                    Nat.lt_succ_self _
                  simp only [Int.one_pos, decide_true, hmore, Bool.and_self, if_true]
                  refine ⟨fun c' hc _ => ?_, fun hbad => ?_⟩
                  · obtain rfl : c = c' := Option.some.inj hc
                    refine ⟨trivial, rfl, rfl, ⟨rfl, rfl, rfl⟩, rfl, rfl, ?_, rfl, rfl⟩
                    have hroom'' : ((d.post round.posts).consumed c).Room (wifiArrivals w).length := by
                      rw [WifiDriver.Room, hrest]
                      rw [WifiDriver.Room, hhead, List.length_cons] at hroom'
                      omega
                    have hafter := WifiDriver.waiting_post hroom''
                    rw [hrest] at hafter
                    rw [wifiArrivals_cons, ← List.append_assoc, ← hwaiting, hhead, List.cons_append, ← hafter]
                    rfl
                  · rw [hbad c rfl] at hgood
                    simp at hgood
              | false =>
                  obtain ⟨rx, hparse, hring, hpackets, hready, -⟩ := wifiRxParseOne_bad hhead hgood
                  rw [hparse]
                  simp only [show ¬ (0 : Int) < -1 by omega, decide_false, Bool.false_and, Bool.false_eq_true,
                    if_false]
                  refine ⟨fun c' hc hgood' => ?_, fun _ => ?_⟩
                  · obtain rfl : c = c' := Option.some.inj hc
                    rw [hgood'] at hgood
                    simp at hgood
                  · have hsame : ({ d.post round.posts with rx := rx } : WifiDriver).waiting =
                        (d.post round.posts).waiting := by
                      rw [WifiDriver.waiting, WifiDriver.waiting, hring]
                    obtain ⟨-, hmissed⟩ := @ih { d.post round.posts with rx := rx } (by
                      rw [WifiDriver.Room, hsame]
                      exact hroom')
                    rw [hsame, hhead] at hmissed
                    obtain ⟨hcode, h⟩ := hmissed fun c' hc => by rw [wifiWindowSees_cons hc, hgood]
                    rw [show rx.packets = d.rx.packets from hpackets] at hcode h
                    refine ⟨hcode, h.wifi, h.cmd, h.packets.trans hpackets, h.pathReady.trans hready, ?_,
                      h.plans⟩
                    rw [h.waiting, hsame, hwaiting, wifiArrivals_cons, List.append_assoc]

/-! ## What an arm step reports -/

/-- The firmware context is armed and the command ring can take the next command. -/
structure WifiDriver.CommandUp (m : WifiMachine) (d : WifiDriver) : Prop where
  present : d.wifi.present = true
  contextReady : d.cmd.contextReady = true
  contextArmed : d.cmd.contextArmed = true
  queuesReady : d.cmd.queuesReady = true
  pathReady : d.rx.pathReady = true
  tfdPhys : d.cmd.tfdPhys ≠ 0
  bcPhys : (d.cmd.resolved m).bcPhys ≠ 0
  cmdBuffer : m.physAddr (.cmdBuffer d.cmd.index) ≠ 0

theorem WifiCmd.resolved_eq (m : WifiMachine) (c : WifiCmd) :
    c.resolved m = { c with bcPhys := (c.resolved m).bcPhys } := by
  rw [resolved]
  split <;> rfl

theorem wifiStageCommandPayload_up {m : WifiMachine} {d : WifiDriver} {payloadLen : Nat}
    (cmdId groupId : UInt8)
    (hup : d.CommandUp m) (hpos : 0 < payloadLen)
    (hfits : wifiCmdHeaderBytes + payloadLen ≤ wifiCmdBufferBytes) :
    wifiStageCommandPayload m d cmdId groupId payloadLen =
      (true, { d with cmd := (d.cmd.resolved m).staged cmdId groupId }) := by
  have hbuffer : m.physAddr (.cmdBuffer (d.cmd.resolved m).index) ≠ 0 := by
    rw [WifiCmd.resolved_eq]
    exact hup.cmdBuffer
  simp only [wifiStageCommandPayload, hup.contextReady, hup.queuesReady, if_true, Bool.not_true,
    Bool.false_eq_true, Bool.or_self, if_false, if_neg hup.tfdPhys, if_neg hup.bcPhys, if_neg hbuffer,
    Nat.ne_of_gt hpos, Nat.not_lt.mpr hfits, decide_false]

/-- The completion is a packet with this id, group and sequence number. -/
def WifiAnswers (cmdId groupId : UInt8) (sequence : UInt16) (c : WifiCompletion) : Prop :=
  c.good = true ∧ c.packet.cmd = cmdId ∧ c.packet.groupId = groupId ∧ c.packet.sequence = sequence

theorem wifiCommandProbe_spec {m : WifiMachine} {d : WifiDriver} {w : List WifiRound}
    (hpresent : d.wifi.present = true) (hready : d.cmd.ready = true) (harmed : d.cmd.contextArmed = true)
    (hpath : d.rx.pathReady = true) (hroom : d.Room (wifiArrivals w).length) :
    (∀ c, wifiWindowSees d.waiting w = some c → c.good = true →
        WifiPollTaken { d with cmd := d.cmd.rung } w c (wifiCommandProbe m d w).2) ∧
      ((∀ c, wifiWindowSees d.waiting w = some c → c.good = false) →
        (wifiCommandProbe m d w).2.cmd.failed = true ∧ (wifiCommandProbe m d w).2.wifi = d.wifi ∧
          (wifiCommandProbe m d w).2.rx.packets = d.rx.packets ∧
          (wifiCommandProbe m d w).2.waiting = d.waiting ++ wifiArrivals w) := by
  have hrun : wifiCommandProbe m d w =
      let r := wifiCommandPoll d.rx.packets w { d with cmd := d.cmd.rung }
      let t := if !r.1 && !r.2.cmd.failed then
          { r.2 with cmd := { r.2.cmd with timeout := true, failed := true } }
        else r.2
      (!t.cmd.failed, t) := by
    simp only [wifiCommandProbe, hpresent, hready, harmed, hpath, if_true, Bool.not_true, Bool.false_eq_true,
      Bool.or_self, if_false]
  obtain ⟨htaken, hmissed⟩ := @wifiCommandPoll_spec { d with cmd := d.cmd.rung } w hroom
  rw [hrun]
  refine ⟨fun c hc hgood => ?_, fun hbad => ?_⟩
  · obtain ⟨hcode, h⟩ := htaken c hc hgood
    simp only at hcode
    simp only [hcode, Bool.not_true, Bool.false_and, Bool.false_eq_true, if_false]
    exact h
  · obtain ⟨hcode, h⟩ := hmissed hbad
    simp only at hcode
    simp only [hcode, Bool.not_false, Bool.true_and]
    split
    · exact ⟨rfl, h.wifi, h.packets, h.waiting⟩
    · rename_i hfailed
      exact ⟨by simpa using hfailed, h.wifi, h.packets, h.waiting⟩

/-- The answer that the matchers find is the completion that the poll saw first. -/
theorem wifiResponseMatches_probe {m : WifiMachine} {d : WifiDriver} {w : List WifiRound}
    (cmdId groupId : UInt8)
    (hpresent : d.wifi.present = true) (hready : d.cmd.ready = true) (harmed : d.cmd.contextArmed = true)
    (hpath : d.rx.pathReady = true) (hroom : d.Room (wifiArrivals w).length) :
    wifiResponseMatches (wifiCommandProbe m d w).2 cmdId groupId = true ↔
      d.cmd.schedulerSequence ≠ 0 ∧ ∃ c, wifiWindowSees d.waiting w = some c ∧
        WifiAnswers cmdId groupId d.cmd.schedulerSequence c := by
  obtain ⟨htaken, hmissed⟩ := @wifiCommandProbe_spec m d w hpresent hready harmed hpath hroom
  by_cases hgood : ∃ c, wifiWindowSees d.waiting w = some c ∧ c.good = true
  · obtain ⟨c, hc, hgood⟩ := hgood
    have h := htaken c hc hgood
    obtain ⟨hcmd, hgroup, hsequence⟩ := h.last
    simp only [wifiResponseMatches, h.cmd, hcmd, hgroup, hsequence, WifiCmd.rung, Bool.not_false, Bool.true_and,
      Bool.and_eq_true, decide_eq_true_eq]
    constructor
    · rintro ⟨⟨⟨hid, hgid⟩, hseq⟩, hzero⟩
      exact ⟨hseq ▸ hzero, c, hc, hgood, hid, hgid, hseq⟩
    · rintro ⟨hzero, c', hc', -, hid, hgid, hseq⟩
      obtain rfl : c = c' := Option.some.inj (hc.symm.trans hc')
      exact ⟨⟨⟨hid, hgid⟩, hseq⟩, hseq ▸ hzero⟩
  · obtain ⟨hfailed, -⟩ := hmissed fun c hc => by
      rw [← Bool.not_eq_true]
      exact fun h => hgood ⟨c, hc, h⟩
    simp only [wifiResponseMatches, hfailed, Bool.not_true, Bool.and_false, Bool.false_and, Bool.false_eq_true,
      false_iff]
    rintro ⟨-, c, hc, hanswer⟩
    exact hgood ⟨c, hc, hanswer.1⟩

/-- The arm steps. -/
inductive WifiArm
  | bind (step : WifiBindStep) (cmdId groupId : UInt8) (commandLen : Nat)
  | key
  | txcmd

/-- The id of the command. -/
def WifiArm.cmdId : WifiArm → UInt8
  | bind _ cmdId _ _ => cmdId
  | key => 0x18
  | txcmd => 0x1c

/-- Its group. -/
def WifiArm.groupId : WifiArm → UInt8
  | bind _ _ groupId _ => groupId
  | key => 0x05
  | txcmd => 0x00

/-- Its length. -/
def WifiArm.commandLen (d : WifiDriver) : WifiArm → Nat
  | bind _ _ _ commandLen => commandLen
  | key => d.keyPlan.commandLen
  | txcmd => d.txPlan.commandLen

/-- `wifi_bind_arm_one`, `wifi_key_arm_plan` or `wifi_txcmd_arm_plan`. -/
def wifiArmStep (m : WifiMachine) (d : WifiDriver) (w : List WifiRound) : WifiArm → Bool × WifiDriver
  | .bind step cmdId groupId commandLen => wifiBindArmOne m d step cmdId groupId commandLen w
  | .key => wifiKeyArmPlan m d w
  | .txcmd => wifiTxcmdArmPlan m d w

/-- The step gets as far as its doorbell: none of its checks refuses it. -/
structure WifiArm.Rings (m : WifiMachine) (d : WifiDriver) (arm : WifiArm) : Prop where
  up : d.CommandUp m
  checked : match arm with
    | .bind .. => True
    | .key => wifiKeyArmable d = true
    | .txcmd => wifiTxcmdArmable d = true
  headed : wifiCmdHeaderBytes < arm.commandLen d
  fits : arm.commandLen d ≤ wifiCmdBufferBytes

/-- A step that rings its doorbell stages its command, probes, and reports whether the
response matches; what it does then leaves the ring alone. -/
theorem WifiArm.Rings.probes {m : WifiMachine} {d : WifiDriver} {arm : WifiArm} (hrings : arm.Rings m d)
    (w : List WifiRound) : ∃ f : WifiBind → WifiBind,
      (wifiArmStep m d w arm).1 = wifiResponseMatches (wifiCommandProbe m
        (({ d with cmd := (d.cmd.resolved m).staged arm.cmdId arm.groupId } : WifiDriver).bind f) w).2
        arm.cmdId arm.groupId ∧
      (wifiArmStep m d w arm).2.rx = (wifiCommandProbe m
        (({ d with cmd := (d.cmd.resolved m).staged arm.cmdId arm.groupId } : WifiDriver).bind f) w).2.rx := by
  have hheaded := hrings.headed
  have hfits := hrings.fits
  have hstage := @wifiStageCommandPayload_up m d (arm.commandLen d - wifiCmdHeaderBytes) arm.cmdId arm.groupId
    hrings.up (by omega) (by omega)
  cases arm with
  | bind step cmdId groupId commandLen =>
      simp only [WifiArm.commandLen, WifiArm.cmdId, WifiArm.groupId] at hheaded hstage
      refine ⟨fun b => { b with armed := true, timeout := false }, ?_⟩
      simp only [wifiArmStep, wifiBindArmOne, Nat.not_le.mpr hheaded, if_false, hstage, Bool.not_true,
        Bool.false_eq_true, wifiBindResponseMatches, WifiArm.cmdId, WifiArm.groupId]
      split
      · rename_i hmatch
        exact ⟨hmatch.symm, rfl⟩
      · rename_i hmatch
        exact ⟨(Bool.eq_false_iff.mpr hmatch).symm, rfl⟩
  | key =>
      have hchecked : wifiKeyArmable d = true := hrings.checked
      simp only [WifiArm.commandLen, WifiArm.cmdId, WifiArm.groupId] at hstage
      refine ⟨id, ?_⟩
      simp only [wifiArmStep, wifiKeyArmPlan, hchecked, hstage, Bool.not_true, Bool.false_eq_true, if_false,
        wifiKeyResponseMatches, WifiArm.cmdId, WifiArm.groupId]
      split
      · rename_i hmatch
        exact ⟨hmatch.symm, rfl⟩
      · rename_i hmatch
        exact ⟨(Bool.eq_false_iff.mpr hmatch).symm, rfl⟩
  | txcmd =>
      have hchecked : wifiTxcmdArmable d = true := hrings.checked
      simp only [WifiArm.commandLen, WifiArm.cmdId, WifiArm.groupId] at hstage
      refine ⟨id, ?_⟩
      simp only [wifiArmStep, wifiTxcmdArmPlan, hchecked, hstage, Bool.not_true, Bool.false_eq_true, if_false,
        wifiTxcmdResponseMatches, WifiArm.cmdId, WifiArm.groupId]
      split
      · rename_i hmatch
        exact ⟨hmatch.symm, rfl⟩
      · rename_i hmatch
        exact ⟨(Bool.eq_false_iff.mpr hmatch).symm, rfl⟩

/-- The step reports an acknowledgement when its command is not at index 0 and the first
completion that the poll sees is the answer. -/
theorem wifiArmStep_ack {m : WifiMachine} {d : WifiDriver} {w : List WifiRound} {arm : WifiArm}
    (hrings : arm.Rings m d) (hroom : d.Room (wifiArrivals w).length) :
    (wifiArmStep m d w arm).1 = true ↔
      d.cmd.nextSequence ≠ 0 ∧ ∃ c, wifiWindowSees d.waiting w = some c ∧
        WifiAnswers arm.cmdId arm.groupId d.cmd.nextSequence c := by
  have hup := hrings.up
  have hsequence : (d.cmd.resolved m).nextSequence = d.cmd.nextSequence := by
    rw [WifiCmd.resolved_eq]
    rfl
  have harmed : (d.cmd.resolved m).contextArmed = true := by
    rw [WifiCmd.resolved_eq]
    exact hup.contextArmed
  obtain ⟨f, hmatches, -⟩ := hrings.probes w
  rw [← hsequence, hmatches]
  exact @wifiResponseMatches_probe m
    (({ d with cmd := (d.cmd.resolved m).staged arm.cmdId arm.groupId } : WifiDriver).bind f) w arm.cmdId
    arm.groupId hup.present rfl harmed hup.pathReady hroom

/-! ## Runs of arm steps -/

/-- An arm step with its window, or whatever else happens to the driver between two of them. -/
inductive WifiArmAct
  | step (arm : WifiArm) (w : List WifiRound)
  | between (f : WifiDriver → WifiDriver)

/-- The driver after an act. -/
def wifiArmNext (m : WifiMachine) (d : WifiDriver) : WifiArmAct → WifiDriver
  | .step arm w => (wifiArmStep m d w arm).2
  | .between f => f d

/-- The step reports an acknowledgement if and only if its answer arrives in its window. -/
def WifiArmAct.Faithful (m : WifiMachine) (d : WifiDriver) : WifiArmAct → Prop
  | .step arm w => (wifiArmStep m d w arm).1 = true ↔
      ∃ c ∈ wifiArrivals w, WifiAnswers arm.cmdId arm.groupId d.cmd.nextSequence c
  | .between _ => True

/-- The step rings its doorbell, and the firmware keeps within the ring. -/
def WifiArmAct.Enabled (m : WifiMachine) (d : WifiDriver) : WifiArmAct → Prop
  | .step arm w => arm.Rings m d ∧ d.Room (wifiArrivals w).length
  | .between _ => True

/-- Either the answer arrives, the command is not at index 0 and the poll sees the answer
first; or no answer arrives, and the poll does not see an older one first. -/
def WifiArmAct.Undisturbed (d : WifiDriver) : WifiArmAct → Prop
  | .step arm w =>
      let answers := WifiAnswers arm.cmdId arm.groupId d.cmd.nextSequence
      (d.cmd.index ≠ 0 ∧ (∃ c ∈ wifiArrivals w, answers c) ∧
          ∃ c, wifiWindowSees d.waiting w = some c ∧ answers c) ∨
        ((∀ c ∈ wifiArrivals w, ¬ answers c) ∧
          (d.cmd.index = 0 ∨ ∀ c, wifiWindowSees d.waiting w = some c → ¬ answers c))
  | .between _ => True

theorem WifiCmd.nextSequence_eq_zero (c : WifiCmd) : c.nextSequence = 0 ↔ c.index = 0 := by
  have hindex : c.index < 32 := Nat.mod_lt _ (by decide)
  have hmask : c.index &&& 0xff = c.index := by
    rw [show 0xff = 2 ^ 8 - 1 from rfl, Nat.and_two_pow_sub_one_eq_mod]
    omega
  rw [nextSequence, hmask, ← UInt16.toNat_inj]
  simp only [UInt16.toNat_ofNat, UInt16.toNat_ofNat']
  omega

/-- In every run, wherever the command ring stands and in whatever order the firmware
delivers, a step that rings its doorbell reports its answer faithfully exactly when it is
undisturbed. -/
theorem wifiArms_acknowledged (m : WifiMachine) (d : WifiDriver) (run : List WifiArmAct) :
    AllSteps (wifiArmNext m)
      (fun u act => act.Enabled m u → (act.Faithful m u ↔ act.Undisturbed u)) d run := by
  refine allSteps_of_forall fun u act henabled => ?_
  cases act with
  | between f => exact Iff.rfl
  | step arm w =>
      rw [WifiArmAct.Faithful, wifiArmStep_ack henabled.1 henabled.2, Ne, WifiCmd.nextSequence_eq_zero,
        WifiArmAct.Undisturbed]
      by_cases harrives : ∃ c ∈ wifiArrivals w, WifiAnswers arm.cmdId arm.groupId u.cmd.nextSequence c
      · have hnone : ¬ ∀ c ∈ wifiArrivals w, ¬ WifiAnswers arm.cmdId arm.groupId u.cmd.nextSequence c := by
          simpa using harrives
        simp only [harrives, hnone, iff_true, true_and, false_and, or_false]
      · have hnone : ∀ c ∈ wifiArrivals w, ¬ WifiAnswers arm.cmdId arm.groupId u.cmd.nextSequence c := by
          simpa using harrives
        simp only [harrives, iff_false, false_and, and_false, false_or]
        grind

/-! ## Two answers that are missed -/

/-- A machine on which every buffer has an address. -/
def sampleMachine : WifiMachine where
  physAddr := fun _ => 0x3000
  prepareContextInfo := fun d => (false, d)
  prepareHostQueues := fun d => (false, d)

/-- A ring on which nothing was posted yet. -/
def sampleRing : Ring WifiCompletion 64 where
  slots := fun _ => ⟨0, ⟨0, 0, 0, 0, []⟩⟩
  read := 0
  closed := 0
  read_lt := by decide
  closed_lt := by decide

/-- A driver with armed queues, whose next command goes to this index. -/
def sampleDriver (s : Wifi) (writePtr : Nat) : WifiDriver where
  wifi := { s with present := true }
  rx :=
    { ring := sampleRing, pathReady := true, pathFailed := false, pathErrors := 0, packets := 0, lastCmd := 0,
      lastGroup := 0, lastSequence := 0 }
  cmd :=
    { queuesReady := true, contextReady := true, contextArmed := true, tfdPhys := 0x1000, bcPhys := 0x2000,
      writePtr := writePtr, schedulerId := 0, schedulerGroup := 0, schedulerSequence := 0, schedulerIndex := 0,
      ready := false, sent := false, failed := false, timeout := false, responseSeen := false }
  keyPlan := { ready := false, isGroup := false, commandLen := 0 }
  txPlan := { ready := false, kind := .auth, commandLen := 0 }

/-- The binding of the MAC. -/
def sampleArm : WifiArm := .bind .mac 0x08 0x03 152

theorem sampleArm_rings (writePtr : Nat) :
    sampleArm.Rings sampleMachine (sampleDriver wifiBoot writePtr) where
  up :=
    { present := rfl
      contextReady := rfl
      contextArmed := rfl
      queuesReady := rfl
      pathReady := rfl
      tfdPhys := by simp [sampleDriver]
      bcPhys := by simp [sampleDriver, WifiCmd.resolved]
      cmdBuffer := by simp [sampleMachine] }
  checked := trivial
  headed := by simp [sampleArm, WifiArm.commandLen, wifiCmdHeaderBytes]
  fits := by simp [sampleArm, WifiArm.commandLen, wifiCmdBufferBytes]

/-- A packet with this id, group and sequence number. -/
def samplePacket (cmd groupId : UInt8) (sequence : UInt16) : WifiCompletion :=
  ⟨1, ⟨4, cmd, groupId, sequence, []⟩⟩

/-- The answer comes behind a notification; and the answer to a command at index 0 comes
alone. -/
theorem wifiArmStep_missed :
    (¬ ∀ (m : WifiMachine) (d : WifiDriver) (arm : WifiArm) (w : List WifiRound), arm.Rings m d →
        d.Room (wifiArrivals w).length → d.cmd.index ≠ 0 → (WifiArmAct.step arm w).Faithful m d) ∧
      ¬ ∀ (m : WifiMachine) (d : WifiDriver) (arm : WifiArm) (w : List WifiRound), arm.Rings m d →
        d.Room (wifiArrivals w).length → d.waiting = [] →
        (∀ c ∈ wifiArrivals w, WifiAnswers arm.cmdId arm.groupId d.cmd.nextSequence c) →
        (WifiArmAct.step arm w).Faithful m d := by
  constructor
  · intro h
    have hroom : (sampleDriver wifiBoot 1).Room
        (wifiArrivals [⟨[samplePacket 0xb1 0x01 0, samplePacket 0x08 0x03 1], false⟩]).length := by
      simp [WifiDriver.Room, wifiArrivals, WifiDriver.waiting, sampleDriver, sampleRing, Ring.count]
    obtain ⟨-, hack⟩ := h sampleMachine (sampleDriver wifiBoot 1) sampleArm _ (sampleArm_rings 1) hroom
      (by decide)
    have hack := hack ⟨samplePacket 0x08 0x03 1, by simp [wifiArrivals], rfl, rfl, rfl, rfl⟩
    obtain ⟨-, c, hc, -, hid, -⟩ := (wifiArmStep_ack (sampleArm_rings 1) hroom).mp hack
    obtain rfl : samplePacket 0xb1 0x01 0 = c := Option.some.inj hc
    exact absurd hid (by decide)
  · intro h
    have hroom : (sampleDriver wifiBoot 32).Room
        (wifiArrivals [⟨[samplePacket 0x08 0x03 0], false⟩]).length := by
      simp [WifiDriver.Room, wifiArrivals, WifiDriver.waiting, sampleDriver, sampleRing, Ring.count]
    have hanswers : ∀ c ∈ wifiArrivals [⟨[samplePacket 0x08 0x03 0], false⟩],
        WifiAnswers 0x08 0x03 (sampleDriver wifiBoot 32).cmd.nextSequence c := by
      simp only [wifiArrivals, List.flatMap_cons, List.flatMap_nil, List.append_nil, List.mem_singleton,
        forall_eq]
      exact ⟨rfl, rfl, rfl, rfl⟩
    obtain ⟨-, hack⟩ := h sampleMachine (sampleDriver wifiBoot 32) sampleArm _ (sampleArm_rings 32) hroom rfl
      hanswers
    have hack := hack ⟨samplePacket 0x08 0x03 0, by simp [wifiArrivals], rfl, rfl, rfl, rfl⟩
    exact ((wifiArmStep_ack (sampleArm_rings 32) hroom).mp hack).1 rfl

end Orizon
