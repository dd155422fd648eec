import Orizon.Lib.Ring
import Orizon.Wifi.Mpdu

/-!
# Orizon.Wifi.Rx

The receive ring of the wireless driver (`kernel/drivers/wifi.c`): the firmware posts
completions to a ring of 64, and `wifi_rx_parse_one` takes the next one.

The ring is `Ring`, so that what is waiting on it is a queue; `wifiRxParseOne_empty`,
`wifiRxParseOne_bad` and `wifiRxParseOne_good` say what a call does to it.  A bad
completion is counted and stays where it is.
-/

namespace Orizon

/-! ## The ring and the commands -/

/-- `wifi_rx_packet_t`: `body` is what the receive buffer holds behind the header. -/
structure WifiRxPacket where
  lenNFlags : UInt32
  cmd : UInt8
  groupId : UInt8
  sequence : UInt16
  body : List UInt8
  deriving DecidableEq

/-- A completion and the packet in the buffer it names. -/
structure WifiCompletion where
  rbid : UInt16
  packet : WifiRxPacket
  deriving DecidableEq

/-- The `rx_` fields and the ring.  `rx_read_ptr` is `ring.read`, `wifi_rx_closed_status` is
`ring.closed`. -/
structure WifiRx where
  ring : Ring WifiCompletion 64
  pathReady : Bool
  pathFailed : Bool
  pathErrors : Nat
  packets : Nat
  lastCmd : UInt8
  lastGroup : UInt8
  lastSequence : UInt16

/-- The queues, the context and the last command: the `context_`, `queues_`, `scheduler_`
and `command_` fields. -/
structure WifiCmd where
  queuesReady : Bool
  contextReady : Bool
  contextArmed : Bool
  tfdPhys : UInt64
  bcPhys : UInt64
  writePtr : Nat
  schedulerId : UInt8
  schedulerGroup : UInt8
  schedulerSequence : UInt16
  schedulerIndex : Nat
  ready : Bool
  sent : Bool
  failed : Bool
  timeout : Bool
  responseSeen : Bool

/-- The plan of `wifi key`: the `wpa_key_` fields that a command reads. -/
structure WifiKeyPlan where
  ready : Bool
  isGroup : Bool
  commandLen : Nat

/-- `WIFI_TX_STAGE_KIND_`. -/
inductive WifiTxKind
  | auth
  | assoc
  | eapolM2
  | eapolM4
  | data
  deriving DecidableEq

/-- The plan of `wifi txcmd`: the `txcmd_` fields that a command reads. -/
structure WifiTxPlan where
  ready : Bool
  kind : WifiTxKind
  commandLen : Nat

/-- The driver with its queues. -/
structure WifiDriver where
  wifi : Wifi
  rx : WifiRx
  cmd : WifiCmd
  keyPlan : WifiKeyPlan
  txPlan : WifiTxPlan

/-- The completions that wait on the ring. -/
def WifiDriver.waiting (d : WifiDriver) : List WifiCompletion := d.rx.ring.contents

/-- The firmware posts completions. -/
def WifiDriver.post (d : WifiDriver) (cs : List WifiCompletion) : WifiDriver :=
  { d with rx := { d.rx with ring := d.rx.ring.postAll cs } }

/-! ## One packet -/

/-- `wifi_is_scan_notification_group`: `WIFI_CMD_GROUP_LONG`, `_LEGACY` or `_SCAN`. -/
def wifiIsScanNotificationGroup (groupId : UInt8) : Bool := groupId = 0x01 || groupId = 0x00 || groupId = 0x06

/-- The payload of a packet: behind its header of four bytes, within its buffer. -/
def WifiRxPacket.payload (p : WifiRxPacket) : List UInt8 :=
  p.body.take (min ((p.lenNFlags &&& 0x00003fff).toNat - 4) 2040)

/-- A scan notification that is long enough, and what else it says. -/
def wifiScanNoted (s : Wifi) (f : WifiScan → WifiScan) : Wifi :=
  { s with scan := f { s.scan with failed := false, notifications := s.scan.notifications + 1 } }

/-- What `wifi_rx_parse_one` does with a packet, by its command. -/
def wifiRxHandle (s : Wifi) (p : WifiRxPacket) : Wifi :=
  let payload := p.payload
  let short := { s with scan := { s.scan with failed := true } }
  if p.cmd = 0xc1 && wifiIsScanNotificationGroup p.groupId then (wifiScanParseRxMpdu s payload).2
  else if p.cmd = 0xb2 && wifiIsScanNotificationGroup p.groupId then
    if 8 ≤ payload.length then wifiScanNoted s id else short
  else if p.cmd = 0xb5 && wifiIsScanNotificationGroup p.groupId then
    if 16 ≤ payload.length then wifiScanNoted s fun sc => { sc with iterLastChannel := payload.getD 7 0 }
    else short
  else if p.cmd = 0x0f && wifiIsScanNotificationGroup p.groupId then
    if 16 ≤ payload.length then wifiScanNoted s fun sc => { sc with completeSeen := true } else short
  else if p.cmd = 0x0d && p.groupId = 0x01 then { s with scan := { s.scan with failed := false } }
  else s

/-! ## `wifi_rx_parse_one` -/

/-- The RBID names a receive buffer. -/
def WifiCompletion.rbidOk (c : WifiCompletion) : Bool := c.rbid ≠ 0 && c.rbid ≤ 64

/-- The completion can be consumed: its RBID is in range, and the firmware did not mark its
packet with `FH_RSCSR_FRAME_INVALID`. -/
def WifiCompletion.good (c : WifiCompletion) : Bool := c.rbidOk && c.packet.lenNFlags ≠ 0x55550000

/-- The header of the packet is noted. -/
def WifiRx.noted (rx : WifiRx) (p : WifiRxPacket) : WifiRx :=
  { rx with lastCmd := p.cmd, lastGroup := p.groupId, lastSequence := p.sequence }

/-- A completion is counted as an error. -/
def WifiRx.failedOne (rx : WifiRx) : WifiRx := { rx with pathFailed := true, pathErrors := rx.pathErrors + 1 }

/-- The driver behind a completion that was consumed. -/
def WifiDriver.consumed (d : WifiDriver) (c : WifiCompletion) : WifiDriver :=
  { d with
    wifi := wifiRxHandle d.wifi c.packet
    rx := { d.rx.noted c.packet with
      ring := d.rx.ring.skip
      packets := d.rx.packets + 1
      pathReady := true
      pathFailed := false } }

/-- `wifi_rx_parse_one`. -/
def wifiRxParseOne (d : WifiDriver) : Int × WifiDriver :=
  match d.rx.ring.next? with
  | none => (0, d)
  | some c =>
      if !c.rbidOk then (-1, { d with rx := d.rx.failedOne })
      else if c.packet.lenNFlags = 0x55550000 then (-1, { d with rx := (d.rx.noted c.packet).failedOne })
      else (1, d.consumed c)

theorem wifiRxParseOne_empty {d : WifiDriver} (h : d.waiting = []) : wifiRxParseOne d = (0, d) := by
  rw [WifiDriver.waiting] at h
  rw [wifiRxParseOne, Ring.next?_eq, h]
  rfl

theorem wifiRxParseOne_bad {d : WifiDriver} {c : WifiCompletion} {cs : List WifiCompletion}
    (h : d.waiting = c :: cs) (hbad : c.good = false) :
    ∃ rx, wifiRxParseOne d = (-1, { d with rx := rx }) ∧ rx.ring = d.rx.ring ∧
      rx.packets = d.rx.packets ∧ rx.pathReady = d.rx.pathReady ∧ rx.pathErrors = d.rx.pathErrors + 1 := by
  rw [WifiDriver.waiting] at h
  rw [WifiCompletion.good] at hbad
  simp only [wifiRxParseOne, Ring.next?_eq, h, List.head?_cons]
  split
  · exact ⟨_, rfl, rfl, rfl, rfl, rfl⟩
  rename_i hrbid
  split
  · exact ⟨_, rfl, rfl, rfl, rfl, rfl⟩
  · rename_i hvalid
    simp_all

theorem wifiRxParseOne_good {d : WifiDriver} {c : WifiCompletion} {cs : List WifiCompletion}
    (h : d.waiting = c :: cs) (hgood : c.good = true) :
    wifiRxParseOne d = (1, d.consumed c) ∧ (d.consumed c).waiting = cs := by
  rw [WifiDriver.waiting] at h
  rw [WifiCompletion.good, Bool.and_eq_true, decide_eq_true_eq] at hgood
  refine ⟨?_, Ring.contents_skip h⟩
  simp only [wifiRxParseOne, Ring.next?_eq, h, List.head?_cons, hgood.1, Bool.not_true, Bool.false_eq_true,
    if_false, if_neg hgood.2]

/-! ## Posting -/

@[simp] theorem WifiDriver.post_nil (d : WifiDriver) : d.post [] = d := rfl

@[simp] theorem WifiDriver.post_wifi (d : WifiDriver) (cs : List WifiCompletion) :
    (d.post cs).wifi = d.wifi :=
  rfl

@[simp] theorem WifiDriver.post_cmd (d : WifiDriver) (cs : List WifiCompletion) :
    (d.post cs).cmd = d.cmd := rfl

/-- There is room on the ring for so many more completions. -/
def WifiDriver.Room (d : WifiDriver) (k : Nat) : Prop := d.waiting.length + k < 64

theorem WifiDriver.waiting_post {d : WifiDriver} {cs : List WifiCompletion} (h : d.Room cs.length) :
    (d.post cs).waiting = d.waiting ++ cs := by
  rw [Room, waiting, Ring.length_contents] at h
  exact Ring.contents_postAll h

/-! ## `wifi_rx_probe` -/

/-- The polling of `wifi_rx_probe`: what the firmware posts before each round, and a call of
`wifi_rx_parse_one`, up to the first that finds something.  What is posted later waits. -/
def wifiRxPoll (d : WifiDriver) : List (List WifiCompletion) → Int × WifiDriver
  | [] => (0, d)
  | cs :: rounds =>
      let r := wifiRxParseOne (d.post cs)
      if r.1 ≠ 0 then (r.1, r.2.post rounds.flatten) else wifiRxPoll r.2 rounds

end Orizon
