import Orizon.Wifi.Command

/-!
# Orizon.Wifi.Delivery

Receiving and sending Ethernet frames (`kernel/drivers/wifi.c`): `wifi_recv_ethernet`,
`wifi_send_ethernet` and the polls that consume completions along with them.

There is one slot for a received payload, and any poll may fill it.  What was consumed and
what was handed out balances over a run in which no completion is bad, nothing is delivered
over a payload that waits, and every buffer offered is large enough
(`wifiCalls_delivered`).  Otherwise a completion or a payload is stuck or lost
(`wifiCalls_stuck`).
-/

namespace Orizon

/-! ## The payload that waits -/

/-- A received payload with its sender and its EtherType. -/
structure WifiDelivery where
  src : WifiMac
  etherType : UInt16
  payload : List UInt8

/-- The payload in the slot. -/
def Wifi.slot (s : Wifi) : WifiDelivery := ⟨s.ccmp.rxSrcMac, s.ccmp.rxEthType, s.ccmp.rxPayload⟩

/-- The payload that waits to be received. -/
def Wifi.pending (s : Wifi) : Option WifiDelivery := if s.ccmp.rxReady then some s.slot else none

/-- What a frame that is taken delivers: a data frame that is no EAPOL-Key frame, its payload. -/
def wifiFrameDelivery (s : Wifi) (frame : List UInt8) : Option WifiDelivery :=
  let fc := wifiReadLe16 frame 0
  if wifiFcType fc = wifiTypeData && !(wifiWpaParseEapolKey s frame fc (wifiFcSubtype fc)).1 then
    some (wifiCcmpReceive s frame).2.slot
  else none

/-- What a packet delivers. -/
def wifiDeliveryOf (s : Wifi) (p : WifiRxPacket) : Option WifiDelivery :=
  if p.cmd = 0xc1 && wifiIsScanNotificationGroup p.groupId then
    (wifiMpduTaken s p.payload).bind (wifiFrameDelivery s)
  else none

theorem WifiSameButNote.pending {s t : Wifi} (h : WifiSameButNote s t) : t.pending = s.pending := by
  obtain ⟨_, rfl⟩ := h
  rfl

/-- A data frame that is taken and is no EAPOL-Key frame was taken as a protected one. -/
theorem wifiScanParse80211Frame_protected {s : Wifi} {frame : List UInt8}
    (h : (wifiScanParse80211Frame s frame).1 = true)
    (htype : wifiFcType (wifiReadLe16 frame 0) = wifiTypeData)
    (heapol : (wifiWpaParseEapolKey s frame (wifiReadLe16 frame 0)
      (wifiFcSubtype (wifiReadLe16 frame 0))).1 = false) :
    (wifiCcmpReceive s frame).1 = true ∧ wifiScanParse80211Frame s frame = wifiCcmpReceive s frame := by
  have heq : wifiScanParse80211Frame s frame = wifiCcmpReceive s frame := by
    have hrefused := wifiWpaParseEapolKey_refused heapol
    simp only [wifiScanParse80211Frame] at h ⊢
    split at h
    · simp at h
    rename_i hlong
    rw [if_neg hlong, if_pos htype, heapol, hrefused]
    rfl
  exact ⟨heq ▸ h, heq⟩

/-- A frame that is taken leaves what it delivers, or what was there. -/
theorem wifiScanParse80211Frame_pending {s : Wifi} {frame : List UInt8}
    (h : (wifiScanParse80211Frame s frame).1 = true) :
    (wifiScanParse80211Frame s frame).2.pending = (wifiFrameDelivery s frame).or s.pending := by
  by_cases htype : wifiFcType (wifiReadLe16 frame 0) = wifiTypeData
  · have heapol := (wifiEapolFeed_step s frame).others
    rw [wifiEapolFeed] at heapol
    cases htaken : (wifiWpaParseEapolKey s frame (wifiReadLe16 frame 0)
        (wifiFcSubtype (wifiReadLe16 frame 0))).1 with
    | true =>
        simp only [wifiScanParse80211Frame, wifiFrameDelivery, htype, htaken, Bool.not_true, Bool.and_false,
          Bool.false_eq_true, if_false, Option.none_or, if_true]
        split
        · rfl
        · rw [heapol]
          rfl
    | false =>
        obtain ⟨haccepted, heq⟩ := wifiScanParse80211Frame_protected h htype htaken
        obtain ⟨plain, hplain⟩ := wifiCcmpReceive_accepted haccepted
        have hs := hplain s.ccmp s.bind
        simp only [heq, wifiFrameDelivery, htype, htaken, hs]
        rfl
  · have hnone : wifiFrameDelivery s frame = none := by
      simp only [wifiFrameDelivery, htype, decide_false, Bool.false_and, Bool.false_eq_true, if_false]
    rw [hnone, Option.none_or]
    rcases (wifiScanParse80211Frame_effect s frame).management htype with hscan | ⟨_, _, _, hconnect⟩
    · rw [hscan]
      rfl
    · rw [hconnect]
      rfl

theorem wifiRxHandle_pending (s : Wifi) (p : WifiRxPacket) :
    (wifiRxHandle s p).pending = (wifiDeliveryOf s p).or s.pending := by
  obtain ⟨hnone, hsome, -⟩ := wifiScanParseRxMpdu_first s p.payload
  simp only [wifiRxHandle, wifiDeliveryOf]
  split
  · cases htaken : wifiMpduTaken s p.payload with
    | none => exact (hnone htaken).2.pending
    | some frame =>
        obtain ⟨-, hsame, -⟩ := hsome frame htaken
        rw [hsame.pending]
        exact wifiScanParse80211Frame_pending (by simpa using List.find?_some htaken)
  rw [Option.none_or]
  split
  · split <;> rfl
  split
  · split <;> rfl
  split
  · split <;> rfl
  split <;> rfl

theorem wifiWpaParseEapolKey_accepts (s : Wifi) (frame : List UInt8) (fc subtype : UInt16) :
    (wifiWpaParseEapolKey s frame fc subtype).1 = (wifiWpaEapolOf s.connect frame fc subtype).isSome := by
  rw [wifiWpaParseEapolKey]
  cases wifiWpaEapolOf s.connect frame fc subtype with
  | none => rfl
  | some eapol => rfl

/-- Neither the data fields nor the binding decide whether a frame is taken. -/
theorem wifiScanParse80211Frame_accepts (s : Wifi) (c : WifiCcmp) (b : WifiBind) (frame : List UInt8) :
    (wifiScanParse80211Frame { s with ccmp := c, bind := b } frame).1 =
    (wifiScanParse80211Frame s frame).1 := by
  have hrefused : ∀ t : Wifi, t.connect = s.connect →
      wifiWpaEapolOf s.connect frame (wifiReadLe16 frame 0) (wifiFcSubtype (wifiReadLe16 frame 0)) = none →
      wifiWpaParseEapolKey t frame (wifiReadLe16 frame 0) (wifiFcSubtype (wifiReadLe16 frame 0)) =
        (false, t) := by
    intro t ht hnone
    rw [wifiWpaParseEapolKey, ht, hnone]
  simp only [wifiScanParse80211Frame, wifiWpaParseEapolKey_accepts]
  split
  · rfl
  split
  · cases heapol : wifiWpaEapolOf s.connect frame (wifiReadLe16 frame 0)
        (wifiFcSubtype (wifiReadLe16 frame 0)) with
    | some eapol => simp only [Option.isSome_some, if_true, wifiWpaParseEapolKey_accepts, heapol]
    | none =>
        simp only [Option.isSome_none, Bool.false_eq_true, if_false]
        simp only [hrefused { s with ccmp := c, bind := b } rfl heapol, hrefused s rfl heapol]
        exact wifiCcmpReceive_accepts s c b frame
  split
  · rfl
  split
  · simp only [wifiConnectParseResponseFrame, apply_ite Prod.fst]
  split
  · simp only [wifiScanTakeBeacon]
    split <;> rfl
  · rfl

/-- Neither the data fields nor the binding decide what a packet delivers. -/
theorem wifiDeliveryOf_congr (s : Wifi) (c : WifiCcmp) (b : WifiBind) (p : WifiRxPacket) :
    wifiDeliveryOf { s with ccmp := c, bind := b } p = wifiDeliveryOf s p := by
  have htaken : wifiMpduTaken { s with ccmp := c, bind := b } p.payload = wifiMpduTaken s p.payload := by
    simp only [wifiMpduTaken, wifiScanParse80211Frame_accepts]
  simp only [wifiDeliveryOf, htaken]
  split
  · cases hframe : wifiMpduTaken s p.payload with
    | none => rfl
    | some frame =>
        have haccepted : (wifiScanParse80211Frame s frame).1 = true := by simpa using List.find?_some hframe
        simp only [Option.bind_some, wifiFrameDelivery, wifiWpaParseEapolKey_accepts]
        split
        · rename_i hdata
          rw [Bool.and_eq_true, decide_eq_true_eq, Bool.not_eq_true'] at hdata
          obtain ⟨hccmp, -⟩ := wifiScanParse80211Frame_protected haccepted hdata.1
            ((wifiWpaParseEapolKey_accepts s frame _ _).trans hdata.2)
          obtain ⟨plain, hplain⟩ := wifiCcmpReceive_accepted hccmp
          have hs := hplain s.ccmp s.bind
          rw [hplain c b, hs]
          rfl
        · rfl
  · rfl

/-! ## The calls -/

/-- `wifi_rx_probe(1, ..)`. -/
def wifiRxProbe (m : WifiMachine) (d : WifiDriver) (rounds : List (List WifiCompletion)) : WifiDriver :=
  let r := if d.cmd.queuesReady then (true, d) else m.prepareHostQueues d
  if !d.wifi.present then d.post rounds.flatten
  else if !r.1 then r.2.post rounds.flatten
  else (wifiRxPoll r.2 rounds).2

/-- What `wifi_recv_ethernet` returns: -1 without a link or with a buffer that is too small,
0, or a payload. -/
inductive WifiRecv
  | refused
  | tooLarge
  | none
  | frame (v : WifiDelivery)

/-- The payload was taken out of the slot. -/
def WifiDriver.slotFreed (d : WifiDriver) : WifiDriver :=
  { d with wifi := { d.wifi with ccmp := { d.wifi.ccmp with rxReady := false } } }

/-- `wifi_recv_ethernet` with a buffer of `cap` bytes. -/
def wifiRecvEthernet (m : WifiMachine) (d : WifiDriver) (cap : Nat) (rounds : List (List WifiCompletion)) :
    WifiRecv × WifiDriver :=
  if !wifiDataLinkReady d.wifi then (.refused, d.post rounds.flatten)
  else
    let d := if d.wifi.ccmp.rxReady then d.post rounds.flatten else wifiRxProbe m d rounds
    if !d.wifi.ccmp.rxReady then (.none, d)
    else if cap < d.wifi.ccmp.rxPayload.length then (.tooLarge, d)
    else (.frame d.wifi.slot, d.slotFreed)

/-- `wifi_send_ethernet` up to its command. -/
def wifiSendPlanned (d : WifiDriver) (dstMac : Option WifiMac) (etherType : UInt16) (payload : List UInt8) :
    Bool × WifiDriver :=
  if !wifiDataLinkReady d.wifi then (false, d)
  else
    let r := wifiCcmpBuildEthernetFrame d.wifi dstMac etherType payload
    let d := { d with wifi := r.2 }
    if r.1 ≠ 0 then (false, d) else wifiTxcmdBuildPlan d .data r.2.ccmp.dataFrame

/-- `wifi_send_ethernet`; `false` is -1. -/
def wifiSendEthernet (m : WifiMachine) (d : WifiDriver) (dstMac : Option WifiMac) (etherType : UInt16)
    (payload : List UInt8) (w : List WifiRound) : Bool × WifiDriver :=
  let r := wifiSendPlanned d dstMac etherType payload
  if !r.1 then (false, r.2.post (wifiArrivals w)) else wifiTxcmdArmPlan m r.2 w

/-! ## What a poll does to the ring and the slot -/

/-- At most one completion was consumed, a good one, and its payload is in the slot. -/
inductive WifiPolled (d : WifiDriver) (posts : List WifiCompletion) (t : WifiDriver) : Prop
  | missed (waiting : t.waiting = d.waiting ++ posts) (packets : t.rx.packets = d.rx.packets)
      (pending : t.wifi.pending = d.wifi.pending)
  | took (c : WifiCompletion) (good : c.good = true) (waiting : d.waiting ++ posts = c :: t.waiting)
      (packets : t.rx.packets = d.rx.packets + 1)
      (pending : t.wifi.pending = (wifiDeliveryOf d.wifi c.packet).or d.wifi.pending)

/-- What came before the poll touched neither the ring nor the slot nor the link. -/
theorem WifiPolled.before {d u t : WifiDriver} {posts : List WifiCompletion} (h : WifiPolled u posts t)
    (hrx : u.rx = d.rx) (hwifi : ∃ c b, u.wifi = { d.wifi with ccmp := c, bind := b })
    (hpending : u.wifi.pending = d.wifi.pending) : WifiPolled d posts t := by
  obtain ⟨c, b, hwifi⟩ := hwifi
  have hwaiting : u.waiting = d.waiting := by rw [WifiDriver.waiting, WifiDriver.waiting, hrx]
  cases h with
  | missed waiting packets pending =>
      exact .missed (hwaiting ▸ waiting) (hrx ▸ packets) (pending.trans hpending)
  | took c' good waiting packets pending =>
      refine .took c' good (hwaiting ▸ waiting) (hrx ▸ packets) ?_
      rw [pending, hpending, hwifi, wifiDeliveryOf_congr]

/-- What comes behind the poll touches neither the ring nor the slot. -/
theorem WifiPolled.behind {d u t : WifiDriver} {posts : List WifiCompletion} (h : WifiPolled d posts u)
    (hrx : t.rx = u.rx) (hpending : t.wifi.pending = u.wifi.pending) : WifiPolled d posts t := by
  have hwaiting : t.waiting = u.waiting := by rw [WifiDriver.waiting, WifiDriver.waiting, hrx]
  cases h with
  | missed waiting packets pending =>
      exact .missed (hwaiting.trans waiting) (hrx ▸ packets) (hpending.trans pending)
  | took c good waiting packets pending =>
      exact .took c good (hwaiting ▸ waiting) (hrx ▸ packets) (hpending.trans pending)

theorem wifiPolled_post {d : WifiDriver} {posts : List WifiCompletion} (hroom : d.Room posts.length) :
    WifiPolled d posts (d.post posts) := .missed (WifiDriver.waiting_post hroom) rfl rfl

theorem wifiPolled_consumed {d : WifiDriver} {c : WifiCompletion} {cs posts : List WifiCompletion}
    (h : d.waiting = c :: cs) (hgood : c.good = true) (hroom : d.Room posts.length) :
    WifiPolled d posts ((d.consumed c).post posts) := by
  obtain ⟨-, hrest⟩ := wifiRxParseOne_good h hgood
  have hroom' : (d.consumed c).Room posts.length := by
    rw [WifiDriver.Room, hrest]
    rw [WifiDriver.Room, h, List.length_cons] at hroom
    omega
  refine .took c hgood ?_ rfl (wifiRxHandle_pending _ _)
  rw [WifiDriver.waiting_post hroom', hrest, h, List.cons_append]

theorem WifiPolled.of_bad {d : WifiDriver} {rx : WifiRx} {posts : List WifiCompletion}
    (hring : rx.ring = d.rx.ring) (hpackets : rx.packets = d.rx.packets) (hroom : d.Room posts.length) :
    WifiPolled d posts (({ d with rx := rx } : WifiDriver).post posts) := by
  have hsame : ({ d with rx := rx } : WifiDriver).waiting = d.waiting := by
    rw [WifiDriver.waiting, WifiDriver.waiting, hring]
  have hroom' : ({ d with rx := rx } : WifiDriver).Room posts.length := by
    rw [WifiDriver.Room, hsame]
    exact hroom
  refine .missed ?_ hpackets rfl
  rw [WifiDriver.waiting_post hroom', hsame]

/-- What is polled behind earlier posts is polled behind all of them. -/
theorem WifiPolled.posted {d t : WifiDriver} {posts rest : List WifiCompletion}
    (hwaiting : (d.post posts).waiting = d.waiting ++ posts) (h : WifiPolled (d.post posts) rest t) :
    WifiPolled d (posts ++ rest) t := by
  cases h with
  | missed waiting packets pending =>
      exact .missed (by rw [waiting, hwaiting, List.append_assoc]) packets pending
  | took c good waiting packets pending =>
      exact .took c good (by rw [← waiting, hwaiting, List.append_assoc]) packets pending

/-- The polling of `wifi_rx_probe` consumes the first completion if that is good. -/
theorem wifiRxPoll_spec {d : WifiDriver} {rounds : List (List WifiCompletion)}
    (hroom : d.Room rounds.flatten.length) :
    WifiPolled d rounds.flatten (wifiRxPoll d rounds).2 ∧ (wifiRxPoll d rounds).2.cmd = d.cmd ∧
      ∀ c cs, rounds ≠ [] → d.waiting ++ rounds.flatten = c :: cs → c.good = true →
        (wifiRxPoll d rounds).2.rx.packets = d.rx.packets + 1 := by
  induction rounds generalizing d with
  | nil => exact ⟨.missed (by simp [wifiRxPoll]) rfl rfl, rfl, fun _ _ h => absurd rfl h⟩
  | cons posts rounds ih =>
      rw [List.flatten_cons, List.length_append] at hroom
      have hwaiting := @WifiDriver.waiting_post d posts (by rw [WifiDriver.Room] at hroom ⊢; omega)
      have hroom' : (d.post posts).Room rounds.flatten.length := by
        rw [WifiDriver.Room, hwaiting, List.length_append]
        rw [WifiDriver.Room] at hroom
        omega
      rw [List.flatten_cons, wifiRxPoll, ← List.append_assoc, ← hwaiting]
      cases hhead : (d.post posts).waiting with
      | nil =>
          obtain ⟨hpolled, hcmd, hlooks⟩ := ih hroom'
          rw [wifiRxParseOne_empty hhead]
          simp only [ne_eq, not_true_eq_false, if_false]
          refine ⟨hpolled.posted hwaiting, hcmd, fun c cs _ hfirst hgood => ?_⟩
          refine hlooks c cs ?_ (by rw [hhead]; exact hfirst) hgood
          rintro rfl
          simp at hfirst
      | cons c cs =>
          cases hgood : c.good with
          | true =>
              rw [(wifiRxParseOne_good hhead hgood).1]
              simp only [ne_eq, Int.one_ne_zero, not_false_eq_true, if_true]
              exact ⟨(wifiPolled_consumed hhead hgood hroom').posted hwaiting, rfl, fun _ _ _ _ _ => rfl⟩
          | false =>
              obtain ⟨rx, hparse, hring, hpackets, -, -⟩ := wifiRxParseOne_bad hhead hgood
              rw [hparse]
              simp only [ne_eq, Int.reduceNeg, Int.neg_eq_zero, Int.one_ne_zero, not_false_eq_true, if_true]
              refine ⟨(WifiPolled.of_bad hring hpackets hroom').posted hwaiting, rfl, fun c' cs' _ hfirst h => ?_⟩
              rw [List.cons_append, List.cons.injEq] at hfirst
              rw [hfirst.1, h] at hgood
              simp at hgood

/-! ## The context stays ready -/

/-- The context and the queues are ready, so that their setup is not run again. -/
structure WifiDriver.Ready (d : WifiDriver) : Prop where
  context : d.cmd.contextReady = true
  queues : d.cmd.queuesReady = true

/-- Command fields with the context as it is. -/
structure WifiCmd.SameContext (c : WifiCmd) (d : WifiDriver) : Prop where
  ready : c.contextReady = true
  queues : c.queuesReady = true
  armed : c.contextArmed = d.cmd.contextArmed

theorem WifiDriver.Ready.resolved {d : WifiDriver} (h : d.Ready) (m : WifiMachine) :
    (d.cmd.resolved m).SameContext d := by
  rw [WifiCmd.resolved_eq]
  exact ⟨h.context, h.queues, rfl⟩

theorem wifiStageCommandPayload_frame {m : WifiMachine} {d : WifiDriver} (cmdId groupId : UInt8)
    (payloadLen : Nat) (hready : d.Ready) :
    ∃ c, (wifiStageCommandPayload m d cmdId groupId payloadLen).2 = { d with cmd := c } ∧ c.SameContext d := by
  have hresolved := hready.resolved m
  simp only [wifiStageCommandPayload, hready.context, hready.queues, if_true, Bool.not_true, Bool.or_self,
    Bool.false_eq_true, if_false]
  split
  · exact ⟨d.cmd, rfl, hready.context, hready.queues, rfl⟩
  split
  · exact ⟨_, rfl, hresolved⟩
  split
  · exact ⟨_, rfl, hresolved⟩
  split
  · exact ⟨_, rfl, hresolved⟩
  · exact ⟨_, rfl, hresolved.ready, hresolved.queues, hresolved.armed⟩

theorem wifiPrepareSchedulerCommand_frame {m : WifiMachine} {d : WifiDriver} (hready : d.Ready) :
    ∃ c, (wifiPrepareSchedulerCommand m d).2 = { d with cmd := c } ∧ c.SameContext d := by
  have hresolved := hready.resolved m
  simp only [wifiPrepareSchedulerCommand, hready.context, hready.queues, if_true, Bool.not_true, Bool.or_self,
    Bool.false_eq_true, if_false]
  split
  · exact ⟨_, rfl, hresolved⟩
  split
  · exact ⟨_, rfl, hresolved⟩
  · obtain ⟨c, hc, hcontext, hqueues, harmed⟩ := @wifiStageCommandPayload_frame m
      { d with cmd := d.cmd.resolved m } 0x1d 0x01 24 ⟨hresolved.ready, hresolved.queues⟩
    exact ⟨c, hc, hcontext, hqueues, harmed.trans hresolved.armed⟩

/-- A poll, and the context as it was. -/
structure WifiPolledReady (d : WifiDriver) (posts : List WifiCompletion) (t : WifiDriver) : Prop where
  polled : WifiPolled d posts t
  ready : t.Ready

theorem wifiCommandProbe_polled {m : WifiMachine} {d : WifiDriver} {w : List WifiRound} (hready : d.Ready)
    (hroom : d.Room (wifiArrivals w).length) :
    WifiPolledReady d (wifiArrivals w) (wifiCommandProbe m d w).2 := by
  have hstaged : ∃ c, (if d.cmd.ready then (true, d) else wifiPrepareSchedulerCommand m d).2 =
      { d with cmd := c } ∧ c.contextReady = true ∧ c.queuesReady = true := by
    split
    · exact ⟨d.cmd, rfl, hready.context, hready.queues⟩
    · obtain ⟨c, hc, hcontext, hqueues, -⟩ := @wifiPrepareSchedulerCommand_frame m d hready
      exact ⟨c, hc, hcontext, hqueues⟩
  obtain ⟨c, hc, hcontext, hqueues⟩ := hstaged
  simp only [wifiCommandProbe]
  generalize (if d.cmd.ready then (true, d) else wifiPrepareSchedulerCommand m d) = r at hc ⊢
  split
  · exact ⟨wifiPolled_post hroom, hready.context, hready.queues⟩
  split
  · rw [hc]
    exact ⟨(wifiPolled_post (d := { d with cmd := c }) hroom).before rfl ⟨d.wifi.ccmp, d.wifi.bind, rfl⟩ rfl,
      hcontext, hqueues⟩
  split
  · rw [hc]
    exact ⟨(wifiPolled_post (d := wifiCommandMarkFailure { d with cmd := c }) hroom).before rfl
      ⟨d.wifi.ccmp, d.wifi.bind, rfl⟩ rfl, hcontext, hqueues⟩
  rw [hc]
  have hpoll : WifiPolledReady d (wifiArrivals w)
      (wifiCommandPoll d.rx.packets w { d with cmd := c.rung }).2 := by
    obtain ⟨htaken, hmissed⟩ := @wifiCommandPoll_spec { d with cmd := c.rung } w hroom
    by_cases hgood : ∃ x, wifiWindowSees d.waiting w = some x ∧ x.good = true
    · obtain ⟨x, hx, hgood⟩ := hgood
      obtain ⟨-, h⟩ := htaken x hx hgood
      refine ⟨.took x hgood h.waiting h.packets ?_, ?_, ?_⟩
      · rw [h.wifi]
        exact wifiRxHandle_pending _ _
      · rw [h.cmd]
        exact hcontext
      · rw [h.cmd]
        exact hqueues
    · obtain ⟨-, h⟩ := hmissed fun x hx => by
        rw [← Bool.not_eq_true]
        exact fun hxgood => hgood ⟨x, hx, hxgood⟩
      refine ⟨.missed h.waiting h.packets (by rw [h.wifi]), ?_, ?_⟩
      · rcases h.cmd with hcmd | hcmd <;> rw [hcmd] <;> exact hcontext
      · rcases h.cmd with hcmd | hcmd <;> rw [hcmd] <;> exact hqueues
  split
  · exact ⟨hpoll.polled.behind rfl rfl, hpoll.ready.context, hpoll.ready.queues⟩
  · exact hpoll

theorem wifiConnectRefreshAssociationState_pending (s : Wifi) :
    (wifiConnectRefreshAssociationState s).pending = s.pending := by
  obtain ⟨_, _, _, h⟩ := wifiConnectRefreshAssociationState_writes s
  rw [h]
  rfl

theorem wifiKeyInstalled_pending (d : WifiDriver) : (wifiKeyInstalled d).wifi.pending = d.wifi.pending := by
  simp only [wifiKeyInstalled, wifiConnectRefreshAssociationState_pending]
  rfl

theorem wifiTxcmdAcked_pending (d : WifiDriver) : (wifiTxcmdAcked d).wifi.pending = d.wifi.pending := by
  simp only [wifiTxcmdAcked, wifiConnectRefreshAssociationState_pending]
  cases d.txPlan.kind with
  | auth => rfl
  | assoc => rfl
  | eapolM2 => rfl
  | eapolM4 => rfl
  | data => rfl

theorem WifiPolledReady.staged {d t : WifiDriver} {posts : List WifiCompletion} {c : WifiCmd} {b : WifiBind}
    (h : WifiPolledReady { d with cmd := c, wifi := { d.wifi with bind := b } } posts t) :
    WifiPolledReady d posts t :=
  ⟨h.polled.before rfl ⟨d.wifi.ccmp, b, rfl⟩ rfl, h.ready⟩

theorem wifiArmStep_polled {m : WifiMachine} {d : WifiDriver} {w : List WifiRound} (arm : WifiArm)
    (hready : d.Ready) (hroom : d.Room (wifiArrivals w).length) :
    WifiPolledReady d (wifiArrivals w) (wifiArmStep m d w arm).2 := by
  have hrefused : ∀ c b, c.contextReady = true → c.queuesReady = true →
      WifiPolledReady d (wifiArrivals w)
        (({ d with cmd := c, wifi := { d.wifi with bind := b } } : WifiDriver).post (wifiArrivals w)) :=
    fun c b hcontext hqueues => WifiPolledReady.staged ⟨wifiPolled_post hroom, hcontext, hqueues⟩
  have hprobe : ∀ c b, c.contextReady = true → c.queuesReady = true →
      WifiPolledReady d (wifiArrivals w)
        (wifiCommandProbe m { d with cmd := c, wifi := { d.wifi with bind := b } } w).2 :=
    fun c b hcontext hqueues => WifiPolledReady.staged (wifiCommandProbe_polled ⟨hcontext, hqueues⟩ hroom)
  cases arm with
  | bind step cmdId groupId commandLen =>
      obtain ⟨c, hc, hcontext, hqueues, -⟩ := @wifiStageCommandPayload_frame m d cmdId groupId
        (commandLen - wifiCmdHeaderBytes) hready
      simp only [wifiArmStep, wifiBindArmOne, hc]
      split
      · exact hrefused d.cmd d.wifi.bind.markFailure hready.context hready.queues
      split
      · exact hrefused c d.wifi.bind.markFailure hcontext hqueues
      have h := hprobe c { d.wifi.bind with armed := true, timeout := false } hcontext hqueues
      split
      · exact ⟨h.polled.behind rfl rfl, h.ready.context, h.ready.queues⟩
      · exact ⟨h.polled.behind rfl rfl, h.ready.context, h.ready.queues⟩
  | key =>
      obtain ⟨c, hc, hcontext, hqueues, -⟩ := @wifiStageCommandPayload_frame m d 0x18 0x05
        (d.keyPlan.commandLen - wifiCmdHeaderBytes) hready
      simp only [wifiArmStep, wifiKeyArmPlan, hc]
      split
      · exact hrefused d.cmd d.wifi.bind hready.context hready.queues
      split
      · exact hrefused c d.wifi.bind hcontext hqueues
      have h := hprobe c d.wifi.bind hcontext hqueues
      split
      · exact ⟨h.polled.behind rfl (wifiKeyInstalled_pending _), h.ready.context, h.ready.queues⟩
      · exact h
  | txcmd =>
      obtain ⟨c, hc, hcontext, hqueues, -⟩ := @wifiStageCommandPayload_frame m d 0x1c 0x00
        (d.txPlan.commandLen - wifiCmdHeaderBytes) hready
      simp only [wifiArmStep, wifiTxcmdArmPlan, hc]
      split
      · exact hrefused d.cmd d.wifi.bind hready.context hready.queues
      split
      · exact hrefused c d.wifi.bind hcontext hqueues
      have h := hprobe c d.wifi.bind hcontext hqueues
      split
      · exact ⟨h.polled.behind rfl (wifiTxcmdAcked_pending _), h.ready.context, h.ready.queues⟩
      · exact h

/-- Building a frame touches the data fields only, and the slot not at all. -/
theorem wifiCcmpBuildEthernetFrame_frame (s : Wifi) (dstMac : Option WifiMac) (etherType : UInt16)
    (payload : List UInt8) :
    ∃ c, (wifiCcmpBuildEthernetFrame s dstMac etherType payload).2 = { s with ccmp := c } ∧
      (wifiCcmpBuildEthernetFrame s dstMac etherType payload).2.pending = s.pending := by
  simp only [wifiCcmpBuildEthernetFrame]
  split
  · exact ⟨s.ccmp, rfl, rfl⟩
  split
  · exact ⟨s.ccmp, rfl, rfl⟩
  split
  · exact ⟨s.ccmp, rfl, rfl⟩
  split
  · exact ⟨_, rfl, rfl⟩
  split
  · exact ⟨_, rfl, rfl⟩
  split <;> exact ⟨_, rfl, rfl⟩

/-- What `wifi_send_ethernet` does before its command. -/
theorem wifiSendPlanned_frame (d : WifiDriver) (dstMac : Option WifiMac) (etherType : UInt16)
    (payload : List UInt8) :
    ∃ c plan, (wifiSendPlanned d dstMac etherType payload).2 =
        { d with wifi := { d.wifi with ccmp := c }, txPlan := plan } ∧
      (wifiSendPlanned d dstMac etherType payload).2.wifi.pending = d.wifi.pending := by
  obtain ⟨c, hc, hpending⟩ := wifiCcmpBuildEthernetFrame_frame d.wifi dstMac etherType payload
  rw [hc] at hpending
  simp only [wifiSendPlanned, hc]
  split
  · exact ⟨d.wifi.ccmp, d.txPlan, rfl, rfl⟩
  split
  · exact ⟨c, d.txPlan, rfl, hpending⟩
  simp only [wifiTxcmdBuildPlan]
  split
  · exact ⟨c, _, rfl, hpending⟩
  split <;> exact ⟨c, _, rfl, hpending⟩

/-- `wifi_send_ethernet` polls at most once. -/
theorem wifiSendEthernet_polled {m : WifiMachine} {d : WifiDriver} {w : List WifiRound}
    (dstMac : Option WifiMac)
    (etherType : UInt16) (payload : List UInt8) (hready : d.Ready) (hroom : d.Room (wifiArrivals w).length) :
    WifiPolledReady d (wifiArrivals w) (wifiSendEthernet m d dstMac etherType payload w).2 := by
  obtain ⟨c, plan, hplanned, hpending⟩ := wifiSendPlanned_frame d dstMac etherType payload
  have hbefore : ∀ t, WifiPolledReady (wifiSendPlanned d dstMac etherType payload).2 (wifiArrivals w) t →
      WifiPolledReady d (wifiArrivals w) t := fun t h => by
    refine ⟨h.polled.before ?_ ⟨c, d.wifi.bind, ?_⟩ hpending, h.ready⟩
    · rw [hplanned]
    · rw [hplanned]
  have hready' : (wifiSendPlanned d dstMac etherType payload).2.Ready := by
    rw [hplanned]
    exact ⟨hready.context, hready.queues⟩
  have hroom' : (wifiSendPlanned d dstMac etherType payload).2.Room (wifiArrivals w).length := by
    rw [hplanned]
    exact hroom
  simp only [wifiSendEthernet]
  split
  · exact hbefore _ ⟨wifiPolled_post hroom', hready'.context, hready'.queues⟩
  · exact hbefore _ (wifiArmStep_polled .txcmd hready' hroom')

/-! ## Calls and what they owe -/

/-- The calls that consume completions, each with what the firmware does meanwhile. -/
inductive WifiCall
  | recv (cap : Nat) (rounds : List (List WifiCompletion))
  | send (dstMac : Option WifiMac) (etherType : UInt16) (payload : List UInt8) (w : List WifiRound)
  | probe (rounds : List (List WifiCompletion))
  | command (w : List WifiRound)
  | arm (step : WifiArm) (w : List WifiRound)

/-- What the firmware posts meanwhile. -/
def WifiCall.posts : WifiCall → List WifiCompletion
  | recv _ rounds => rounds.flatten
  | send _ _ _ w => wifiArrivals w
  | probe rounds => rounds.flatten
  | command w => wifiArrivals w
  | arm _ w => wifiArrivals w

/-- The driver after the call. -/
def wifiCallNext (m : WifiMachine) (d : WifiDriver) : WifiCall → WifiDriver
  | .recv cap rounds => (wifiRecvEthernet m d cap rounds).2
  | .send dstMac etherType payload w => (wifiSendEthernet m d dstMac etherType payload w).2
  | .probe rounds => wifiRxProbe m d rounds
  | .command w => (wifiCommandProbe m d w).2
  | .arm step w => (wifiArmStep m d w step).2

/-- The completions that the call consumes, by the driver's own count. -/
def wifiConsumed (m : WifiMachine) (d : WifiDriver) (call : WifiCall) : List WifiCompletion :=
  (d.waiting ++ call.posts).take ((wifiCallNext m d call).rx.packets - d.rx.packets)

/-- The payloads accepted from them. -/
def wifiAccepted (m : WifiMachine) (d : WifiDriver) (call : WifiCall) : List WifiDelivery :=
  (wifiConsumed m d call).filterMap fun c => wifiDeliveryOf d.wifi c.packet

/-- The payload that the call returns, or reports as too large. -/
def wifiHanded (m : WifiMachine) (d : WifiDriver) : WifiCall → List WifiDelivery
  | .recv cap rounds =>
      match wifiRecvEthernet m d cap rounds with
      | (.frame v, _) => [v]
      | (.tooLarge, t) => [t.wifi.slot]
      | _ => []
  | _ => []

/-- The call gets to its poll, and the poll finds a completion. -/
def WifiCall.Looks (m : WifiMachine) (d : WifiDriver) : WifiCall → Prop
  | recv _ rounds => wifiDataLinkReady d.wifi = true ∧ d.wifi.ccmp.rxReady = false ∧ rounds ≠ [] ∧
      d.waiting ++ rounds.flatten ≠ []
  | send dstMac etherType payload w =>
      let r := wifiSendPlanned d dstMac etherType payload
      r.1 = true ∧ WifiArm.txcmd.Rings m r.2 ∧ ∃ c, wifiWindowSees d.waiting w = some c
  | probe rounds => d.wifi.present = true ∧ rounds ≠ [] ∧ d.waiting ++ rounds.flatten ≠ []
  | command w => d.wifi.present = true ∧ d.cmd.ready = true ∧ d.cmd.contextArmed = true ∧
      d.rx.pathReady = true ∧ ∃ c, wifiWindowSees d.waiting w = some c
  | arm step w => step.Rings m d ∧ ∃ c, wifiWindowSees d.waiting w = some c

/-- Completions are consumed in order, each once, and one of them whenever the call finds one;
and the payloads accepted are handed out in order, each once, before the next one. -/
structure WifiCall.Lawful (m : WifiMachine) (d : WifiDriver) (call : WifiCall) : Prop where
  ring : d.waiting ++ call.posts = wifiConsumed m d call ++ (wifiCallNext m d call).waiting
  looks : call.Looks m d → wifiConsumed m d call ≠ []
  slot : d.wifi.pending.toList ++ wifiAccepted m d call =
    wifiHanded m d call ++ (wifiCallNext m d call).wifi.pending.toList

/-- The firmware keeps within the ring, and a call that gets to its poll finds no bad completion
first.  A call that may consume one while a payload waits consumes none with a payload; and the
buffer to receive holds the payload that waits, or else the one that is delivered. -/
def WifiCall.Safe (m : WifiMachine) (d : WifiDriver) (call : WifiCall) : Prop :=
  let first := (d.waiting ++ call.posts).head?
  d.Room call.posts.length ∧ (call.Looks m d → ∀ c ∈ first, c.good = true) ∧
    match call with
    | recv cap _ => wifiDataLinkReady d.wifi = true →
        ∀ v ∈ d.wifi.pending.or (first.bind fun c => wifiDeliveryOf d.wifi c.packet), v.payload.length ≤ cap
    | _ => d.wifi.ccmp.rxReady = true → ∀ c ∈ first, wifiDeliveryOf d.wifi c.packet = none

theorem WifiCall.lawful_of_missed {m : WifiMachine} {d : WifiDriver} {call : WifiCall}
    (hwaiting : (wifiCallNext m d call).waiting = d.waiting ++ call.posts)
    (hpackets : (wifiCallNext m d call).rx.packets = d.rx.packets) (hlooks : ¬ call.Looks m d)
    (hslot : d.wifi.pending.toList = wifiHanded m d call ++ (wifiCallNext m d call).wifi.pending.toList) :
    call.Lawful m d := by
  have hnone : wifiConsumed m d call = [] := by rw [wifiConsumed, hpackets, Nat.sub_self, List.take_zero]
  refine ⟨by rw [hnone, hwaiting, List.nil_append], fun h => absurd h hlooks, ?_⟩
  rw [wifiAccepted, hnone, List.filterMap_nil, List.append_nil, hslot]

theorem WifiCall.lawful_of_took {m : WifiMachine} {d : WifiDriver} {call : WifiCall} {c : WifiCompletion}
    (hwaiting : d.waiting ++ call.posts = c :: (wifiCallNext m d call).waiting)
    (hpackets : (wifiCallNext m d call).rx.packets = d.rx.packets + 1)
    (hslot : d.wifi.pending.toList ++ (wifiDeliveryOf d.wifi c.packet).toList =
      wifiHanded m d call ++ (wifiCallNext m d call).wifi.pending.toList) :
    call.Lawful m d := by
  have hone : wifiConsumed m d call = [c] := by
    rw [wifiConsumed, hpackets, hwaiting, Nat.add_sub_cancel_left]
    rfl
  refine ⟨by rw [hone, hwaiting, List.singleton_append], fun _ => by rw [hone]; simp, ?_⟩
  rw [wifiAccepted, hone, ← hslot]
  cases hdelivery : wifiDeliveryOf d.wifi c.packet with
  | none => simp [hdelivery]
  | some v => simp [hdelivery]

theorem WifiCall.lawful_of_polled {m : WifiMachine} {d : WifiDriver} {call : WifiCall}
    (hpolled : WifiPolled d call.posts (wifiCallNext m d call)) (hhanded : wifiHanded m d call = [])
    (hslot : d.wifi.ccmp.rxReady = true →
      ∀ c ∈ (d.waiting ++ call.posts).head?, wifiDeliveryOf d.wifi c.packet = none)
    (hlooks : call.Looks m d → (wifiCallNext m d call).rx.packets = d.rx.packets + 1) :
    call.Lawful m d := by
  cases hpolled with
  | missed waiting packets pending =>
      refine lawful_of_missed waiting packets (fun h => ?_) ?_
      · have hmore := hlooks h
        omega
      · rw [hhanded, pending, List.nil_append]
  | took c good waiting packets pending =>
      refine lawful_of_took waiting packets ?_
      rw [hhanded, pending, List.nil_append]
      cases hready : d.wifi.ccmp.rxReady with
      | true =>
          have hnone := hslot hready c (by rw [waiting]; rfl)
          simp [hnone]
      | false =>
          have hempty : d.wifi.pending = none := by simp [Wifi.pending, hready]
          rw [hempty, Option.or_none, Option.toList_none, List.nil_append]

/-! ## A call that finds a completion consumes it -/

theorem wifiWindowSees_head {pending : List WifiCompletion} {w : List WifiRound} {c : WifiCompletion}
    (h : wifiWindowSees pending w = some c) : c ∈ (pending ++ wifiArrivals w).head? := by
  induction w generalizing pending with
  | nil => simp [wifiWindowSees] at h
  | cons round w ih =>
      rw [wifiArrivals_cons, ← List.append_assoc]
      rw [wifiWindowSees] at h
      split at h
      · simp at h
      cases hhead : pending ++ round.posts with
      | nil => exact ih (by simpa [hhead] using h)
      | cons c' cs => simpa [hhead] using h

/-- The polling of `wifi_rx_probe` with a good completion first. -/
theorem wifiRxProbe_polled {m : WifiMachine} {d : WifiDriver} {rounds : List (List WifiCompletion)}
    (hready : d.Ready) (hroom : d.Room rounds.flatten.length) :
    WifiPolledReady d rounds.flatten (wifiRxProbe m d rounds) ∧
      (d.wifi.present = true → rounds ≠ [] → d.waiting ++ rounds.flatten ≠ [] →
        (∀ c ∈ (d.waiting ++ rounds.flatten).head?, c.good = true) →
        (wifiRxProbe m d rounds).rx.packets = d.rx.packets + 1) := by
  obtain ⟨hpolled, hcmd, hpackets⟩ := wifiRxPoll_spec hroom
  simp only [wifiRxProbe, hready.queues, if_true, Bool.not_true, Bool.false_eq_true, if_false]
  split
  · rename_i habsent
    exact ⟨⟨wifiPolled_post hroom, hready.context, hready.queues⟩, fun hpresent => by simp [hpresent] at habsent⟩
  refine ⟨⟨hpolled, by rw [hcmd]; exact hready.context, by rw [hcmd]; exact hready.queues⟩,
    fun _ hrounds hsome hgood => ?_⟩
  obtain ⟨c, cs, hfirst⟩ := List.exists_cons_of_ne_nil hsome
  exact hpackets c cs hrounds hfirst (hgood c (by rw [hfirst]; rfl))

/-- An arm step that rings its doorbell consumes the good completion that it sees. -/
theorem wifiArmStep_packets {m : WifiMachine} {d : WifiDriver} {w : List WifiRound} {arm : WifiArm}
    {c : WifiCompletion} (hrings : arm.Rings m d) (hroom : d.Room (wifiArrivals w).length)
    (hsees : wifiWindowSees d.waiting w = some c) (hgood : c.good = true) :
    (wifiArmStep m d w arm).2.rx.packets = d.rx.packets + 1 := by
  have hup := hrings.up
  have harmed : (d.cmd.resolved m).contextArmed = true := by
    rw [WifiCmd.resolved_eq]
    exact hup.contextArmed
  obtain ⟨f, -, hrx⟩ := hrings.probes w
  rw [hrx]
  exact ((@wifiCommandProbe_spec m
    (({ d with cmd := (d.cmd.resolved m).staged arm.cmdId arm.groupId } : WifiDriver).bind f) w
    hup.present rfl harmed hup.pathReady hroom).1 c hsees hgood).packets

/-! ## Receiving -/

/-- What `wifi_recv_ethernet` looks at, over a link that is up. -/
def wifiRecvLooked (m : WifiMachine) (d : WifiDriver) (rounds : List (List WifiCompletion)) : WifiDriver :=
  if d.wifi.ccmp.rxReady then d.post rounds.flatten else wifiRxProbe m d rounds

/-- What is looked at is the whole of what is done to the ring and to the commands. -/
theorem wifiRecvEthernet_looked {m : WifiMachine} {d : WifiDriver} {cap : Nat}
    {rounds : List (List WifiCompletion)} (hlink : wifiDataLinkReady d.wifi = true) :
    (wifiCallNext m d (.recv cap rounds)).rx = (wifiRecvLooked m d rounds).rx ∧
      (wifiCallNext m d (.recv cap rounds)).cmd = (wifiRecvLooked m d rounds).cmd := by
  simp only [wifiCallNext, wifiRecvEthernet, hlink, Bool.not_true, Bool.false_eq_true, if_false]
  rw [← wifiRecvLooked]
  split
  · exact ⟨rfl, rfl⟩
  split
  · exact ⟨rfl, rfl⟩
  · exact ⟨rfl, rfl⟩

theorem wifiRecvEthernet_hands {m : WifiMachine} {d : WifiDriver} {cap : Nat}
    {rounds : List (List WifiCompletion)} (hlink : wifiDataLinkReady d.wifi = true)
    (hfits : ∀ v ∈ (wifiRecvLooked m d rounds).wifi.pending, v.payload.length ≤ cap) :
    (wifiRecvLooked m d rounds).wifi.pending.toList =
      wifiHanded m d (.recv cap rounds) ++ (wifiCallNext m d (.recv cap rounds)).wifi.pending.toList := by
  simp only [wifiHanded, wifiCallNext, wifiRecvEthernet, hlink, Bool.not_true, Bool.false_eq_true, if_false]
  rw [← wifiRecvLooked]
  generalize wifiRecvLooked m d rounds = u at hfits ⊢
  cases hwaits : u.wifi.ccmp.rxReady with
  | false => simp [Wifi.pending, hwaits]
  | true =>
      have hslot : u.wifi.pending = some u.wifi.slot := by rw [Wifi.pending, if_pos hwaits]
      have hfits : ¬ cap < u.wifi.ccmp.rxPayload.length := Nat.not_lt.mpr (hfits u.wifi.slot hslot)
      simp [Wifi.pending, WifiDriver.slotFreed, hwaits, hfits]

theorem wifiRecvEthernet_refused {m : WifiMachine} {d : WifiDriver} {cap : Nat}
    {rounds : List (List WifiCompletion)} (hlink : ¬ wifiDataLinkReady d.wifi = true) :
    wifiRecvEthernet m d cap rounds = (.refused, d.post rounds.flatten) := by
  rw [wifiRecvEthernet, if_pos (by simpa using hlink)]

theorem wifiRecvLooked_polled {m : WifiMachine} {d : WifiDriver} {rounds : List (List WifiCompletion)}
    (hready : d.Ready) (hroom : d.Room rounds.flatten.length) :
    WifiPolledReady d rounds.flatten (wifiRecvLooked m d rounds) := by
  rw [wifiRecvLooked]
  split
  · exact ⟨wifiPolled_post hroom, hready.context, hready.queues⟩
  · exact (wifiRxProbe_polled hready hroom).1

/-- `wifi_recv_ethernet` is lawful. -/
theorem WifiCall.recv_lawful {m : WifiMachine} {d : WifiDriver} {cap : Nat} {rounds : List (List WifiCompletion)}
    (hready : d.Ready) (hsafe : (WifiCall.recv cap rounds).Safe m d) :
    (WifiCall.recv cap rounds).Lawful m d := by
  obtain ⟨hroom, hgood, hfits⟩ := hsafe
  by_cases hlink : wifiDataLinkReady d.wifi = true
  swap
  · have hrefused := @wifiRecvEthernet_refused m d cap rounds hlink
    refine WifiCall.lawful_of_missed ?_ ?_ (fun h => hlink h.1) ?_
    · rw [wifiCallNext, hrefused]
      exact WifiDriver.waiting_post hroom
    · rw [wifiCallNext, hrefused]
      rfl
    · simp [wifiHanded, wifiCallNext, hrefused]
  have hfits : ∀ v ∈ d.wifi.pending.or ((d.waiting ++ rounds.flatten).head?.bind fun c =>
      wifiDeliveryOf d.wifi c.packet), v.payload.length ≤ cap := hfits hlink
  obtain ⟨hrx, -⟩ := @wifiRecvEthernet_looked m d cap rounds hlink
  have hwaiting : (wifiCallNext m d (recv cap rounds)).waiting = (wifiRecvLooked m d rounds).waiting :=
    congrArg (fun rx => rx.ring.contents) hrx
  have hhands := @wifiRecvEthernet_hands m d cap rounds hlink
  cases hwaits : d.wifi.ccmp.rxReady with
  | true =>
      have hlooked : wifiRecvLooked m d rounds = d.post rounds.flatten :=
        by rw [wifiRecvLooked, if_pos hwaits]
      rw [hlooked] at hhands hrx hwaiting
      refine WifiCall.lawful_of_missed (hwaiting.trans (WifiDriver.waiting_post hroom)) (by rw [hrx]; rfl)
        (fun h => ?_) (hhands fun v hv => ?_)
      · have hfree := h.2.1
        simp [hwaits] at hfree
      · rw [WifiDriver.post_wifi] at hv
        exact hfits v (by rw [hv]; rfl)
  | false =>
      have hpending : d.wifi.pending = none := by simp [Wifi.pending, hwaits]
      have hlooked : wifiRecvLooked m d rounds = wifiRxProbe m d rounds := by simp [wifiRecvLooked, hwaits]
      obtain ⟨⟨hpolled, -⟩, hpackets⟩ := @wifiRxProbe_polled m d rounds hready hroom
      rw [hpending, Option.none_or] at hfits
      rw [hlooked] at hhands hrx hwaiting
      cases hpolled with
      | missed waiting packets pending =>
          rw [pending] at hhands
          refine WifiCall.lawful_of_missed (hwaiting.trans waiting) (hrx ▸ packets) (fun h => ?_)
            (hhands (by simp [hpending]))
          have hmore := hpackets (by simp_all [wifiDataLinkReady]) h.2.2.1 h.2.2.2 (hgood h)
          omega
      | took c good waiting packets pending =>
          rw [hpending, Option.or_none] at pending
          rw [pending] at hhands
          refine WifiCall.lawful_of_took (c := c) (by rw [hwaiting]; exact waiting) (hrx ▸ packets) ?_
          rw [hpending]
          exact hhands fun v hv => hfits v (by rw [waiting]; exact hv)

/-! ## Every call -/

/-- What a call does to the ring. -/
structure WifiCall.Kept (m : WifiMachine) (d : WifiDriver) (call : WifiCall) : Prop where
  ring : ((wifiCallNext m d call).waiting = d.waiting ++ call.posts ∧
      (wifiCallNext m d call).rx.packets = d.rx.packets) ∨
    ∃ c : WifiCompletion, c.good = true ∧ d.waiting ++ call.posts = c :: (wifiCallNext m d call).waiting
  ready : (wifiCallNext m d call).Ready

theorem WifiPolledReady.kept {m : WifiMachine} {d t : WifiDriver} {call : WifiCall}
    (h : WifiPolledReady d call.posts t) (hrx : (wifiCallNext m d call).rx = t.rx)
    (hcmd : (wifiCallNext m d call).cmd = t.cmd) : call.Kept m d := by
  have hwaiting : (wifiCallNext m d call).waiting = t.waiting := congrArg (fun rx => rx.ring.contents) hrx
  refine ⟨?_, hcmd ▸ h.ready.context, hcmd ▸ h.ready.queues⟩
  rw [hwaiting, hrx]
  cases h.polled with
  | missed waiting packets pending => exact .inl ⟨waiting, packets⟩
  | took c good waiting packets pending => exact .inr ⟨c, good, waiting⟩

/-- Every call takes at most the first completion, and only a good one. -/
theorem WifiCall.kept {m : WifiMachine} {d : WifiDriver} (call : WifiCall) (hready : d.Ready)
    (hroom : d.Room call.posts.length) : call.Kept m d := by
  cases call with
  | recv cap rounds =>
      by_cases hlink : wifiDataLinkReady d.wifi = true
      · obtain ⟨hrx, hcmd⟩ := @wifiRecvEthernet_looked m d cap rounds hlink
        exact @WifiPolledReady.kept m d _ (.recv cap rounds) (wifiRecvLooked_polled hready hroom) hrx hcmd
      · have hrefused := @wifiRecvEthernet_refused m d cap rounds hlink
        have hposted : WifiPolledReady d rounds.flatten (d.post rounds.flatten) :=
          ⟨wifiPolled_post hroom, hready.context, hready.queues⟩
        refine hposted.kept ?_ ?_
        · rw [wifiCallNext, hrefused]
        · rw [wifiCallNext, hrefused]
  | send dstMac etherType payload w =>
      exact WifiPolledReady.kept (wifiSendEthernet_polled dstMac etherType payload hready hroom) rfl rfl
  | probe rounds => exact WifiPolledReady.kept (wifiRxProbe_polled hready hroom).1 rfl rfl
  | command w => exact WifiPolledReady.kept (wifiCommandProbe_polled hready hroom) rfl rfl
  | arm step w => exact WifiPolledReady.kept (wifiArmStep_polled step hready hroom) rfl rfl

theorem WifiCall.probe_lawful {m : WifiMachine} {d : WifiDriver} {rounds : List (List WifiCompletion)}
    (hready : d.Ready) (hsafe : (WifiCall.probe rounds).Safe m d) : (WifiCall.probe rounds).Lawful m d := by
  obtain ⟨hroom, hgood, hslot⟩ := hsafe
  obtain ⟨⟨hpolled, -⟩, hpackets⟩ := @wifiRxProbe_polled m d rounds hready hroom
  exact WifiCall.lawful_of_polled hpolled rfl hslot fun h => hpackets h.1 h.2.1 h.2.2 (hgood h)

theorem WifiCall.command_lawful {m : WifiMachine} {d : WifiDriver} {w : List WifiRound} (hready : d.Ready)
    (hsafe : (WifiCall.command w).Safe m d) : (WifiCall.command w).Lawful m d := by
  obtain ⟨hroom, hgood, hslot⟩ := hsafe
  refine WifiCall.lawful_of_polled (wifiCommandProbe_polled hready hroom).polled rfl hslot fun h => ?_
  obtain ⟨hpresent, hstaged, harmed, hpath, c, hsees⟩ := h
  have hgood := hgood ⟨hpresent, hstaged, harmed, hpath, c, hsees⟩ c (wifiWindowSees_head hsees)
  exact ((wifiCommandProbe_spec hpresent hstaged harmed hpath hroom).1 c hsees hgood).packets

theorem WifiCall.arm_lawful {m : WifiMachine} {d : WifiDriver} {step : WifiArm} {w : List WifiRound}
    (hready : d.Ready) (hsafe : (WifiCall.arm step w).Safe m d) : (WifiCall.arm step w).Lawful m d := by
  obtain ⟨hroom, hgood, hslot⟩ := hsafe
  refine WifiCall.lawful_of_polled (wifiArmStep_polled step hready hroom).polled rfl hslot fun h => ?_
  obtain ⟨hrings, c, hsees⟩ := h
  exact wifiArmStep_packets hrings hroom hsees (hgood ⟨hrings, c, hsees⟩ c (wifiWindowSees_head hsees))

theorem WifiCall.send_lawful {m : WifiMachine} {d : WifiDriver} {dstMac : Option WifiMac} {etherType : UInt16}
    {payload : List UInt8} {w : List WifiRound} (hready : d.Ready)
    (hsafe : (WifiCall.send dstMac etherType payload w).Safe m d) :
    (WifiCall.send dstMac etherType payload w).Lawful m d := by
  obtain ⟨hroom, hgood, hslot⟩ := hsafe
  refine WifiCall.lawful_of_polled (wifiSendEthernet_polled dstMac etherType payload hready hroom).polled rfl hslot
    fun h => ?_
  obtain ⟨hplanned, hrings, c, hsees⟩ := h
  have hgood := hgood ⟨hplanned, hrings, c, hsees⟩ c (wifiWindowSees_head hsees)
  obtain ⟨ccmp, plan, hframe, -⟩ := wifiSendPlanned_frame d dstMac etherType payload
  have hpackets := @wifiArmStep_packets m (wifiSendPlanned d dstMac etherType payload).2 w .txcmd c hrings
    (by rw [hframe]; exact hroom) (by rw [hframe]; exact hsees) hgood
  have hsent : wifiCallNext m d (.send dstMac etherType payload w) =
      (wifiArmStep m (wifiSendPlanned d dstMac etherType payload).2 w .txcmd).2 := by
    simp only [wifiCallNext, wifiSendEthernet, hplanned, Bool.not_true, Bool.false_eq_true, if_false, wifiArmStep]
  rw [hsent, hpackets, hframe]

theorem WifiCall.lawful_of_safe {m : WifiMachine} {d : WifiDriver} {call : WifiCall} (hready : d.Ready)
    (hsafe : call.Safe m d) : call.Lawful m d := by
  cases call with
  | recv cap rounds => exact recv_lawful hready hsafe
  | send dstMac etherType payload w => exact send_lawful hready hsafe
  | probe rounds => exact probe_lawful hready hsafe
  | command w => exact command_lawful hready hsafe
  | arm step w => exact arm_lawful hready hsafe

/-! ## Runs of calls -/

/-- In every run of safe calls, each call is lawful; over the run every completion posted was
consumed in order or waits on the ring, and every payload accepted was handed out in order or
waits in the slot. -/
theorem wifiCalls_delivered (m : WifiMachine) (d : WifiDriver) (run : List WifiCall) (hready : d.Ready)
    (hsafe : AllSteps (wifiCallNext m) (fun u call => call.Safe m u) d run) :
    AllSteps (wifiCallNext m) (fun u call => call.Lawful m u) d run ∧
      d.waiting ++ outputs (wifiCallNext m) (fun _ call => call.posts) d run =
        outputs (wifiCallNext m) (wifiConsumed m) d run ++ (run.foldl (wifiCallNext m) d).waiting ∧
      d.wifi.pending.toList ++ outputs (wifiCallNext m) (wifiAccepted m) d run =
        outputs (wifiCallNext m) (wifiHanded m) d run ++
          (run.foldl (wifiCallNext m) d).wifi.pending.toList := by
  have hlawful : AllSteps (wifiCallNext m) (fun u call => call.Lawful m u) d run :=
    allSteps_imp (fun u call hu hcall => ⟨WifiCall.lawful_of_safe hu hcall, (call.kept hu hcall.1).ready⟩) hready hsafe
  exact ⟨hlawful, outputs_balance (hlawful.mono fun u call h => h.ring),
    outputs_balance (hlawful.mono fun u call h => h.slot)⟩

/-- A link with a payload of one byte in its slot. -/
def sampleHeld : Wifi :=
  { sampleLink with ccmp := { sampleLink.ccmp with rxReady := true, rxPayload := [1] } }

theorem sampleDriver_ready (s : Wifi) (writePtr : Nat) : (sampleDriver s writePtr).Ready := ⟨rfl, rfl⟩

theorem sampleDriver_room {s : Wifi} {writePtr k : Nat} (h : k < 64) : (sampleDriver s writePtr).Room k := by
  simpa [WifiDriver.Room, WifiDriver.waiting, sampleDriver, sampleRing, Ring.count] using h

theorem wifiCalls_delivered_sample :
    AllSteps (wifiCallNext sampleMachine) (fun u call => call.Lawful sampleMachine u) (sampleDriver sampleHeld 1)
      [.recv 1 [], .probe [[samplePacket 0xb1 0x01 0]]] := by
  have hfirst : WifiCall.Safe sampleMachine (sampleDriver sampleHeld 1) (.recv 1 []) := by
    refine ⟨sampleDriver_room (by decide), fun h => ?_, fun _ v hv => ?_⟩
    · have hfree : sampleHeld.ccmp.rxReady = false := h.2.1
      simp [sampleHeld] at hfree
    · obtain rfl : sampleHeld.slot = v := Option.some.inj hv
      decide
  have hsecond : WifiCall.Safe sampleMachine (sampleDriver sampleHeld 1).slotFreed
      (.probe [[samplePacket 0xb1 0x01 0]]) := by
    refine ⟨@sampleDriver_room sampleHeld 1 1 (by decide), fun _ c hc => ?_, fun h => ?_⟩
    · obtain rfl : samplePacket 0xb1 0x01 0 = c := Option.some.inj hc
      decide
    · exact absurd h Bool.false_ne_true
  exact (wifiCalls_delivered sampleMachine (sampleDriver sampleHeld 1)
    [.recv 1 [], .probe [[samplePacket 0xb1 0x01 0]]] (sampleDriver_ready _ _) ⟨hfirst, hsecond, trivial⟩).1

/-- Once a bad completion is first on the ring, nothing is consumed any more. -/
theorem wifiConsumed_of_bad {m : WifiMachine} {d : WifiDriver} {run : List WifiCall} (hready : d.Ready)
    (hroom : AllSteps (wifiCallNext m) (fun u call => u.Room call.posts.length) d run)
    (hbad : ∃ c ∈ d.waiting.head?, c.good = false) :
    outputs (wifiCallNext m) (wifiConsumed m) d run = [] := by
  induction run generalizing d with
  | nil => rfl
  | cons call run ih =>
      obtain ⟨c, hc, hbad⟩ := hbad
      obtain ⟨cs, hfirst⟩ := List.head?_eq_some_iff.mp hc
      obtain ⟨hring, hready'⟩ := @WifiCall.kept m d call hready hroom.1
      rcases hring with ⟨hwaiting, hpackets⟩ | ⟨c', hgood, htook⟩
      · rw [outputs, wifiConsumed, hpackets, Nat.sub_self, List.take_zero, List.nil_append]
        refine ih hready' hroom.2 ⟨c, ?_, hbad⟩
        rw [hwaiting, hfirst]
        rfl
      · rw [hfirst, List.cons_append, List.cons.injEq] at htook
        rw [htook.1, hgood] at hbad
        simp at hbad

/-- A bad completion with a good one behind it. -/
def sampleBad : List WifiCompletion := [⟨0, (samplePacket 0xb1 0x01 0).packet⟩, samplePacket 0xb1 0x01 0]

/-- Behind a bad completion a good one is never consumed; and a payload that is reported as too
large is still returned afterwards. -/
theorem wifiCalls_stuck :
    (¬ ∀ (m : WifiMachine) (d : WifiDriver) (run : List WifiCall), d.Ready →
        AllSteps (wifiCallNext m) (fun u call => u.Room call.posts.length) d run →
        AllSteps (wifiCallNext m) (fun u call => call.Looks m u → wifiConsumed m u call ≠ []) d run) ∧
      ¬ ∀ (m : WifiMachine) (d : WifiDriver) (run : List WifiCall), d.Ready →
        AllSteps (wifiCallNext m) (fun u call => u.Room call.posts.length) d run →
        (∀ call ∈ run, call.posts = []) →
        d.wifi.pending.toList ++ outputs (wifiCallNext m) (wifiAccepted m) d run =
          outputs (wifiCallNext m) (wifiHanded m) d run ++
            (run.foldl (wifiCallNext m) d).wifi.pending.toList := by
  constructor
  · intro h
    have hwaiting : ((sampleDriver sampleLink 1).post sampleBad).waiting = sampleBad :=
      WifiDriver.waiting_post (sampleDriver_room (by decide))
    have hready : ((sampleDriver sampleLink 1).post sampleBad).Ready := ⟨rfl, rfl⟩
    have hroom : AllSteps (wifiCallNext sampleMachine) (fun u call => u.Room call.posts.length)
        ((sampleDriver sampleLink 1).post sampleBad) [.probe [[]]] := by
      refine ⟨?_, trivial⟩
      simp only [WifiDriver.Room, hwaiting]
      decide
    obtain ⟨hlooks, -⟩ := h sampleMachine _ _ hready hroom
    have hnone := wifiConsumed_of_bad hready hroom ⟨_, by rw [hwaiting]; rfl, by decide⟩
    refine hlooks ⟨rfl, by simp, by rw [hwaiting]; simp [sampleBad]⟩ ?_
    simpa [outputs] using hnone
  · intro h
    have hbalance :=
      h sampleMachine (sampleDriver sampleHeld 1) [.recv 0 [], .recv 1 []] (sampleDriver_ready _ _)
      ⟨sampleDriver_room (by decide), sampleDriver_room (by decide), trivial⟩ (by simp [WifiCall.posts])
    have hlength := congrArg List.length hbalance
    exact absurd hlength (by decide)

end Orizon
