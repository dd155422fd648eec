import Orizon.Sha256
import Orizon.Wifi.Delivery

/-!
# Orizon.Wifi.Link

The way from a connection plan to a data link (`kernel/drivers/wifi.c`): the binding
(`wifi_bind_probe`), the frames and keys that are queued (`wifi_txcmd_probe`,
`wifi_key_probe`), the frames that arrive, and a scan, which clears the plan.

`connect_assoc_confirmed`, `connect_data_ready` and `driver_ready` are derived from the
other flags by `wifi_connect_refresh_association_state`.  Wherever a flag can be cleared
they follow (`wifiLink_sound`), but for a binding that is rebuilt over a confirmed association
and a scan over an open link (`wifiLink_stale`).
-/

namespace Orizon

/-! ## Binding -/

/-- The binding plan is built, and nothing of it sent. -/
def WifiBind.planned : WifiBind where
  ready := true
  failed := false
  armed := false
  sent := false
  responseSeen := false
  macResponseSeen := false
  linkResponseSeen := false
  staResponseSeen := false
  timeout := false

/-- The three commands of `wifi_bind_probe`, up to the first that is not acknowledged; each with
the window of its doorbell. -/
def wifiBindArmAll (m : WifiMachine) (d : WifiDriver) (mac link sta : List WifiRound) : Bool × WifiDriver :=
  let r := wifiBindArmOne m d .mac 0x08 0x03 152 mac
  if !r.1 then r
  else
    let r := wifiBindArmOne m r.2 .link 0x09 0x03 208 link
    if !r.1 then r
    else
      let r := wifiBindArmOne m r.2 .sta 0x0a 0x03 104 sta
      if !r.1 then r
      else
        (true, r.2.bind fun b =>
          { b with ready := true, failed := false, armed := true, sent := true, responseSeen := true })

/-- `wifi_bind_probe`; `false` is -1.  Its command buffers are large enough. -/
def wifiBindProbe (m : WifiMachine) (d : WifiDriver) (arm : Bool) (mac link sta : List WifiRound) :
    Bool × WifiDriver :=
  if !d.wifi.present then (false, d)
  else if !d.wifi.connect.ready then (false, d.bind WifiBind.markFailure)
  else if d.wifi.connect.assocResponseSeen && d.wifi.connect.assocStatus ≠ 0 then
    (false, d.bind WifiBind.markFailure)
  else
    let d := d.bind fun _ => WifiBind.planned
    if !arm then (true, d)
    else if !d.cmd.contextArmed || !d.rx.pathReady then (false, d.bind fun b => { b with failed := true })
    else wifiBindArmAll m d mac link sta

/-! ## Transmitting -/

/-- `wifi_ccmp_build_diag_frame`. -/
def wifiCcmpBuildDiagFrame (s : Wifi) : Int × Wifi :=
  wifiCcmpBuildEthernetFrame s (some wifiBroadcast) 0x88b5 (asciiBytes "Orizon CCMP protected data probe")

/-- `wifi_txcmd_select_frame`: whether there is a frame, the frame, and the state.  `planned` is the
authentication or association frame that was built with the plan. -/
def wifiTxcmdSelectFrame (s : Wifi) (planned : List UInt8) : WifiTxKind → Bool × List UInt8 × Wifi
  | .auth => (true, planned, s)
  | .assoc => (true, planned, s)
  | .eapolM2 =>
      let s := if !s.wpa.m2DataReady && s.wpa.m1Seen && s.connect.pmkReady then
        (wifiWpaPrepareM2 s s.wpa.eapolVersion s.wpa.keyDescType).2 else s
      (s.wpa.m2DataReady, s.wpa.m2DataFrame, s)
  | .eapolM4 =>
      let s := if !s.wpa.m4DataReady && s.wpa.m3Seen && s.wpa.ptkReady then
        (wifiWpaPrepareM4 s s.wpa.eapolVersion s.wpa.keyDescType).2 else s
      (s.wpa.m4DataReady, s.wpa.m4DataFrame, s)
  | .data =>
      let s := if !s.ccmp.dataReady then (wifiCcmpBuildDiagFrame s).2 else s
      (s.ccmp.dataReady, s.ccmp.dataFrame, s)

/-- `wifi_txcmd_probe`; `false` is -1. -/
def wifiTxcmdProbe (m : WifiMachine) (d : WifiDriver) (kind : WifiTxKind) (planned : List UInt8) (arm : Bool)
    (w : List WifiRound) : Bool × WifiDriver :=
  if !d.wifi.present then (false, d)
  else if !d.wifi.connect.ready then (false, d)
  else
    let r := wifiTxcmdSelectFrame d.wifi planned kind
    let d := { d with wifi := r.2.2 }
    if !r.1 then (false, { d with txPlan := { d.txPlan with ready := false } })
    else
      let r := wifiTxcmdBuildPlan d kind r.2.1
      if r.1 && arm then wifiTxcmdArmPlan m r.2 w else r

/-! ## Keys -/

/-- The checks of `wifi_key_build_plan` that come behind the PTK. -/
def wifiKeyGroupOk (w : WifiWpa) : Bool :=
  w.keyInstalled && w.m3Seen && !w.keyDataDecryptFailed && w.gtkSeen && 16 ≤ w.gtkLen

/-- `wifi_key_build_plan`; `false` is -1. -/
def wifiKeyBuildPlan (d : WifiDriver) (group : Bool) : Bool × WifiDriver :=
  let failed := fun d : WifiDriver => (false, { d with keyPlan := { d.keyPlan with ready := false } })
  if !d.wifi.connect.ready || !d.wifi.connect.wpa then failed d
  else if !d.wifi.connect.assocConfirmed then failed d
  else if !d.wifi.bind.staResponseSeen then failed d
  else
    let s := d.wifi
    let s := if !s.wpa.ptkReady && s.wpa.m1Seen && s.connect.pmkReady then
      (wifiWpaPrepareM2 s s.wpa.eapolVersion s.wpa.keyDescType).2 else s
    let d := { d with wifi := s }
    if !s.wpa.ptkReady then failed d
    else if group && !wifiKeyGroupOk s.wpa then failed d
    else (true, { d with keyPlan := { ready := true, isGroup := group, commandLen := 88 } })

/-- `wifi_key_probe`; `false` is -1. -/
def wifiKeyProbe (m : WifiMachine) (d : WifiDriver) (group arm : Bool) (w : List WifiRound) :
    Bool × WifiDriver :=
  if !d.wifi.present then (false, d)
  else
    let r := wifiKeyBuildPlan d group
    if r.1 && arm then wifiKeyArmPlan m r.2 w else r

/-! ## Scanning -/

/-- `wifi_connect_clear_plan`. -/
def wifiConnectClearPlan (d : WifiDriver) : WifiDriver :=
  { d with
    wifi := { d.wifi with
      connect := WifiConnect.cleared d.wifi.connect.attempts
      wpa := WifiWpa.cleared
      ccmp := WifiCcmp.cleared d.wifi.ccmp.txPnCounter
      bind := WifiBind.cleared }
    keyPlan := { ready := false, isGroup := false, commandLen := 0 }
    txPlan := { d.txPlan with ready := false, commandLen := 0 } }

/-- The queues, the context and the last command as `wifi_reset_firmware_parse` leaves them. -/
def WifiCmd.cleared : WifiCmd where
  queuesReady := false
  contextReady := false
  contextArmed := false
  tfdPhys := 0
  bcPhys := 0
  writePtr := 0
  schedulerId := 0
  schedulerGroup := 0
  schedulerSequence := 0
  schedulerIndex := 0
  ready := false
  sent := false
  failed := false
  timeout := false
  responseSeen := false

/-- The `rx_` fields as `wifi_reset_firmware_parse` leaves them. -/
def WifiRx.cleared (rx : WifiRx) : WifiRx where
  ring := rx.ring.rewind
  pathReady := false
  pathFailed := false
  pathErrors := 0
  packets := 0
  lastCmd := 0
  lastGroup := 0
  lastSequence := 0

/-- `wifi_reset_firmware_parse`.  `driver_ready` falls with a WPA plan only. -/
def wifiResetFirmwareParse (d : WifiDriver) : WifiDriver :=
  let s := d.wifi
  let s := if s.connect.wpa then { s with driverReady := false, connect := { s.connect with dataReady := false } }
    else s
  let d := wifiConnectClearPlan { d with
    wifi := { s with scan := wifiBoot.scan }, cmd := WifiCmd.cleared, rx := d.rx.cleared }
  { d with wifi := { d.wifi with connect := { d.wifi.connect with attempts := 0 } } }

/-- `wifi_scan`.  It looks for the firmware first, and `wifi_find_firmware` begins with
`wifi_reset_firmware_parse`; behind that the context is not armed, so that no command is sent. -/
def wifiScan (d : WifiDriver) : WifiDriver := wifiResetFirmwareParse d

/-! ## What the derived flags rest on -/

/-- Authentication and association went through, and the AP is bound. -/
structure WifiAssociated (s : Wifi) : Prop where
  authTxAcked : s.connect.authTxAcked = true
  assocTxAcked : s.connect.assocTxAcked = true
  authResponse : s.connect.authResponseSeen = true ∧ s.connect.authStatus = 0
  assocResponse : s.connect.assocResponseSeen = true ∧ s.connect.assocStatus = 0
  bound : s.bind.staResponseSeen = true

/-- Both keys are installed, and M4 is acknowledged. -/
structure WifiKeyed (s : Wifi) : Prop where
  pairwise : s.wpa.keyInstalled = true
  group : s.wpa.gtkKeyInstalled = true
  m4TxAcked : s.wpa.m4TxAcked = true

/-- A confirmed association rests on its steps, and a data link on the association and, unless the
network is open, on the keys. -/
structure WifiLinkSound (s : Wifi) : Prop where
  confirmed : s.connect.assocConfirmed = true → WifiAssociated s
  data : s.connect.dataReady = true ∨ s.driverReady = true →
    s.connect.assocConfirmed = true ∧ (s.connect.openNet = false → WifiKeyed s)
  linkReady : wifiDataLinkReady s = true → s.connect.assocConfirmed = true ∧ WifiKeyed s

/-- The derived flags are set only where the refresh would set them. -/
structure WifiLinkInv (s : Wifi) : Prop where
  confirmed : s.connect.assocConfirmed = true → wifiAssocConfirmed s = true
  data : s.connect.dataReady = true → s.connect.assocConfirmed = true ∧ wifiDataReady s = true
  driver : s.driverReady = true →
    s.connect.ready = true ∧ s.connect.assocConfirmed = true ∧ wifiDataReady s = true

theorem WifiLinkInv.sound {s : Wifi} (h : WifiLinkInv s) : WifiLinkSound s := by
  have hkeyed : wifiDataReady s = true → s.connect.openNet = false → WifiKeyed s := by
    intro hdata hopen
    simp only [wifiDataReady, hopen, Bool.false_or, Bool.and_eq_true] at hdata
    exact ⟨hdata.2.1.1.2, hdata.2.1.2, hdata.2.2⟩
  refine ⟨fun hconfirmed => ?_, fun hready => ?_, fun hlink => ?_⟩
  · have hfacts := h.confirmed hconfirmed
    simp only [wifiAssocConfirmed, WifiConnect.authOk, wifiAssocOk, Bool.and_eq_true, decide_eq_true_eq] at hfacts
    obtain ⟨⟨⟨hauth, hauthSeen⟩, hauthStatus⟩, ⟨⟨hassoc, hassocSeen⟩, hassocStatus⟩, hbound⟩ := hfacts
    exact ⟨hauth, hassoc, ⟨hauthSeen, hauthStatus⟩, ⟨hassocSeen, hassocStatus⟩, hbound⟩
  · rcases hready with hdata | hdriver
    · exact ⟨(h.data hdata).1, hkeyed (h.data hdata).2⟩
    · exact ⟨(h.driver hdriver).2.1, hkeyed (h.driver hdriver).2.2⟩
  · simp only [wifiDataLinkReady, Bool.and_eq_true] at hlink
    obtain ⟨⟨⟨⟨-, hdata⟩, hpairwise⟩, hgroup⟩, hm4⟩ := hlink
    exact ⟨(h.data hdata).1, hpairwise, hgroup, hm4⟩

theorem WifiLinkInv.of_clear {s : Wifi} (hconfirmed : s.connect.assocConfirmed = false)
    (hdata : s.connect.dataReady = false) (hdriver : s.driverReady = false) : WifiLinkInv s where
  confirmed h := by simp [hconfirmed] at h
  data h := by simp [hdata] at h
  driver h := by simp [hdriver] at h

/-- A refresh sets every derived flag, unless there is no plan; `driver_ready` is then clear
already. -/
theorem WifiLinkInv.refresh {s : Wifi} (h : s.driverReady = true → s.connect.ready = true) :
    WifiLinkInv (wifiConnectRefreshAssociationState s) := by
  rw [wifiConnectRefreshAssociationState]
  split
  · rename_i hnone
    refine of_clear rfl rfl ?_
    simp only [Bool.not_eq_true'] at hnone
    cases hdriver : s.driverReady with
    | false => rfl
    | true => simp [h hdriver] at hnone
  · rename_i hready
    have hconfirmed : wifiDataReady s = true → wifiAssocConfirmed s = true := by
      intro hdata
      rw [wifiDataReady, Bool.and_eq_true] at hdata
      exact hdata.1
    exact ⟨id, fun hdata => ⟨hconfirmed hdata, hdata⟩,
      fun hdata => ⟨by simpa using hready, hconfirmed hdata, hdata⟩⟩

/-- What neither the plan nor the keys nor the binding lose keeps the flags. -/
theorem WifiLinkInv.keep {s t : Wifi} (h : WifiLinkInv s) (hconnect : t.connect = s.connect)
    (hdriver : t.driverReady = s.driverReady)
    (hkeys : t.wpa.keyInstalled = s.wpa.keyInstalled ∧ t.wpa.gtkKeyInstalled = s.wpa.gtkKeyInstalled ∧
      t.wpa.m4TxAcked = s.wpa.m4TxAcked)
    (hbound : s.bind.staResponseSeen = true → t.bind.staResponseSeen = true) : WifiLinkInv t := by
  have hconfirmed : wifiAssocConfirmed s = true → wifiAssocConfirmed t = true := by
    simp only [wifiAssocConfirmed, wifiAssocOk, hconnect, Bool.and_eq_true]
    exact fun hfacts => ⟨hfacts.1, hfacts.2.1, hbound hfacts.2.2⟩
  have hdata : wifiDataReady s = true → wifiDataReady t = true := by
    obtain ⟨hpairwise, hgroup, hm4⟩ := hkeys
    simp only [wifiDataReady, hconnect, hpairwise, hgroup, hm4, Bool.and_eq_true]
    exact fun hfacts => ⟨hconfirmed hfacts.1, hfacts.2⟩
  constructor
  · rw [hconnect]
    exact fun hset => hconfirmed (h.confirmed hset)
  · rw [hconnect]
    exact fun hset => ⟨(h.data hset).1, hdata (h.data hset).2⟩
  · rw [hconnect, hdriver]
    exact fun hset => ⟨(h.driver hset).1, (h.driver hset).2.1, hdata (h.driver hset).2.2⟩

/-! ## Received frames -/

theorem WifiLinkInv.response {s : Wifi} (h : WifiLinkInv s) (frame : List UInt8) (subtype : UInt16) :
    WifiLinkInv (wifiConnectParseResponseFrame s frame subtype).2 := by
  have hready : s.driverReady = true → s.connect.ready = true := fun hset => (h.driver hset).1
  simp only [wifiConnectParseResponseFrame]
  split
  · exact h
  split
  · rw [wifiConnectTakeAuth]
    split
    · exact ⟨h.confirmed, h.data, h.driver⟩
    · exact refresh hready
  split
  · simp only [wifiConnectTakeAssoc]
    split
    · exact ⟨h.confirmed, h.data, h.driver⟩
    split
    · exact refresh hready
    · exact refresh (by simp)
  · exact h

theorem WifiLinkInv.frame {s : Wifi} (h : WifiLinkInv s) (frame : List UInt8) :
    WifiLinkInv (wifiScanParse80211Frame s frame).2 := by
  have hkind := wifiScanParse80211Frame_kind s frame
  generalize wifiScanParse80211Frame s frame = r at hkind ⊢
  cases hkind with
  | ignored => exact h
  | eapol htaken =>
      have hstep := wifiEapolFeed_step s frame
      obtain ⟨hpairwise, hgroup, -, hm4⟩ := hstep.installed
      have hdriver : (wifiEapolFeed s frame).driverReady = s.driverReady := by rw [hstep.others]
      have hbind : (wifiEapolFeed s frame).bind = s.bind := by rw [hstep.others]
      exact h.keep hstep.connect_eq hdriver ⟨hpairwise, hgroup, hm4⟩ fun hbound => by
        rw [← wifiEapolFeed, hbind, hbound]
  | ccmp =>
      obtain ⟨c, hc⟩ := wifiCcmpReceive_frame s frame
      rw [hc]
      exact h.keep rfl rfl ⟨rfl, rfl, rfl⟩ id
  | response => exact h.response frame _
  | beacon =>
      simp only [wifiScanTakeBeacon]
      split
      · exact h
      · exact h.keep rfl rfl ⟨rfl, rfl, rfl⟩ id

theorem WifiLinkInv.packet {s : Wifi} (h : WifiLinkInv s) (p : WifiRxPacket) :
    WifiLinkInv (wifiRxHandle s p) := by
  have hscan : ∀ sc, WifiLinkInv { s with scan := sc } := fun sc => h.keep rfl rfl ⟨rfl, rfl, rfl⟩ id
  obtain ⟨hnone, hsome, -⟩ := wifiScanParseRxMpdu_first s p.payload
  simp only [wifiRxHandle]
  split
  · cases htaken : wifiMpduTaken s p.payload with
    | none =>
        obtain ⟨_, hs⟩ := (hnone htaken).2
        rw [hs]
        exact h.keep rfl rfl ⟨rfl, rfl, rfl⟩ id
    | some frame =>
        obtain ⟨-, ⟨_, hs⟩, -⟩ := hsome frame htaken
        rw [hs]
        exact (h.frame frame).keep rfl rfl ⟨rfl, rfl, rfl⟩ id
  split
  · split <;> exact hscan _
  split
  · split <;> exact hscan _
  split
  · split <;> exact hscan _
  split
  · exact hscan _
  · exact h

/-! ## Commands -/

/-- The flags stay sound, and the context as it was. -/
structure WifiKeepsLink (d t : WifiDriver) : Prop where
  link : WifiLinkInv d.wifi → WifiLinkInv t.wifi
  armed : t.cmd.contextArmed = d.cmd.contextArmed
  ready : d.Ready → t.Ready

theorem WifiKeepsLink.refl (d : WifiDriver) : WifiKeepsLink d d := ⟨id, rfl, id⟩

theorem WifiKeepsLink.trans {d t u : WifiDriver} (h : WifiKeepsLink d t) (h' : WifiKeepsLink t u) :
    WifiKeepsLink d u := ⟨h'.link ∘ h.link, h'.armed.trans h.armed, h'.ready ∘ h.ready⟩

theorem wifiPost_keeps (d : WifiDriver) (cs : List WifiCompletion) : WifiKeepsLink d (d.post cs) :=
  ⟨id, rfl, fun h => ⟨h.context, h.queues⟩⟩

/-- Writing the binding keeps the flags, if it stays acknowledged where it was. -/
theorem wifiBind_keeps (d : WifiDriver) {f : WifiBind → WifiBind}
    (hf : d.wifi.bind.staResponseSeen = true → (f d.wifi.bind).staResponseSeen = true) :
    WifiKeepsLink d (d.bind f) :=
  ⟨fun h => h.keep rfl rfl ⟨rfl, rfl, rfl⟩ hf, rfl, fun h => ⟨h.context, h.queues⟩⟩

theorem wifiRxParseOne_keeps (d : WifiDriver) :
    WifiKeepsLink d (wifiRxParseOne d).2 ∧ (wifiRxParseOne d).2.cmd = d.cmd := by
  cases hwaiting : d.waiting with
  | nil =>
      rw [wifiRxParseOne_empty hwaiting]
      exact ⟨.refl d, rfl⟩
  | cons c cs =>
      cases hgood : c.good with
      | true =>
          rw [(wifiRxParseOne_good hwaiting hgood).1]
          exact ⟨⟨fun h => h.packet c.packet, rfl, fun h => ⟨h.context, h.queues⟩⟩, rfl⟩
      | false =>
          obtain ⟨rx, hparse, -⟩ := wifiRxParseOne_bad hwaiting hgood
          rw [hparse]
          exact ⟨⟨id, rfl, fun h => ⟨h.context, h.queues⟩⟩, rfl⟩

theorem wifiCommandPoll_keeps (packetsBefore : Nat) (w : List WifiRound) (d : WifiDriver) :
    WifiKeepsLink d (wifiCommandPoll packetsBefore w d).2 := by
  induction w generalizing d with
  | nil => exact .refl d
  | cons round w ih =>
      have hposted := wifiPost_keeps d round.posts
      simp only [wifiCommandPoll]
      split
      · exact hposted.trans ⟨id, rfl, fun h => ⟨h.context, h.queues⟩⟩
      have hparsed := hposted.trans (wifiRxParseOne_keeps (d.post round.posts)).1
      split
      · exact hparsed.trans ⟨id, rfl, fun h => ⟨h.context, h.queues⟩⟩
      · exact hparsed.trans (ih _)

theorem wifiStageCommandPayload_keeps {m : WifiMachine} {d : WifiDriver} (cmdId groupId : UInt8)
    (payloadLen : Nat) (hready : d.Ready) :
    WifiKeepsLink d (wifiStageCommandPayload m d cmdId groupId payloadLen).2 := by
  obtain ⟨c, hc, hcontext, hqueues, harmed⟩ :=
    @wifiStageCommandPayload_frame m d cmdId groupId payloadLen hready
  rw [hc]
  exact ⟨id, harmed, fun _ => ⟨hcontext, hqueues⟩⟩

theorem wifiCommandProbe_keeps {m : WifiMachine} {d : WifiDriver} (w : List WifiRound) (hready : d.Ready) :
    WifiKeepsLink d (wifiCommandProbe m d w).2 := by
  have hstaged : WifiKeepsLink d (if d.cmd.ready then (true, d) else wifiPrepareSchedulerCommand m d).2 := by
    split
    · exact .refl d
    · obtain ⟨c, hc, hcontext, hqueues, harmed⟩ := @wifiPrepareSchedulerCommand_frame m d hready
      rw [hc]
      exact ⟨id, harmed, fun _ => ⟨hcontext, hqueues⟩⟩
  simp only [wifiCommandProbe]
  generalize (if d.cmd.ready then (true, d) else wifiPrepareSchedulerCommand m d) = r at hstaged ⊢
  split
  · exact wifiPost_keeps d _
  split
  · exact hstaged.trans (wifiPost_keeps r.2 _)
  split
  · exact hstaged.trans ⟨id, rfl, fun h => ⟨h.context, h.queues⟩⟩
  have hpolled := hstaged.trans ((show WifiKeepsLink r.2 { r.2 with cmd := r.2.cmd.rung } from
    ⟨id, rfl, fun h => ⟨h.context, h.queues⟩⟩).trans (wifiCommandPoll_keeps r.2.rx.packets w _))
  split
  · exact hpolled.trans ⟨id, rfl, fun h => ⟨h.context, h.queues⟩⟩
  · exact hpolled

theorem wifiBindArmOne_keeps {m : WifiMachine} {d : WifiDriver} (step : WifiBindStep) (cmdId groupId : UInt8)
    (commandLen : Nat) (w : List WifiRound) (hready : d.Ready) :
    WifiKeepsLink d (wifiBindArmOne m d step cmdId groupId commandLen w).2 := by
  have hstaged := @wifiStageCommandPayload_keeps m d cmdId groupId (commandLen - wifiCmdHeaderBytes) hready
  simp only [wifiBindArmOne]
  split
  · exact (wifiBind_keeps d id).trans (wifiPost_keeps _ _)
  split
  · exact hstaged.trans ((wifiBind_keeps _ id).trans (wifiPost_keeps _ _))
  generalize (wifiStageCommandPayload m d cmdId groupId (commandLen - wifiCmdHeaderBytes)).2 = u at hstaged ⊢
  have harmed :=
    hstaged.trans (wifiBind_keeps u (f := fun b => { b with armed := true, timeout := false }) id)
  have hprobed := harmed.trans (wifiCommandProbe_keeps (m := m) w (harmed.ready hready))
  split
  · refine hprobed.trans (wifiBind_keeps (f := fun b => b.acked step) _ fun hbound => ?_)
    simp [WifiBind.acked, hbound]
  · refine hprobed.trans ?_
    dsimp only
    exact wifiBind_keeps _ id

theorem wifiBindArmAll_keeps {m : WifiMachine} {d : WifiDriver} (mac link sta : List WifiRound)
    (hready : d.Ready) : WifiKeepsLink d (wifiBindArmAll m d mac link sta).2 := by
  have hmac := @wifiBindArmOne_keeps m d .mac 0x08 0x03 152 mac hready
  simp only [wifiBindArmAll]
  split
  · exact hmac
  have hlink := hmac.trans (@wifiBindArmOne_keeps m _ .link 0x09 0x03 208 link (hmac.ready hready))
  split
  · exact hlink
  have hsta := hlink.trans (@wifiBindArmOne_keeps m _ .sta 0x0a 0x03 104 sta (hlink.ready hready))
  split
  · exact hsta
  · refine hsta.trans ?_
    dsimp only
    exact wifiBind_keeps _ id

theorem wifiKeyInstalled_keeps (d : WifiDriver) : WifiKeepsLink d (wifiKeyInstalled d) :=
  ⟨fun h => .refresh fun hset => (h.driver hset).1, rfl, fun h => ⟨h.context, h.queues⟩⟩

theorem wifiTxcmdAcked_keeps (d : WifiDriver) : WifiKeepsLink d (wifiTxcmdAcked d) := by
  refine ⟨fun h => .refresh ?_, rfl, fun h => ⟨h.context, h.queues⟩⟩
  have hready : d.wifi.driverReady = true → d.wifi.connect.ready = true := fun hset => (h.driver hset).1
  cases d.txPlan.kind with
  | auth => exact hready
  | assoc => exact hready
  | eapolM2 => exact hready
  | eapolM4 => exact hready
  | data => exact hready

theorem wifiKeyArmPlan_keeps {m : WifiMachine} {d : WifiDriver} (w : List WifiRound)
    (hsetUp : d.cmd.contextArmed = true → d.Ready) : WifiKeepsLink d (wifiKeyArmPlan m d w).2 := by
  simp only [wifiKeyArmPlan]
  split
  · exact wifiPost_keeps d _
  rename_i harmable
  have hready : d.Ready := hsetUp (by simp_all [wifiKeyArmable])
  have hstaged :=
    @wifiStageCommandPayload_keeps m d 0x18 0x05 (d.keyPlan.commandLen - wifiCmdHeaderBytes) hready
  split
  · exact hstaged.trans (wifiPost_keeps _ _)
  have hprobed := hstaged.trans (wifiCommandProbe_keeps (m := m) w (hstaged.ready hready))
  split
  · exact hprobed.trans (wifiKeyInstalled_keeps _)
  · exact hprobed

theorem wifiTxcmdArmPlan_keeps {m : WifiMachine} {d : WifiDriver} (w : List WifiRound)
    (hsetUp : d.cmd.contextArmed = true → d.Ready) : WifiKeepsLink d (wifiTxcmdArmPlan m d w).2 := by
  simp only [wifiTxcmdArmPlan]
  split
  · exact wifiPost_keeps d _
  rename_i harmable
  have hready : d.Ready := hsetUp (by simp_all [wifiTxcmdArmable])
  have hstaged :=
    @wifiStageCommandPayload_keeps m d 0x1c 0x00 (d.txPlan.commandLen - wifiCmdHeaderBytes) hready
  split
  · exact hstaged.trans (wifiPost_keeps _ _)
  have hprobed := hstaged.trans (wifiCommandProbe_keeps (m := m) w (hstaged.ready hready))
  split
  · exact hprobed.trans (wifiTxcmdAcked_keeps _)
  · exact hprobed

/-! ## The operations -/

/-- The operations on a connection plan, with what the firmware does meanwhile. -/
inductive WifiLinkAct
  | bind (arm : Bool) (mac link sta : List WifiRound)
  | txcmd (kind : WifiTxKind) (planned : List UInt8) (arm : Bool) (w : List WifiRound)
  | key (group arm : Bool) (w : List WifiRound)
  | packet (p : WifiRxPacket)
  | scan

/-- The driver after the operation. -/
def wifiLinkNext (m : WifiMachine) (d : WifiDriver) : WifiLinkAct → WifiDriver
  | .bind arm mac link sta => (wifiBindProbe m d arm mac link sta).2
  | .txcmd kind planned arm w => (wifiTxcmdProbe m d kind planned arm w).2
  | .key group arm w => (wifiKeyProbe m d group arm w).2
  | .packet p => { d with wifi := wifiRxHandle d.wifi p }
  | .scan => wifiScan d

/-- A plan was just built; the context is armed only while it and the queues are ready. -/
structure WifiDriver.JustBuilt (d : WifiDriver) : Prop where
  present : d.wifi.present = true
  ready : d.wifi.connect.ready = true
  txClear : d.wifi.connect.authTxAcked = false ∧ d.wifi.connect.assocTxAcked = false
  responsesClear : d.wifi.connect.authResponseSeen = false ∧ d.wifi.connect.assocResponseSeen = false
  boundClear : d.wifi.bind.staResponseSeen = false
  keysClear : d.wifi.wpa.keyInstalled = false ∧ d.wifi.wpa.gtkKeyInstalled = false ∧
    d.wifi.wpa.m4TxAcked = false
  confirmedClear : d.wifi.connect.assocConfirmed = false
  dataClear : d.wifi.connect.dataReady = false ∧ d.wifi.driverReady = false
  setUp : d.cmd.contextArmed = true → d.Ready

/-- The binding is not rebuilt over a confirmed association, and an open link is not scanned
away. -/
def WifiLinkAct.Tracked (d : WifiDriver) : WifiLinkAct → Prop
  | bind .. => d.wifi.connect.assocConfirmed = false
  | scan => d.wifi.driverReady = true → d.wifi.connect.wpa = true
  | _ => True

/-- The flags are sound, and the context is armed only while it and the queues are ready. -/
structure WifiDriver.LinkKept (d : WifiDriver) : Prop where
  link : WifiLinkInv d.wifi
  setUp : d.cmd.contextArmed = true → d.Ready

theorem WifiDriver.LinkKept.step {d t : WifiDriver} (h : d.LinkKept) (hkeeps : WifiKeepsLink d t) :
    t.LinkKept :=
  ⟨hkeeps.link h.link, fun harmed => hkeeps.ready (h.setUp (hkeeps.armed ▸ harmed))⟩

theorem wifiBindProbe_kept {m : WifiMachine} {d : WifiDriver} (arm : Bool) (mac link sta : List WifiRound)
    (h : d.LinkKept) (hfree : d.wifi.connect.assocConfirmed = false) :
    (wifiBindProbe m d arm mac link sta).2.LinkKept := by
  have hdata : d.wifi.connect.dataReady = false := by
    cases hset : d.wifi.connect.dataReady with
    | false => rfl
    | true => simp [(h.link.data hset).1] at hfree
  have hdriver : d.wifi.driverReady = false := by
    cases hset : d.wifi.driverReady with
    | false => rfl
    | true => simp [(h.link.driver hset).2.1] at hfree
  have hplanned : (d.bind fun _ => WifiBind.planned).LinkKept :=
    ⟨.of_clear hfree hdata hdriver, fun harmed => ⟨(h.setUp harmed).context, (h.setUp harmed).queues⟩⟩
  simp only [wifiBindProbe]
  split
  · exact h
  split
  · exact h.step (wifiBind_keeps d id)
  split
  · exact h.step (wifiBind_keeps d id)
  split
  · exact hplanned
  split
  · refine hplanned.step ?_
    dsimp only
    exact wifiBind_keeps _ id
  · rename_i hup
    exact hplanned.step (wifiBindArmAll_keeps mac link sta (hplanned.setUp (by simp_all)))

theorem WifiLinkInv.writesM2 {s t : Wifi} (h : WifiLinkInv s) (hwrites : WifiWritesM2 s t) :
    WifiLinkInv t := by
  obtain ⟨_, _, _, _, _, _, _, rfl⟩ := hwrites
  exact h.keep rfl rfl ⟨rfl, rfl, rfl⟩ id

theorem WifiLinkInv.writesM4 {s t : Wifi} (h : WifiLinkInv s) (hwrites : WifiWritesM4 s t) :
    WifiLinkInv t := by
  obtain ⟨_, _, _, _, rfl⟩ := hwrites
  exact h.keep rfl rfl ⟨rfl, rfl, rfl⟩ id

theorem WifiLinkInv.selected {s : Wifi} (h : WifiLinkInv s) (planned : List UInt8) (kind : WifiTxKind) :
    WifiLinkInv (wifiTxcmdSelectFrame s planned kind).2.2 := by
  cases kind with
  | auth => exact h
  | assoc => exact h
  | eapolM2 =>
      simp only [wifiTxcmdSelectFrame]
      split
      · exact h.writesM2 (wifiWpaPrepareM2_writes s _ _)
      · exact h
  | eapolM4 =>
      simp only [wifiTxcmdSelectFrame]
      split
      · exact h.writesM4 (wifiWpaPrepareM4_writes s _ _)
      · exact h
  | data =>
      simp only [wifiTxcmdSelectFrame]
      split
      · obtain ⟨c, hc, -⟩ := wifiCcmpBuildEthernetFrame_frame s (some wifiBroadcast) 0x88b5
          (asciiBytes "Orizon CCMP protected data probe")
        rw [wifiCcmpBuildDiagFrame, hc]
        exact h.keep rfl rfl ⟨rfl, rfl, rfl⟩ id
      · exact h

theorem wifiTxcmdProbe_kept {m : WifiMachine} {d : WifiDriver} (kind : WifiTxKind) (planned : List UInt8)
    (arm : Bool) (w : List WifiRound) (h : d.LinkKept) :
    (wifiTxcmdProbe m d kind planned arm w).2.LinkKept := by
  simp only [wifiTxcmdProbe]
  split
  · exact h
  split
  · exact h
  have hselected : WifiLinkInv (wifiTxcmdSelectFrame d.wifi planned kind).2.2 := h.link.selected planned kind
  generalize wifiTxcmdSelectFrame d.wifi planned kind = r at hselected ⊢
  have hkept : ∀ plan, ({ d with wifi := r.2.2, txPlan := plan } : WifiDriver).LinkKept :=
    fun plan => ⟨hselected, fun harmed => ⟨(h.setUp harmed).context, (h.setUp harmed).queues⟩⟩
  split
  · exact hkept _
  have hplanned : (wifiTxcmdBuildPlan { d with wifi := r.2.2 } kind r.2.1).2.LinkKept := by
    simp only [wifiTxcmdBuildPlan]
    split
    · exact hkept _
    split <;> exact hkept _
  split
  · exact hplanned.step (wifiTxcmdArmPlan_keeps w hplanned.setUp)
  · exact hplanned

theorem wifiKeyProbe_kept {m : WifiMachine} {d : WifiDriver} (group arm : Bool) (w : List WifiRound)
    (h : d.LinkKept) : (wifiKeyProbe m d group arm w).2.LinkKept := by
  have hkept : ∀ s plan, WifiLinkInv s → ({ d with wifi := s, keyPlan := plan } : WifiDriver).LinkKept :=
    fun s plan hs => ⟨hs, fun harmed => ⟨(h.setUp harmed).context, (h.setUp harmed).queues⟩⟩
  have hprepared : WifiLinkInv (if !d.wifi.wpa.ptkReady && d.wifi.wpa.m1Seen && d.wifi.connect.pmkReady then
      (wifiWpaPrepareM2 d.wifi d.wifi.wpa.eapolVersion d.wifi.wpa.keyDescType).2 else d.wifi) := by
    split
    · exact h.link.writesM2 (wifiWpaPrepareM2_writes d.wifi _ _)
    · exact h.link
  have hplanned : (wifiKeyBuildPlan d group).2.LinkKept := by
    simp only [wifiKeyBuildPlan]
    split
    · exact hkept _ _ h.link
    split
    · exact hkept _ _ h.link
    split
    · exact hkept _ _ h.link
    generalize (if !d.wifi.wpa.ptkReady && d.wifi.wpa.m1Seen && d.wifi.connect.pmkReady then
      (wifiWpaPrepareM2 d.wifi d.wifi.wpa.eapolVersion d.wifi.wpa.keyDescType).2 else d.wifi) = s at hprepared ⊢
    split
    · exact hkept _ _ hprepared
    split
    · exact hkept _ _ hprepared
    · exact hkept _ _ hprepared
  simp only [wifiKeyProbe]
  split
  · exact h
  split
  · exact hplanned.step (wifiKeyArmPlan_keeps w hplanned.setUp)
  · exact hplanned

/-- A scan clears what it clears with all that rests on it, unless an open link was up. -/
theorem wifiScan_kept {d : WifiDriver} (hwpa : d.wifi.driverReady = true → d.wifi.connect.wpa = true) :
    (wifiScan d).LinkKept := by
  refine ⟨.of_clear rfl rfl ?_, fun harmed => ?_⟩
  · simp only [wifiScan, wifiResetFirmwareParse, wifiConnectClearPlan]
    split
    · rfl
    · rename_i hopen
      cases hdriver : d.wifi.driverReady with
      | false => rfl
      | true => exact absurd (hwpa hdriver) hopen
  · simp [wifiScan, wifiResetFirmwareParse, wifiConnectClearPlan, WifiCmd.cleared] at harmed

theorem wifiLinkNext_kept {m : WifiMachine} {d : WifiDriver} (act : WifiLinkAct) (h : d.LinkKept)
    (htracked : act.Tracked d) : (wifiLinkNext m d act).LinkKept := by
  cases act with
  | bind arm mac link sta => exact wifiBindProbe_kept arm mac link sta h htracked
  | txcmd kind planned arm w => exact wifiTxcmdProbe_kept kind planned arm w h
  | key group arm w => exact wifiKeyProbe_kept group arm w h
  | packet p => exact ⟨h.link.packet p, fun harmed => ⟨(h.setUp harmed).context, (h.setUp harmed).queues⟩⟩
  | scan => exact wifiScan_kept htracked

/-- A response of the access point: its subtype, and a body of twelve zero bytes. -/
def sampleResponse (subtype : UInt8) : WifiRxPacket where
  lenNFlags := 104
  cmd := 0xc1
  groupId := 0x00
  sequence := 0
  body := ((36 : UInt8) :: List.replicate 63 0) ++ [subtype <<< 4, 0, 0, 0] ++ sampleLink.connect.localMac.toList ++
    sampleLink.connect.bssid.toList ++ sampleLink.connect.bssid.toList ++ List.replicate 14 0

/-- The firmware answers a command at once. -/
def sampleWindow (cmd groupId : UInt8) (sequence : UInt16) : List WifiRound :=
  [⟨[samplePacket cmd groupId sequence], false⟩]

/-- Binding, authentication and association. -/
def sampleAssociate : List WifiLinkAct :=
  [.bind true (sampleWindow 0x08 0x03 1) (sampleWindow 0x09 0x03 2) (sampleWindow 0x0a 0x03 3),
    .txcmd .auth (List.replicate 30 0) true (sampleWindow 0x1c 0x00 4), .packet (sampleResponse 11),
    .txcmd .assoc (List.replicate 30 0) true (sampleWindow 0x1c 0x00 5), .packet (sampleResponse 1)]

/-- The plan for an open network. -/
def sampleOpenPlan : Wifi :=
  { samplePlan with connect := { samplePlan.connect with wpa := false, openNet := true } }

theorem samplePlan_justBuilt : (sampleDriver samplePlan 1).JustBuilt :=
  ⟨rfl, rfl, ⟨rfl, rfl⟩, ⟨rfl, rfl⟩, rfl, ⟨rfl, rfl, rfl⟩, rfl, ⟨rfl, rfl⟩, fun _ => ⟨rfl, rfl⟩⟩

theorem sampleOpenPlan_justBuilt : (sampleDriver sampleOpenPlan 1).JustBuilt :=
  ⟨rfl, rfl, ⟨rfl, rfl⟩, ⟨rfl, rfl⟩, rfl, ⟨rfl, rfl, rfl⟩, rfl, ⟨rfl, rfl⟩, fun _ => ⟨rfl, rfl⟩⟩

end Orizon
