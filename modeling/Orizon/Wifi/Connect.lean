import Orizon.Wifi.Frame

/-!
# Orizon.Wifi.Connect

How far the connection plan has come (`kernel/drivers/wifi.c`):
`wifi_connect_refresh_association_state`, and the authentication and association
responses that `wifi_connect_parse_response_frame` takes.
-/

namespace Orizon

/-! ## The derived flags -/

/-- `auth_ok`. -/
def WifiConnect.authOk (c : WifiConnect) : Bool := c.authTxAcked && c.authResponseSeen && c.authStatus = 0

/-- `assoc_ok`. -/
def wifiAssocOk (s : Wifi) : Bool :=
  s.connect.assocTxAcked && s.connect.assocResponseSeen && s.connect.assocStatus = 0 && s.bind.staResponseSeen

/-- The value of `connect_assoc_confirmed` that the other fields give. -/
def wifiAssocConfirmed (s : Wifi) : Bool := s.connect.authOk && wifiAssocOk s

/-- The value of `connect_data_ready` that the other fields give. -/
def wifiDataReady (s : Wifi) : Bool :=
  wifiAssocConfirmed s &&
    (s.connect.openNet || (s.connect.wpa && s.wpa.keyInstalled && s.wpa.gtkKeyInstalled && s.wpa.m4TxAcked))

/-- `wifi_connect_refresh_association_state`. -/
def wifiConnectRefreshAssociationState (s : Wifi) : Wifi :=
  if !s.connect.ready then
    { s with associated := false, connect := { s.connect with assocConfirmed := false, dataReady := false } }
  else
    { s with
      associated := wifiAssocConfirmed s
      driverReady := wifiDataReady s
      connect := { s.connect with assocConfirmed := wifiAssocConfirmed s, dataReady := wifiDataReady s } }

/-! ## Responses -/

/-- `WIFI_80211_SUBTYPE_ASSOC_RESP`. -/
def wifiSubtypeAssocResp : UInt16 := 1

/-- `WIFI_80211_SUBTYPE_AUTH`. -/
def wifiSubtypeAuth : UInt16 := 11

/-- `wifi_connect_frame_matches_plan`. -/
def wifiConnectFrameMatchesPlan (c : WifiConnect) (frame : List UInt8) : Bool :=
  c.ready && wifiMgmtHeaderBytes ≤ frame.length && bytesFrom 6 frame 4 = c.localMac &&
    bytesFrom 6 frame 10 = c.bssid && bytesFrom 6 frame 16 = c.bssid

/-- An authentication response of the plan's access point. -/
def wifiConnectTakeAuth (s : Wifi) (frame : List UInt8) : Wifi :=
  if frame.length < wifiMgmtHeaderBytes + 6 then { s with connect := { s.connect with responseFailed := true } }
  else
    let status := wifiReadLe16 frame (wifiMgmtHeaderBytes + 4)
    wifiConnectRefreshAssociationState
      { s with
        connect := { s.connect with
          authResponseSeen := true
          authAlg := wifiReadLe16 frame wifiMgmtHeaderBytes
          authSeq := wifiReadLe16 frame (wifiMgmtHeaderBytes + 2)
          authStatus := status
          responseFailed := status ≠ 0 } }

/-- An association response of the plan's access point. -/
def wifiConnectTakeAssoc (s : Wifi) (frame : List UInt8) : Wifi :=
  if frame.length < wifiMgmtHeaderBytes + 6 then { s with connect := { s.connect with responseFailed := true } }
  else
    let status := wifiReadLe16 frame (wifiMgmtHeaderBytes + 2)
    let s := { s with
      connect := { s.connect with
        assocResponseSeen := true
        assocStatus := status
        assocAid := wifiReadLe16 frame (wifiMgmtHeaderBytes + 4) &&& 0x3fff
        responseFailed := status ≠ 0 } }
    wifiConnectRefreshAssociationState
      (if status = 0 then s
      else
        { s with
          associated := false
          driverReady := false
          connect := { s.connect with assocConfirmed := false, dataReady := false } })

/-- `wifi_connect_parse_response_frame`. -/
def wifiConnectParseResponseFrame (s : Wifi) (frame : List UInt8) (subtype : UInt16) : Bool × Wifi :=
  if !wifiConnectFrameMatchesPlan s.connect frame then (false, s)
  else if subtype = wifiSubtypeAuth then (true, wifiConnectTakeAuth s frame)
  else if subtype = wifiSubtypeAssocResp then (true, wifiConnectTakeAssoc s frame)
  else (false, s)

/-! ## What is written -/

/-- Nothing is written but the plan and the flags beside it. -/
def WifiWritesConnect (s t : Wifi) : Prop :=
  ∃ associated driverReady connect,
    t = { s with associated := associated, driverReady := driverReady, connect := connect }

theorem WifiWritesConnect.trans {s t u : Wifi} (hst : WifiWritesConnect s t) (htu : WifiWritesConnect t u) :
    WifiWritesConnect s u := by
  obtain ⟨_, _, _, rfl⟩ := hst
  obtain ⟨_, _, _, rfl⟩ := htu
  exact ⟨_, _, _, rfl⟩

theorem wifiConnectRefreshAssociationState_writes (s : Wifi) :
    WifiWritesConnect s (wifiConnectRefreshAssociationState s) := by
  rw [wifiConnectRefreshAssociationState]
  split <;> exact ⟨_, _, _, rfl⟩

theorem wifiConnectParseResponseFrame_writes (s : Wifi) (frame : List UInt8) (subtype : UInt16) :
    WifiWritesConnect s (wifiConnectParseResponseFrame s frame subtype).2 := by
  rw [wifiConnectParseResponseFrame]
  split
  · exact ⟨_, _, _, rfl⟩
  split
  · rw [wifiConnectTakeAuth]
    split
    · exact ⟨_, _, _, rfl⟩
    · exact WifiWritesConnect.trans ⟨_, _, _, rfl⟩ (wifiConnectRefreshAssociationState_writes _)
  split
  · rw [wifiConnectTakeAssoc]
    split
    · exact ⟨_, _, _, rfl⟩
    · refine WifiWritesConnect.trans ?_ (wifiConnectRefreshAssociationState_writes _)
      split <;> exact ⟨_, _, _, rfl⟩
  · exact ⟨_, _, _, rfl⟩

end Orizon
