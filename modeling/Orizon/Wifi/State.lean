import Orizon.Ccm

/-!
# Orizon.Wifi.State

The static state of the wireless driver (`kernel/drivers/wifi.c`):
`wifi_status_state` and the buffers beside it, grouped by the part of the
driver that writes them.  `connect_ready` is `connect.ready`, `wpa_ptk` is
`wpa.ptk`, and so on; an `int` that is only ever 0 or 1 is a `Bool`.

A fixed array is a `Vector`; a buffer with a length field is a list.  Left out
is what no function of the model reads: the status and report texts, the
checksums and counters they print, and the debug copies of the last packet.
-/

namespace Orizon

/-- A MAC address. -/
abbrev WifiMac := Vector UInt8 6

/-- The connection plan and how far it has come: the `connect_` fields. -/
structure WifiConnect where
  ready : Bool
  wpa : Bool
  openNet : Bool
  pmkReady : Bool
  pmk : Vector UInt8 32
  bssid : WifiMac
  localMac : WifiMac
  attempts : UInt32
  authTxAcked : Bool
  assocTxAcked : Bool
  authResponseSeen : Bool
  authAlg : UInt16
  authSeq : UInt16
  authStatus : UInt16
  assocResponseSeen : Bool
  assocStatus : UInt16
  assocAid : UInt16
  responseFailed : Bool
  assocConfirmed : Bool
  dataReady : Bool

/-- The four-way handshake: the `wpa_` fields and their buffers. -/
structure WifiWpa where
  keyInfo : UInt16
  keyLen : UInt16
  replayCounterHi : UInt32
  replayCounterLo : UInt32
  keyDataLen : UInt16
  keyDescType : UInt8
  eapolVersion : UInt8
  anonceSeen : Bool
  anonce : Vector UInt8 32
  snonce : Vector UInt8 32
  ptkReady : Bool
  ptk : Vector UInt8 64
  m1Seen : Bool
  m2Ready : Bool
  eapolM2 : List UInt8
  m2DataReady : Bool
  m2DataFrame : List UInt8
  m2TxAcked : Bool
  m3Seen : Bool
  m3KeyInfo : UInt16
  m3KeyData : List UInt8
  keyDataDecrypted : Bool
  keyDataDecryptFailed : Bool
  keyDataPlain : List UInt8
  gtkSeen : Bool
  gtkKeyId : UInt8
  gtkLen : Nat
  gtk : Vector UInt8 32
  m4Ready : Bool
  eapolM4 : List UInt8
  m4DataReady : Bool
  m4DataFrame : List UInt8
  m4TxAcked : Bool
  keyInstalled : Bool
  gtkKeyInstalled : Bool

/-- Protected data frames: the `ccmp_` fields, `wifi_ccmp_tx_pn_counter` and the
received payload.  `pn` is `ccmp_pn_high` over `ccmp_pn_low`. -/
structure WifiCcmp where
  txPnCounter : UInt64
  dataReady : Bool
  dataFrame : List UInt8
  pn : UInt64
  txAcked : Bool
  rxReady : Bool
  rxDecryptFailed : Bool
  rxEthType : UInt16
  rxSrcMac : WifiMac
  rxPayload : List UInt8

/-- A slot of the access-point table: the `scan_ap_` fields. -/
structure WifiAp where
  bssid : WifiMac
  ssid : List UInt8
  channel : UInt8
  frameSubtype : UInt16
  capability : UInt16
  security : Nat
  seenCount : Nat
  deriving DecidableEq

/-- What scanning has found: the `scan_` fields.  `aps` holds the slots in use. -/
structure WifiScan where
  aps : List WifiAp
  apOverflow : Nat
  ssidUpdates : Nat
  notifications : Nat
  generation : UInt32
  completeSeen : Bool
  failed : Bool
  iterLastChannel : UInt8

/-- The MAC, link and station binding: the `bind_` fields. -/
structure WifiBind where
  ready : Bool
  failed : Bool
  armed : Bool
  sent : Bool
  responseSeen : Bool
  macResponseSeen : Bool
  linkResponseSeen : Bool
  staResponseSeen : Bool
  timeout : Bool

/-- The static state of the driver. -/
structure Wifi where
  present : Bool
  vendorId : UInt16
  deviceId : UInt16
  driverReady : Bool
  associated : Bool
  connect : WifiConnect
  wpa : WifiWpa
  ccmp : WifiCcmp
  scan : WifiScan
  bind : WifiBind

/-- `wifi_data_link_ready`. -/
def wifiDataLinkReady (s : Wifi) : Bool :=
  s.present && s.driverReady && s.connect.dataReady && s.wpa.keyInstalled && s.wpa.gtkKeyInstalled &&
    s.wpa.m4TxAcked

/-! ## The state at boot -/

/-- The connection fields as `wifi_connect_clear_plan` leaves them. -/
def WifiConnect.cleared (attempts : UInt32) : WifiConnect where
  ready := false
  wpa := false
  openNet := false
  pmkReady := false
  pmk := Vector.replicate 32 0
  bssid := Vector.replicate 6 0
  localMac := Vector.replicate 6 0
  attempts := attempts
  authTxAcked := false
  assocTxAcked := false
  authResponseSeen := false
  authAlg := 0
  authSeq := 0
  authStatus := 0
  assocResponseSeen := false
  assocStatus := 0
  assocAid := 0
  responseFailed := false
  assocConfirmed := false
  dataReady := false

/-- The handshake fields as `wifi_connect_clear_plan` leaves them. -/
def WifiWpa.cleared : WifiWpa where
  keyInfo := 0
  keyLen := 0
  replayCounterHi := 0
  replayCounterLo := 0
  keyDataLen := 0
  keyDescType := 0
  eapolVersion := 0
  anonceSeen := false
  anonce := Vector.replicate 32 0
  snonce := Vector.replicate 32 0
  ptkReady := false
  ptk := Vector.replicate 64 0
  m1Seen := false
  m2Ready := false
  eapolM2 := []
  m2DataReady := false
  m2DataFrame := []
  m2TxAcked := false
  m3Seen := false
  m3KeyInfo := 0
  m3KeyData := []
  keyDataDecrypted := false
  keyDataDecryptFailed := false
  keyDataPlain := []
  gtkSeen := false
  gtkKeyId := 0
  gtkLen := 0
  gtk := Vector.replicate 32 0
  m4Ready := false
  eapolM4 := []
  m4DataReady := false
  m4DataFrame := []
  m4TxAcked := false
  keyInstalled := false
  gtkKeyInstalled := false

/-- The data frame fields as `wifi_connect_clear_plan` leaves them. -/
def WifiCcmp.cleared (txPnCounter : UInt64) : WifiCcmp where
  txPnCounter := txPnCounter
  dataReady := false
  dataFrame := []
  pn := 0
  txAcked := false
  rxReady := false
  rxDecryptFailed := false
  rxEthType := 0
  rxSrcMac := Vector.replicate 6 0
  rxPayload := []

/-- The binding fields as `wifi_bind_clear_plan` leaves them. -/
def WifiBind.cleared : WifiBind where
  ready := false
  failed := false
  armed := false
  sent := false
  responseSeen := false
  macResponseSeen := false
  linkResponseSeen := false
  staResponseSeen := false
  timeout := false

/-- The state at boot: everything is zero but the packet number. -/
def wifiBoot : Wifi where
  present := false
  vendorId := 0
  deviceId := 0
  driverReady := false
  associated := false
  connect := WifiConnect.cleared 0
  wpa := WifiWpa.cleared
  ccmp := WifiCcmp.cleared 1
  scan :=
    { aps := [], apOverflow := 0, ssidUpdates := 0, notifications := 0, generation := 0,
      completeSeen := false, failed := false, iterLastChannel := 0 }
  bind := WifiBind.cleared

end Orizon
