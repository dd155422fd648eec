import Orizon.Lib.Digits
import Orizon.Wifi.State

/-!
# Orizon.Wifi.Frame

Reading and writing 802.11 frames (`kernel/drivers/wifi.c`): numbers in both
byte orders, addresses, the frame control word and the length of a data header.
A frame is the list of its bytes, so that `frame_len` is its length.
-/

namespace Orizon

/-! ## Bytes -/

/-- `n` bytes from `off`. -/
def bytesFrom (n : Nat) (p : List UInt8) (off : Nat) : Vector UInt8 n :=
  Vector.ofFn fun i => (p.drop off).getD i 0

/-- `wifi_read_le16`. -/
def wifiReadLe16 (p : List UInt8) (off : Nat) : UInt16 :=
  (p.getD off 0).toUInt16 ||| ((p.getD (off + 1) 0).toUInt16 <<< 8)

/-- `wifi_read_be16`. -/
def wifiReadBe16 (p : List UInt8) (off : Nat) : UInt16 :=
  ((p.getD off 0).toUInt16 <<< 8) ||| (p.getD (off + 1) 0).toUInt16

/-- `wifi_write_le16`. -/
def wifiWriteLe16 (v : UInt16) : List UInt8 := [v.toUInt8, (v >>> 8).toUInt8]

/-- `wifi_write_be16`. -/
def wifiWriteBe16 (v : UInt16) : List UInt8 := [(v >>> 8).toUInt8, v.toUInt8]

@[simp] theorem length_wifiWriteLe16 (v : UInt16) : (wifiWriteLe16 v).length = 2 := rfl

@[simp] theorem length_wifiWriteBe16 (v : UInt16) : (wifiWriteBe16 v).length = 2 := rfl

theorem wifiReadLe16_writeLe16 (v : UInt16) (rest : List UInt8) :
    wifiReadLe16 (wifiWriteLe16 v ++ rest) 0 = v := by
  have hsplit := be16_split v
  rw [UInt16.or_comm] at hsplit
  simpa [wifiReadLe16, wifiWriteLe16] using hsplit

theorem wifiReadBe16_writeBe16 (pre : List UInt8) (v : UInt16) (rest : List UInt8) :
    wifiReadBe16 (pre ++ (wifiWriteBe16 v ++ rest)) pre.length = v := by
  have hsplit := be16_split v
  simp only [wifiReadBe16, wifiWriteBe16, List.getD_eq_getElem?_getD]
  simpa using hsplit

theorem wifiWriteBe16_readBe16 (p : List UInt8) (off : Nat) :
    wifiWriteBe16 (wifiReadBe16 p off) = [p.getD off 0, p.getD (off + 1) 0] := by
  obtain ⟨hhigh, hlow⟩ := be16_join (p.getD off 0) (p.getD (off + 1) 0)
  rw [wifiWriteBe16, wifiReadBe16, hhigh, hlow]

/-- Bytes written at `off` are read back from there. -/
theorem toList_bytesFrom {n off : Nat} {p bytes rest : List UInt8} (h : p.drop off = bytes ++ rest)
    (hn : bytes.length = n) : (bytesFrom n p off).toList = bytes := by
  refine List.ext_getElem (by simp [hn]) fun i _ hi => ?_
  simp [bytesFrom, h, List.getD_eq_getElem?_getD, List.getElem?_append_left hi, List.getElem?_eq_getElem hi]

theorem bytesFrom_of_drop {n off : Nat} {p rest : List UInt8} {v : Vector UInt8 n}
    (h : p.drop off = v.toList ++ rest) : bytesFrom n p off = v :=
  Vector.toList_inj.mp (toList_bytesFrom h (by simp))

/-! ## The frame control word -/

/-- `WIFI_80211_FC_TODS`. -/
def wifiFcToDs : UInt16 := 0x0100

/-- `WIFI_80211_FC_FROMDS`. -/
def wifiFcFromDs : UInt16 := 0x0200

/-- `WIFI_80211_FC_PROTECTED`. -/
def wifiFcProtected : UInt16 := 0x4000

/-- `(fc & WIFI_80211_FC_TYPE_MASK) >> 2`. -/
def wifiFcType (fc : UInt16) : UInt16 := (fc &&& 0x000c) >>> 2

/-- `(fc & WIFI_80211_FC_SUBTYPE_MASK) >> 4`. -/
def wifiFcSubtype (fc : UInt16) : UInt16 := (fc &&& 0x00f0) >>> 4

/-- `WIFI_80211_SUBTYPE_QOS_DATA`. -/
def wifiSubtypeQosData : UInt16 := 8

/-- `WIFI_80211_MGMT_HEADER_BYTES`. -/
def wifiMgmtHeaderBytes : Nat := 24

/-- `llc_snap`, up to the EtherType. -/
def wifiLlcSnap : List UInt8 := [0xaa, 0xaa, 0x03, 0x00, 0x00, 0x00]

/-- `wifi_mac_is_multicast`. -/
def wifiMacIsMulticast (mac : WifiMac) : Bool := mac.toList.getD 0 0 &&& 1 ≠ 0

/-- `wifi_80211_data_header_len`. -/
def wifi80211DataHeaderLen (fc subtype : UInt16) : Nat :=
  wifiMgmtHeaderBytes + (if fc &&& wifiFcToDs ≠ 0 && fc &&& wifiFcFromDs ≠ 0 then 6 else 0) +
    (if subtype &&& wifiSubtypeQosData ≠ 0 then 2 else 0)

end Orizon
