import Mathlib.Data.List.Find
import Mathlib.Data.List.TakeWhile
import Orizon.Wifi.ApTable

/-!
# Orizon.Wifi.Response

Authentication and association responses in a received MPDU (`kernel/drivers/wifi.c`).

`wifi_connect_parse_response_frame` takes a response from 30 bytes on, but the functions that
lead there want the 36 bytes of a beacon.  So a response is recorded exactly if 36 bytes of the
payload are left where it begins and none of the frames that are tried before it is taken, or if
the frame that is taken in its place says the same (`wifiResponse_recorded_iff`).
-/

namespace Orizon

/-! ## Responses -/

/-- The two responses to the station. -/
inductive WifiResponseKind
  | auth
  | assoc
  deriving DecidableEq

/-- Its frame subtype. -/
def WifiResponseKind.subtype : WifiResponseKind → UInt16
  | .auth => wifiSubtypeAuth
  | .assoc => wifiSubtypeAssocResp

/-- What is recorded of it: algorithm, sequence number and status, or status and AID. -/
def WifiResponseKind.fields (k : WifiResponseKind) (frame : List UInt8) : List UInt16 :=
  match k with
  | .auth => [wifiReadLe16 frame 24, wifiReadLe16 frame 26, wifiReadLe16 frame 28]
  | .assoc => [wifiReadLe16 frame 26, wifiReadLe16 frame 28 &&& 0x3fff]

/-- What the plan has recorded of the last one. -/
def WifiConnect.recorded (c : WifiConnect) : WifiResponseKind → Option (List UInt16)
  | .auth => if c.authResponseSeen then some [c.authAlg, c.authSeq, c.authStatus] else none
  | .assoc => if c.assocResponseSeen then some [c.assocStatus, c.assocAid] else none

/-- The frame control word says that the frame is one. -/
def WifiResponseKind.names (k : WifiResponseKind) (frame : List UInt8) : Bool :=
  wifiFcType (wifiReadLe16 frame 0) = wifiTypeMgmt && wifiFcSubtype (wifiReadLe16 frame 0) = k.subtype

/-- A response of `len` bytes for the plan, behind one of the descriptors. -/
structure WifiResponseAt (c : WifiConnect) (k : WifiResponseKind) (payload : List UInt8) (off len : Nat) : Prop where
  offset : off ∈ [64, 48, 20, 0]
  length : wifiMgmtHeaderBytes + 6 ≤ len
  fits : off + len ≤ payload.length
  names : k.names ((payload.drop off).take len) = true
  plan : wifiConnectFrameMatchesPlan c ((payload.drop off).take len) = true

/-! ## Frames that are taken -/

/-- Whether the driver takes a frame of 36 bytes or more. -/
def wifiFrameTaken (s : Wifi) (frame : List UInt8) : Bool :=
  let fc := wifiReadLe16 frame 0
  let subtype := wifiFcSubtype fc
  if wifiFcType fc = wifiTypeData then
    (wifiWpaEapolOf s.connect frame fc subtype).isSome || (wifiCcmpReceive s frame).1
  else if wifiFcType fc ≠ wifiTypeMgmt then false
  else if subtype = wifiSubtypeAuth || subtype = wifiSubtypeAssocResp then wifiConnectFrameMatchesPlan s.connect frame
  else (subtype = wifiSubtypeBeacon || subtype = wifiSubtypeProbeResp) &&
    (wifiScanParse80211Ies frame wifiScanSecurityOpen).ssid.isSome

/-- The frames that are tried before the first that begins at the offset. -/
def wifiFramesBefore (payload : List UInt8) (off : Nat) : List (List UInt8) :=
  ((wifiMpduOffsets payload).takeWhile fun c => c.1 ≠ off || (wifiMpduCandidate payload c).isNone).filterMap
    (wifiMpduCandidate payload)

section Taken

variable {s t : Wifi} {k : WifiResponseKind} {p frame payload : List UInt8} {off n len : Nat} {c : Nat × Nat}

theorem wifiScanTakeBeacon_fst (s : Wifi) (frame : List UInt8) (subtype : UInt16) :
    (wifiScanTakeBeacon s frame subtype).1 = (wifiScanParse80211Ies frame wifiScanSecurityOpen).ssid.isSome := by
  have hssid : ∀ security, (wifiScanParse80211Ies frame security).ssid =
      (wifiScanParse80211Ies frame wifiScanSecurityOpen).ssid := fun security => ssid_wifiScanIesLoop _ rfl
  simp only [wifiScanTakeBeacon]
  split
  next h => rw [← hssid, h, Option.isSome_none]
  next h => rw [← hssid, h, Option.isSome_some]

/-- What `wifi_scan_parse_80211_frame` returns. -/
theorem wifiScanParse80211Frame_fst (h : wifiMgmtHeaderBytes + wifiBeaconFixedBytes ≤ frame.length) :
    (wifiScanParse80211Frame s frame).1 = wifiFrameTaken s frame := by
  have heapol : ∀ fc subtype, (wifiWpaParseEapolKey s frame fc subtype).1 =
      (wifiWpaEapolOf s.connect frame fc subtype).isSome := by
    intro fc subtype
    rw [wifiWpaParseEapolKey]
    split <;> simp [*]
  simp only [wifiScanParse80211Frame, wifiFrameTaken, if_neg (Nat.not_lt.mpr h)]
  split
  · by_cases htaken : (wifiWpaParseEapolKey s frame (wifiReadLe16 frame 0)
        (wifiFcSubtype (wifiReadLe16 frame 0))).1 = true
    · rw [if_pos htaken, htaken, ← heapol, htaken, Bool.true_or]
    · rw [Bool.not_eq_true] at htaken
      rw [if_neg (by simp [htaken]), wifiWpaParseEapolKey_refused htaken, ← heapol, htaken, Bool.false_or,
        wifiCcmpReceive]
  split
  · rfl
  split
  next hresponse =>
    rw [wifiConnectParseResponseFrame]
    grind
  next =>
    split
    next hbeacon => rw [wifiScanTakeBeacon_fst, hbeacon, Bool.true_and]
    next hbeacon => simp [hbeacon]

/-! ## What is recorded -/

theorem wifiReadLe16_take (h : off + 2 ≤ n) : wifiReadLe16 (p.take n) off = wifiReadLe16 p off := by
  have hfirst : off < n := by omega
  have hsecond : off + 1 < n := by omega
  simp [wifiReadLe16, List.getD_eq_getElem?_getD, hfirst, hsecond]

theorem bytesFrom_take (h : off + 6 ≤ n) : bytesFrom 6 (p.take n) off = bytesFrom 6 p off := by
  ext i hi
  have hin : off + i < n := by omega
  simp [bytesFrom, List.getD_eq_getElem?_getD, List.getElem?_take, hin]

theorem fields_take (h : 30 ≤ n) : k.fields (p.take n) = k.fields p := by
  cases k <;> simp only [WifiResponseKind.fields] <;> rw [wifiReadLe16_take (by omega), wifiReadLe16_take (by omega)]
  rw [wifiReadLe16_take (by omega)]

theorem names_take (h : 30 ≤ n) : k.names (p.take n) = k.names p := by
  rw [WifiResponseKind.names, wifiReadLe16_take (by omega), WifiResponseKind.names]

theorem matchesPlan_take {c : WifiConnect} (hn : 30 ≤ n) (hp : 30 ≤ p.length) :
    wifiConnectFrameMatchesPlan c (p.take n) = wifiConnectFrameMatchesPlan c p := by
  have hlong : wifiMgmtHeaderBytes ≤ (p.take n).length := by
    rw [List.length_take, wifiMgmtHeaderBytes]
    omega
  have hlong' : wifiMgmtHeaderBytes ≤ p.length := by
    rw [wifiMgmtHeaderBytes]
    omega
  rw [wifiConnectFrameMatchesPlan, bytesFrom_take (by omega), bytesFrom_take (by omega), bytesFrom_take (by omega),
    decide_eq_true hlong, wifiConnectFrameMatchesPlan, decide_eq_true hlong']

@[simp] theorem recorded_refresh (s : Wifi) :
    (wifiConnectRefreshAssociationState s).connect.recorded k = s.connect.recorded k := by
  rw [wifiConnectRefreshAssociationState]
  cases k <;> split <;> rfl

/-- A response for the plan is recorded, and leaves the other kind alone. -/
theorem recorded_wifiConnectParseResponseFrame {j : WifiResponseKind} (h : 30 ≤ frame.length)
    (hplan : wifiConnectFrameMatchesPlan s.connect frame = true) :
    (wifiConnectParseResponseFrame s frame j.subtype).2.connect.recorded k =
      if k = j then some (k.fields frame) else s.connect.recorded k := by
  have hlong : ¬ frame.length < wifiMgmtHeaderBytes + 6 := Nat.not_lt.mpr h
  cases j with
  | auth =>
      have hauth : WifiResponseKind.auth.subtype = wifiSubtypeAuth := rfl
      simp only [wifiConnectParseResponseFrame, hplan, hauth, wifiConnectTakeAuth, if_neg hlong, Bool.not_true,
        Bool.false_eq_true, if_false, if_true, recorded_refresh]
      cases k <;> simp [WifiConnect.recorded, WifiResponseKind.fields, wifiMgmtHeaderBytes]
  | assoc =>
      have hassoc : WifiResponseKind.assoc.subtype = wifiSubtypeAssocResp := rfl
      have hnot : wifiSubtypeAssocResp ≠ wifiSubtypeAuth := by decide
      simp only [wifiConnectParseResponseFrame, hplan, hassoc, wifiConnectTakeAssoc, if_neg hlong, if_neg hnot,
        Bool.not_true, Bool.false_eq_true, if_false, if_true, recorded_refresh]
      cases k <;> split <;> simp [WifiConnect.recorded, WifiResponseKind.fields, wifiMgmtHeaderBytes]

theorem names_eq_true : k.names frame = true ↔
    wifiFcType (wifiReadLe16 frame 0) = wifiTypeMgmt ∧ wifiFcSubtype (wifiReadLe16 frame 0) = k.subtype := by
  simp [WifiResponseKind.names]

theorem recorded_wifiScanParse80211Frame (h : wifiMgmtHeaderBytes + wifiBeaconFixedBytes ≤ frame.length)
    (htaken : wifiFrameTaken s frame = true) :
    (wifiScanParse80211Frame s frame).2.connect.recorded k =
      if k.names frame = true then some (k.fields frame) else s.connect.recorded k := by
  have hlong : 30 ≤ frame.length := Nat.le_trans (by decide) h
  by_cases hdata : wifiFcType (wifiReadLe16 frame 0) = wifiTypeData
  · have hnot : ¬ k.names frame = true := fun hnames => by
      rw [(names_eq_true.mp hnames).1] at hdata
      exact absurd hdata (by decide)
    rw [((wifiScanParse80211Frame_effect s frame).data hdata), if_neg hnot]
  · simp only [wifiFrameTaken, if_neg hdata] at htaken
    simp only [wifiScanParse80211Frame, if_neg (Nat.not_lt.mpr h), if_neg hdata]
    split at htaken
    · cases htaken
    next hmgmt =>
      rw [not_not] at hmgmt
      rw [if_neg (not_not.mpr hmgmt)]
      split at htaken
      next hresponse =>
        rw [if_pos hresponse]
        obtain ⟨j, hj⟩ : ∃ j : WifiResponseKind, wifiFcSubtype (wifiReadLe16 frame 0) = j.subtype := by
          obtain hauth | hassoc := by simpa using hresponse
          · exact ⟨.auth, hauth⟩
          · exact ⟨.assoc, hassoc⟩
        rw [hj, recorded_wifiConnectParseResponseFrame hlong htaken]
        have hinj : k.names frame = true ↔ k = j := by
          rw [names_eq_true, hj]
          cases k <;> cases j <;> simp [hmgmt, WifiResponseKind.subtype, wifiSubtypeAuth, wifiSubtypeAssocResp]
        simp [hinj]
      next hresponse =>
        have hnot : ¬ k.names frame = true := fun hnames => by
          rw [(names_eq_true.mp hnames).2] at hresponse
          cases k <;> simp [WifiResponseKind.subtype] at hresponse
        rw [if_neg hresponse, if_neg hnot]
        split
        · simp only [wifiScanTakeBeacon]
          split <;> rfl
        · rfl

/-! ## Candidates -/

/-- A frame that is tried has 36 bytes or more and begins at its offset. -/
theorem wifiMpduCandidate_some (h : wifiMpduCandidate payload c = some frame) :
    wifiMgmtHeaderBytes + wifiBeaconFixedBytes ≤ frame.length ∧ ∃ n, frame = (payload.drop c.1).take n := by
  unfold wifiMpduCandidate at h
  extract_lets rest body at h
  have hbody : ∃ n, body = rest.take n := by
    by_cases hcut : 0 < c.2 && c.2 < rest.length
    · exact ⟨c.2, if_pos hcut⟩
    · exact ⟨rest.length, (if_neg hcut).trans List.take_length.symm⟩
  split at h
  · cases h
  next hlong =>
    simp only [Bool.or_eq_true, decide_eq_true_eq, not_or, Nat.not_lt] at hlong
    obtain rfl := Option.some.inj h
    exact ⟨hlong.2, hbody⟩

theorem wifiMpduCandidate_even (heven : off % 2 = 0)
    (hlong : wifiMgmtHeaderBytes + wifiBeaconFixedBytes ≤ payload.length - off) :
    (off, 0) ∈ wifiMpduOffsets payload ∧ wifiMpduCandidate payload (off, 0) = some (payload.drop off) := by
  have hlen : 36 ≤ payload.length - off := hlong
  have hnot : ¬ payload.length < wifiMgmtHeaderBytes + wifiBeaconFixedBytes := by
    show ¬ payload.length < 36
    omega
  have hcount : off / 2 < (payload.length - (wifiMgmtHeaderBytes + wifiBeaconFixedBytes)) / 2 + 1 := by
    show off / 2 < (payload.length - 36) / 2 + 1
    omega
  have hoff : 2 * (off / 2) = off := by omega
  constructor
  · simp only [wifiMpduOffsets, if_neg hnot]
    refine List.mem_append_right _ (List.mem_map.mpr ⟨off / 2, List.mem_range.mpr hcount, ?_⟩)
    rw [hoff]
  · have hin : ¬ (payload.length ≤ off ∨ payload.length - off < wifiMgmtHeaderBytes + wifiBeaconFixedBytes) := by
      show ¬ (payload.length ≤ off ∨ payload.length - off < 36)
      omega
    simp [wifiMpduCandidate, hin]

theorem wifiMpduTaken_eq (s : Wifi) (payload : List UInt8) :
    wifiMpduTaken s payload = (wifiMpduFrames payload).find? (wifiFrameTaken s) := by
  refine List.find?_congr fun frame hframe => ?_
  obtain ⟨c, -, hc⟩ := List.mem_filterMap.mp hframe
  exact wifiScanParse80211Frame_fst (wifiMpduCandidate_some hc).1

/-- Behind the frames before the offset comes the first that begins there, if there is one. -/
theorem wifiMpduFrames_split (payload : List UInt8) (heven : off % 2 = 0) :
    ∃ rest, wifiMpduFrames payload = wifiFramesBefore payload off ++ rest ∧
      if wifiMgmtHeaderBytes + wifiBeaconFixedBytes ≤ payload.length - off then
        ∃ c tail frame, c.1 = off ∧ wifiMpduCandidate payload c = some frame ∧ rest = frame :: tail
      else rest = [] := by
  have hsplit := @List.takeWhile_append_dropWhile _ (fun c : Nat × Nat =>
    decide (c.1 ≠ off) || (wifiMpduCandidate payload c).isNone) (wifiMpduOffsets payload)
  refine ⟨_, (congrArg (List.filterMap (wifiMpduCandidate payload)) hsplit).symm.trans List.filterMap_append, ?_⟩
  split
  next hlong =>
    obtain ⟨hmem, hcandidate⟩ := wifiMpduCandidate_even heven hlong
    cases hdrop : (wifiMpduOffsets payload).dropWhile fun c => c.1 ≠ off || (wifiMpduCandidate payload c).isNone with
    | nil =>
        have hall := List.dropWhile_eq_nil_iff.mp hdrop _ hmem
        simp [hcandidate] at hall
    | cons c tail =>
        have hhead := List.head_dropWhile_not (fun c : Nat × Nat =>
          decide (c.1 ≠ off) || (wifiMpduCandidate payload c).isNone)
            (fun hnil => List.cons_ne_nil c tail (hdrop.symm.trans hnil))
        simp only [hdrop, List.head_cons, Bool.or_eq_false_iff, decide_eq_false_iff_not, not_not] at hhead
        obtain ⟨hoff, hsome⟩ := hhead
        obtain ⟨frame, hframe⟩ := Option.isSome_iff_exists.mp (by simpa using hsome)
        exact ⟨c, tail.filterMap (wifiMpduCandidate payload), frame, hoff, hframe, by simp [hframe]⟩
  next hshort =>
    have hnil : ((wifiMpduOffsets payload).dropWhile fun c =>
        c.1 ≠ off || (wifiMpduCandidate payload c).isNone) = [] := by
      refine List.dropWhile_eq_nil_iff.mpr fun c _ => ?_
      by_cases hoff : c.1 = off
      · cases hc : wifiMpduCandidate payload c with
        | none => simp
        | some frame =>
            obtain ⟨hlong, n, rfl⟩ := wifiMpduCandidate_some hc
            rw [hoff, List.length_take, List.length_drop] at hlong
            exact absurd (hlong.trans (Nat.min_le_right _ _)) hshort
      · simp [hoff]
    rw [hnil]
    rfl

/-! ## The response that is recorded -/

/-- The frame says of the kind what `fields` say; a frame of another kind leaves what is recorded. -/
def WifiSays (s : Wifi) (k : WifiResponseKind) (fields : List UInt16) (frame : List UInt8) : Prop :=
  if k.names frame = true then k.fields frame = fields else s.connect.recorded k = some fields

/-- The call takes a frame and leaves the fields recorded. -/
def WifiRecords (s : Wifi) (k : WifiResponseKind) (fields : List UInt16) (payload : List UInt8) : Prop :=
  (wifiScanParseRxMpdu s payload).1 = true ∧
    (wifiScanParseRxMpdu s payload).2.connect.recorded k = some fields

theorem wifiRecords_iff {fields : List UInt16} : WifiRecords s k fields payload ↔
    ∃ frame, (wifiMpduFrames payload).find? (wifiFrameTaken s) = some frame ∧ WifiSays s k fields frame := by
  obtain ⟨hnone, hsome, -⟩ := wifiScanParseRxMpdu_first s payload
  rw [wifiMpduTaken_eq] at hnone hsome
  cases htaken : (wifiMpduFrames payload).find? (wifiFrameTaken s) with
  | none => simp [WifiRecords, (hnone htaken).1]
  | some frame =>
      obtain ⟨haccepted, ⟨failed, hstate⟩, -⟩ := hsome frame htaken
      obtain ⟨c, -, hc⟩ := List.mem_filterMap.mp (List.mem_of_find?_eq_some htaken)
      have hrecorded := recorded_wifiScanParse80211Frame (k := k) (wifiMpduCandidate_some hc).1
        (List.find?_some htaken)
      rw [WifiRecords, haccepted, hstate]
      simp only [hrecorded, true_and, Option.some.injEq, exists_eq_left', WifiSays]
      split <;> simp

/-- A response is recorded exactly if 36 bytes of the payload are left where it begins and no frame that
is tried before it is taken, or if a frame that is taken before it says the same. -/
theorem wifiResponse_recorded_iff (s : Wifi) (k : WifiResponseKind) (payload : List UInt8) (off len : Nat)
    (h : WifiResponseAt s.connect k payload off len) :
    let fields := k.fields ((payload.drop off).take len)
    WifiRecords s k fields payload ↔
      wifiMgmtHeaderBytes + wifiBeaconFixedBytes ≤ payload.length - off ∧
          (∀ frame ∈ wifiFramesBefore payload off, ¬ wifiFrameTaken s frame = true) ∨
        ∃ frame, (wifiFramesBefore payload off).find? (wifiFrameTaken s) = some frame ∧ WifiSays s k fields frame := by
  intro fields
  have heven : off % 2 = 0 := by
    have hoff := h.offset
    simp only [List.mem_cons, List.not_mem_nil, or_false] at hoff
    omega
  have hlen : 30 ≤ len := h.length
  have hrest : 30 ≤ (payload.drop off).length := by
    have hfits := h.fits
    rw [List.length_drop]
    omega
  obtain ⟨rest, hframes, hcase⟩ := wifiMpduFrames_split payload heven
  rw [wifiRecords_iff, hframes, List.find?_append]
  cases hbefore : (wifiFramesBefore payload off).find? (wifiFrameTaken s) with
  | some frame =>
      have htaken : ¬ ∀ frame ∈ wifiFramesBefore payload off, ¬ wifiFrameTaken s frame = true := fun hnone =>
        hnone frame (List.mem_of_find?_eq_some hbefore) (List.find?_some hbefore)
      simp only [htaken, and_false, false_or, Option.some_or]
  | none =>
      have hnone : ∀ frame ∈ wifiFramesBefore payload off, ¬ wifiFrameTaken s frame = true :=
        List.find?_eq_none.mp hbefore
      split at hcase
      next hlong =>
        obtain ⟨c, tail, frame, hoff, hc, rfl⟩ := hcase
        obtain ⟨hsize, n, rfl⟩ := wifiMpduCandidate_some hc
        rw [hoff] at hsize ⊢
        -- the frame that begins there is a response for the plan, wherever it ends
        have hn : 30 ≤ n := by
          rw [List.length_take] at hsize
          exact (Nat.le_trans (by decide) hsize).trans (Nat.min_le_left _ _)
        have hnames : k.names ((payload.drop off).take n) = true := by
          rw [names_take hn, ← names_take hlen]
          exact h.names
        have hplan : wifiConnectFrameMatchesPlan s.connect ((payload.drop off).take n) = true := by
          rw [matchesPlan_take hn hrest, ← matchesPlan_take hlen hrest]
          exact h.plan
        have hfields : k.fields ((payload.drop off).take n) = fields := (fields_take hn).trans (fields_take hlen).symm
        have htaken : wifiFrameTaken s ((payload.drop off).take n) = true := by
          obtain ⟨hmgmt, hsubtype⟩ := names_eq_true.mp hnames
          simp only [wifiFrameTaken, hmgmt, hsubtype]
          cases k <;> simp [WifiResponseKind.subtype, hplan, wifiTypeMgmt, wifiTypeData]
        rw [List.find?_cons, htaken]
        simpa [WifiSays, hnames, hfields, hlong] using hnone
      next hshort =>
        rw [hcase]
        simp [hshort]

end Taken

/-! ## The shortest responses -/

/-- An authentication response of 30 bytes to the station of a plan with addresses 0. -/
def sampleAuthResponse : List UInt8 := [0xb0, 0x00] ++ List.replicate 24 0 ++ [0x02, 0x00, 0x00, 0x00]

/-- A plan that waits for its responses. -/
def samplePlanned : Wifi := { wifiBoot with connect := { wifiBoot.connect with ready := true } }

/-- Six bytes behind the response are enough. -/
theorem wifiResponse_recorded_padded :
    WifiRecords samplePlanned .auth [0, 2, 0] (30 :: List.replicate 63 0 ++ sampleAuthResponse ++
      List.replicate 6 0) := by
  refine (wifiResponse_recorded_iff samplePlanned .auth
    (30 :: List.replicate 63 0 ++ sampleAuthResponse ++ List.replicate 6 0) 64 30
    ⟨by decide, by decide, by decide, by decide, by decide⟩).mpr (.inl ⟨by decide, ?_⟩)
  decide +kernel

/-- A response of 30 bytes at the end of the payload is missed. -/
theorem wifiResponse_missed :
    ¬ ∀ (s : Wifi) (k : WifiResponseKind) (payload : List UInt8) (off len : Nat),
      WifiResponseAt s.connect k payload off len →
        WifiRecords s k (k.fields ((payload.drop off).take len)) payload := by
  intro h
  have hresponse := h samplePlanned .auth (30 :: List.replicate 63 0 ++ sampleAuthResponse) 64 30
    ⟨by decide, by decide, by decide, by decide, by decide⟩
  have hmissed : (wifiScanParseRxMpdu samplePlanned (30 :: List.replicate 63 0 ++ sampleAuthResponse)).1 = false := by
    decide +kernel
  rw [WifiRecords, hmissed] at hresponse
  cases hresponse.1

end Orizon
