import Orizon.Wifi.Ccmp

/-!
# Orizon.Wifi.Receive

What a run of received frames delivers (`wifi_ccmp_parse_protected_data`).

The receiver keeps no packet number and looks at neither the fragment number nor the
A-MSDU bit: whether it takes a frame depends on the frame and the keys alone.  What it
takes is authentic, and it hands on what was protected (`wifiCcmpAccepted_authentic`);
a frame sent again is handed on again (`wifiCcmpAccepted_replay`).
-/

namespace Orizon

/-! ## One frame -/

/-- The parts of a frame, its frame control word read from it. -/
def wifiPartsOf (frame : List UInt8) : WifiCcmpParts :=
  wifiCcmpParts frame (wifiReadLe16 frame 0) (wifiFcSubtype (wifiReadLe16 frame 0))

/-- `wifi_ccmp_parse_protected_data` as it is called. -/
def wifiCcmpReceive (s : Wifi) (frame : List UInt8) : Bool × Wifi :=
  wifiCcmpParseProtectedData s frame (wifiReadLe16 frame 0) (wifiFcSubtype (wifiReadLe16 frame 0))

/-- The frame carries `plain` under `tk`, and the receiver's key for it is `tk`. -/
structure WifiCarries (s : Wifi) (p : WifiCcmpParts) (tk : AesBlock) (plain : List UInt8) : Prop where
  key : wifiCcmpRxKey s p.a1 p.keyId = some tk
  opened : ccmOpen tk p.nonce p.aad p.cipher p.tag = some plain

/-- A call changes nothing, notes a failed decryption, or delivers what the frame
carries. -/
theorem wifiCcmpParseProtectedData_cases (s : Wifi) (frame : List UInt8) (fc subtype : UInt16) :
    let p := wifiCcmpParts frame fc subtype
    let r := wifiCcmpParseProtectedData s frame fc subtype
    r = (false, s) ∨ r = (false, { s with ccmp := { s.ccmp with rxDecryptFailed := true } }) ∨
      ∃ tk plain, WifiCarries s p tk plain ∧ p.a2 = s.connect.bssid ∧ plain.take 6 = wifiLlcSnap ∧
        8 ≤ plain.length ∧ r = (true, wifiCcmpDeliver s p.a3 plain) := by
  simp only [wifiCcmpParseProtectedData]
  split
  · exact .inl rfl
  split
  · exact .inl rfl
  rename_i haddr
  split
  · exact .inl rfl
  rename_i hlen
  split
  · exact .inl rfl
  rename_i hcipher
  split
  · exact .inl rfl
  rename_i tk hkey
  split
  · exact .inr (.inl rfl)
  rename_i plain hopen
  split
  · exact .inl rfl
  rename_i hsnap
  split
  · exact .inl rfl
  refine .inr (.inr ⟨tk, plain, ⟨hkey, hopen⟩, ?_, ?_, ?_, rfl⟩)
  · simp only [Bool.or_eq_true, decide_eq_true_eq, not_or, not_not] at haddr
    exact haddr.1
  · exact not_not.mp hsnap
  · -- the text is as long as the ciphertext
    have hplain := (ccmSeal_length (ccmOpen_eq_some hopen)).1
    simp only [Bool.or_eq_true, decide_eq_true_eq, not_or, Nat.not_lt] at hlen hcipher
    have hlow := hcipher.1
    rw [← hplain]
    simp only [wifiCcmpParts, List.length_take, List.length_drop] at hlow hlen ⊢
    simp only [wifiCcmpHeaderBytes, wifiCcmpMicBytes] at hlow hlen ⊢
    omega

/-- A frame of eight bytes or more that starts with the LLC/SNAP header is its
EtherType and the payload behind that header. -/
theorem wifi_llcSnap_split {plain : List UInt8} (hsnap : plain.take 6 = wifiLlcSnap)
    (hlen : 8 ≤ plain.length) :
    plain = wifiLlcSnap ++ (wifiWriteBe16 (wifiReadBe16 plain 6) ++ plain.drop 8) := by
  have hword : [plain.getD 6 0, plain.getD 7 0] ++ plain.drop 8 = plain.drop 6 := by
    rw [List.drop_eq_getElem_cons (show 6 < plain.length by omega),
      List.drop_eq_getElem_cons (show 7 < plain.length by omega)]
    simp [List.getD_eq_getElem?_getD, show 6 < plain.length by omega, show 7 < plain.length by omega]
  rw [wifiWriteBe16_readBe16, hword, ← hsnap, List.take_append_drop]

/-- Whether a frame is taken depends neither on what was received before nor on the
binding. -/
theorem wifiCcmpReceive_accepts (s : Wifi) (c : WifiCcmp) (b : WifiBind) (frame : List UInt8) :
    (wifiCcmpReceive { s with ccmp := c, bind := b } frame).1 = (wifiCcmpReceive s frame).1 := by
  have hkey : wifiCcmpRxKey { s with ccmp := c, bind := b } = wifiCcmpRxKey s := rfl
  have hlink : wifiDataLinkReady { s with ccmp := c, bind := b } = wifiDataLinkReady s := rfl
  simp only [wifiCcmpReceive, wifiCcmpParseProtectedData, apply_ite Prod.fst, hkey, hlink]
  congr 4
  cases wifiCcmpRxKey s _ _ with
  | none => rfl
  | some tk =>
      simp only
      cases ccmOpen tk _ _ _ _ with
      | none => rfl
      | some plain => simp only [apply_ite Prod.fst]

theorem wifiCcmpReceive_ccmp (s : Wifi) (c : WifiCcmp) (frame : List UInt8) :
    (wifiCcmpReceive { s with ccmp := c } frame).1 = (wifiCcmpReceive s frame).1 :=
  wifiCcmpReceive_accepts s c s.bind frame

/-- A call writes no field but those of `ccmp`. -/
theorem wifiCcmpReceive_frame (s : Wifi) (frame : List UInt8) :
    ∃ c, (wifiCcmpReceive s frame).2 = { s with ccmp := c } := by
  rcases wifiCcmpParseProtectedData_cases s frame (wifiReadLe16 frame 0)
    (wifiFcSubtype (wifiReadLe16 frame 0)) with h | h | ⟨tk, plain, -, -, -, -, h⟩
  · exact ⟨s.ccmp, by rw [wifiCcmpReceive, h]⟩
  · exact ⟨_, by rw [wifiCcmpReceive, h]⟩
  · exact ⟨_, by rw [wifiCcmpReceive, h]; rfl⟩

/-! ## A run of frames -/

/-- The frames of a run that set `ccmp_rx_ready`, each with the state after it. -/
def wifiCcmpAccepted : Wifi → List (List UInt8) → List (List UInt8 × Wifi)
  | _, [] => []
  | s, frame :: frames =>
      let r := wifiCcmpReceive s frame
      if r.1 then (frame, r.2) :: wifiCcmpAccepted r.2 frames else wifiCcmpAccepted r.2 frames

/-- Something that was sealed. -/
structure WifiSealed where
  key : AesBlock
  nonce : List UInt8
  aad : List UInt8
  plain : List UInt8

/-- Nobody but the access point seals under the receiver's keys: what a frame carries is
in the access point's log. -/
def WifiNoForgery (s : Wifi) (log : List WifiSealed) (frame : List UInt8) : Prop :=
  ∀ tk plain, WifiCarries s (wifiPartsOf frame) tk plain →
    ⟨tk, (wifiPartsOf frame).nonce, (wifiPartsOf frame).aad, plain⟩ ∈ log

/-- The delivery hands on what the access point sealed for the frame's packet number and
header under the key of its addressee. -/
def WifiAuthentic (s : Wifi) (log : List WifiSealed) (frame : List UInt8) (t : Wifi) : Prop :=
  let p := wifiPartsOf frame
  ∃ e ∈ log, wifiCcmpRxKey s p.a1 p.keyId = some e.key ∧
    e.nonce = wifiCcmpNonce p.qosTid s.connect.bssid p.pn ∧ e.aad = p.aad ∧
    e.plain = wifiLlcSnap ++ (wifiWriteBe16 t.ccmp.rxEthType ++ t.ccmp.rxPayload) ∧
    t.ccmp.rxReady ∧ t.ccmp.rxSrcMac = p.a3

theorem wifiCcmpReceive_authentic {s : Wifi} {log : List WifiSealed} {frame : List UInt8} (c : WifiCcmp)
    (hlog : WifiNoForgery s log frame) (h : (wifiCcmpReceive { s with ccmp := c } frame).1) :
    WifiAuthentic s log frame (wifiCcmpReceive { s with ccmp := c } frame).2 := by
  rcases wifiCcmpParseProtectedData_cases { s with ccmp := c } frame (wifiReadLe16 frame 0)
    (wifiFcSubtype (wifiReadLe16 frame 0)) with hr | hr | ⟨tk, plain, hcarries, ha2, hsnap, hlen, hr⟩
  · rw [wifiCcmpReceive, hr] at h
    simp at h
  · rw [wifiCcmpReceive, hr] at h
    simp at h
  · rw [wifiCcmpReceive, hr]
    have hnonce : (wifiPartsOf frame).nonce =
        wifiCcmpNonce (wifiPartsOf frame).qosTid s.connect.bssid (wifiPartsOf frame).pn :=
      congrArg (wifiCcmpNonce _ · _) ha2
    exact ⟨_, hlog tk plain ⟨hcarries.key, hcarries.opened⟩, hcarries.key, hnonce, rfl,
      wifi_llcSnap_split hsnap hlen, rfl, rfl⟩

theorem wifiCcmpAccepted_spec {s : Wifi} {log : List WifiSealed} {frames : List (List UInt8)} (c : WifiCcmp)
    (hlog : ∀ frame ∈ frames, WifiNoForgery s log frame) :
    (wifiCcmpAccepted { s with ccmp := c } frames).map Prod.fst =
        frames.filter (fun frame => (wifiCcmpReceive s frame).1) ∧
      ∀ d ∈ wifiCcmpAccepted { s with ccmp := c } frames, WifiAuthentic s log d.1 d.2 := by
  induction frames generalizing c with
  | nil => simp [wifiCcmpAccepted]
  | cons frame frames ih =>
      have hnow := wifiCcmpReceive_ccmp s c frame
      obtain ⟨c', hc'⟩ := wifiCcmpReceive_frame { s with ccmp := c } frame
      obtain ⟨hfilter, hall⟩ := ih c' fun f hf => hlog f (List.mem_cons_of_mem _ hf)
      rw [wifiCcmpAccepted, hc']
      by_cases htaken : (wifiCcmpReceive s frame).1
      · have hauth := wifiCcmpReceive_authentic c (hlog frame List.mem_cons_self)
          (by rw [hnow]; exact htaken)
        rw [hc'] at hauth
        simp only [hnow, htaken, if_true, List.map_cons, List.filter_cons_of_pos]
        refine ⟨by rw [hfilter], fun d hd => ?_⟩
        rcases List.mem_cons.mp hd with rfl | hd
        · exact hauth
        · exact hall d hd
      · simp only [hnow, htaken, if_false, Bool.false_eq_true, not_false_eq_true,
          List.filter_cons_of_neg]
        exact ⟨hfilter, hall⟩

/-- Under fixed keys the frames of a run that set `ccmp_rx_ready` are those that the first
state takes, whatever came before them; and if only the access point seals under the keys,
each hands on, with its own packet number and header, exactly what the access point
sealed. -/
theorem wifiCcmpAccepted_authentic (s : Wifi) (log : List WifiSealed) (frames : List (List UInt8))
    (hlog : ∀ frame ∈ frames, WifiNoForgery s log frame) :
    (wifiCcmpAccepted s frames).map Prod.fst = frames.filter (fun frame => (wifiCcmpReceive s frame).1) ∧
      ∀ d ∈ wifiCcmpAccepted s frames, WifiAuthentic s log d.1 d.2 :=
  wifiCcmpAccepted_spec s.ccmp hlog

/-! ## A frame sent again -/

theorem wifiNoForgery_apFrame {s : Wifi} {log : List WifiSealed} {h r : WifiDataHeader} {pn : WifiPn}
    {keyId : UInt8} {tk : AesBlock} {plain frame : List UInt8} (hr : r.ForStation s)
    (hsame : h.SameFixed r) (hkey : wifiCcmpRxKey s r.a1 (keyId &&& 0x03) = some tk)
    (hframe : wifiApFrame tk keyId pn h r plain = some frame)
    (hmem : ⟨tk, wifiCcmpNonce r.tid r.a2 pn, r.aad, plain⟩ ∈ log) : WifiNoForgery s log frame := by
  have hbuild := WifiDataHeader.wifiCcmpBuildAad_bytes [] (hsame.qosAgrees hr.qos)
  rw [List.append_nil] at hbuild
  simp only [wifiApFrame, hbuild, Option.map_eq_some_iff] at hframe
  obtain ⟨⟨cipher, tag⟩, hseal, rfl⟩ := hframe
  have hparts := @wifiCcmpParts_apFrame r pn keyId cipher tag hr.toDs hr.qos (ccmSeal_length hseal).2
  rw [← WifiDataHeader.readLe16_bytes (wifiCcmpWriteHeader pn keyId ++ (cipher ++ tag))] at hparts
  have hopen : ccmOpen tk (wifiCcmpNonce r.tid r.a2 pn) r.aad cipher tag = some plain := by
    rw [← hsame.aad_eq.1, ← hsame.aad_eq.2, ← hsame.a2]
    exact ccmOpen_seal hseal
  intro tk' plain' hcarries
  obtain ⟨hkey', hopened⟩ := hcarries
  simp only [wifiPartsOf] at hkey' hopened ⊢
  rw [hparts] at hkey' hopened ⊢
  simp only [WifiCcmpParts.nonce] at hkey' hopened ⊢
  obtain rfl : tk = tk' := Option.some.inj (hkey.symm.trans hkey')
  obtain rfl : plain = plain' := Option.some.inj (hopen.symm.trans hopened)
  exact hmem

/-- The first fragment of an A-MSDU: More Fragments, fragment number 1 and the A-MSDU bit
are set. -/
def sampleFragment : WifiDataHeader :=
  { sampleHeader with fc := 0x4688, seqCtl := 0x0011, qos := some 0x0085 }

/-- Its packet number. -/
def samplePn : WifiPn := #v[0, 0, 0, 0, 0, 1]

/-- Its body. -/
def sampleBody : List UInt8 := wifiLlcSnap ++ [0x88, 0xb5, 79, 114]

/-- What the access point sealed: this one frame. -/
def sampleLog : List WifiSealed :=
  [⟨sampleLink.wpa.tk, wifiCcmpNonce sampleFragment.tid sampleFragment.a2 samplePn, sampleFragment.aad,
    sampleBody⟩]

theorem sampleFragment_forStation : sampleFragment.ForStation sampleLink :=
  ⟨by decide, by decide, by decide, .inl rfl, rfl, by rw [WifiDataHeader.QosAgrees]; decide⟩

theorem sampleFragment_taken : ∃ frame,
    wifiApFrame sampleLink.wpa.tk 0 samplePn sampleFragment sampleFragment sampleBody = some frame ∧
      (wifiCcmpReceive sampleLink frame).1 ∧ WifiNoForgery sampleLink sampleLog frame := by
  have hsame : sampleFragment.SameFixed sampleFragment := ⟨rfl, rfl, rfl, rfl, rfl, rfl⟩
  have hkey : wifiCcmpRxKey sampleLink sampleFragment.a1 (0 &&& 0x03) = some sampleLink.wpa.tk := by decide
  obtain ⟨frame, hframe, hparse⟩ := @wifiCcmpParse_apFrame sampleLink sampleFragment sampleFragment
    samplePn 0 _ 0x88b5 [79, 114] _ (by decide) rfl sampleFragment_forStation hsame hkey
  refine ⟨frame, hframe, ?_, wifiNoForgery_apFrame sampleFragment_forStation hsame hkey hframe
    List.mem_cons_self⟩
  rw [wifiCcmpReceive, hparse]

theorem wifiCcmpAccepted_authentic_sample : ∃ frame,
    wifiApFrame sampleLink.wpa.tk 0 samplePn sampleFragment sampleFragment sampleBody = some frame ∧
      ∀ d ∈ wifiCcmpAccepted sampleLink [frame], WifiAuthentic sampleLink sampleLog d.1 d.2 := by
  obtain ⟨frame, hframe, -, hlog⟩ := sampleFragment_taken
  exact ⟨frame, hframe, (wifiCcmpAccepted_authentic sampleLink sampleLog [frame]
    (by simpa using hlog)).2⟩

/-- The frames taken under one key carry rising packet numbers, and each is a whole MSDU. -/
def WifiFresh (s : Wifi) (frames : List (List UInt8)) : Prop :=
  let taken := (wifiCcmpAccepted s frames).map Prod.fst
  taken.Pairwise (fun f g =>
      wifiCcmpRxKey s (wifiPartsOf f).a1 (wifiPartsOf f).keyId =
        wifiCcmpRxKey s (wifiPartsOf g).a1 (wifiPartsOf g).keyId →
      beNat (wifiPartsOf f).pn.toList < beNat (wifiPartsOf g).pn.toList) ∧
    ∀ f ∈ taken, wifiReadLe16 f 0 &&& 0x0400 = 0 ∧ f.getD 22 0 &&& 0x0f = 0 ∧
      (wifiFcSubtype (wifiReadLe16 f 0) &&& wifiSubtypeQosData ≠ 0 → f.getD 24 0 &&& 0x80 = 0)

/-- The access point seals one frame.  Received twice it is delivered twice. -/
theorem wifiCcmpAccepted_replay :
    ¬ ∀ (s : Wifi) (log : List WifiSealed) (frames : List (List UInt8)),
      (∀ frame ∈ frames, WifiNoForgery s log frame) → WifiFresh s frames := by
  intro hall
  obtain ⟨frame, -, htaken, hlog⟩ := sampleFragment_taken
  have hboth : ∀ f ∈ [frame, frame], WifiNoForgery sampleLink sampleLog f := by simpa using hlog
  obtain ⟨hfilter, -⟩ := @wifiCcmpAccepted_spec sampleLink sampleLog [frame, frame] sampleLink.ccmp hboth
  have hfresh := (hall sampleLink sampleLog [frame, frame] hboth).1
  rw [show wifiCcmpAccepted sampleLink [frame, frame] =
    wifiCcmpAccepted { sampleLink with ccmp := sampleLink.ccmp } [frame, frame] from rfl, hfilter] at hfresh
  simp [htaken] at hfresh

end Orizon
