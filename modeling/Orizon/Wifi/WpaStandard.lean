import Orizon.HashStandard
import Orizon.Wifi.Eapol

/-!
# Orizon.Wifi.WpaStandard

The pairwise key of IEEE 802.11 and the answers M2 and M4 (`kernel/drivers/wifi.c`).

`wifi_wpa_prf_sha1` computes the standard's `PRF`, and the seed that `wifi_wpa_derive_ptk` gives it
is the standard's, which does not depend on who is the station (`wifiPtk_standard`).  An answer carries
the replay counter of the frame it answers, the length of its body and the MIC of itself
(`wifiWpa_standard`).
-/

namespace Orizon

/-! ## The standard's key -/

/-- `PRF` of IEEE 802.11: blocks of the label, a zero byte, the seed and the number of the block. -/
def ieeePrf (key label seed : List UInt8) (n : Nat) : List UInt8 :=
  expand 20 (fun i => standardHmac fipsSha1 key (label ++ 0 :: (seed ++ [UInt8.ofNat i]))) n

/-- `Min`: of two numbers with the high byte first. -/
def ieeeMin (a b : List UInt8) : List UInt8 := if beNat a < beNat b then a else b

/-- `Max`. -/
def ieeeMax (a b : List UInt8) : List UInt8 := if beNat a < beNat b then b else a

/-- The seed of the pairwise key. -/
def ieeePairwiseSeed (aa spa anonce snonce : List UInt8) : List UInt8 :=
  ieeeMin aa spa ++ ieeeMax aa spa ++ (ieeeMin anonce snonce ++ ieeeMax anonce snonce)

/-- The pairwise transient key. -/
def ieeePairwiseKey (pmk aa spa anonce snonce : List UInt8) : List UInt8 :=
  ieeePrf pmk (asciiBytes "Pairwise key expansion") (ieeePairwiseSeed aa spa anonce snonce) 64

section Seed

variable {a b aa spa anonce snonce : List UInt8}

/-- The smaller of two strings of one length is the smaller number, whichever comes first. -/
theorem ieeeMin_comm (h : a.length = b.length) : ieeeMin a b = ieeeMin b a := by
  unfold ieeeMin
  split
  · rw [if_neg (by omega)]
  · split
    · rfl
    · exact (beNat_inj h (by omega)).symm

theorem ieeeMax_comm (h : a.length = b.length) : ieeeMax a b = ieeeMax b a := by
  unfold ieeeMax
  split
  · rw [if_neg (by omega)]
  · split
    · rfl
    · exact beNat_inj h (by omega)

theorem ieeePairwiseSeed_swap (hmacs : aa.length = spa.length) (hnonces : anonce.length = snonce.length) :
    ieeePairwiseSeed spa aa snonce anonce = ieeePairwiseSeed aa spa anonce snonce := by
  rw [ieeePairwiseSeed, ieeeMin_comm hmacs.symm, ieeeMax_comm hmacs.symm, ieeeMin_comm hnonces.symm,
    ieeeMax_comm hnonces.symm, ieeePairwiseSeed]

/-! ## What the driver computes -/

theorem wifiWpaLexicographicLess_iff (h : a.length = b.length) :
    wifiWpaLexicographicLess a b = true ↔ beNat a < beNat b := by
  induction a generalizing b with
  | nil =>
      obtain rfl := List.length_eq_zero_iff.mp h.symm
      simp [wifiWpaLexicographicLess]
  | cons x a ih =>
      cases b with
      | nil => cases h
      | cons y b =>
          have hlen : a.length = b.length := Nat.succ.inj h
          have ha := beNat_lt a
          have hb := beNat_lt b
          rw [hlen] at ha
          simp only [wifiWpaLexicographicLess, Bool.or_eq_true, Bool.and_eq_true, decide_eq_true_eq, ih hlen,
            beNat_cons, hlen, UInt8.lt_iff_toNat_lt, ← UInt8.toNat_inj]
          -- the first bytes that differ decide
          obtain hlt | heq | hgt := Nat.lt_trichotomy x.toNat y.toNat
          · have hstep : (x.toNat + 1) * 256 ^ b.length ≤ y.toNat * 256 ^ b.length := Nat.mul_le_mul_right _ hlt
            rw [Nat.succ_mul] at hstep
            omega
          · rw [heq]
            omega
          · have hstep : (y.toNat + 1) * 256 ^ b.length ≤ x.toNat * 256 ^ b.length := Nat.mul_le_mul_right _ hgt
            rw [Nat.succ_mul] at hstep
            omega

theorem wifiWpa_ordered (h : a.length = b.length) :
    (if wifiWpaLexicographicLess a b then a ++ b else b ++ a) = ieeeMin a b ++ ieeeMax a b := by
  by_cases hless : beNat a < beNat b
  · rw [if_pos ((wifiWpaLexicographicLess_iff h).mpr hless), ieeeMin, ieeeMax, if_pos hless, if_pos hless]
  · rw [if_neg (mt (wifiWpaLexicographicLess_iff h).mp hless), ieeeMin, ieeeMax, if_neg hless, if_neg hless]

end Seed

section Prf

variable {key label seed : List UInt8} {n : Nat}

theorem wifiWpaPrfLoop_eq (key label seed : List UInt8) (rounds k : Nat) :
    wifiWpaPrfLoop key label seed rounds (UInt8.ofNat k) = (List.range rounds).flatMap fun i =>
      standardHmac fipsSha1 key (label ++ 0 :: (seed ++ [UInt8.ofNat (k + i)])) := by
  induction rounds generalizing k with
  | zero => rfl
  | succ rounds ih =>
      have hnext : UInt8.ofNat k + 1 = UInt8.ofNat (k + 1) := by simp
      rw [wifiWpaPrfLoop, hnext, ih, List.range_succ_eq_map, List.flatMap_cons, List.flatMap_map, hmacSha1_eq]
      simp [Nat.add_assoc, Nat.add_comm 1]

/-- The driver's function is the standard's, for labels and seeds of up to 158 bytes together. -/
theorem wifiWpaPrfSha1_eq (hn : n ≠ 0) (hlen : label.length + 1 + seed.length + 1 ≤ 160) :
    ∃ out, wifiWpaPrfSha1 n key label seed = some out ∧ out.toList = ieeePrf key label seed n := by
  have hblock : ∀ i, (standardHmac fipsSha1 key (label ++ 0 :: (seed ++ [UInt8.ofNat i]))).length = 20 :=
    fun i => length_fipsSha1 _
  refine ⟨_, if_neg (by simp [hn]; omega), ?_⟩
  have hloop := wifiWpaPrfLoop_eq key label seed ((n + 19) / 20) 0
  simp only [Nat.zero_add] at hloop
  have hlong : n ≤ (wifiWpaPrfLoop key label seed ((n + 19) / 20) 0).length := by
    rw [show (0 : UInt8) = UInt8.ofNat 0 from rfl, hloop, length_flatMap_block hblock]
    omega
  have hsplit := List.take_append_drop n (wifiWpaPrfLoop key label seed ((n + 19) / 20) 0)
  rw [toList_bytesFrom (List.drop_zero.trans hsplit.symm) (List.length_take_of_le hlong), ieeePrf, expand,
    show n + 20 - 1 = n + 19 from rfl, ← hloop]
  rfl

end Prf

/-! ## The pairwise key -/

/-- The seed that `wifi_wpa_derive_ptk` assembles. -/
def wifiPtkSeed (localMac bssid : WifiMac) (snonce anonce : Vector UInt8 32) : List UInt8 :=
  (if wifiWpaLexicographicLess localMac.toList bssid.toList then localMac.toList ++ bssid.toList
    else bssid.toList ++ localMac.toList) ++
    (if wifiWpaLexicographicLess snonce.toList anonce.toList then snonce.toList ++ anonce.toList
      else anonce.toList ++ snonce.toList)

theorem wifiPtkSeed_eq (localMac bssid : WifiMac) (snonce anonce : Vector UInt8 32) :
    wifiPtkSeed localMac bssid snonce anonce =
      ieeePairwiseSeed bssid.toList localMac.toList anonce.toList snonce.toList := by
  rw [wifiPtkSeed, wifiWpa_ordered (by simp), wifiWpa_ordered (by simp),
    ← ieeePairwiseSeed_swap (by simp) (by simp), ieeePairwiseSeed]

theorem wifiPtk_standard (pmk : Vector UInt8 32) (spa aa : WifiMac) (snonce anonce : Vector UInt8 32) :
    ∃ ptk, wifiWpaPrfSha1 64 pmk.toList (asciiBytes "Pairwise key expansion") (wifiPtkSeed spa aa snonce anonce) =
        some ptk ∧
      wifiWpaPrfSha1 64 pmk.toList (asciiBytes "Pairwise key expansion") (wifiPtkSeed aa spa anonce snonce) =
        some ptk ∧
      ptk.toList = ieeePairwiseKey pmk.toList aa.toList spa.toList anonce.toList snonce.toList := by
  have hlabel : (asciiBytes "Pairwise key expansion").length = 22 := by decide
  have hseed : (wifiPtkSeed spa aa snonce anonce).length = 76 := by
    unfold wifiPtkSeed
    split <;> split <;> simp
  have hlen : (asciiBytes "Pairwise key expansion").length + 1 + (wifiPtkSeed spa aa snonce anonce).length + 1 ≤ 160 := by
    rw [hlabel, hseed]
    decide
  obtain ⟨ptk, hsome, hvalue⟩ := @wifiWpaPrfSha1_eq pmk.toList _ _ 64 (by decide) hlen
  refine ⟨ptk, hsome, ?_, ?_⟩
  · rw [← hsome, wifiPtkSeed_eq, wifiPtkSeed_eq, ieeePairwiseSeed_swap (by simp) (by simp)]
  · rw [hvalue, wifiPtkSeed_eq, ieeePairwiseKey]

/-- What `wifi_wpa_derive_ptk` writes where there are a PMK and an ANonce. -/
theorem wifiWpaDerivePtk_eq {s : Wifi} (hpmk : s.connect.pmkReady = true) (hanonce : s.wpa.anonceSeen = true) :
    ∃ snonce ptk, wifiWpaDerivePtk s =
        (0, { s with wpa := { s.wpa with snonce := snonce, ptk := ptk, ptkReady := true } }) ∧
      wifiWpaPrfSha1 64 s.connect.pmk.toList (asciiBytes "Pairwise key expansion")
        (wifiPtkSeed s.connect.localMac s.connect.bssid snonce s.wpa.anonce) = some ptk := by
  have hlabel : (asciiBytes "Orizon OS WPA2 SNonce").length = 21 := by decide
  obtain ⟨snonce, hsnonce⟩ := @wifiWpaPrfSha1_eq_some 32 (asciiBytes "Orizon OS WPA2 SNonce")
    (s.connect.localMac.toList ++ s.connect.bssid.toList ++ s.wpa.anonce.toList ++
      writeBe32 s.connect.attempts ++ writeBe32 s.scan.generation ++ writeBe32 s.wpa.replayCounterHi ++
      writeBe32 s.wpa.replayCounterLo ++ writeBe32 ((s.vendorId.toUInt32 <<< 16) ||| s.deviceId.toUInt32))
    s.connect.pmk.toList (by decide) (by simp [hlabel])
  obtain ⟨ptk, hptk, -, -⟩ := wifiPtk_standard s.connect.pmk s.connect.localMac s.connect.bssid snonce s.wpa.anonce
  refine ⟨snonce, ptk, ?_, hptk⟩
  unfold wifiPtkSeed at hptk
  rw [wifiWpaDerivePtk, if_neg (by simp [hpmk, hanonce]), wifiWpaGenerateSnonce, hsnonce]
  simp only [Option.map_some, hptk]

/-! ## The answers -/

/-- An answer: the replay counter, the length of the body, and the MIC of the frame with zeros in its place. -/
structure WifiAnswer (kck : List UInt8) (counterHi counterLo : UInt32) (m : List UInt8) : Prop where
  counter : readBe32 m 9 = counterHi ∧ readBe32 m 13 = counterLo
  body : 4 ≤ m.length ∧ (wifiReadBe16 m 2).toNat = m.length - 4
  mic : (m.drop 81).take 16 =
    (standardHmac fipsSha1 kck (m.take 81 ++ List.replicate 16 0 ++ m.drop 97)).take 16

theorem wifiMic_placed {start mic behind : List UInt8} (hstart : start.length = 81) (hmic : mic.length = 16) :
    (start ++ mic ++ behind).take 81 = start ∧ ((start ++ mic ++ behind).drop 81).take 16 = mic ∧
      (start ++ mic ++ behind).drop 97 = behind := by
  refine ⟨?_, ?_, ?_⟩
  · rw [List.append_assoc, ← hstart, List.take_left]
  · rw [List.append_assoc, ← hstart, List.drop_left, ← hmic, List.take_left]
  · rw [show 97 = (start ++ mic).length by rw [List.length_append, hstart, hmic], List.drop_left]

theorem wifiAnswer_wifiWpaEapolAnswer (kck : List UInt8) (version descType : UInt8) (keyInfo keyLen : UInt16)
    (counterHi counterLo : UInt32) {nonce keyData : List UInt8} (hnonce : nonce.length = 32)
    (hkeyData : keyData.length < 2 ^ 16 - 95) :
    WifiAnswer kck counterHi counterLo
      (wifiWpaEapolAnswer kck version descType keyInfo keyLen counterHi counterLo nonce keyData) := by
  have hlength := length_wifiWpaEapolAnswer kck version descType keyInfo keyLen counterHi counterLo nonce keyData
  have hmic : ∀ data, ((hmacSha1 kck data).take 16).length = 16 := by simp [length_hmacSha1]
  have hstart : ∀ a b : UInt8, (a :: 3 :: (wifiWriteBe16 (UInt16.ofNat (95 + keyData.length)) ++ b ::
      (wifiWriteBe16 keyInfo ++ wifiWriteBe16 keyLen ++ writeBe32 counterHi ++ writeBe32 counterLo ++
        nonce ++ List.replicate 32 0))).length = 81 := by
    simp [hnonce]
  obtain ⟨rest, hcounters⟩ : ∃ rest,
      (wifiWpaEapolAnswer kck version descType keyInfo keyLen counterHi counterLo nonce keyData).drop 9 =
        writeBe32 counterHi ++ (writeBe32 counterLo ++ rest) := by
    rw [wifiWpaEapolAnswer]
    simp only [wifiWriteBe16, List.cons_append, List.nil_append, List.drop_succ_cons, List.drop_zero, List.append_assoc]
    exact ⟨_, rfl⟩
  obtain ⟨version', rest', hbody⟩ : ∃ version' rest',
      wifiWpaEapolAnswer kck version descType keyInfo keyLen counterHi counterLo nonce keyData =
        [version', 3] ++ (wifiWriteBe16 (UInt16.ofNat (95 + keyData.length)) ++ rest') := by
    rw [wifiWpaEapolAnswer]
    simp only [List.cons_append, List.nil_append, List.append_assoc]
    exact ⟨_, _, rfl⟩
  refine ⟨⟨?_, ?_⟩, ⟨by omega, ?_⟩, ?_⟩
  · rw [← readBe32_drop, hcounters, readBe32_writeBe32]
  · rw [← readBe32_drop, show (13 : Nat) = 9 + 4 from rfl, ← List.drop_drop, hcounters,
      List.drop_left' (length_writeBe32 _), readBe32_writeBe32]
  · have hword := wifiReadBe16_writeBe16 [version', 3] (UInt16.ofNat (95 + keyData.length)) rest'
    rw [← hbody] at hword
    have hvalue := congrArg UInt16.toNat hword
    rw [UInt16.toNat_ofNat_of_lt' (show 95 + keyData.length < 65536 by omega)] at hvalue
    exact hvalue.trans (by omega)
  · unfold wifiWpaEapolAnswer
    dsimp only
    obtain ⟨htake, hplace, hdrop⟩ := wifiMic_placed (hstart _ _) (hmic _)
    rw [htake, hplace, hdrop, hmacSha1_eq]

/-- M2 and M4 are answers under the key confirmation key, whatever version and type they are asked for. -/
theorem wifiAnswer_built {s : Wifi} (version descType : UInt8) (hready : s.wpa.ptkReady = true) :
    WifiAnswer s.wpa.kck s.wpa.replayCounterHi s.wpa.replayCounterLo
        (wifiWpaBuildM2 s version descType).2.wpa.eapolM2 ∧
      WifiAnswer s.wpa.kck s.wpa.replayCounterHi s.wpa.replayCounterLo
        (wifiWpaBuildM4 s version descType).2.wpa.eapolM4 := by
  rw [wifiWpaBuildM2, wifiWpaBuildM4, if_neg (by simp [hready]), if_neg (by simp [hready])]
  exact ⟨wifiAnswer_wifiWpaEapolAnswer _ _ _ _ _ _ _ (by simp) (by decide),
    wifiAnswer_wifiWpaEapolAnswer _ _ _ _ _ _ _ (by simp) (by decide)⟩

/-- M2 is prepared once the key is derived, and its data frame changes neither. -/
theorem wifiAnswer_prepareM2 {s u : Wifi} (version descType : UInt8) (hderive : wifiWpaDerivePtk s = (0, u))
    (hready : u.wpa.ptkReady = true) :
    let t := (wifiWpaPrepareM2 s version descType).2
    t.wpa.m2Ready = true ∧ t.wpa.ptk = u.wpa.ptk ∧ t.wpa.snonce = u.wpa.snonce ∧
      WifiAnswer t.wpa.kck u.wpa.replayCounterHi u.wpa.replayCounterLo t.wpa.eapolM2 := by
  obtain ⟨hok, hbuilt, hlen, -, -⟩ := wifiWpaBuildM2_ok version descType hready
  have hanswer := (wifiAnswer_built version descType hready).1
  have hcode : (wifiWpaDerivePtk s).1 = 0 := by rw [hderive]
  have hfirst : wifiAndThen (wifiWpaDerivePtk s) (fun s => wifiWpaBuildM2 s version descType) =
      wifiWpaBuildM2 u version descType := by
    rw [wifiAndThen_ok _ hcode, hderive]
  have hkept : (wifiWpaBuildM2 u version descType).2.wpa.ptk = u.wpa.ptk ∧
      (wifiWpaBuildM2 u version descType).2.wpa.snonce = u.wpa.snonce := by
    rw [wifiWpaBuildM2]
    split <;> exact ⟨rfl, rfl⟩
  rw [wifiWpaPrepareM2, hfirst, wifiAndThen_ok _ hok, wifiWpaBuildM2DataFrame_ok hbuilt hlen]
  have hkck : (wifiWpaBuildM2 u version descType).2.wpa.kck = u.wpa.kck := by
    rw [WifiWpa.kck, hkept.1, WifiWpa.kck]
  rw [← hkck] at hanswer
  exact ⟨hbuilt, hkept.1, hkept.2, hanswer⟩

theorem wifiAnswer_prepareM4 {s : Wifi} (version descType : UInt8) (hready : s.wpa.ptkReady = true) :
    let t := (wifiWpaPrepareM4 s version descType).2
    t.wpa.m4Ready = true ∧ t.wpa.ptk = s.wpa.ptk ∧
      WifiAnswer t.wpa.kck s.wpa.replayCounterHi s.wpa.replayCounterLo t.wpa.eapolM4 := by
  have hanswer := (wifiAnswer_built version descType hready).2
  have hbuild : ∃ m4, wifiWpaBuildM4 s version descType =
      (0, { s with wpa := { s.wpa with eapolM4 := m4, m4Ready := true } }) ∧ m4.length ≤ 256 := by
    rw [wifiWpaBuildM4, if_neg (by simp [hready])]
    exact ⟨_, rfl, by simp [length_wifiWpaEapolAnswer]⟩
  obtain ⟨m4, hm4, hlen⟩ := hbuild
  have hframe := @wifiWpaBuildM4DataFrame_ok { s with wpa := { s.wpa with eapolM4 := m4, m4Ready := true } } rfl hlen
  rw [hm4] at hanswer
  rw [wifiWpaPrepareM4, hm4, wifiAndThen_ok _ rfl, hframe]
  exact ⟨rfl, rfl, hanswer⟩

/-! ## The frames that are answered -/

section Frames

variable {s : Wifi} {frame eapol : List UInt8}

/-- What an M1 leaves: the key of its ANonce, and the M2 that answers it. -/
theorem wifiAnswer_m1 (hof : wifiEapolOf s.connect frame = some eapol)
    (hm1 : wifiIsPairwiseM1 (wifiEapolKeyInfo eapol) = true) (hpmk : s.connect.pmkReady = true) :
    let t := wifiEapolFeed s frame
    t.wpa.m2Ready = true ∧
      t.wpa.ptk.toList = ieeePairwiseKey s.connect.pmk.toList s.connect.bssid.toList s.connect.localMac.toList
        (bytesFrom 32 eapol 17).toList t.wpa.snonce.toList ∧
      WifiAnswer t.wpa.kck (readBe32 eapol 9) (readBe32 eapol 13) t.wpa.eapolM2 := by
  intro t
  let v : Wifi := { wifiWpaStoreKeyFields s eapol with
    wpa := { (wifiWpaStoreKeyFields s eapol).wpa with m1Seen := true } }
  have hfeed : t = (wifiWpaPrepareM2 v (eapol.getD 0 0) (eapol.getD 4 0)).2 := by
    rw [wifiEapolOf] at hof
    have hconnect : (wifiWpaStoreKeyFields s eapol).connect.pmkReady = true := hpmk
    simp only [t, wifiEapolFeed, wifiWpaParseEapolKey, hof, wifiWpaTakeKey, hm1, if_true, hconnect]
    rfl
  obtain ⟨snonce, ptk, hderive, hkey⟩ := @wifiWpaDerivePtk_eq v hpmk rfl
  obtain ⟨hready, hptk, hsnonce, hanswer⟩ := wifiAnswer_prepareM2 (eapol.getD 0 0) (eapol.getD 4 0) hderive rfl
  rw [hfeed]
  refine ⟨hready, ?_, hanswer⟩
  obtain ⟨ptk', hptk', -, hvalue⟩ :=
      wifiPtk_standard v.connect.pmk v.connect.localMac v.connect.bssid snonce v.wpa.anonce
  obtain rfl := Option.some.inj (hkey.symm.trans hptk')
  rw [hptk, hsnonce]
  exact hvalue

theorem wifiAnswer_m3 (hof : wifiEapolOf s.connect frame = some eapol)
    (hm1 : ¬ wifiIsPairwiseM1 (wifiEapolKeyInfo eapol) = true)
    (hm3 : wifiIsPairwiseM3 (wifiEapolKeyInfo eapol) = true) (hptk : s.wpa.ptkReady = true) :
    let t := wifiEapolFeed s frame
    t.wpa.m4Ready = true ∧ t.wpa.ptk = s.wpa.ptk ∧
      WifiAnswer t.wpa.kck (readBe32 eapol 9) (readBe32 eapol 13) t.wpa.eapolM4 := by
  intro t
  let v : Wifi := wifiWpaCaptureM3KeyData { wifiWpaStoreKeyFields s eapol with
    wpa := { (wifiWpaStoreKeyFields s eapol).wpa with m3Seen := true, m3KeyInfo := wifiEapolKeyInfo eapol } } eapol
    (wifiReadBe16 eapol 2).toNat (wifiEapolKeyInfo eapol)
  have hencr : wifiEapolKeyInfo eapol &&& wifiKeyInfoEncrKeyData ≠ 0 := by
    simp only [wifiIsPairwiseM3, Bool.and_eq_true, decide_eq_true_eq] at hm3
    exact hm3.2
  -- capturing the key data leaves counter and key alone
  have hkept : v.wpa.ptkReady = true ∧ v.wpa.ptk = s.wpa.ptk ∧ v.wpa.replayCounterHi = readBe32 eapol 9 ∧
      v.wpa.replayCounterLo = readBe32 eapol 13 := by
    obtain ⟨⟨_, _, _, _, _, _, _, _, hv⟩, -⟩ := wifiWpaCaptureM3KeyData_spec { wifiWpaStoreKeyFields s eapol with
      wpa := { (wifiWpaStoreKeyFields s eapol).wpa with m3Seen := true, m3KeyInfo := wifiEapolKeyInfo eapol } } eapol
      (wifiReadBe16 eapol 2).toNat hencr
    simp only [v]
    rw [hv]
    exact ⟨hptk, rfl, rfl, rfl⟩
  obtain ⟨hptkReady, hsame, hhi, hlo⟩ := hkept
  have hfeed : t = (wifiWpaPrepareM4 v (eapol.getD 0 0) (eapol.getD 4 0)).2 := by
    rw [wifiEapolOf] at hof
    simp only [t, wifiEapolFeed, wifiWpaParseEapolKey, hof, wifiWpaTakeKey, if_neg hm1, if_pos hm3]
    exact if_pos hptkReady
  obtain ⟨hready, hkey, hanswer⟩ := wifiAnswer_prepareM4 (eapol.getD 0 0) (eapol.getD 4 0) hptkReady
  rw [hhi, hlo] at hanswer
  rw [hfeed]
  exact ⟨hready, hkey.trans hsame, hanswer⟩

/-- The pairwise key is the standard's for every PMK, two addresses and two nonces, and the same for both
parties; M2 and M4 carry the replay counter of the state, the length of what follows and their MIC, whatever
version and type they are built with; and so a frame that is answered leaves the key of its nonce and an
answer with its counter. -/
theorem wifiWpa_standard :
    (∀ (pmk : Vector UInt8 32) (spa aa : WifiMac) (snonce anonce : Vector UInt8 32), ∃ ptk,
      wifiWpaPrfSha1 64 pmk.toList (asciiBytes "Pairwise key expansion") (wifiPtkSeed spa aa snonce anonce) =
          some ptk ∧
        wifiWpaPrfSha1 64 pmk.toList (asciiBytes "Pairwise key expansion") (wifiPtkSeed aa spa anonce snonce) =
          some ptk ∧
        ptk.toList = ieeePairwiseKey pmk.toList aa.toList spa.toList anonce.toList snonce.toList) ∧
    (∀ s : Wifi, s.connect.pmkReady = true → s.wpa.anonceSeen = true → ∃ snonce ptk,
      wifiWpaDerivePtk s = (0, { s with wpa := { s.wpa with snonce := snonce, ptk := ptk, ptkReady := true } }) ∧
        wifiWpaPrfSha1 64 s.connect.pmk.toList (asciiBytes "Pairwise key expansion")
          (wifiPtkSeed s.connect.localMac s.connect.bssid snonce s.wpa.anonce) = some ptk) ∧
    (∀ (s : Wifi) (version descType : UInt8), s.wpa.ptkReady = true →
      WifiAnswer s.wpa.kck s.wpa.replayCounterHi s.wpa.replayCounterLo
          (wifiWpaBuildM2 s version descType).2.wpa.eapolM2 ∧
        WifiAnswer s.wpa.kck s.wpa.replayCounterHi s.wpa.replayCounterLo
          (wifiWpaBuildM4 s version descType).2.wpa.eapolM4) ∧
    ∀ (s : Wifi) (frame eapol : List UInt8), wifiEapolOf s.connect frame = some eapol →
      let t := wifiEapolFeed s frame
      if wifiIsPairwiseM1 (wifiEapolKeyInfo eapol) then
        s.connect.pmkReady = true → t.wpa.m2Ready = true ∧
          t.wpa.ptk.toList = ieeePairwiseKey s.connect.pmk.toList s.connect.bssid.toList s.connect.localMac.toList
            (bytesFrom 32 eapol 17).toList t.wpa.snonce.toList ∧
          WifiAnswer t.wpa.kck (readBe32 eapol 9) (readBe32 eapol 13) t.wpa.eapolM2
      else if wifiIsPairwiseM3 (wifiEapolKeyInfo eapol) then
        s.wpa.ptkReady = true → t.wpa.m4Ready = true ∧ t.wpa.ptk = s.wpa.ptk ∧
          WifiAnswer t.wpa.kck (readBe32 eapol 9) (readBe32 eapol 13) t.wpa.eapolM4
      else True := by
  refine ⟨wifiPtk_standard, fun s => wifiWpaDerivePtk_eq, fun s version descType => wifiAnswer_built version descType,
    fun s frame eapol hof => ?_⟩
  intro t
  split
  next hm1 => exact wifiAnswer_m1 hof hm1
  next hm1 =>
    split
    next hm3 => exact wifiAnswer_m3 hof hm1 hm3
    next => trivial

end Frames

end Orizon
