import Orizon.Lib.Labels
import Orizon.Net.Certificate
import Orizon.System.Text

/-!
# Orizon.Net.DnsName

The names of a certificate against the host, `tls_dns_name_matches`, and the rule of RFC 6125
on labels (`NameMatches`).
-/

namespace Orizon

/-! ## The rule -/

/-- The labels of a name, between its dots. -/
def dnsLabels (name : List UInt8) : List (List UInt8) := name.splitOn 46

/-- Two labels up to the case of ASCII letters. -/
def SameLabel (a b : List UInt8) : Prop := a.map lowerAscii = b.map lowerAscii

/-- A name presented in a certificate stands for a host: label by label up to case, or with
a whole first label `*` in front of a name, for exactly one label that is not empty. -/
inductive NameMatches (pattern host : List UInt8) : Prop
  | exact (hne : pattern ≠ []) (hsame : List.Forall₂ SameLabel (dnsLabels pattern) (dnsLabels host))
  | wildcard {suffix first : List UInt8} {rest : List (List UInt8)} (hsuffix : suffix ≠ [])
      (hpattern : dnsLabels pattern = [42] :: dnsLabels suffix) (hhost : dnsLabels host = first :: rest)
      (hfirst : first ≠ []) (hsame : List.Forall₂ SameLabel (dnsLabels suffix) rest)

/-! ## Case -/

/-- Outside the letters nothing changes, and no letter becomes something else. -/
theorem lowerAscii_eq_iff {d : UInt8} (hd : d < 65) (c : UInt8) : lowerAscii c = d ↔ c = d := by
  unfold lowerAscii
  split
  · next hc =>
      simp only [UInt8.le_iff_toNat_le, UInt8.lt_iff_toNat_lt, ← UInt8.toNat_inj, UInt8.toNat_add, UInt8.toNat_sub,
        UInt8.reduceToNat] at hc hd ⊢
      omega
  · rfl

theorem sameLabels_iff (a b : List UInt8) :
    List.Forall₂ SameLabel (dnsLabels a) (dnsLabels b) ↔ a.map lowerAscii = b.map lowerAscii :=
  forall₂_splitOn_iff (lowerAscii_eq_iff (by decide)) a b

theorem zero_mem_of_lower {a b : List UInt8} (h : a.map lowerAscii = b.map lowerAscii) (ha : 0 ∈ a) : 0 ∈ b := by
  have hzero : (0 : UInt8) ∈ b.map lowerAscii := h ▸ List.mem_map.mpr ⟨0, ha, rfl⟩
  obtain ⟨c, hc, hlower⟩ := List.mem_map.mp hzero
  rwa [(lowerAscii_eq_iff (by decide) c).mp hlower] at hc

/-- The wildcard case on the texts: one label, then up to case what follows the star. -/
theorem wildcard_iff (suffix host : List UInt8) :
    (∃ first rest, dnsLabels host = first :: rest ∧ first ≠ [] ∧ List.Forall₂ SameLabel (dnsLabels suffix) rest) ↔
      ∃ first tail, host = first ++ 46 :: tail ∧ first ≠ [] ∧ 46 ∉ first ∧
        suffix.map lowerAscii = tail.map lowerAscii := by
  constructor
  · rintro ⟨first, rest, hhost, hne, hsame⟩
    obtain ⟨hdot, ⟨rfl, -⟩ | ⟨tail, rfl, rfl⟩⟩ := splitOn_eq_cons_iff.mp hhost
    · exact absurd (List.forall₂_nil_right_iff.mp hsame) (List.splitOn_ne_nil _ _)
    · exact ⟨first, tail, rfl, hne, hdot, (sameLabels_iff _ _).mp hsame⟩
  · rintro ⟨first, tail, rfl, hne, hdot, hsame⟩
    exact ⟨first, dnsLabels tail, splitOn_eq_cons_iff.mpr ⟨hdot, .inr ⟨tail, rfl, rfl⟩⟩, hne,
      (sameLabels_iff _ _).mpr hsame⟩

/-! ## The code -/

section Spans

variable {m host : List UInt8} {dns : Asn1Span}

theorem tlsSameSpan_iff (h : dns.Within m) {start off n : Nat} (hstart : start + n ≤ host.length)
    (hoff : off + n ≤ dns.len.toNat) :
    tlsSameSpan m host start n dns (UInt64.ofNat off) = true ↔
      ((host.drop start).take n).map lowerAscii = (((dns.bytes m).drop off).take n).map lowerAscii := by
  have hlen := h.length_bytes
  have hbyte : ∀ i < n, dns.byte m (UInt64.ofNat off + UInt64.ofNat i) = (dns.bytes m).getD (off + i) 0 := by
    intro i hi
    have hlarge := dns.len.toNat_lt
    refine h.byte_eq (by omega) _ ?_
    rw [UInt64.toNat_add, UInt64.toNat_ofNat', UInt64.toNat_ofNat', Nat.mod_eq_of_lt (by omega),
      Nat.mod_eq_of_lt (by omega), Nat.mod_eq_of_lt (by omega)]
  have hall : tlsSameSpan m host start n dns (UInt64.ofNat off) = true ↔
      ∀ i < n, lowerAscii (host.getD (start + i) 0) = lowerAscii ((dns.bytes m).getD (off + i) 0) := by
    rw [tlsSameSpan, List.all_eq_true]
    simp only [List.mem_range, beq_iff_eq]
    exact forall₂_congr fun i hi => by rw [hbyte i hi]
  rw [hall]
  constructor
  · intro hsame
    refine List.ext_getElem (by simp; omega) fun i hi _ => ?_
    have hn : i < n := by
      simp at hi
      omega
    have hi := hsame i hn
    simpa [List.getD_eq_getElem?_getD, List.getElem?_eq_getElem (show start + i < host.length by omega),
      List.getElem?_eq_getElem (show off + i < (dns.bytes m).length by omega)] using hi
  · intro hsame i hi
    have hget := congrArg (fun l : List UInt8 => l[i]?) hsame
    simpa [List.getD_eq_getElem?_getD, List.getElem?_take, hi,
      List.getElem?_eq_getElem (show start + i < host.length by omega),
      List.getElem?_eq_getElem (show off + i < (dns.bytes m).length by omega)] using hget

theorem isWildcard_iff (h : dns.Within m) :
    (dns.len > 2 ∧ dns.byte m 0 = 42 ∧ dns.byte m 1 = 46) ↔ ∃ suffix ≠ [], dns.bytes m = 42 :: 46 :: suffix := by
  have hlength := h.length_bytes
  have hgt : dns.len > 2 ↔ 2 < dns.len.toNat := UInt64.lt_iff_toNat_lt
  constructor
  · rintro ⟨hlen, hstar, hdot⟩
    rw [hgt] at hlen
    rw [h.byte_eq (i := 0) (by omega) 0 rfl] at hstar
    rw [h.byte_eq (i := 1) (by omega) 1 rfl] at hdot
    match hb : dns.bytes m with
    | [] => simp [hb] at hlength; omega
    | [_] => simp [hb] at hlength; omega
    | [_, _] => simp [hb] at hlength; omega
    | first :: second :: third :: suffix =>
        rw [hb] at hstar hdot
        simp only [List.getD_cons_zero, List.getD_cons_succ] at hstar hdot
        exact ⟨third :: suffix, by simp, by rw [hstar, hdot]⟩
  · rintro ⟨suffix, hne, hb⟩
    have hpos := List.length_pos_of_ne_nil hne
    rw [hb] at hlength
    simp only [List.length_cons] at hlength
    refine ⟨hgt.mpr (by omega), ?_, ?_⟩
    · rw [h.byte_eq (i := 0) (by omega) 0 rfl, hb]
      rfl
    · rw [h.byte_eq (i := 1) (by omega) 1 rfl, hb]
      rfl

theorem tlsDnsNameMatches_exact (h : dns.Within m) (hstar : ¬ ∃ suffix ≠ [], dns.bytes m = 42 :: 46 :: suffix) :
    tlsDnsNameMatches m host dns = true ↔
      dns.bytes m ≠ [] ∧ (dns.bytes m).map lowerAscii = host.map lowerAscii := by
  have hlength := h.length_bytes
  have hempty : dns.bytes m = [] ↔ dns.len = 0 := by
    rw [← List.length_eq_zero_iff, hlength, ← UInt64.toNat_inj]
    rfl
  rw [tlsDnsNameMatches, if_neg (mt (isWildcard_iff h).mp hstar)]
  by_cases hzero : dns.len = 0
  · simp [hzero, hempty]
  rw [if_neg hzero, Bool.and_eq_true, beq_iff_eq, ne_eq, hempty]
  constructor
  · rintro ⟨hlen, hsame⟩
    rw [show (0 : UInt64) = UInt64.ofNat 0 from rfl, tlsSameSpan_iff h (by omega) (by omega), List.drop_zero,
      List.drop_zero, List.take_length, List.take_of_length_le (by omega)] at hsame
    exact ⟨hzero, hsame.symm⟩
  · rintro ⟨-, hsame⟩
    have hlen : host.length = dns.len.toNat := by simpa [hlength] using (congrArg List.length hsame).symm
    refine ⟨hlen, ?_⟩
    rw [show (0 : UInt64) = UInt64.ofNat 0 from rfl, tlsSameSpan_iff h (by omega) (by omega), List.drop_zero,
      List.drop_zero, List.take_length, List.take_of_length_le (by omega)]
    exact hsame.symm

/-- With a wildcard it compares what follows the star with the end of the host, and has no dot in
front of that. -/
theorem tlsDnsNameMatches_star (h : dns.Within m) {suffix : List UInt8} (hne : suffix ≠ [])
    (hb : dns.bytes m = 42 :: 46 :: suffix) :
    tlsDnsNameMatches m host dns = true ↔
      ∃ first tail, host = first ++ 46 :: tail ∧ first ≠ [] ∧ 46 ∉ first ∧
        suffix.map lowerAscii = tail.map lowerAscii := by
  have hlength := h.length_bytes
  rw [hb] at hlength
  simp only [List.length_cons] at hlength
  have hsuffix : (dns.len - 1).toNat = suffix.length + 1 := by
    rw [UInt64.toNat_sub_of_le _ _ (UInt64.le_iff_toNat_le.mpr (by simp; omega)), ← hlength]
    rfl
  have hzero : dns.len ≠ 0 := by
    intro hzero
    simp [hzero] at hlength
  rw [tlsDnsNameMatches, if_neg hzero, if_pos ((isWildcard_iff h).mpr ⟨suffix, hne, hb⟩), hsuffix]
  dsimp only
  by_cases hle : host.length ≤ suffix.length + 1
  · rw [if_pos hle]
    simp only [Bool.false_eq_true, false_iff]
    rintro ⟨first, tail, rfl, hfirst, -, hsame⟩
    have hlen : suffix.length = tail.length := by simpa using congrArg List.length hsame
    have hpos := List.length_pos_of_ne_nil hfirst
    simp at hle
    omega
  rw [if_neg hle, Bool.and_eq_true, show (1 : UInt64) = UInt64.ofNat 1 from rfl,
    tlsSameSpan_iff h (by omega) (by omega), hb, List.drop_succ_cons, List.drop_zero,
    List.take_of_length_le (by simp; omega), List.take_of_length_le (by simp)]
  constructor
  · rintro ⟨hsame, hdots⟩
    cases hend : host.drop (host.length - (suffix.length + 1)) with
    | nil => simp [hend] at hsame
    | cons c tail =>
        rw [hend, List.map_cons, List.map_cons, List.cons.injEq] at hsame
        have hc : c = 46 := (lowerAscii_eq_iff (by decide) c).mp hsame.1
        refine ⟨host.take (host.length - (suffix.length + 1)), tail, ?_, ?_, ?_, hsame.2.symm⟩
        · rw [← hc, ← hend, List.take_append_drop]
        · rw [ne_eq, List.take_eq_nil_iff]
          rintro (hzero | rfl)
          · omega
          · simp at hle
        · intro hmem
          simpa using List.all_eq_true.mp hdots 46 hmem
  · rintro ⟨first, tail, rfl, hfirst, hdot, hsame⟩
    have hlen : suffix.length = tail.length := by simpa using congrArg List.length hsame
    have hprefixLen : (first ++ 46 :: tail).length - (suffix.length + 1) = first.length := by
      simp
      omega
    rw [hprefixLen, List.drop_left, List.take_left]
    refine ⟨by simp [hsame], List.all_eq_true.mpr fun c hc => ?_⟩
    simpa using fun heq : c = 46 => hdot (heq ▸ hc)

/-- `tls_dns_name_matches` accepts the names the rule allows for the host, and none with a NUL. -/
theorem tlsDnsNameMatches_iff (host : CStr) (h : dns.Within m) :
    (tlsDnsNameMatches m (strBytes host) dns = true ↔ NameMatches (dns.bytes m) (strBytes host)) ∧
      (tlsDnsNameMatches m (strBytes host) dns = true → 0 ∉ dns.bytes m) := by
  have hnul : 0 ∉ strBytes host := by
    intro hmem
    obtain ⟨c, -, hc⟩ := List.mem_map.mp hmem
    exact c.property hc
  generalize strBytes host = text at hnul
  by_cases hstar : ∃ suffix ≠ [], dns.bytes m = 42 :: 46 :: suffix
  · obtain ⟨suffix, hne, hb⟩ := hstar
    have hlabels : dnsLabels (dns.bytes m) = [42] :: dnsLabels suffix :=
      hb ▸ splitOn_eq_cons_iff.mpr ⟨by decide, .inr ⟨suffix, rfl, rfl⟩⟩
    rw [tlsDnsNameMatches_star h hne hb]
    constructor
    · constructor
      · intro hcode
        obtain ⟨first, rest, hhost, hfirst, hsame⟩ := (wildcard_iff suffix text).mpr hcode
        exact .wildcard hne hlabels hhost hfirst hsame
      · rintro (⟨-, hsame⟩ | ⟨-, hpattern, hhost, hfirst, hsame⟩)
        · -- a host that has the star itself as its first label
          rw [hlabels] at hsame
          refine (wildcard_iff suffix text).mp ?_
          obtain ⟨first, rest, hfirst, hrest, hhost⟩ := List.forall₂_cons_left_iff.mp hsame
          exact ⟨first, rest, hhost, fun hnil => by simp [hnil, SameLabel] at hfirst, hrest⟩
        · rw [hlabels, List.cons.injEq] at hpattern
          rw [splitOn_injective 46 hpattern.2]
          exact (wildcard_iff _ text).mp ⟨_, _, hhost, hfirst, hsame⟩
    · rintro ⟨first, tail, rfl, -, -, hsame⟩ hmem
      have hzero : 0 ∈ suffix := by simpa [hb] using hmem
      exact hnul (by simp [zero_mem_of_lower hsame hzero])
  · rw [tlsDnsNameMatches_exact h hstar]
    constructor
    · constructor
      · rintro ⟨hne, hsame⟩
        exact .exact hne ((sameLabels_iff _ _).mpr hsame)
      · rintro (⟨hne, hsame⟩ | ⟨hne, hpattern, -, -, -⟩)
        · exact ⟨hne, (sameLabels_iff _ _).mp hsame⟩
        · obtain ⟨-, ⟨hnil, -⟩ | ⟨tail, hb, htail⟩⟩ := splitOn_eq_cons_iff.mp hpattern
          · exact absurd hnil (List.splitOn_ne_nil _ _)
          · exact absurd ⟨tail, splitOn_injective 46 htail ▸ hne, hb⟩ hstar
    · rintro ⟨-, hsame⟩ hmem
      exact hnul (zero_mem_of_lower hsame hmem)

end Spans

/-- One label stands for the star, not two. -/
example : tlsDnsNameMatches [42, 46, 97] [98, 46, 65] ⟨0, 3⟩ = true ∧
    tlsDnsNameMatches [42, 46, 97] [98, 46, 98, 46, 97] ⟨0, 3⟩ = false := by decide

/-- `*.a` for the host `b.A`. -/
theorem tlsDnsNameMatches_sample :
    (tlsDnsNameMatches [42, 46, 97] (strBytes (cstr "b.A")) ⟨0, 3⟩ = true ↔
      NameMatches [42, 46, 97] (strBytes (cstr "b.A"))) ∧
      (tlsDnsNameMatches [42, 46, 97] (strBytes (cstr "b.A")) ⟨0, 3⟩ = true → 0 ∉ [(42 : UInt8), 46, 97]) :=
  @tlsDnsNameMatches_iff [42, 46, 97] ⟨0, 3⟩ (cstr "b.A") ⟨by decide, by decide⟩

end Orizon
