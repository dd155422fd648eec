import Orizon.Lib.Labels
import Orizon.Ssh.Audit
import Orizon.Ssh.Wire

/-!
# Orizon.Net.Ipv4Text

Addresses as text: `netstack_parse_ipv4` and `netstack_format_ipv4` of `drivers/netstack.c`.

The parser takes what the formatter prints, with any zeros before each number and any spaces
around the whole, and nothing else (`netstackParseIpv4_iff`).
-/

namespace Orizon

/-! ## The parser -/

/-- The locals of the loop of `netstack_parse_ipv4`. -/
structure Ipv4Scan where
  parts : Nat → Nat
  part : Nat
  digits : Nat

/-- A round of the loop; `none` is -1.  A part is at most 255 before the round, so that it does not wrap. -/
def ipv4Step (s : Ipv4Scan) (c : CChar) : Option Ipv4Scan :=
  if isDecimal c then
    let value := s.parts s.part * 10 + (c.val.toNat - 0x30)
    if value > 255 then none
    else some { s with parts := Function.update s.parts s.part value, digits := s.digits + 1 }
  else if c = cchar '.' then
    if s.digits = 0 ∨ s.part ≥ 3 then none else some { s with part := s.part + 1, digits := 0 }
  else none

/-- The address of four parts. -/
def ipv4OfParts (parts : Nat → Nat) : UInt32 :=
  (UInt32.ofNat (parts 0) <<< 24) ||| (UInt32.ofNat (parts 1) <<< 16) ||| (UInt32.ofNat (parts 2) <<< 8) |||
    UInt32.ofNat (parts 3)

/-- `netstack_parse_ipv4`; `none` is -1. -/
def netstackParseIpv4 (text : CStr) : Option UInt32 := do
  let text := text.dropWhile (· = cchar ' ')
  let s ← (text.takeWhile (· ≠ cchar ' ')).foldlM ipv4Step ⟨fun _ => 0, 0, 0⟩
  let rest := (text.dropWhile (· ≠ cchar ' ')).dropWhile (· = cchar ' ')
  if rest ≠ [] ∨ s.part ≠ 3 ∨ s.digits = 0 then none else some (ipv4OfParts s.parts)

/-! ## What can be printed -/

/-- A number as it is printed, with zeros before it. -/
def UpToZeros (part printed : CStr) : Prop := ∃ k, part = List.replicate k (cchar '0') ++ printed

/-- A dotted quad as it is printed, with zeros before its numbers. -/
def UpToLeadingZeros (quad printed : CStr) : Prop :=
  List.Forall₂ UpToZeros (quad.splitOn (cchar '.')) (printed.splitOn (cchar '.'))

/-- A decimal number that fits an octet. -/
structure IsOctet (s : CStr) : Prop where
  digits : ∀ c ∈ s, isDecimal c = true
  ne_nil : s ≠ []
  small : decimalValue s ≤ 255

section Lemmas

variable {s : Ipv4Scan} {text quad a b q : CStr} {parts : Nat → Nat} {part n : Nat} {ip : UInt32}

/-! ### Octets -/

theorem isOctet_iff : IsOctet a ↔ ∃ n ≤ 255, UpToZeros a (cstrNat n) := by
  constructor
  · rintro ⟨hdigits, hne, hsmall⟩
    exact ⟨decimalValue a, hsmall, exists_zeros_cstrNat hdigits hne⟩
  · rintro ⟨n, hn, k, rfl⟩
    refine ⟨fun c hc => ?_, by simp [cstrNat_ne_nil], by rwa [decimalValue_zeros, decimalValue_cstrNat]⟩
    obtain hc | hc := List.mem_append.mp hc
    · rw [List.eq_of_mem_replicate hc]
      rfl
    · exact isDecimal_of_mem_cstrNat hc

theorem UpToZeros.value (h : UpToZeros a (cstrNat n)) : decimalValue a = n := by
  obtain ⟨k, rfl⟩ := h
  rw [decimalValue_zeros, decimalValue_cstrNat]

theorem not_isDecimal_dot : isDecimal (cchar '.') = false := by decide

theorem not_isDecimal_space : isDecimal (cchar ' ') = false := by decide

theorem IsOctet.dot_notMem (h : IsOctet a) : cchar '.' ∉ a := fun hmem => by
  have hdot := h.digits _ hmem
  simp [not_isDecimal_dot] at hdot

theorem IsOctet.space_notMem (h : IsOctet a) : cchar ' ' ∉ a := fun hmem => by
  have hspace := h.digits _ hmem
  simp [not_isDecimal_space] at hspace

/-! ### The loop -/

theorem foldlM_ipv4Step_digits (ha : ∀ c ∈ a, isDecimal c = true) (hs : s.parts s.part ≤ 255) :
    a.foldlM ipv4Step s =
      let value := a.foldl (fun value c => value * 10 + (c.val.toNat - 0x30)) (s.parts s.part)
      if value ≤ 255 then
        some { s with parts := Function.update s.parts s.part value, digits := s.digits + a.length }
      else none := by
  induction a generalizing s with
  | nil => simp [hs]
  | cons c a ih =>
      have hc := ha c (by simp)
      have hmore := le_foldl_decimal a (s.parts s.part * 10 + (c.val.toNat - 0x30))
      have hpow := Nat.one_le_pow a.length 10 (by decide)
      rw [List.foldlM_cons, List.foldl_cons, ipv4Step, if_pos hc]
      by_cases hlarge : s.parts s.part * 10 + (c.val.toNat - 0x30) > 255
      · -- a number that is too large stays too large
        have hnot : ¬ a.foldl (fun value c => value * 10 + (c.val.toNat - 0x30))
            (s.parts s.part * 10 + (c.val.toNat - 0x30)) ≤ 255 := by nlinarith
        simp only [if_pos hlarge, if_neg hnot]
        rfl
      · simp only [if_neg hlarge]
        refine (ih (fun d hd => ha d (by simp [hd])) (by simpa using hlarge)).trans ?_
        simp [Nat.add_assoc, Nat.add_comm 1]

theorem foldlM_ipv4Step_iff (hzero : parts part = 0) :
    q.foldlM ipv4Step ⟨parts, part, 0⟩ = some s ↔ ∃ a, (∀ c ∈ a, isDecimal c = true) ∧ decimalValue a ≤ 255 ∧
      (q = a ∧ s = ⟨Function.update parts part (decimalValue a), part, a.length⟩ ∨
        ∃ rest, q = a ++ cchar '.' :: rest ∧ a ≠ [] ∧ part < 3 ∧
          rest.foldlM ipv4Step ⟨Function.update parts part (decimalValue a), part + 1, 0⟩ = some s) := by
  have hdigits : ∀ a : CStr, (∀ c ∈ a, isDecimal c = true) → a.foldlM ipv4Step ⟨parts, part, 0⟩ =
      if decimalValue a ≤ 255 then some ⟨Function.update parts part (decimalValue a), part, a.length⟩ else none := by
    intro a ha
    simpa [hzero, decimalValue] using foldlM_ipv4Step_digits (s := ⟨parts, part, 0⟩) ha (by simp [hzero])
  have hstop : ∀ (a rest : CStr) (c : CChar), (∀ c ∈ a, isDecimal c = true) → isDecimal c = false →
      (a ++ c :: rest).foldlM ipv4Step ⟨parts, part, 0⟩ =
        if decimalValue a ≤ 255 ∧ c = cchar '.' ∧ a ≠ [] ∧ part < 3 then
          rest.foldlM ipv4Step ⟨Function.update parts part (decimalValue a), part + 1, 0⟩
        else none := by
    intro a rest c ha hc
    have hend : (a.length = 0 ∨ part ≥ 3) ↔ ¬ (a ≠ [] ∧ part < 3) := by
      rw [List.length_eq_zero_iff, not_and_or, not_not, not_lt]
    rw [List.foldlM_append, hdigits a ha]
    by_cases hsmall : decimalValue a ≤ 255
    · by_cases hdot : c = cchar '.'
      · by_cases hgo : a ≠ [] ∧ part < 3
        · rw [if_pos hsmall, if_pos ⟨hsmall, hdot, hgo⟩, Option.bind_eq_bind, Option.bind_some,
            List.foldlM_cons, ipv4Step,
            hc, if_neg Bool.false_ne_true, if_pos hdot, if_neg (fun h => hend.mp h hgo)]
          rfl
        · rw [if_pos hsmall, if_neg (fun h => hgo h.2.2), Option.bind_eq_bind, Option.bind_some,
            List.foldlM_cons, ipv4Step,
            hc, if_neg Bool.false_ne_true, if_pos hdot, if_pos (hend.mpr hgo)]
          rfl
      · rw [if_pos hsmall, if_neg (fun h => hdot h.2.1), Option.bind_eq_bind, Option.bind_some,
          List.foldlM_cons, ipv4Step,
          hc, if_neg Bool.false_ne_true, if_neg hdot]
        rfl
    · rw [if_neg hsmall, if_neg (fun h => hsmall h.1)]
      rfl
  constructor
  · intro h
    have hall : ∀ c ∈ q.takeWhile isDecimal, isDecimal c = true := fun c hc => List.mem_takeWhile_imp hc
    have hq := List.takeWhile_append_dropWhile (p := isDecimal) (l := q)
    refine ⟨q.takeWhile isDecimal, hall, ?_⟩
    cases hrest : q.dropWhile isDecimal with
    | nil =>
        rw [hrest, List.append_nil] at hq
        rw [← hq, hdigits _ hall, Option.ite_none_right_eq_some] at h
        exact ⟨h.1, .inl ⟨hq.symm, (Option.some.inj h.2).symm⟩⟩
    | cons c rest =>
        have hc : isDecimal c = false := by
          have hhead := List.head?_dropWhile_not isDecimal q
          rwa [hrest, List.head?_cons] at hhead
        rw [hrest] at hq
        rw [← hq, hstop _ rest c hall hc, Option.ite_none_right_eq_some] at h
        obtain ⟨⟨hsmall, rfl, hne, hpart⟩, hmore⟩ := h
        exact ⟨hsmall, .inr ⟨rest, hq.symm, hne, hpart, hmore⟩⟩
  · rintro ⟨a, ha, hsmall, ⟨rfl, rfl⟩ | ⟨rest, rfl, hne, hpart, hrest⟩⟩
    · rw [hdigits q ha, if_pos hsmall]
    · rw [hstop a rest _ ha not_isDecimal_dot, if_pos ⟨hsmall, rfl, hne, hpart⟩, hrest]

theorem foldlM_ipv4Step_last (hzero : parts 3 = 0) :
    (q.foldlM ipv4Step ⟨parts, 3, 0⟩ = some s ∧ s.digits ≠ 0) ↔
      IsOctet q ∧ s = ⟨Function.update parts 3 (decimalValue q), 3, q.length⟩ := by
  rw [foldlM_ipv4Step_iff hzero]
  constructor
  · rintro ⟨⟨a, ha, hsmall, ⟨rfl, rfl⟩ | ⟨rest, -, -, hpart, -⟩⟩, hdigits⟩
    · exact ⟨⟨ha, List.ne_nil_of_length_pos (Nat.pos_of_ne_zero hdigits), hsmall⟩, rfl⟩
    · omega
  · rintro ⟨hq, rfl⟩
    exact ⟨⟨q, hq.digits, hq.small, .inl ⟨rfl, rfl⟩⟩, by simpa using hq.ne_nil⟩

/-- The loop over a part before the last, on a run that reaches the last. -/
theorem foldlM_ipv4Step_more (hpart : part < 3) (hs : s.part = 3) (hzero : parts part = 0) :
    q.foldlM ipv4Step ⟨parts, part, 0⟩ = some s ↔ ∃ a rest, IsOctet a ∧ q = a ++ cchar '.' :: rest ∧
      rest.foldlM ipv4Step ⟨Function.update parts part (decimalValue a), part + 1, 0⟩ = some s := by
  rw [foldlM_ipv4Step_iff hzero]
  constructor
  · rintro ⟨a, ha, hsmall, ⟨-, rfl⟩ | ⟨rest, hq, hne, -, hrest⟩⟩
    · exact absurd hs (Nat.ne_of_lt hpart)
    · exact ⟨a, rest, ⟨ha, hne, hsmall⟩, hq, hrest⟩
  · rintro ⟨a, rest, ha, hq, hrest⟩
    exact ⟨a, ha.digits, ha.small, .inr ⟨rest, hq, ha.ne_nil, hpart, hrest⟩⟩

/-- Four octets with dots between them. -/
def dottedQuad (a b c d : CStr) : CStr := a ++ cchar '.' :: (b ++ cchar '.' :: (c ++ cchar '.' :: d))

theorem foldlM_ipv4Step_quad :
    (q.foldlM ipv4Step ⟨fun _ => 0, 0, 0⟩ = some s ∧ s.part = 3 ∧ s.digits ≠ 0) ↔
      ∃ a b c d, (IsOctet a ∧ IsOctet b ∧ IsOctet c ∧ IsOctet d) ∧ q = dottedQuad a b c d ∧
        s = ⟨Function.update (Function.update (Function.update (Function.update (fun _ => 0) 0 (decimalValue a)) 1
          (decimalValue b)) 2 (decimalValue c)) 3 (decimalValue d), 3, d.length⟩ := by
  constructor
  · rintro ⟨h, hs, hdigits⟩
    obtain ⟨a, bcd, ha, rfl, hbcd⟩ := (foldlM_ipv4Step_more (by decide) hs rfl).mp h
    obtain ⟨b, cd, hb, rfl, hcd⟩ := (foldlM_ipv4Step_more (by decide) hs (by simp)).mp hbcd
    obtain ⟨c, d, hc, rfl, hlast⟩ := (foldlM_ipv4Step_more (by decide) hs (by simp)).mp hcd
    obtain ⟨hd, rfl⟩ := (foldlM_ipv4Step_last (by simp)).mp ⟨hlast, hdigits⟩
    exact ⟨a, b, c, d, ⟨ha, hb, hc, hd⟩, rfl, rfl⟩
  · rintro ⟨a, b, c, d, ⟨ha, hb, hc, hd⟩, rfl, rfl⟩
    have hzero :
        Function.update (Function.update (Function.update (fun _ => 0) 0 (decimalValue a)) 1 (decimalValue b)) 2
        (decimalValue c) 3 = 0 := by simp
    obtain ⟨hlast, hdigits⟩ := (foldlM_ipv4Step_last hzero).mpr ⟨hd, rfl⟩
    refine ⟨(foldlM_ipv4Step_more (by decide) rfl rfl).mpr ⟨a, _, ha, rfl, ?_⟩, rfl, hdigits⟩
    refine (foldlM_ipv4Step_more (by decide) rfl (by simp)).mpr ⟨b, _, hb, rfl, ?_⟩
    exact (foldlM_ipv4Step_more (by decide) rfl (by simp)).mpr ⟨c, _, hc, rfl, hlast⟩

/-! ### The address -/

/-- The bytes of an address. -/
def ipv4Octets (ip : UInt32) : List Nat :=
  [((ip >>> 24) &&& 0xff).toNat, ((ip >>> 16) &&& 0xff).toNat, ((ip >>> 8) &&& 0xff).toNat, (ip &&& 0xff).toNat]

theorem ipv4OfParts_eq (hparts : ∀ i, parts i ≤ 255) : ipv4OfParts parts =
    readBe32 [UInt8.ofNat (parts 0), UInt8.ofNat (parts 1), UInt8.ofNat (parts 2), UInt8.ofNat (parts 3)] 0 := by
  have hword : ∀ i, UInt32.ofNat (parts i) = (UInt8.ofNat (parts i)).toUInt32 := by
    intro i
    have hsmall := hparts i
    rw [← UInt32.toNat_inj, UInt8.toNat_toUInt32, UInt32.toNat_ofNat', UInt8.toNat_ofNat']
    omega
  rw [ipv4OfParts, hword, hword, hword, hword]
  rfl

theorem ipv4OfParts_eq_iff (hparts : ∀ i, parts i ≤ 255) :
    ipv4OfParts parts = ip ↔ ipv4Octets ip = [parts 0, parts 1, parts 2, parts 3] := by
  have h0 := hparts 0
  have h1 := hparts 1
  have h2 := hparts 2
  have h3 := hparts 3
  have hlt := ip.toNat_lt
  have h24 : (24 : UInt32).toNat % 32 = 24 := rfl
  have h16 : (16 : UInt32).toNat % 32 = 16 := rfl
  have h8 : (8 : UInt32).toNat % 32 = 8 := rfl
  have hff : (0xff : UInt32).toNat = 2 ^ 8 - 1 := rfl
  rw [ipv4OfParts_eq hparts, ← UInt32.toNat_inj, toNat_readBe32]
  simp only [ipv4Octets, List.cons.injEq, and_true, List.getD_cons_zero, List.getD_cons_succ, Nat.zero_add,
    UInt8.toNat_ofNat', UInt32.toNat_shiftRight, UInt32.toNat_and, h24, h16, h8, hff,
    Nat.and_two_pow_sub_one_eq_mod, Nat.shiftRight_eq_div_pow]
  omega

/-! ### The text -/

theorem getElem_ipv4Octets_le (h : n ∈ ipv4Octets ip) : n ≤ 255 := by
  have hff : (0xff : UInt32).toNat = 2 ^ 8 - 1 := rfl
  simp only [ipv4Octets, UInt32.toNat_and, hff, Nat.and_two_pow_sub_one_eq_mod, List.mem_cons, List.not_mem_nil,
    or_false] at h
  omega

theorem netstackFormatIpv4_eq (ip : UInt32) :
    netstackFormatIpv4 ip 24 = [cchar '.'].intercalate ((ipv4Octets ip).map cstrNat) := by
  have hlen : ∀ n ∈ ipv4Octets ip, (cstrNat n).length ≤ 3 := fun n hn =>
    length_cstrNat_le (by decide) (by have := getElem_ipv4Octets_le hn; omega)
  have hdot : cstr "." = [cchar '.'] := rfl
  have h0 := hlen _ (List.mem_cons_self ..)
  have h1 := hlen _ (List.mem_cons_of_mem _ (List.mem_cons_self ..))
  have h2 := hlen _ (List.mem_cons_of_mem _ (List.mem_cons_of_mem _ (List.mem_cons_self ..)))
  have h3 := hlen _ (List.mem_cons_of_mem _ (List.mem_cons_of_mem _ (List.mem_cons_of_mem _ (List.mem_cons_self ..))))
  rw [netstackFormatIpv4, snprintfTexts_of_lt]
  · simp [ipv4Octets, hdot, List.intercalate]
  · simp only [hdot, List.flatten_cons, List.flatten_nil, List.length_append, List.length_cons, List.length_nil]
    omega

theorem splitOn_netstackFormatIpv4 (ip : UInt32) :
    (netstackFormatIpv4 ip 24).splitOn (cchar '.') = (ipv4Octets ip).map cstrNat := by
  rw [netstackFormatIpv4_eq, List.splitOn_intercalate]
  · intro printed hprinted hdot
    obtain ⟨n, -, rfl⟩ := List.mem_map.mp hprinted
    have := isDecimal_of_mem_cstrNat hdot
    simp [not_isDecimal_dot] at this
  · simp [ipv4Octets]

theorem upToLeadingZeros_iff : UpToLeadingZeros q (netstackFormatIpv4 ip 24) ↔
    ∃ a b c d, (IsOctet a ∧ IsOctet b ∧ IsOctet c ∧ IsOctet d) ∧ q = dottedQuad a b c d ∧
      ipv4Octets ip = [decimalValue a, decimalValue b, decimalValue c, decimalValue d] := by
  have hoctet : ∀ {a : CStr} {n : Nat}, n ∈ ipv4Octets ip → UpToZeros a (cstrNat n) → IsOctet a := fun hn h =>
    isOctet_iff.mpr ⟨_, getElem_ipv4Octets_le hn, h⟩
  rw [UpToLeadingZeros, splitOn_netstackFormatIpv4]
  constructor
  · intro h
    obtain ⟨a, bcd, ha, hbcd, hq⟩ := List.forall₂_cons_right_iff.mp h
    obtain ⟨b, cd, hb, hcd, rfl⟩ := List.forall₂_cons_right_iff.mp hbcd
    obtain ⟨c, ds, hc, hds, rfl⟩ := List.forall₂_cons_right_iff.mp hcd
    obtain ⟨d, rest, hd, hnil, rfl⟩ := List.forall₂_cons_right_iff.mp hds
    obtain rfl := List.forall₂_nil_right_iff.mp hnil
    refine ⟨a, b, c, d, ⟨hoctet (by simp [ipv4Octets]) ha, hoctet (by simp [ipv4Octets]) hb,
      hoctet (by simp [ipv4Octets]) hc, hoctet (by simp [ipv4Octets]) hd⟩, ?_, ?_⟩
    · have hjoin : [cchar '.'].intercalate (q.splitOn (cchar '.')) = q := List.intercalate_splitOn _
      rw [← hjoin, hq]
      simp [List.intercalate, dottedQuad]
    · rw [ha.value, hb.value, hc.value, hd.value, ipv4Octets]
  · rintro ⟨a, b, c, d, ⟨ha, hb, hc, hd⟩, rfl, hvalues⟩
    have hsplit : (dottedQuad a b c d).splitOn (cchar '.') = [a, b, c, d] := by
      rw [dottedQuad, List.splitOn_append_cons_self_of_not_mem ha.dot_notMem,
        List.splitOn_append_cons_self_of_not_mem hb.dot_notMem,
        List.splitOn_append_cons_self_of_not_mem hc.dot_notMem, List.splitOn_eq_singleton hd.dot_notMem]
    have hzeros : ∀ {a : CStr}, IsOctet a → UpToZeros a (cstrNat (decimalValue a)) := fun ha =>
      exists_zeros_cstrNat ha.digits ha.ne_nil
    rw [hsplit, hvalues]
    exact .cons (hzeros ha) (.cons (hzeros hb) (.cons (hzeros hc) (.cons (hzeros hd) .nil)))

theorem spaces_iff (hne : quad ≠ []) : (text.dropWhile (· = cchar ' ')).takeWhile (· ≠ cchar ' ') = quad ∧
      ((text.dropWhile (· = cchar ' ')).dropWhile (· ≠ cchar ' ')).dropWhile (· = cchar ' ') = [] ↔
    cchar ' ' ∉ quad ∧ ∃ i j, text = List.replicate i (cchar ' ') ++ (quad ++ List.replicate j (cchar ' ')) := by
  have hspaces : ∀ l : CStr, (∀ c ∈ l, c = cchar ' ') → l = List.replicate l.length (cchar ' ') := fun l h =>
    List.eq_replicate_iff.mpr ⟨rfl, h⟩
  constructor
  · rintro ⟨rfl, hrest⟩
    refine ⟨fun hmem => by simpa using List.mem_takeWhile_imp hmem, (text.takeWhile (· = cchar ' ')).length,
      ((text.dropWhile (· = cchar ' ')).dropWhile (· ≠ cchar ' ')).length, ?_⟩
    rw [← hspaces _ fun c hc => by simpa using List.mem_takeWhile_imp hc, ← hspaces _ fun c hc => by
      simpa using List.dropWhile_eq_nil_iff.mp hrest c hc, List.takeWhile_append_dropWhile,
      List.takeWhile_append_dropWhile]
  · rintro ⟨hspace, i, j, rfl⟩
    have hback : ∀ c ∈ quad, decide (c ≠ cchar ' ') = true := fun c hc =>
      decide_eq_true fun heq => hspace (heq ▸ hc)
    have hfront : (quad ++ List.replicate j (cchar ' ')).dropWhile (· = cchar ' ') =
        quad ++ List.replicate j (cchar ' ') := by
      cases quad with
      | nil => exact absurd rfl hne
      | cons c quad => simpa using hback c (by simp)
    rw [List.dropWhile_append_of_pos (by simp), hfront, List.takeWhile_append_of_pos hback,
      List.dropWhile_append_of_pos hback]
    cases j <;> simp

/-- The parser takes the quads that print as an address, with any zeros before the numbers, and any
spaces around them. -/
theorem netstackParseIpv4_iff : netstackParseIpv4 text = some ip ↔
    ∃ i j quad, text = List.replicate i (cchar ' ') ++ (quad ++ List.replicate j (cchar ' ')) ∧
      UpToLeadingZeros quad (netstackFormatIpv4 ip 24) := by
  have hvalues : ∀ {a b c d : CStr}, IsOctet a ∧ IsOctet b ∧ IsOctet c ∧ IsOctet d →
      (ipv4OfParts
      (Function.update (Function.update (Function.update (Function.update (fun _ => 0) 0 (decimalValue a)) 1
        (decimalValue b)) 2 (decimalValue c)) 3 (decimalValue d)) = ip ↔
        ipv4Octets ip = [decimalValue a, decimalValue b, decimalValue c, decimalValue d]) := by
    rintro a b c d ⟨ha, hb, hc, hd⟩
    have hsmall := And.intro ha.small (And.intro hb.small (And.intro hc.small hd.small))
    rw [ipv4OfParts_eq_iff fun i => by simp only [Function.update_apply]; grind]
    simp
  have hparse : netstackParseIpv4 text = some ip ↔ ∃ s : Ipv4Scan,
      ((text.dropWhile (· = cchar ' ')).takeWhile (· ≠ cchar ' ')).foldlM ipv4Step ⟨fun _ => 0, 0, 0⟩ = some s ∧
        (((text.dropWhile (· = cchar ' ')).dropWhile (· ≠ cchar ' ')).dropWhile (· = cchar ' ') = [] ∧ s.part = 3 ∧
          s.digits ≠ 0) ∧ ipv4OfParts s.parts = ip := by
    simp only [netstackParseIpv4, Option.bind_eq_bind, Option.bind_eq_some_iff, Option.ite_none_left_eq_some,
      Option.some.injEq, not_or, not_not, ne_eq]
  rw [hparse]
  constructor
  · rintro ⟨s, hfold, ⟨hrest, hpart, hdigits⟩, hip⟩
    obtain ⟨a, b, c, d, hoctets, hquad, rfl⟩ := foldlM_ipv4Step_quad.mp ⟨hfold, hpart, hdigits⟩
    obtain ⟨-, i, j, htext⟩ := (spaces_iff (by simp [dottedQuad])).mp ⟨hquad, hrest⟩
    exact ⟨i, j, _, htext, upToLeadingZeros_iff.mpr ⟨a, b, c, d, hoctets, rfl, (hvalues hoctets).mp hip⟩⟩
  · rintro ⟨i, j, quad, htext, hprinted⟩
    obtain ⟨a, b, c, d, hoctets, rfl, hip⟩ := upToLeadingZeros_iff.mp hprinted
    have hspace : cchar ' ' ∉ dottedQuad a b c d := by
      have hdot : cchar ' ' ≠ cchar '.' := by decide
      simp [dottedQuad, hoctets.1.space_notMem, hoctets.2.1.space_notMem, hoctets.2.2.1.space_notMem,
        hoctets.2.2.2.space_notMem, hdot]
    obtain ⟨hquad, hrest⟩ := (spaces_iff (by simp [dottedQuad])).mpr ⟨hspace, i, j, htext⟩
    obtain ⟨hfold, hpart, hdigits⟩ := foldlM_ipv4Step_quad.mpr ⟨a, b, c, d, hoctets, rfl, rfl⟩
    exact ⟨_, hquad ▸ hfold, ⟨hrest, hpart, hdigits⟩, (hvalues hoctets).mpr hip⟩

theorem netstackParseIpv4_format (ip : UInt32) : netstackParseIpv4 (netstackFormatIpv4 ip 24) = some ip :=
  netstackParseIpv4_iff.mpr ⟨0, 0, _, by simp, List.forall₂_same.mpr fun part _ => ⟨0, rfl⟩⟩

end Lemmas

end Orizon
