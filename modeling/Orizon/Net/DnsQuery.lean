import Orizon.Net.DnsName
import Orizon.Net.Received
import Orizon.Net.TlsRecord

/-!
# Orizon.Net.DnsQuery

The question that `netstack_resolve_a` sends: the name by `dns_write_name`, then type and class.

`dns_write_name` leaves room for one byte behind the name, and `netstack_resolve_a` writes four.
A name of 495 to 497 characters makes it write outside of `query[512]`; for every other one the
question is the labels of the name, or there is none (`resolveAQuery_iff`).
-/

namespace Orizon

/-! ## The code -/

/-- A label of `dns_write_name`; `none` is -1. -/
def dnsPutLabel (cap : Nat) (buf : List UInt8) (off : Nat) (label : List UInt8) :
    Checked (Option (List UInt8 × Nat)) := do
  if label.length = 0 ∨ label.length > 63 ∨ off + label.length + 1 ≥ cap then pure none else
  let buf ← writeAll buf off [label.length.toUInt8]
  let buf ← writeAll buf (off + 1) label
  pure (some (buf, off + 1 + label.length))

/-- The loop of `dns_write_name` at `host`, with the label since the last dot. -/
def dnsWriteNameFrom (cap : Nat) (buf : List UInt8) (off : Nat) (label : List UInt8) :
    List UInt8 → Checked (Option (List UInt8 × Nat))
  | [] => do
      match ← dnsPutLabel cap buf off label with
      | none => pure none
      | some (buf, off) =>
          if off + 1 ≥ cap then pure none else
          let buf ← writeAll buf off [0]
          pure (some (buf, off + 1))
  | c :: host => do
      if c = 46 then
        match ← dnsPutLabel cap buf off label with
        | none => pure none
        | some (buf, off) => dnsWriteNameFrom cap buf off [] host
      else dnsWriteNameFrom cap buf off (label ++ [c]) host

/-- `dns_write_name`. -/
def dnsWriteName (cap : Nat) (buf : List UInt8) (off : Nat) (host : List UInt8) :
    Checked (Option (List UInt8 × Nat)) :=
  dnsWriteNameFrom cap buf off [] host

/-- The `query` of `netstack_resolve_a`, as it is given to `send_udp`; `none` is -1. -/
def resolveAQuery (id : UInt16) (host : CStr) : Checked (Option (List UInt8)) := do
  let query := List.replicate 512 0
  let query ← writeAll query 0 (putBe16 id)
  let query ← writeAll query 2 (putBe16 0x0100)
  let query ← writeAll query 4 (putBe16 1)
  match ← dnsWriteName 512 query 12 (strBytes host) with
  | none => pure none
  | some (query, off) =>
      let query ← writeAll query off (putBe16 1)
      let query ← writeAll query (off + 2) (putBe16 1)
      pure (some (query.take (off + 4)))

/-! ## Names on the wire -/

/-- The loop of `dns_skip_name`, with the labels it passes.  A name that is compressed gives none. -/
def dnsReadNameFrom (buf : List UInt8) : Nat → Nat → Checked (Option (List (List UInt8) × Nat))
  | 0, _ => .error .endless
  | fuel + 1, p => do
      if p < buf.length then
        let c ← readAt buf p
        let p := p + 1
        if c = 0 then pure (some ([], p))
        else if c &&& 0xc0 ≠ 0 ∨ p + c.toNat > buf.length then pure none
        else
          let rest ← dnsReadNameFrom buf fuel (p + c.toNat)
          pure (rest.map fun r => ((buf.drop p).take c.toNat :: r.1, r.2))
      else pure none

/-- The labels of the name at `off`, and the offset behind it. -/
def dnsReadName (buf : List UInt8) (off : Nat) : Checked (Option (List (List UInt8) × Nat)) :=
  dnsReadNameFrom buf (buf.length + 1) off

/-- What a label can be. -/
def ValidLabel (label : List UInt8) : Prop := 0 < label.length ∧ label.length ≤ 63

instance (label : List UInt8) : Decidable (ValidLabel label) := inferInstanceAs (Decidable (_ ∧ _))

/-- Labels with their lengths, and the end. -/
def dnsWire (labels : List (List UInt8)) : List UInt8 :=
  labels.flatMap (fun label => label.length.toUInt8 :: label) ++ [0]

section Wire

variable {buf pre post label : List UInt8} {labels : List (List UInt8)} {fuel cap off : Nat}

theorem dnsWire_cons : dnsWire (label :: labels) = label.length.toUInt8 :: (label ++ dnsWire labels) := by
  simp [dnsWire]

/-- A name that was read is one that `dns_skip_name` passes. -/
theorem dnsSkipNameFrom_of_read {p next : Nat} (h : dnsReadNameFrom buf fuel p = .ok (some (labels, next))) :
    dnsSkipNameFrom buf fuel p = .ok (some next) := by
  induction fuel generalizing p labels with
  | zero => cases h
  | succ fuel ih =>
      unfold dnsReadNameFrom at h
      unfold dnsSkipNameFrom
      split at h
      next hp =>
        obtain ⟨c, hc, -⟩ := safe_readAt hp
        rw [if_pos hp]
        simp only [hc, checked_bind, checked_pure] at h ⊢
        split at h
        next hzero => grind
        next hzero =>
          split at h
          next => cases h
          next hlabel =>
            rw [not_or, not_not] at hlabel
            rw [if_neg hzero, if_neg (by rw [hlabel.1]; decide), if_neg (by grind)]
            cases hrest : dnsReadNameFrom buf fuel (p + 1 + c.toNat) with
            | error e => simp [hrest, Bind.bind, Except.bind] at h
            | ok rest =>
                simp only [hrest, checked_bind, Except.ok.injEq, Option.map_eq_some_iff, Prod.mk.injEq] at h
                obtain ⟨⟨tail, last⟩, rfl, -, rfl⟩ := h
                exact ih hrest
      next => cases h

/-- The length of a label has none of the two bits of a compressed name. -/
theorem ValidLabel.length_and (h : ValidLabel label) : label.length.toUInt8 &&& 0xc0 = 0 := by
  have hall : ∀ n < 64, (n.toUInt8 &&& 0xc0 : UInt8) = 0 := by decide
  exact hall _ (Nat.lt_succ_of_le h.2)

theorem dnsReadNameFrom_wire (hvalid : ∀ l ∈ labels, ValidLabel l) (hfuel : labels.length < fuel)
    (hbuf : buf.drop off = dnsWire labels ++ post) :
    dnsReadNameFrom buf fuel off = .ok (some (labels, off + (dnsWire labels).length)) := by
  induction labels generalizing off fuel with
  | nil =>
      obtain ⟨fuel, rfl⟩ : ∃ n, fuel = n + 1 := ⟨fuel - 1, by omega⟩
      have hc : readAt buf off = .ok 0 := readAt_of_drop hbuf
      have hoff : off < buf.length := by
        have hlen := congrArg List.length hbuf
        simp [dnsWire] at hlen
        omega
      simp [dnsReadNameFrom, hc, hoff, dnsWire]
  | cons label labels ih =>
      obtain ⟨fuel, rfl⟩ : ∃ n, fuel = n + 1 := ⟨fuel - 1, by omega⟩
      rw [dnsWire_cons, List.cons_append, List.append_assoc] at hbuf
      have hlabel : ValidLabel label := hvalid label List.mem_cons_self
      have hsize : label.length.toUInt8.toNat = label.length := by
        rw [Nat.toUInt8_eq, UInt8.toNat_ofNat', Nat.mod_eq_of_lt (by have := hlabel.2; omega)]
      have hne : label.length.toUInt8 ≠ 0 := by
        intro hzero
        rw [hzero] at hsize
        exact absurd hsize (by have := hlabel.1; simp; omega)
      have hlen := congrArg List.length hbuf
      have hnext : buf.drop (off + 1) = label ++ (dnsWire labels ++ post) := by
        rw [← List.drop_drop, hbuf, List.drop_one, List.tail_cons]
      have hrest : dnsReadNameFrom buf fuel (off + 1 + label.length) =
          .ok (some (labels, off + 1 + label.length + (dnsWire labels).length)) :=
        ih (fun l hl => hvalid l (List.mem_cons_of_mem _ hl)) (by simpa using hfuel)
          (by rw [← List.drop_drop, hnext, List.drop_left])
      simp only [List.length_drop, List.length_cons, List.length_append] at hlen
      rw [dnsReadNameFrom, if_pos (by omega), readAt_of_drop hbuf]
      simp only [checked_bind, checked_pure, hsize]
      rw [if_neg hne, if_neg (by rw [hlabel.length_and]; simp; omega), hrest]
      simp only [checked_bind, Option.map_some, hnext, List.take_left, dnsWire_cons, List.length_cons,
        List.length_append]
      grind

/-! ## The name that is written -/

theorem length_dnsWire_dnsLabels (name : List UInt8) : (dnsWire (dnsLabels name)).length = name.length + 2 := by
  have hsum := sum_length_splitOn (46 : UInt8) name
  simp only [dnsWire, List.length_append, List.length_flatMap, List.length_cons, List.length_nil, dnsLabels]
  omega

theorem dnsPutLabel_eq {rest : List UInt8} (hoff : off = pre.length) (hcap : cap = pre.length + rest.length) :
    dnsPutLabel cap (pre ++ rest) off label =
      .ok (if ValidLabel label ∧ off + label.length + 1 < cap then
        some (pre ++ label.length.toUInt8 :: label ++ rest.drop (label.length + 1), off + 1 + label.length)
      else none) := by
  subst hoff
  unfold dnsPutLabel
  by_cases h : ValidLabel label ∧ pre.length + label.length + 1 < cap
  · obtain ⟨hvalid, hroom⟩ := h
    have hpos := hvalid.1
    have hle := hvalid.2
    rw [if_neg (by omega), if_pos ⟨hvalid, hroom⟩, writeAll_append rfl (by simp; omega)]
    simp only [checked_bind]
    rw [writeAll_append (by simp) (by simp; omega)]
    simp [Nat.add_comm]
  · rw [if_pos (by unfold ValidLabel at h; omega), if_neg h, checked_pure]

theorem dnsLabels_of_notMem (h : 46 ∉ label) : dnsLabels label = [label] := List.splitOn_eq_singleton h

theorem dnsLabels_append_dot (h : 46 ∉ label) (host : List UInt8) :
    dnsLabels (label ++ 46 :: host) = label :: dnsLabels host :=
  List.splitOn_append_cons_self_of_not_mem h host

/-- The name is written if its labels can be and it fits, and refused otherwise. -/
theorem dnsWriteNameFrom_eq {rest : List UInt8} (host : List UInt8) (hlabel : 46 ∉ label) (hoff : off = pre.length)
    (hcap : cap = pre.length + rest.length) :
    dnsWriteNameFrom cap (pre ++ rest) off label host =
      .ok (if (∀ l ∈ dnsLabels (label ++ host), ValidLabel l) ∧ off + (label ++ host).length + 2 < cap then
        some (pre ++ dnsWire (dnsLabels (label ++ host)) ++ rest.drop ((label ++ host).length + 2),
          off + (label ++ host).length + 2)
      else none) := by
  induction host generalizing label pre rest off with
  | nil =>
      subst hoff
      rw [dnsWriteNameFrom, dnsPutLabel_eq rfl hcap, List.append_nil, dnsLabels_of_notMem hlabel]
      by_cases hput : ValidLabel label ∧ pre.length + label.length + 1 < cap
      · rw [if_pos hput]
        simp only [checked_bind, checked_pure]
        by_cases hroom : pre.length + label.length + 2 < cap
        · rw [if_neg (by omega), writeAll_append (by simp; omega) (by simp; omega), if_pos (by simp [hput.1, hroom])]
          simp [dnsWire, List.drop_drop]
          grind
        · rw [if_pos (by omega), if_neg (by simp [hroom])]
      · rw [if_neg hput, if_neg (by grind)]
        rfl
  | cons c host ih =>
      rw [dnsWriteNameFrom]
      by_cases hc : c = 46
      · subst hc hoff
        rw [if_pos rfl, dnsPutLabel_eq rfl hcap, dnsLabels_append_dot hlabel]
        by_cases hput : ValidLabel label ∧ pre.length + label.length + 1 < cap
        · rw [if_pos hput]
          simp only [checked_bind, checked_pure]
          rw [ih (by simp) (by simp; omega) (by simp; omega)]
          have hlen : pre.length + 1 + label.length + host.length = pre.length + (label ++ 46 :: host).length := by
            simp
            omega
          have hcond : ((∀ l ∈ dnsLabels host, ValidLabel l) ∧ pre.length + 1 + label.length + host.length + 2 < cap) ↔
              (∀ l ∈ label :: dnsLabels host, ValidLabel l) ∧ pre.length + (label ++ 46 :: host).length + 2 < cap := by
            rw [hlen, List.forall_mem_cons, and_iff_right hput.1]
          simp only [List.nil_append, hcond]
          congr 2
          simp [dnsWire_cons, List.drop_drop]
          grind
        · rw [if_neg hput, if_neg (by grind)]
          rfl
      · have happend : label ++ c :: host = label ++ [c] ++ host := by simp
        rw [if_neg hc, ih (by grind) hoff hcap, happend]

end Wire

/-! ## The question -/

/-- The fixed part of a query with one question. -/
def dnsQueryHeader (id : UInt16) : List UInt8 := putBe16 id ++ putBe16 0x0100 ++ putBe16 1 ++ List.replicate 6 0

/-- A query asks for the address of a name: its one question is, read by the rules of `dns_skip_name`,
the labels of the name, then type A and class IN, and nothing follows. -/
structure DnsAsks (name query : List UInt8) : Prop where
  one : getBe16 query 4 = 1
  question : ∃ next, dnsReadName query 12 = .ok (some (dnsLabels name, next)) ∧
    dnsSkipName query 12 = .ok (some next) ∧ getBe16 query next = 1 ∧ getBe16 query (next + 2) = 1 ∧
    query.length = next + 4

/-- A name whose labels can be written, in a question that fits in `query[512]`. -/
def DnsEncodable (name : List UInt8) : Prop := (∀ l ∈ dnsLabels name, ValidLabel l) ∧ 12 + name.length + 6 ≤ 512

section Query

variable {id : UInt16} {host : CStr} {name : List UInt8}

theorem length_dnsQueryHeader (id : UInt16) : (dnsQueryHeader id).length = 12 := rfl

theorem dnsQueryHeader_written {β : Type} (id : UInt16) (f : List UInt8 → Checked β) :
    (do
      let query ← writeAll (List.replicate 512 0) 0 (putBe16 id)
      let query ← writeAll query 2 (putBe16 0x0100)
      let query ← writeAll query 4 (putBe16 1)
      f query) = f (dnsQueryHeader id ++ List.replicate 500 0) := by
  have hid : writeAll ([] ++ List.replicate 512 0) 0 (putBe16 id) = .ok ([] ++ putBe16 id ++ List.replicate 510 0) :=
    writeAll_replicate rfl rfl
  have hflags : writeAll (putBe16 id ++ List.replicate 510 0) 2 (putBe16 0x0100) =
      .ok (putBe16 id ++ putBe16 0x0100 ++ List.replicate 508 0) := writeAll_replicate rfl rfl
  have hcount : writeAll (putBe16 id ++ putBe16 0x0100 ++ List.replicate 508 0) 4 (putBe16 1) =
      .ok (putBe16 id ++ putBe16 0x0100 ++ putBe16 1 ++ List.replicate 506 0) := writeAll_replicate rfl rfl
  have hzero : List.replicate 506 (0 : UInt8) = List.replicate 6 0 ++ List.replicate 500 0 :=
    List.replicate_add 6 500 0
  rw [List.nil_append, List.nil_append] at hid
  rw [dnsQueryHeader, List.append_assoc, ← hzero]
  simp only [hid, hflags, hcount, checked_bind]

/-- What becomes of a name: a query, a refusal, or a write outside of the buffer. -/
theorem resolveAQuery_eq (id : UInt16) (host : CStr) (hname : name = strBytes host) :
    resolveAQuery id host =
      if (∀ l ∈ dnsLabels name, ValidLabel l) ∧ name.length ≤ 497 then
        if name.length ≤ 494 then
          .ok (some (dnsQueryHeader id ++ dnsWire (dnsLabels name) ++ putBe16 1 ++ putBe16 1))
        else .error .outside
      else .ok none := by
  subst hname
  have hwire := length_dnsWire_dnsLabels (strBytes host)
  unfold resolveAQuery
  rw [dnsQueryHeader_written, dnsWriteName, dnsWriteNameFrom_eq _ (by simp) (length_dnsQueryHeader id).symm
    (by rw [length_dnsQueryHeader, List.length_replicate])]
  have hfree : (List.replicate 500 (0 : UInt8)).length = 500 := List.length_replicate
  have hheader := length_dnsQueryHeader id
  simp only [List.nil_append]
  generalize strBytes host = name at hwire ⊢
  generalize List.replicate 500 (0 : UInt8) = free at hfree ⊢
  by_cases hput : (∀ l ∈ dnsLabels name, ValidLabel l) ∧ name.length ≤ 497
  · rw [if_pos ⟨hput.1, by omega⟩, if_pos hput]
    have hdone : 12 + name.length + 2 = (dnsQueryHeader id ++ dnsWire (dnsLabels name)).length := by
      rw [List.length_append, hheader, hwire, Nat.add_assoc]
    have hleft : (free.drop (name.length + 2)).length = 498 - name.length := by
      rw [List.length_drop, hfree]
      omega
    simp only [checked_bind]
    generalize free.drop (name.length + 2) = left at hleft ⊢
    by_cases hfits : name.length ≤ 494
    · rw [if_pos hfits, writeAll_append hdone (by simp [hleft]; omega), checked_bind,
        writeAll_append (by rw [List.length_append, ← hdone]; rfl) (by simp [hleft]; omega), checked_bind, checked_pure,
        List.take_left' (by rw [List.length_append, List.length_append, ← hdone]; rfl)]
    · rw [if_neg hfits]
      by_cases hfirst : name.length ≤ 496
      · rw [writeAll_append hdone (by simp [hleft]; omega), checked_bind, writeAll_outside (by simp [hleft]; omega)]
        rfl
      · rw [writeAll_outside (by rw [List.length_append, ← hdone, hleft]; simp; omega)]
        rfl
  · rw [if_neg (by grind), if_neg hput]
    rfl

theorem dnsAsks_query (id : UInt16) (hvalid : ∀ l ∈ dnsLabels name, ValidLabel l) :
    DnsAsks name (dnsQueryHeader id ++ dnsWire (dnsLabels name) ++ putBe16 1 ++ putBe16 1) := by
  have hwire := length_dnsWire_dnsLabels name
  have hdone : 12 + (dnsWire (dnsLabels name)).length = (dnsQueryHeader id ++ dnsWire (dnsLabels name)).length := by
    rw [List.length_append, length_dnsQueryHeader]
  have hlabels : (dnsLabels name).length ≤ name.length + 1 := by
    rw [← sum_length_splitOn 46 name]
    exact (List.length_map _).symm.trans_le (List.length_le_sum_of_one_le _ (by simp))
  have hread : dnsReadName (dnsQueryHeader id ++ dnsWire (dnsLabels name) ++ putBe16 1 ++ putBe16 1) 12 =
      .ok (some (dnsLabels name, 12 + (dnsWire (dnsLabels name)).length)) := by
    have hbuf : (dnsQueryHeader id ++ dnsWire (dnsLabels name) ++ putBe16 1 ++ putBe16 1).drop 12 =
        dnsWire (dnsLabels name) ++ (putBe16 1 ++ putBe16 1) := by
      rw [List.append_assoc, List.append_assoc, ← length_dnsQueryHeader id, List.drop_left]
    refine dnsReadNameFrom_wire hvalid ?_ hbuf
    simp [length_dnsQueryHeader, hwire]
    omega
  refine ⟨?_, _, hread, dnsSkipNameFrom_of_read hread, ?_, ?_, ?_⟩
  · have hone := getBe16_putBe16 (putBe16 id ++ putBe16 0x0100)
      (List.replicate 6 0 ++ (dnsWire (dnsLabels name) ++ (putBe16 1 ++ putBe16 1))) 1
    simpa [dnsQueryHeader] using hone
  · rw [hdone, List.append_assoc]
    exact getBe16_putBe16 _ _ _
  · have htwo : (dnsQueryHeader id ++ dnsWire (dnsLabels name) ++ putBe16 1).length =
        12 + (dnsWire (dnsLabels name)).length + 2 := by rw [List.length_append, ← hdone]; rfl
    have hclass := getBe16_putBe16 (dnsQueryHeader id ++ dnsWire (dnsLabels name) ++ putBe16 1) [] 1
    rwa [htwo, List.append_nil] at hclass
  · rw [List.length_append, List.length_append, ← hdone]
    rfl

/-- The query stays in its buffer, asks for the name, and there is one exactly if the name can be
written, for every name but those of 495 to 497 characters whose labels can be written. -/
theorem resolveAQuery_iff (id : UInt16) (host : CStr) :
    Safe (fun r => (∀ query, r = some query → DnsAsks (strBytes host) query) ∧
        (r.isSome ↔ DnsEncodable (strBytes host))) (resolveAQuery id host) ↔
      ¬ ((∀ l ∈ dnsLabels (strBytes host), ValidLabel l) ∧ 495 ≤ host.length ∧ host.length ≤ 497) := by
  have hname : (strBytes host).length = host.length := length_strBytes
  rw [resolveAQuery_eq id host rfl]
  by_cases hvalid : ∀ l ∈ dnsLabels (strBytes host), ValidLabel l
  · by_cases hfits : host.length ≤ 494
    · rw [if_pos ⟨hvalid, by omega⟩, if_pos (by omega), iff_true_right (by omega)]
      refine safe_ok ⟨fun query hquery => ?_, iff_of_true rfl ⟨hvalid, by omega⟩⟩
      obtain rfl := Option.some.inj hquery
      exact dnsAsks_query id hvalid
    · by_cases hout : host.length ≤ 497
      · rw [if_pos ⟨hvalid, by omega⟩, if_neg (by omega)]
        exact iff_of_false not_safe_error (not_not.mpr ⟨hvalid, by omega, hout⟩)
      · rw [if_neg (by omega), iff_true_right (by omega)]
        exact safe_ok ⟨by simp, iff_of_false (by simp) (by rw [DnsEncodable]; omega)⟩
  · rw [if_neg (by grind), iff_true_right (by grind)]
    exact safe_ok ⟨by simp, iff_of_false (by simp) (by rw [DnsEncodable]; grind)⟩

/-- A name of 495 characters: seven labels of 63 and one of 47. -/
def sampleLongHost : CStr :=
  (List.replicate 7 (List.replicate 63 (cchar 'a') ++ [cchar '.'])).flatten ++ List.replicate 47 (cchar 'a')

/-- That name is written over the end of the buffer. -/
theorem resolveAQuery_outside :
    ¬ ∀ id host, Safe (fun r => (∀ query, r = some query → DnsAsks (strBytes host) query) ∧
        (r.isSome → DnsEncodable (strBytes host))) (resolveAQuery id host) := by
  intro h
  have hsafe := h 0 sampleLongHost
  rw [resolveAQuery_eq 0 sampleLongHost rfl, if_pos (by decide +kernel), if_neg (by decide +kernel)] at hsafe
  exact not_safe_error hsafe

end Query

end Orizon
