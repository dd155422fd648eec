import Orizon.System.Text
import Orizon.Lib.Lines

/-!
# Orizon.Update.Limine

The Limine configurations of `system/update.c`: the update appends a rollback entry to the
configuration it downloaded and writes it twice, once for each default entry of the boot
guard.

The loops over the text are related to its lines (`limineLines`).  The number that is written
for the rollback entry counts every line that begins with a slash, so it is the entry's
position among the top-level ones exactly when no nested entry stands before it.
-/

namespace Orizon

/-! ## The code -/

/-- `UPDATE_CONF_MAX`. -/
def updateConfMax : Nat := 4096

/-- `rollback_limine_entry`. -/
def rollbackLimineEntry : CStr :=
  cstr "\n" ++
  cstr "/Orizon OS Rollback\n" ++
  cstr "    protocol: limine\n" ++
  cstr "    kernel_path: boot():/boot/KROLLBK.ELF\n" ++
  cstr "    cmdline: orizon.safe=1 rollback\n" ++
  cstr "    resolution: 1024x768x32\n" ++
  cstr "    module_path: boot():/EFI/BOOT/BOOTX64.ROL\n" ++
  cstr "    module_cmdline: orizon-bootx64 rollback\n"

/-- The test of `append_limine_rollback_entry`. -/
def hasRollbackEntry (conf : CStr) : Bool :=
  strstrFound conf (cstr "KROLLBK.ELF") || strstrFound conf (cstr "Orizon OS Rollback")

/-- `append_limine_rollback_entry` to a buffer of `cap` bytes; `none` is -1. -/
def appendLimineRollbackEntry (conf : CStr) (cap : Nat) : Option CStr :=
  if hasRollbackEntry conf then some conf
  else if conf.length + rollbackLimineEntry.length + 1 ≥ cap then none
  else some (conf ++ rollbackLimineEntry)

/-- The line at `p`. -/
def limineLine (p : CStr) : CStr := p.takeWhile (!isLineEnd ·)

/-- `p` behind its line and the ends of lines that follow. -/
def limineNext (p : CStr) : CStr := (p.drop (limineLine p).length).dropWhile isLineEnd

/-- The loop of `limine_entry_index_named`. -/
def limineEntryIndexNamedLoop (name : CStr) : Nat → CStr → Nat → Nat
  | 0, _, _ => 0
  | fuel + 1, p, index =>
      if p = [] then 0
      else
        let len := (limineLine p).length
        if len > 1 ∧ p.head? = some slash then
          if name.length = len - 1 ∧ strncmpEq (p.drop 1) name (len - 1) then index + 1
          else limineEntryIndexNamedLoop name fuel (limineNext p) (index + 1)
        else limineEntryIndexNamedLoop name fuel (limineNext p) index

/-- `limine_entry_index_named`. -/
def limineEntryIndexNamed (conf name : CStr) : Nat := limineEntryIndexNamedLoop name conf.length conf 0

/-- The loop of `limine_write_default_entry`, with the text written so far. -/
def limineWriteDefaultEntryLoop (cap : Nat) : Nat → CStr → CStr → Option CStr
  | 0, _, dst => some dst
  | fuel + 1, p, dst =>
      if p = [] then some dst
      else
        let len := (limineLine p).length
        if len ≥ 14 ∧ strncmpEq p (cstr "default_entry:") 14 then
          limineWriteDefaultEntryLoop cap fuel (limineNext p) dst
        else if dst.length + len + 2 ≥ cap then none
        else limineWriteDefaultEntryLoop cap fuel (limineNext p) (dst ++ p.take len ++ [cchar '\n'])

/-- `limine_write_default_entry` into a buffer of `cap` bytes; `none` is -1. -/
def limineWriteDefaultEntry (src : CStr) (cap defaultEntry : Nat) : Option CStr :=
  if cap = 0 ∨ defaultEntry = 0 then none
  else
    let line := snprintfTexts 48 [cstr "default_entry: ", cstrNat defaultEntry, cstr "\n"]
    if line.length + 1 ≥ cap then none
    else (limineWriteDefaultEntryLoop cap src.length src line).filter (·.length < cap)

/-- The part of `orizon_update_run` that prepares the normal and the fallback configuration
from the bytes it downloaded; `none` is a blocked update. -/
def updateLimineConfigs (limine : List UInt8) : Option (CStr × CStr) :=
  if limine.length = 0 ∨ limine.length ≥ updateConfMax then none
  else do
    let conf ← appendLimineRollbackEntry (bytesCstr limine) updateConfMax
    let rollbackEntry := limineEntryIndexNamed conf (cstr "Orizon OS Rollback")
    if rollbackEntry = 0 then none
    else do
      let normal ← limineWriteDefaultEntry conf updateConfMax 1
      let fallback ← limineWriteDefaultEntry conf updateConfMax rollbackEntry
      some (normal, fallback)

/-! ## What a configuration says -/

/-- The lines of a configuration that are not empty. -/
def limineLines (conf : CStr) : List CStr := pieces isLineEnd conf

/-- A line that sets the default entry. -/
def isDefaultEntry (line : CStr) : Bool := (cstr "default_entry:").isPrefixOf line

/-- An entry at any depth. -/
def isEntryLine (line : CStr) : Bool := 1 < line.length && line.head? = some slash

/-- An entry below another one has two slashes or more. -/
def isTopLevelEntry (text : CStr) : Bool := isEntryLine text && text[1]? ≠ some slash

/-- The line of the rollback entry. -/
def rollbackEntryLine : CStr := slash :: cstr "Orizon OS Rollback"

/-- The position of the rollback entry among the top-level entries, from 1. -/
def rollbackPosition (conf : CStr) : Nat :=
  ((limineLines conf).filter isTopLevelEntry).idxOf rollbackEntryLine + 1

/-- The lines that the update adds to a configuration. -/
def rollbackLines (conf : CStr) : List CStr :=
  if hasRollbackEntry conf then [] else limineLines rollbackLimineEntry

/-- `out` is the configuration with entry `n` as its one default. -/
structure SelectsEntry (conf out : CStr) (n : Nat) : Prop where
  default_line : (limineLines out).filter isDefaultEntry = [cstr "default_entry: " ++ cstrNat n]
  kept : (limineLines out).filter (!isDefaultEntry ·) =
    (limineLines conf).filter (!isDefaultEntry ·) ++ rollbackLines conf
  fits : out.length < updateConfMax

/-- Both configurations select the entry they are for. -/
structure LimineConfigsRight (conf normal fallback : CStr) : Prop where
  normal : SelectsEntry conf normal 1
  has_rollback : rollbackEntryLine ∈ limineLines fallback
  fallback : SelectsEntry conf fallback (rollbackPosition fallback)

/-- No nested entry stands before the rollback entry. -/
def NoNestedEntryBefore (conf : CStr) : Prop :=
  ∀ line ∈ (limineLines conf).takeWhile (· ≠ rollbackEntryLine), isEntryLine line → isTopLevelEntry line

/-! ## The loops -/

section Loops

variable {conf p name line dst out : CStr} {lines : List CStr} {fuel index cap n : Nat}

theorem length_limineNext (hp : p ≠ []) : (limineNext p).length < p.length := by
  have hdrop := (List.dropWhile_suffix isLineEnd (l := p.drop (limineLine p).length)).length_le
  cases p with
  | nil => contradiction
  | cons c p =>
      cases hc : isLineEnd c with
      | false =>
          have hline : 0 < (limineLine (c :: p)).length := by simp [limineLine, hc]
          rw [List.length_drop] at hdrop
          rw [limineNext, List.length_cons]
          simp only [List.length_cons] at hdrop
          omega
      | true =>
          have hrest := (List.dropWhile_suffix isLineEnd (l := p)).length_le
          simp only [limineNext, limineLine, hc, List.takeWhile_cons, Bool.not_true, Bool.false_eq_true, if_false,
            List.length_nil, List.drop_zero, List.dropWhile_cons, if_true, List.length_cons]
          omega

/-- The lines of the rounds that a loop over the text makes. -/
def limineRounds (p : CStr) : List CStr := lineRounds isLineEnd p

theorem limineRounds_step (hp : p ≠ []) : limineRounds p = limineLine p :: limineRounds (limineNext p) :=
  lineRounds_step hp

theorem take_limineLine (p : CStr) : p.take (limineLine p).length = limineLine p :=
  List.prefix_iff_eq_take.mp (List.takeWhile_prefix _) |>.symm

theorem isEntryLine_limineLine :
    isEntryLine (limineLine p) = true ↔ (limineLine p).length > 1 ∧ p.head? = some slash := by
  have hslash : isLineEnd slash = false := by decide
  cases p with
  | nil => simp [isEntryLine, limineLine]
  | cons c p =>
      by_cases hc : isLineEnd c
      · simp [isEntryLine, limineLine, hc]
      · simp [isEntryLine, limineLine, hc]

theorem limineLine_eq_iff (hentry : isEntryLine (limineLine p) = true) :
    limineLine p = slash :: name ↔
      name.length = (limineLine p).length - 1 ∧ strncmpEq (p.drop 1) name ((limineLine p).length - 1) = true := by
  obtain ⟨hlen, hhead⟩ := isEntryLine_limineLine.mp hentry
  have htake := take_limineLine p
  cases p with
  | nil => simp at hhead
  | cons c p =>
      obtain rfl : c = slash := by simpa using hhead
      obtain ⟨k, hk⟩ : ∃ k, (limineLine (slash :: p)).length = k + 1 := ⟨_, (Nat.sub_add_cancel (by omega)).symm⟩
      rw [hk, List.take_succ_cons] at htake
      rw [hk, ← htake, List.cons.injEq, strncmpEq, List.drop_one, List.tail_cons, Nat.add_sub_cancel, decide_eq_true_eq]
      have hp : (p.take k).length = k := by simpa [hk] using congrArg List.length htake
      constructor
      · rintro ⟨-, rfl⟩
        exact ⟨hp, by rw [List.take_take, Nat.min_self]⟩
      · rintro ⟨hname, heq⟩
        exact ⟨rfl, by rw [heq, ← hname, List.take_length]⟩

theorem isDefaultEntry_limineLine :
    isDefaultEntry (limineLine p) = true ↔
      (limineLine p).length ≥ 14 ∧ strncmpEq p (cstr "default_entry:") 14 = true := by
  have hlen : (cstr "default_entry:").length = 14 := by decide
  have hneedle : (cstr "default_entry:").take 14 = cstr "default_entry:" := List.take_of_length_le hlen.le
  rw [isDefaultEntry, List.isPrefixOf_iff_prefix, List.prefix_iff_eq_take, hlen, strncmpEq, hneedle, decide_eq_true_eq]
  constructor
  · intro h
    have hle : (limineLine p).length ≥ 14 := by
      have htake := congrArg List.length h
      rw [hlen, List.length_take] at htake
      omega
    rw [← take_limineLine p, List.take_take, Nat.min_eq_left hle] at h
    exact ⟨hle, h.symm⟩
  · rintro ⟨hle, h⟩
    rw [← take_limineLine p, List.take_take, Nat.min_eq_left hle, h]

/-- The number of entries up to the first one with the name. -/
def entryIndex (name : CStr) (lines : List CStr) : Nat :=
  if slash :: name ∈ lines then (lines.takeWhile (· ≠ slash :: name)).countP isEntryLine + 1 else 0

@[simp] theorem entryIndex_nil : entryIndex name [] = 0 := rfl

theorem entryIndex_cons_self : entryIndex name ((slash :: name) :: lines) = 1 := by simp [entryIndex]

theorem entryIndex_cons_of_ne (h : line ≠ slash :: name) :
    entryIndex name (line :: lines) =
      if entryIndex name lines = 0 then 0 else (if isEntryLine line then 1 else 0) + entryIndex name lines := by
  have hne : slash :: name ≠ line := fun heq => h heq.symm
  by_cases hmem : slash :: name ∈ lines
  · simp only [entryIndex, hmem, List.mem_cons, or_true, if_true, Nat.succ_ne_zero, if_false, List.takeWhile_cons,
      decide_not, h, decide_false, Bool.not_false, List.countP_cons]
    omega
  · simp [entryIndex, hmem, hne]

theorem limineEntryIndexNamedLoop_eq (hname : name ≠ []) (hfuel : p.length ≤ fuel) :
    limineEntryIndexNamedLoop name fuel p index =
      if entryIndex name (limineRounds p) = 0 then 0 else index + entryIndex name (limineRounds p) := by
  induction fuel generalizing p index with
  | zero =>
      obtain rfl : p = [] := List.length_eq_zero_iff.mp (by omega)
      rfl
  | succ fuel ih =>
      rw [limineEntryIndexNamedLoop]
      by_cases hp : p = []
      · subst hp
        rfl
      · have hnext : (limineNext p).length ≤ fuel := by
          have hlt := length_limineNext hp
          omega
        rw [if_neg hp, limineRounds_step hp]
        simp only [← isEntryLine_limineLine]
        by_cases hentry : isEntryLine (limineLine p)
        · simp only [← limineLine_eq_iff hentry, if_pos hentry]
          by_cases heq : limineLine p = slash :: name
          · rw [if_pos heq, heq, entryIndex_cons_self]
            rfl
          · rw [if_neg heq, ih hnext, entryIndex_cons_of_ne heq, if_pos hentry]
            split <;> simp_all [Nat.add_assoc]
        · have hne : limineLine p ≠ slash :: name := by
            rintro heq
            rw [heq] at hentry
            exact hentry (by simp [isEntryLine, List.length_pos_iff.mpr hname])
          rw [if_neg hentry, ih hnext, entryIndex_cons_of_ne hne, if_neg hentry]
          split <;> simp_all

/-- What the loop appends: every line but the ones that set the default entry. -/
theorem limineWriteDefaultEntryLoop_eq (hfuel : p.length ≤ fuel)
    (h : limineWriteDefaultEntryLoop cap fuel p dst = some out) :
    out = dst ++ ((limineRounds p).filter (!isDefaultEntry ·)).flatMap (· ++ [cchar '\n']) := by
  induction fuel generalizing p dst with
  | zero =>
      obtain rfl : p = [] := List.length_eq_zero_iff.mp (by omega)
      simpa [limineWriteDefaultEntryLoop, limineRounds] using h.symm
  | succ fuel ih =>
      rw [limineWriteDefaultEntryLoop] at h
      by_cases hp : p = []
      · rw [if_pos hp] at h
        subst hp
        simpa [limineRounds] using h.symm
      · have hnext : (limineNext p).length ≤ fuel := by
          have hlt := length_limineNext hp
          omega
        rw [if_neg hp] at h
        simp only [← isDefaultEntry_limineLine, take_limineLine] at h
        rw [limineRounds_step hp]
        by_cases hdefault : isDefaultEntry (limineLine p)
        · rw [if_pos hdefault] at h
          rw [ih hnext h, List.filter_cons_of_neg (by simp [hdefault])]
        · rw [if_neg hdefault] at h
          split at h
          · contradiction
          · rw [ih hnext h, List.filter_cons_of_pos (by simp [hdefault]), List.flatMap_cons]
            simp only [List.append_assoc]

/-! ## The results -/

theorem limineWriteDefaultEntry_eq (hn : n < 2 ^ 32) (h : limineWriteDefaultEntry conf cap n = some out) :
    out = (cstr "default_entry: " ++ cstrNat n ++ [cchar '\n']) ++
        ((limineRounds conf).filter (!isDefaultEntry ·)).flatMap (· ++ [cchar '\n']) ∧
      out.length < cap := by
  have hdigits : (cstrNat n).length ≤ 10 := by
    rw [cstrNat_eq, List.length_map, Nat.length_toDigits_le_iff (by decide) (by decide)]
    omega
  have hline : snprintfTexts 48 [cstr "default_entry: ", cstrNat n, cstr "\n"] =
      cstr "default_entry: " ++ cstrNat n ++ [cchar '\n'] := by
    have hlen : (cstr "default_entry: ").length = 15 := by decide
    rw [snprintfTexts, List.take_of_length_le]
    · simp [cstr]
    · simp only [List.flatten_cons, List.flatten_nil, List.length_append, hlen, List.length_nil]
      have hend : (cstr "\n").length = 1 := by decide
      omega
  rw [limineWriteDefaultEntry] at h
  split at h
  · contradiction
  · dsimp only at h
    split at h
    · contradiction
    · rw [Option.filter_eq_some_iff, hline] at h
      exact ⟨limineWriteDefaultEntryLoop_eq le_rfl h.1, by simpa using h.2⟩

theorem writtenLines :
    (∀ x ∈ cstr "default_entry: ", isLineEnd x = false) ∧
      (limineLines rollbackLimineEntry).filter (!isDefaultEntry ·) = limineLines rollbackLimineEntry ∧
      isTopLevelEntry rollbackEntryLine = true ∧ (!isDefaultEntry rollbackEntryLine) = true ∧
      (limineLines rollbackLimineEntry).takeWhile (· ≠ rollbackEntryLine) = [] := by
  decide +kernel

theorem isLineEnd_defaultLine : ∀ x ∈ cstr "default_entry: " ++ cstrNat n, isLineEnd x = false := by
  intro x hx
  obtain hx | hx := List.mem_append.mp hx
  · exact writtenLines.1 x hx
  · have hdigit := mem_cstrNat hx
    rw [isLineEnd, Bool.or_eq_false_iff, decide_eq_false_iff_not, decide_eq_false_iff_not]
    constructor
    all_goals
      rintro rfl
      revert hdigit
      decide

theorem limineLines_written (hn : n < 2 ^ 32) (h : limineWriteDefaultEntry conf cap n = some out) :
    limineLines out =
      (cstr "default_entry: " ++ cstrNat n) :: (limineLines conf).filter (!isDefaultEntry ·) := by
  have hout := (limineWriteDefaultEntry_eq hn h).1
  rw [← @List.flatMap_cons _ _ (cstr "default_entry: " ++ cstrNat n) _ (· ++ [cchar '\n'])] at hout
  rw [limineLines, hout, pieces_flatMap _ (by decide), List.filter_cons_of_pos, List.filter_comm, limineLines,
    ← filter_lineRounds, limineRounds]
  · simp [cstr]
  · intro line hline
    obtain rfl | hline := List.mem_cons.mp hline
    · exact isLineEnd_defaultLine
    · exact mem_lineRounds (List.mem_of_mem_filter hline)

theorem isTopLevelEntry_of_isDefaultEntry (h : isDefaultEntry line = true) : isTopLevelEntry line = false := by
  rw [isDefaultEntry, List.isPrefixOf_iff_prefix] at h
  obtain ⟨rest, rfl⟩ := h
  have hhead : (cstr "default_entry:" ++ rest).head? = some (cchar 'd') := rfl
  have hne : cchar 'd' ≠ slash := by decide
  simp [isTopLevelEntry, isEntryLine, hhead, hne]

theorem isDefaultEntry_written : isDefaultEntry (cstr "default_entry: " ++ cstrNat n) = true :=
  List.isPrefixOf_iff_prefix.mpr ⟨cstr " " ++ cstrNat n, by simp [cstr]⟩

/-- The top-level entries of what is written are those it was written from. -/
theorem rollbackPosition_written (hn : n < 2 ^ 32) (h : limineWriteDefaultEntry conf cap n = some out) :
    rollbackPosition out = rollbackPosition conf := by
  have hsub : ((limineLines conf).filter (!isDefaultEntry ·)).filter isTopLevelEntry =
      (limineLines conf).filter isTopLevelEntry := by
    rw [List.filter_filter]
    refine List.filter_congr fun line _ => ?_
    cases hdefault : isDefaultEntry line with
    | false => simp
    | true => simp [isTopLevelEntry_of_isDefaultEntry hdefault]
  rw [rollbackPosition, rollbackPosition, limineLines_written hn h,
    List.filter_cons_of_neg (by simp [isTopLevelEntry_of_isDefaultEntry isDefaultEntry_written]), hsub]

theorem appendLimineRollbackEntry_cases (h : appendLimineRollbackEntry conf cap = some out) :
    (hasRollbackEntry conf = true ∧ out = conf) ∨
      (hasRollbackEntry conf = false ∧ out = conf ++ rollbackLimineEntry ∧ out.length < cap) := by
  rw [appendLimineRollbackEntry] at h
  cases hhas : hasRollbackEntry conf with
  | true =>
      rw [if_pos hhas] at h
      exact .inl ⟨rfl, (Option.some.inj h).symm⟩
  | false =>
      rw [if_neg (by simp [hhas])] at h
      split at h
      · cases h
      · rename_i hfits
        obtain rfl := Option.some.inj h
        refine .inr ⟨rfl, rfl, ?_⟩
        rw [List.length_append]
        omega

theorem limineLines_append (h : appendLimineRollbackEntry conf cap = some out) :
    limineLines out = limineLines conf ++ rollbackLines conf := by
  obtain ⟨hhas, rfl⟩ | ⟨hhas, rfl, -⟩ := appendLimineRollbackEntry_cases h
  · rw [rollbackLines, if_pos hhas, List.append_nil]
  · obtain ⟨entry, hentry⟩ : ∃ entry, rollbackLimineEntry = cchar '\n' :: entry := ⟨_, rfl⟩
    have hend : isLineEnd (cchar '\n') = true := by decide
    rw [rollbackLines, if_neg (by simp [hhas]), limineLines, limineLines, limineLines, hentry,
      pieces_append_sep hend, pieces_cons_sep hend]

theorem length_le_of_append (h : appendLimineRollbackEntry conf cap = some out) : out.length ≤ max conf.length cap := by
  obtain ⟨-, rfl⟩ | ⟨-, -, hlen⟩ := appendLimineRollbackEntry_cases h
  · exact le_max_left ..
  · exact hlen.le.trans (le_max_right ..)

theorem filter_rollbackLines (conf : CStr) :
    (rollbackLines conf).filter (!isDefaultEntry ·) = rollbackLines conf := by
  rw [rollbackLines]
  split
  · rfl
  · exact writtenLines.2.1

/-- What is written from the configuration with the rollback entry selects the entry. -/
theorem selectsEntry_written {input : CStr} (happend : appendLimineRollbackEntry input updateConfMax = some conf)
    (hn : n < 2 ^ 32) (h : limineWriteDefaultEntry conf updateConfMax n = some out) : SelectsEntry input out n where
  default_line := by
    have hrest : ((limineLines conf).filter (!isDefaultEntry ·)).filter isDefaultEntry = [] := by simp
    rw [limineLines_written hn h, List.filter_cons_of_pos isDefaultEntry_written, hrest]
  kept := by
    rw [limineLines_written hn h, List.filter_cons_of_neg (by simp [isDefaultEntry_written]), List.filter_filter,
      limineLines_append happend, List.filter_append]
    simp only [Bool.and_self, filter_rollbackLines]
  fits := (limineWriteDefaultEntry_eq hn h).2

theorem SelectsEntry.number_eq {input : CStr} {m : Nat} (hn : SelectsEntry input out n)
    (hm : SelectsEntry input out m) :
    n = m := by
  have hline := hn.default_line.symm.trans hm.default_line
  exact cstrNat_inj (List.append_cancel_left (List.singleton_inj.mp hline))

theorem limineEntryIndexNamed_eq (hname : name ≠ []) :
    limineEntryIndexNamed conf name = entryIndex name (limineLines conf) := by
  have hrounds : entryIndex name (limineRounds conf) = entryIndex name (limineLines conf) := by
    rw [limineRounds, lineRounds, limineLines]
    split
    · rw [List.singleton_append, entryIndex_cons_of_ne (by simp)]
      split <;> simp_all [isEntryLine]
    · rfl
  rw [limineEntryIndexNamed, limineEntryIndexNamedLoop_eq hname le_rfl, hrounds]
  split <;> simp_all

theorem idxOf_filter {q : CStr → Bool} {lines : List CStr} (hmem : line ∈ lines) (hq : q line = true) :
    (lines.filter q).idxOf line = (lines.takeWhile (· ≠ line)).countP q := by
  induction lines with
  | nil => simp at hmem
  | cons first lines ih =>
      by_cases heq : first = line
      · subst heq
        simp [hq]
      · have hrest : line ∈ lines := by simpa [Ne.symm heq] using hmem
        cases hfirst : q first with
        | true => simp [hfirst, heq, List.idxOf_cons_ne, ih hrest]
        | false => simp [hfirst, heq, ih hrest]

theorem countP_eq_countP_iff {p q : CStr → Bool} {lines : List CStr} (himp : ∀ line, q line = true → p line = true) :
    lines.countP p = lines.countP q ↔ ∀ line ∈ lines, p line = true → q line = true := by
  induction lines with
  | nil => simp
  | cons line lines ih =>
      have hle : lines.countP q ≤ lines.countP p := List.countP_mono_left fun x _ => himp x
      have hline := himp line
      rw [List.forall_mem_cons, ← ih, List.countP_cons, List.countP_cons]
      cases hp : p line <;> cases hq : q line <;> simp_all
      omega

/-- The number for the fallback is the rollback entry's position when no nested entry
stands before it. -/
theorem entryIndex_eq_rollbackPosition_iff (hmem : rollbackEntryLine ∈ limineLines conf) :
    entryIndex (cstr "Orizon OS Rollback") (limineLines conf) = rollbackPosition conf ↔ NoNestedEntryBefore conf := by
  have htop : isTopLevelEntry rollbackEntryLine = true := writtenLines.2.2.1
  have hentry : ∀ line, isTopLevelEntry line = true → isEntryLine line = true := by simp +contextual [isTopLevelEntry]
  rw [entryIndex, ← rollbackEntryLine, if_pos hmem, rollbackPosition, idxOf_filter hmem htop, Nat.add_right_cancel_iff,
    countP_eq_countP_iff hentry, NoNestedEntryBefore]

theorem entryIndex_le (conf : CStr) : entryIndex name (limineLines conf) ≤ conf.length := by
  have hlines : (limineLines conf).length ≤ conf.length := length_pieces_le conf
  rw [entryIndex]
  split
  · rename_i hmem
    have hcount := (limineLines conf).takeWhile (· ≠ slash :: name) |>.countP_le_length (p := isEntryLine)
    have hshort : ((limineLines conf).takeWhile (· ≠ slash :: name)).length < (limineLines conf).length := by
      refine (List.takeWhile_prefix _).length_le.lt_of_ne fun heq => ?_
      rw [← (List.takeWhile_prefix _).eq_of_length heq] at hmem
      simpa using List.mem_takeWhile_imp hmem
    omega
  · exact Nat.zero_le _

theorem noNestedEntryBefore_append {input : CStr} (h : appendLimineRollbackEntry input cap = some conf) :
    NoNestedEntryBefore conf ↔ NoNestedEntryBefore input := by
  have hfirst : (rollbackLines input).takeWhile (· ≠ rollbackEntryLine) = [] := by
    rw [rollbackLines]
    split
    · rfl
    · exact writtenLines.2.2.2.2
  rw [NoNestedEntryBefore, NoNestedEntryBefore, limineLines_append h, List.takeWhile_append]
  split
  · rename_i hall
    rw [hfirst, List.append_nil, List.takeWhile_prefix (· ≠ rollbackEntryLine) |>.eq_of_length hall]
  · rfl

theorem updateLimineConfigs_cases {limine : List UInt8} {normal fallback : CStr}
    (h : updateLimineConfigs limine = some (normal, fallback)) :
    ∃ conf, appendLimineRollbackEntry (bytesCstr limine) updateConfMax = some conf ∧
      conf.length < 2 ^ 32 ∧ rollbackEntryLine ∈ limineLines conf ∧
      limineWriteDefaultEntry conf updateConfMax 1 = some normal ∧
      limineWriteDefaultEntry conf updateConfMax (entryIndex (cstr "Orizon OS Rollback") (limineLines conf)) =
        some fallback := by
  have hname : cstr "Orizon OS Rollback" ≠ [] := by decide
  rw [updateLimineConfigs] at h
  split at h
  · contradiction
  · rename_i hsize
    simp only [Option.bind_eq_bind, Option.bind_eq_some_iff] at h
    obtain ⟨conf, happend, h⟩ := h
    rw [limineEntryIndexNamed_eq hname] at h
    split at h
    · contradiction
    · rename_i hindex
      simp only [Option.bind_eq_some_iff, Option.some.injEq, Prod.mk.injEq] at h
      obtain ⟨_, hnormal, _, hfallback, rfl, rfl⟩ := h
      refine ⟨conf, happend, ?_, ?_, hnormal, hfallback⟩
      · have hlen := length_bytesCstr_le limine
        have hconf := length_le_of_append happend
        simp only [updateConfMax, not_or, not_le] at hsize hconf
        omega
      · by_contra hmem
        exact hindex (if_neg hmem)

end Loops

/-- Both configurations that an update prepares are right exactly when no nested entry
stands before the rollback entry. -/
theorem updateLimineConfigs_right_iff {limine : List UInt8} {normal fallback : CStr}
    (h : updateLimineConfigs limine = some (normal, fallback)) :
    LimineConfigsRight (bytesCstr limine) normal fallback ↔ NoNestedEntryBefore (bytesCstr limine) := by
  obtain ⟨conf, happend, hlen, hmem, hnormal, hfallback⟩ := updateLimineConfigs_cases h
  have hindex : entryIndex (cstr "Orizon OS Rollback") (limineLines conf) < 2 ^ 32 :=
    lt_of_le_of_lt (entryIndex_le conf) hlen
  have hselects := selectsEntry_written happend hindex hfallback
  have hposition := rollbackPosition_written hindex hfallback
  rw [← noNestedEntryBefore_append happend, ← entryIndex_eq_rollbackPosition_iff hmem]
  constructor
  · intro hright
    rw [← hposition]
    exact hselects.number_eq hright.fallback
  · intro heq
    refine ⟨selectsEntry_written happend (by decide) hnormal, ?_, ?_⟩
    · rw [limineLines_written hindex hfallback]
      exact List.mem_cons_of_mem _ (List.mem_filter.mpr ⟨hmem, writtenLines.2.2.2.1⟩)
    · rw [hposition, ← heq]
      exact hselects

/-- What an update makes of a configuration with one entry, and of one with a nested entry. -/
theorem updateLimineConfigs_samples :
    (updateLimineConfigs (strBytes (cstr "/Orizon OS\n"))).isSome = true ∧
      (∀ line ∈ (limineLines (cstr "/Orizon OS\n")).takeWhile (· ≠ rollbackEntryLine),
        isEntryLine line = true → isTopLevelEntry line = true) ∧
      (updateLimineConfigs (strBytes (cstr "/Tools\n//Shell\n"))).map (fun configs =>
        (rollbackPosition configs.2, (limineLines configs.2).filter isDefaultEntry)) =
          some (2, [cstr "default_entry: 3"]) ∧
      [cstr "default_entry: 3"] ≠ [cstr "default_entry: " ++ cstrNat 2] := by
  decide +kernel

/-- A configuration with one entry. -/
theorem updateLimineConfigs_right_plain :
    ∃ normal fallback, updateLimineConfigs (strBytes (cstr "/Orizon OS\n")) = some (normal, fallback) ∧
      LimineConfigsRight (cstr "/Orizon OS\n") normal fallback := by
  obtain ⟨⟨normal, fallback⟩, h⟩ := Option.isSome_iff_exists.mp updateLimineConfigs_samples.1
  refine ⟨normal, fallback, h, ?_⟩
  have hright := updateLimineConfigs_right_iff h
  rw [bytesCstr_strBytes] at hright
  exact hright.mpr updateLimineConfigs_samples.2.1

/-- The entry in the menu of another one is counted. -/
theorem updateLimineConfigs_nested :
    ∃ normal fallback, updateLimineConfigs (strBytes (cstr "/Tools\n//Shell\n")) = some (normal, fallback) ∧
      ¬ LimineConfigsRight (cstr "/Tools\n//Shell\n") normal fallback := by
  obtain ⟨-, -, hfallback, hline⟩ := updateLimineConfigs_samples
  obtain ⟨⟨normal, fallback⟩, h, hvalues⟩ := Option.map_eq_some_iff.mp hfallback
  rw [Prod.mk.injEq] at hvalues
  refine ⟨normal, fallback, h, fun hright => hline ?_⟩
  have hdefault := hright.fallback.default_line
  rwa [hvalues.1, hvalues.2] at hdefault

end Orizon
