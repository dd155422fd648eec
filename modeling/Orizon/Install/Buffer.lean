import Orizon.Install.Fat
import Orizon.Install.Table

/-!
# Orizon.Install.Buffer

Where the table in memory is accessed.

`install_fat` has as many entries as it has, whatever the number of clusters of the
volume.  A chain is freed inside it just if it never leaves it (`FreeInside`), and a chain
is allocated inside it just if the first fit is found there, or there is too little behind
the end of it to search on (`AllocInside`).
-/

namespace Orizon

open Traced

/-! ## What is required -/

/-- The entry of a cluster is in `install_fat`. -/
def InFat (cluster : Nat) : Prop := fatOffset cluster + 4 ≤ installFatBytes

/-- The cluster that a chain goes on with. -/
def fatNext (fat : Mem) (limit cluster : Nat) : Option Nat :=
  if 2 ≤ cluster ∧ cluster < limit ∧ fatEntry fat cluster < 0x0ffffff8 ∧ fatEntry fat cluster ≠ cluster then
    some (fatEntry fat cluster)
  else none

/-- The chain from a cluster. -/
def fatChain (fat : Mem) (limit start : Nat) : Nat → Option Nat
  | 0 => some start
  | k + 1 => (fatChain fat limit start k).bind (fatNext fat limit)

/-- The entries of all clusters of a chain are in `install_fat`. -/
def FreeInside (fat : Mem) (limit start : Nat) : Prop :=
  ∀ k c, fatChain fat limit start k = some c → 2 ≤ c → c < limit → InFat c

/-- `count` free entries of `install_fat`, that the search may take. -/
structure FatFits (fat : Mem) (limit count first : Nat) : Prop where
  inside : first + count ≤ installFatEntries
  below : first + count < limit
  free : ∀ i < count, fatEntry fat (first + i) = 0

/-- There are enough free neighbours in `install_fat`, or those at the end of it together
with all clusters behind are too few. -/
def AllocInside (fat : Mem) (limit count : Nat) : Prop :=
  (∃ first, 2 ≤ first ∧ FatFits fat limit count first) ∨
    ∀ u, 2 ≤ u → u ≤ installFatEntries →
      (∀ c, u ≤ c → c < installFatEntries → fatEntry fat c = 0) → limit ≤ u + count

/-- A written sector is one of the partition, and an access is one of `install_fat`. -/
def EspEvent.Safe (part : GptPartition) : EspEvent → Prop
  | .sectors lba n => part.firstLba ≤ lba ∧ lba + n ≤ part.lastLba + 1
  | .buffer off n => off + n ≤ installFatBytes
  | _ => True

instance EspEvent.decidableSafe (part : GptPartition) : DecidablePred (EspEvent.Safe part)
  | .sectors lba n => inferInstanceAs (Decidable (part.firstLba ≤ lba ∧ lba + n ≤ part.lastLba + 1))
  | .buffer off n => inferInstanceAs (Decidable (off + n ≤ installFatBytes))
  | .free _ _ => .isTrue trivial
  | .alloc _ _ => .isTrue trivial
  | .root => .isTrue trivial

/-- What is required of the table before each of its uses. -/
def EspEvent.Meets (vol : Fat32Volume) : EspEvent → Prop
  | .free fat cluster => FreeInside fat vol.limit cluster
  | .alloc fat count => AllocInside fat vol.limit count
  | .root => InFat vol.rootCluster
  | _ => True

/-! ## One entry -/

section Entry

variable {s : Esp} {cluster value : Nat} {fat : Mem}

theorem installFatBytes_eq : installFatBytes = 1048576 := rfl

theorem installFatEntries_eq : installFatEntries = 262144 := rfl

/-- The entries of the clusters below `installFatEntries` are those of `install_fat`. -/
theorem fatOffset_of_lt {c : Nat} (h : c < installFatEntries) : fatOffset c = c * 4 := by
  rw [installFatEntries_eq] at h
  unfold fatOffset
  omega

theorem inFat_of_lt {c : Nat} (h : c < installFatEntries) : InFat c := by
  unfold InFat
  rw [fatOffset_of_lt h, installFatBytes_eq]
  rw [installFatEntries_eq] at h
  omega

theorem not_inFat_entries : ¬ InFat installFatEntries := by
  unfold InFat fatOffset
  rw [installFatBytes_eq, installFatEntries_eq]
  omega

theorem accessFat_of_le {off n : Nat} (h : off + n ≤ installFatBytes) :
    (accessFat off n).run s = (.ok (), s, [.buffer off n]) := by
  unfold accessFat
  rw [if_pos h]
  rfl

theorem accessFat_of_not_le {off n : Nat} (h : ¬ off + n ≤ installFatBytes) :
    (accessFat off n).run s = (.error .undefined, s, [.buffer off n]) := by
  unfold accessFat
  rw [if_neg h]
  rfl

theorem fatGet_of_inFat (h : InFat cluster) :
    (fatGet cluster).run s = (.ok (fatEntry s.fat cluster), s, [.buffer (fatOffset cluster) 4]) := by
  unfold fatGet
  rw [run_bind_ok (accessFat_of_le h)]
  rfl

theorem fatGet_of_not_inFat (h : ¬ InFat cluster) :
    (fatGet cluster).run s = (.error .undefined, s, [.buffer (fatOffset cluster) 4]) := by
  unfold fatGet
  rw [run_bind_error (accessFat_of_not_le h)]

theorem fatSet_of_inFat (h : InFat cluster) :
    (fatSet cluster value).run s = (.ok (), { s with fat := putU32 s.fat (fatOffset cluster) value },
      [.buffer (fatOffset cluster) 4]) := by
  unfold fatSet
  rw [run_bind_ok (accessFat_of_le h)]
  rfl

theorem trace_fatSet : (fatSet cluster value).trace s = [.buffer (fatOffset cluster) 4] := by
  by_cases h : InFat cluster
  · unfold trace
    rw [fatSet_of_inFat h]
  · unfold trace fatSet
    rw [run_bind_error (accessFat_of_not_le h)]

theorem fatEntry_clear (c : Nat) : fatEntry (putU32 fat (fatOffset cluster) 0) c =
    if fatOffset c = fatOffset cluster then 0 else fatEntry fat c := by
  unfold fatEntry
  by_cases h : fatOffset c = fatOffset cluster
  · rw [if_pos h, h, getU32_putU32_self (by omega), Nat.zero_mod]
  · rw [if_neg h]
    unfold fatOffset at h ⊢
    exact congrArg (· % 2 ^ 28) (load_store_of_disjoint (by omega))

end Entry

/-! ## Freeing -/

section Free

variable {s : Esp} {limit fuel cluster : Nat}

theorem fatFreeLoop_of_not_mem (h : ¬ (2 ≤ cluster ∧ cluster < limit)) (fuel : Nat) :
    (fatFreeLoop limit fuel cluster).run s = (.ok (), s, []) := by
  cases fuel with
  | zero => rfl
  | succ fuel =>
      unfold fatFreeLoop
      rw [if_neg h]
      rfl

theorem fatFreeLoop_of_not_inFat (h : 2 ≤ cluster ∧ cluster < limit) (hout : ¬ InFat cluster) (fuel : Nat) :
    (fatFreeLoop limit (fuel + 1) cluster).run s =
      (.error .undefined, s, [.buffer (fatOffset cluster) 4]) := by
  unfold fatFreeLoop
  rw [if_pos h, run_bind_error (fatGet_of_not_inFat hout)]

theorem fatFreeLoop_of_inFat (h : 2 ≤ cluster ∧ cluster < limit) (hin : InFat cluster) (fuel : Nat) :
    let next := fatEntry s.fat cluster
    let cleared : Esp := { s with fat := putU32 s.fat (fatOffset cluster) 0 }
    let here : List EspEvent := [.buffer (fatOffset cluster) 4, .buffer (fatOffset cluster) 4]
    (fatFreeLoop limit (fuel + 1) cluster).run s =
      if next ≥ 0x0ffffff8 ∨ next = cluster then (.ok (), cleared, here)
      else (((fatFreeLoop limit fuel next).run cleared).1, ((fatFreeLoop limit fuel next).run cleared).2.1,
        here ++ ((fatFreeLoop limit fuel next).run cleared).2.2) := by
  intro next cleared here
  rw [fatFreeLoop, if_pos h, run_bind_ok (fatGet_of_inFat hin), run_bind_ok (fatSet_of_inFat hin)]
  by_cases hend : fatEntry s.fat cluster ≥ 0x0ffffff8 ∨ fatEntry s.fat cluster = cluster
  · rw [if_pos hend, if_pos hend]
    rfl
  · rw [if_neg hend, if_neg hend]
    rfl

/-- Every event of a run is safe. -/
def SafeRun {α : Type} (part : GptPartition) (m : EspM α) (s : Esp) : Prop :=
  ∀ e ∈ m.trace s, e.Safe part

variable {part : GptPartition}

theorem safeRun_free_of_not_mem (h : ¬ (2 ≤ cluster ∧ cluster < limit)) (fuel : Nat) :
    SafeRun part (fatFreeLoop limit fuel cluster) s := by
  unfold SafeRun trace
  rw [fatFreeLoop_of_not_mem h]
  exact fun e he => absurd he List.not_mem_nil

theorem not_safeRun_free (h : 2 ≤ cluster ∧ cluster < limit) (hout : ¬ InFat cluster) (fuel : Nat) :
    ¬ SafeRun part (fatFreeLoop limit (fuel + 1) cluster) s := by
  unfold SafeRun trace
  rw [fatFreeLoop_of_not_inFat h hout]
  exact fun hall => hout (hall _ List.mem_cons_self)

theorem safeRun_free_iff (h : 2 ≤ cluster ∧ cluster < limit) (hin : InFat cluster) (fuel : Nat) :
    SafeRun part (fatFreeLoop limit (fuel + 1) cluster) s ↔
      (fatEntry s.fat cluster ≥ 0x0ffffff8 ∨ fatEntry s.fat cluster = cluster) ∨
        SafeRun part (fatFreeLoop limit fuel (fatEntry s.fat cluster))
          { s with fat := putU32 s.fat (fatOffset cluster) 0 } := by
  have hhere : ∀ e ∈ [EspEvent.buffer (fatOffset cluster) 4, .buffer (fatOffset cluster) 4], e.Safe part := by
    intro e he
    rw [List.mem_pair, or_self] at he
    subst he
    exact hin
  unfold SafeRun trace
  rw [fatFreeLoop_of_inFat h hin]
  by_cases hend : fatEntry s.fat cluster ≥ 0x0ffffff8 ∨ fatEntry s.fat cluster = cluster
  · rw [if_pos hend]
    exact iff_of_true hhere (.inl hend)
  · rw [if_neg hend, or_iff_right hend]
    dsimp only
    rw [List.forall_mem_append]
    exact and_iff_right hhere

theorem fatChain_succ {fat : Mem} {start k c : Nat} (hc : fatChain fat limit start k = some c)
    (h : 2 ≤ c ∧ c < limit) (hend : ¬ (fatEntry fat c ≥ 0x0ffffff8 ∨ fatEntry fat c = c)) :
    fatChain fat limit start (k + 1) = some (fatEntry fat c) := by
  rw [fatChain, hc, Option.bind_some]
  unfold fatNext
  rw [if_pos ⟨h.1, h.2, by omega, by omega⟩]

/-- A chain that is inside is freed inside: an entry that is met again is clear, and ends
the loop. -/
theorem safeRun_free_of_inside {fat : Mem} {start : Nat} (hinside : FreeInside fat limit start)
    (hentries : ∀ c, fatEntry s.fat c = fatEntry fat c ∨ fatEntry s.fat c = 0)
    (hcluster : cluster = 0 ∨ ∃ k, fatChain fat limit start k = some cluster) (fuel : Nat) :
    SafeRun part (fatFreeLoop limit fuel cluster) s := by
  induction fuel generalizing s cluster with
  | zero => exact fun e he => absurd he List.not_mem_nil
  | succ fuel ih =>
      by_cases hmem : 2 ≤ cluster ∧ cluster < limit
      · obtain hzero | ⟨k, hk⟩ := hcluster
        · omega
        have hin := hinside k cluster hk hmem.1 hmem.2
        rw [safeRun_free_iff hmem hin]
        by_cases hend : fatEntry s.fat cluster ≥ 0x0ffffff8 ∨ fatEntry s.fat cluster = cluster
        · exact .inl hend
        refine .inr (ih (fun c => ?_) ?_)
        · rw [fatEntry_clear]
          by_cases hoff : fatOffset c = fatOffset cluster
          · rw [if_pos hoff]
            exact .inr rfl
          · rw [if_neg hoff]
            exact hentries c
        · rcases hentries cluster with hsame | hclear
          · rw [hsame] at hend ⊢
            exact .inr ⟨k + 1, fatChain_succ hk hmem hend⟩
          · exact .inl hclear
      · exact safeRun_free_of_not_mem hmem _

/-- A chain that leaves the buffer after `n` entries of its own is not freed inside. -/
theorem not_safeRun_free_of_chain {p : Nat → Nat} {n : Nat} (hmem : ∀ i ≤ n, 2 ≤ p i ∧ p i < limit)
    (hin : ∀ i < n, InFat (p i)) (hout : ¬ InFat (p n))
    (hnext : ∀ i < n, fatEntry s.fat (p i) = p (i + 1) ∧ p (i + 1) < 0x0ffffff8 ∧
      p (i + 1) ≠ p i)
    (hdistinct : ∀ i j, i < j → j < n → fatOffset (p j) ≠ fatOffset (p i)) {fuel : Nat}
    (hfuel : n < fuel) : ¬ SafeRun part (fatFreeLoop limit fuel (p 0)) s := by
  induction n generalizing s p fuel with
  | zero =>
      obtain ⟨fuel, rfl⟩ := Nat.exists_eq_add_of_lt hfuel
      rw [Nat.zero_add]
      exact not_safeRun_free (hmem 0 le_rfl) hout fuel
  | succ n ih =>
      obtain ⟨fuel, rfl⟩ := Nat.exists_eq_add_of_lt (Nat.lt_of_lt_of_le (Nat.succ_pos n) hfuel.le)
      rw [Nat.zero_add] at hfuel ⊢
      obtain ⟨hentry, hlow, hne⟩ := hnext 0 (Nat.succ_pos n)
      rw [safeRun_free_iff (hmem 0 (Nat.zero_le _)) (hin 0 (Nat.succ_pos n)), hentry]
      rw [or_iff_right (by omega)]
      refine ih (p := fun i => p (i + 1)) ?_ ?_ hout ?_ ?_ (by omega)
      · exact fun i hi => hmem (i + 1) (by omega)
      · exact fun i hi => hin (i + 1) (by omega)
      · intro i hi
        rw [fatEntry_clear, if_neg (hdistinct 0 (i + 1) (by omega) (by omega))]
        exact hnext (i + 1) (by omega)
      · exact fun i j hij hj => hdistinct (i + 1) (j + 1) (by omega) (by omega)

theorem fatChain_add {fat : Mem} {start : Nat} (k n : Nat) : fatChain fat limit start (k + n) =
    (fatChain fat limit start k).bind fun c => fatChain fat limit c n := by
  induction n with
  | zero => exact (Option.bind_fun_some _).symm
  | succ n ih =>
      rw [← Nat.add_assoc, fatChain, ih, Option.bind_assoc]
      rfl

theorem fatNext_some {fat : Mem} {c n : Nat} (h : fatNext fat limit c = some n) :
    (2 ≤ c ∧ c < limit) ∧ fatEntry fat c = n ∧ n < 0x0ffffff8 ∧ n ≠ c := by
  unfold fatNext at h
  by_cases hgo : 2 ≤ c ∧ c < limit ∧ fatEntry fat c < 0x0ffffff8 ∧ fatEntry fat c ≠ c
  · rw [if_pos hgo] at h
    obtain rfl := Option.some.inj h
    exact ⟨⟨hgo.1, hgo.2.1⟩, rfl, hgo.2.2⟩
  · rw [if_neg hgo] at h
    cases h

theorem fatOffset_mod (c : Nat) : fatOffset c % 4 = 0 := by
  unfold fatOffset
  omega

/-- Entries of `install_fat` that are all different are not more than there are. -/
theorem le_installFatEntries {p : Nat → Nat} {n : Nat} (hin : ∀ i < n, InFat (p i))
    (hdistinct : ∀ i j, i < j → j < n → fatOffset (p j) ≠ fatOffset (p i)) : n ≤ installFatEntries := by
  have hmaps : ∀ i ∈ Finset.range n, fatOffset (p i) / 4 ∈ Finset.range installFatEntries := by
    intro i hi
    have hinside := hin i (Finset.mem_range.mp hi)
    unfold InFat at hinside
    rw [installFatBytes_eq] at hinside
    rw [Finset.mem_range, installFatEntries_eq]
    omega
  have hinj : Set.InjOn (fun i => fatOffset (p i) / 4) (Finset.range n) := by
    intro i hi j hj heq
    have hi' := Finset.mem_range.mp (Finset.mem_coe.mp hi)
    have hj' := Finset.mem_range.mp (Finset.mem_coe.mp hj)
    have hmod := fatOffset_mod (p i)
    have hmod' := fatOffset_mod (p j)
    dsimp only at heq
    rcases Nat.lt_trichotomy i j with hlt | rfl | hgt
    · exact absurd (by omega) (hdistinct i j hlt hj')
    · rfl
    · exact absurd (by omega) (hdistinct j i hgt hi')
  have hcard := Finset.card_le_card_of_injOn _ hmaps hinj
  rwa [Finset.card_range, Finset.card_range] at hcard

theorem not_safeRun_free_of_not_inside (houtside : ¬ FreeInside s.fat limit cluster) :
    ¬ SafeRun part (fatFreeLoop limit (installFatEntries + 1) cluster) s := by
  have hexists : ∃ k c, fatChain s.fat limit cluster k = some c ∧ (2 ≤ c ∧ c < limit) ∧ ¬ InFat c := by
    by_contra hno
    exact houtside fun k c hc hlo hhi => by_contra fun hout => hno ⟨k, c, hc, ⟨hlo, hhi⟩, hout⟩
  classical
  -- the first cluster of the chain that is outside
  obtain ⟨c, hc, hmem, hout⟩ := Nat.find_spec hexists
  generalize hn : Nat.find hexists = n at hc
  have hbefore : ∀ {k c}, k < n → fatChain s.fat limit cluster k = some c → 2 ≤ c → c < limit → InFat c := by
    intro k c hk hchain hlo hhi
    by_contra hno
    exact Nat.find_min hexists (by rwa [hn]) ⟨c, hchain, ⟨hlo, hhi⟩, hno⟩
  have hpath : ∀ i ≤ n, fatChain s.fat limit cluster i =
      some ((fatChain s.fat limit cluster i).getD 0) := by
    intro i hi
    have hsplit := @fatChain_add limit s.fat cluster i (n - i)
    rw [Nat.add_sub_cancel' hi, hc] at hsplit
    obtain ⟨x, hx, -⟩ := Option.bind_eq_some_iff.mp hsplit.symm
    rw [hx, Option.getD_some]
  generalize hp : (fun i => (fatChain s.fat limit cluster i).getD 0) = p
  have hchain : ∀ i ≤ n, fatChain s.fat limit cluster i = some (p i) := by
    rw [← hp]
    exact hpath
  have hnext : ∀ i < n, fatNext s.fat limit (p i) = some (p (i + 1)) := by
    intro i hi
    have hstep := hchain (i + 1) hi
    rwa [fatChain, hchain i hi.le, Option.bind_some] at hstep
  have hstart : p 0 = cluster := (Option.some.inj (hchain 0 (Nat.zero_le n))).symm
  obtain rfl : c = p n := Option.some.inj (hc.symm.trans (hchain n le_rfl))
  have hin : ∀ i < n, InFat (p i) := fun i hi =>
    hbefore hi (hchain i hi.le) (fatNext_some (hnext i hi)).1.1 (fatNext_some (hnext i hi)).1.2
  -- a chain that meets an entry again would have been outside before
  have hdistinct : ∀ i j, i < j → j < n → fatOffset (p j) ≠ fatOffset (p i) := by
    intro i j hij hj heq
    have hentry : fatEntry s.fat (p j) = fatEntry s.fat (p i) := by
      unfold fatEntry
      rw [heq]
    have hmeet : p (j + 1) = p (i + 1) := by
      rw [← (fatNext_some (hnext j hj)).2.1, ← (fatNext_some (hnext i (by omega))).2.1, hentry]
    have hlater := @fatChain_add limit s.fat cluster (j + 1) (n - (j + 1))
    have hearlier := @fatChain_add limit s.fat cluster (i + 1) (n - (j + 1))
    rw [Nat.add_sub_cancel' hj, hchain n le_rfl, hchain (j + 1) hj, Option.bind_some, hmeet] at hlater
    rw [hchain (i + 1) (by omega), Option.bind_some, ← hlater] at hearlier
    exact hout (hbefore (by omega) hearlier hmem.1 hmem.2)
  have hbound := le_installFatEntries hin hdistinct
  rw [← hstart]
  refine not_safeRun_free_of_chain (fun i hi => ?_) hin hout (fun i hi => ?_) hdistinct (by omega)
  · rcases Nat.lt_or_eq_of_le hi with hlt | rfl
    · exact (fatNext_some (hnext i hlt)).1
    · exact hmem
  · obtain ⟨-, hentry, hlow, hne⟩ := fatNext_some (hnext i hi)
    exact ⟨hentry, hlow, hne⟩

/-- A chain is freed inside `install_fat` just if it is inside. -/
theorem safeRun_free : SafeRun part (fatFreeLoop limit (installFatEntries + 1) cluster) s ↔
    FreeInside s.fat limit cluster := by
  constructor
  · exact fun hsafe => by_contra fun hno => not_safeRun_free_of_not_inside hno hsafe
  · exact fun hinside => safeRun_free_of_inside hinside (fun _ => .inl rfl) (.inr ⟨0, rfl⟩) _

/-- The number of entries that are not free. -/
def fatUsed (fat : Mem) : Nat := ((Finset.range installFatEntries).filter (fatEntry fat · ≠ 0)).card

theorem fatUsed_clear {fat : Mem} (hin : InFat cluster) (hused : fatEntry fat cluster ≠ 0) :
    fatUsed (putU32 fat (fatOffset cluster) 0) < fatUsed fat := by
  have hlt : fatOffset cluster / 4 < installFatEntries := by
    unfold InFat at hin
    rw [installFatBytes_eq] at hin
    rw [installFatEntries_eq]
    omega
  have hsame : fatOffset (fatOffset cluster / 4) = fatOffset cluster := by
    have hmod := fatOffset_mod cluster
    rw [fatOffset_of_lt hlt]
    omega
  have hentry : fatEntry fat (fatOffset cluster / 4) ≠ 0 := by
    unfold fatEntry at hused ⊢
    rwa [hsame]
  refine Finset.card_lt_card (Finset.ssubset_iff_of_subset (fun c hc => ?_) |>.mpr
    ⟨fatOffset cluster / 4, ?_, ?_⟩)
  · obtain ⟨hrange, hnonzero⟩ := Finset.mem_filter.mp hc
    rw [fatEntry_clear] at hnonzero
    by_cases hoff : fatOffset c = fatOffset cluster
    · rw [if_pos hoff] at hnonzero
      exact absurd rfl hnonzero
    · rw [if_neg hoff] at hnonzero
      exact Finset.mem_filter.mpr ⟨hrange, hnonzero⟩
  · exact Finset.mem_filter.mpr ⟨Finset.mem_range.mpr hlt, hentry⟩
  · intro hmem
    have hnonzero := (Finset.mem_filter.mp hmem).2
    rw [fatEntry_clear, if_pos hsame] at hnonzero
    exact hnonzero rfl

/-- The loop does not depend on the number of its rounds, if there are more than used
entries. -/
theorem fatFreeLoop_congr {fuel' : Nat} (h : fatUsed s.fat < fuel) (h' : fatUsed s.fat < fuel') :
    (fatFreeLoop limit fuel cluster).run s = (fatFreeLoop limit fuel' cluster).run s := by
  induction fuel generalizing s cluster fuel' with
  | zero => exact absurd h (Nat.not_lt_zero _)
  | succ fuel ih =>
      cases fuel' with
      | zero => exact absurd h' (Nat.not_lt_zero _)
      | succ fuel' =>
          by_cases hmem : 2 ≤ cluster ∧ cluster < limit
          · by_cases hin : InFat cluster
            · rw [fatFreeLoop_of_inFat hmem hin, fatFreeLoop_of_inFat hmem hin]
              by_cases hzero : fatEntry s.fat cluster = 0
              · rw [hzero, fatFreeLoop_of_not_mem (by omega), fatFreeLoop_of_not_mem (by omega)]
              · have hless := fatUsed_clear hin hzero
                have hrest := @ih { s with fat := putU32 s.fat (fatOffset cluster) 0 }
                  (fatEntry s.fat cluster) fuel' (by dsimp only; omega) (by dsimp only; omega)
                rw [hrest]
            · rw [fatFreeLoop_of_not_inFat hmem hin, fatFreeLoop_of_not_inFat hmem hin]
          · rw [fatFreeLoop_of_not_mem hmem, fatFreeLoop_of_not_mem hmem]

/-- No more rounds than entries are ever needed. -/
theorem fatFreeLoop_enough (h : installFatEntries < fuel) :
    (fatFreeLoop limit fuel cluster).run s = (fatFreeLoop limit (installFatEntries + 1) cluster).run s := by
  have hused : fatUsed s.fat ≤ installFatEntries :=
    (Finset.card_filter_le _ _).trans (Finset.card_range _).le
  exact fatFreeLoop_congr (by omega) (by omega)

/-- A cluster that is its own successor. -/
theorem fatFreeLoop_enough_cycle :
    (fatFreeLoop 3 (installFatEntries + 2) 2).run ⟨⟨true, fun _ => true, true, fun _ => zeroMem⟩, putU32 zeroMem 8 2⟩ =
      (fatFreeLoop 3 (installFatEntries + 1) 2).run ⟨⟨true, fun _ => true, true, fun _ => zeroMem⟩, putU32 zeroMem 8 2⟩ :=
  fatFreeLoop_enough (Nat.lt_add_of_pos_right (by decide))

end Free

/-! ## Allocating -/

section Alloc

variable {s : Esp} {part : GptPartition} {limit count fuel first : Nat}

/-- A look at an entry of `install_fat`. -/
theorem fatFreeRun_of_lt {n i : Nat} (hin : first + i < installFatEntries) :
    (fatFreeRun first (n + 1) i).run s =
      if fatEntry s.fat (first + i) ≠ 0 then
        (.ok (some i), s, [.buffer (fatOffset (first + i)) 4])
      else (((fatFreeRun first n (i + 1)).run s).1, ((fatFreeRun first n (i + 1)).run s).2.1,
        [.buffer (fatOffset (first + i)) 4] ++ ((fatFreeRun first n (i + 1)).run s).2.2) := by
  have hcluster : (first + i) % 2 ^ 32 = first + i :=
    Nat.mod_eq_of_lt (by rw [installFatEntries_eq] at hin; omega)
  rw [fatFreeRun, hcluster, run_bind_ok (fatGet_of_inFat (inFat_of_lt hin))]
  by_cases hused : fatEntry s.fat (first + i) ≠ 0
  · rw [if_pos hused, if_pos hused]
    rfl
  · rw [if_neg hused, if_neg hused]

/-- The three ways in which a run of entries is looked at: an entry of it is used, all are
free, or it leaves `install_fat`. -/
inductive FreeRunCase (part : GptPartition) (s : Esp) (first count i : Nat)
    (r : Except EspStop (Option Nat) × Esp × List EspEvent) : Prop
  | used (j : Nat) (hij : i ≤ j) (hj : j < count) (hin : first + j < installFatEntries)
      (hused : fatEntry s.fat (first + j) ≠ 0) (hsafe : ∀ e ∈ r.2.2, e.Safe part)
      (hrun : r = (.ok (some j), s, r.2.2))
  | free (hin : first + count ≤ installFatEntries)
      (hfree : ∀ j, i ≤ j → j < count → fatEntry s.fat (first + j) = 0) (hsafe : ∀ e ∈ r.2.2, e.Safe part)
      (hrun : r = (.ok none, s, r.2.2))
  | left (hout : installFatEntries < first + count)
      (hfree : ∀ c, first + i ≤ c → c < installFatEntries → fatEntry s.fat c = 0)
      (hbad : ¬ ∀ e ∈ r.2.2, e.Safe part) (hrun : r = (.error .undefined, s, r.2.2))

theorem fatFreeRun_cases {n i : Nat} (hn : i + n = count) (hstart : first + i ≤ installFatEntries) :
    FreeRunCase part s first count i ((fatFreeRun first n i).run s) := by
  induction n generalizing i with
  | zero => exact .free (by omega) (fun j hij hj => by omega) (fun e he => absurd he List.not_mem_nil) rfl
  | succ n ih =>
      rcases Nat.lt_or_eq_of_le hstart with hin | hend
      · have hhere : (EspEvent.buffer (fatOffset (first + i)) 4).Safe part := inFat_of_lt hin
        rw [fatFreeRun_of_lt hin]
        by_cases hused : fatEntry s.fat (first + i) ≠ 0
        · rw [if_pos hused]
          refine .used i le_rfl (by omega) hin hused ?_ rfl
          exact fun e he => List.mem_singleton.mp he ▸ hhere
        · rw [if_neg hused]
          have hzero : fatEntry s.fat (first + i) = 0 := by omega
          cases ih (i := i + 1) (by omega) hin with
          | used j hij hj hinj husedj hsafe hrun =>
              refine .used j (by omega) hj hinj husedj ?_ ?_
              · exact List.forall_mem_cons.mpr ⟨hhere, hsafe⟩
              · rw [hrun]
          | free hinside hfree hsafe hrun =>
              refine .free hinside (fun j hij hj => ?_) ?_ ?_
              · rcases Nat.lt_or_eq_of_le hij with hlt | rfl
                · exact hfree j hlt hj
                · exact hzero
              · exact List.forall_mem_cons.mpr ⟨hhere, hsafe⟩
              · rw [hrun]
          | left hout hfree hbad hrun =>
              refine .left hout (fun c hlo hhi => ?_) ?_ ?_
              · rcases Nat.lt_or_eq_of_le hlo with hlt | rfl
                · exact hfree c (by omega) hhi
                · exact hzero
              · exact fun hall => hbad (List.forall_mem_cons.mp hall).2
              · rw [hrun]
      · have hcluster : (first + i) % 2 ^ 32 = installFatEntries := by
          rw [hend, installFatEntries_eq]
          rfl
        have hrun : (fatFreeRun first (n + 1) i).run s =
            (.error .undefined, s, [.buffer (fatOffset installFatEntries) 4]) := by
          rw [fatFreeRun, hcluster, run_bind_error (fatGet_of_not_inFat not_inFat_entries)]
        rw [hrun]
        refine .left (by omega) (fun c hlo hhi => by omega) ?_ rfl
        exact fun hall => not_inFat_entries (hall _ List.mem_cons_self)

/-- Entries of `install_fat` are linked inside it. -/
theorem fatLinkRun_run (hin : first + count ≤ installFatEntries) :
    ∃ s' events, (fatLinkRun first count).run s = (.ok (), s', events) ∧ ∀ e ∈ events, e.Safe part := by
  have hloop : ∀ (v : Nat → Nat) (l : List Nat) (s : Esp), (∀ i ∈ l, i < count) → ∃ s' events,
      (l.forM fun i => fatSet ((first + i) % 2 ^ 32) (v i)).run s = (.ok (), s', events) ∧
      ∀ e ∈ events, e.Safe part := by
    intro v l
    induction l with
    | nil => exact fun s _ => ⟨s, [], rfl, fun e he => absurd he List.not_mem_nil⟩
    | cons i l ih =>
        intro s hl
        have hlt : first + i < installFatEntries :=
          Nat.lt_of_lt_of_le (Nat.add_lt_add_left (hl i List.mem_cons_self) first) hin
        have hcluster : (first + i) % 2 ^ 32 = first + i :=
          Nat.mod_eq_of_lt (by rw [installFatEntries_eq] at hlt; omega)
        obtain ⟨s', events, hrun, hsafe⟩ := ih
          { s with fat := putU32 s.fat (fatOffset (first + i)) (v i) }
          fun j hj => hl j (List.mem_cons_of_mem _ hj)
        refine ⟨s', .buffer (fatOffset (first + i)) 4 :: events, ?_, ?_⟩
        · rw [forM_cons, hcluster, run_bind_ok (fatSet_of_inFat (inFat_of_lt hlt)), hrun]
          rfl
        · exact List.forall_mem_cons.mpr ⟨inFat_of_lt hlt, hsafe⟩
  exact hloop _ (List.range count) s fun i hi => List.mem_range.mp hi

/-- What a search for `count` free neighbours from `first` on finds: it is inside
`install_fat` just if a fit is, or too little is left to search on. -/
theorem fatAllocLoop_cases (hpos : 0 < count) (hcount : count ≤ 2 ^ 31) (htwo : 2 ≤ first)
    (hfirst : first ≤ installFatEntries) (hfuel : installFatEntries < first + fuel)
    (hnone : ∀ f, 2 ≤ f → f < first → ¬ FatFits s.fat limit count f)
    (hused : first = 2 ∨ fatEntry s.fat (first - 1) ≠ 0) :
    (SafeRun part (fatAllocLoop limit count fuel first) s ↔ AllocInside s.fat limit count) ∧
      ∀ cluster, (fatAllocLoop limit count fuel first).result s = .ok cluster →
        cluster = 0 ∨ (2 ≤ cluster ∧ cluster + count < limit) := by
  induction fuel generalizing first with
  | zero => omega
  | succ fuel ih =>
      have hsum : (first + count) % 2 ^ 32 = first + count :=
        Nat.mod_eq_of_lt (by rw [installFatEntries_eq] at hfirst; omega)
      rw [fatAllocLoop, hsum]
      by_cases hlimit : first + count < limit
      · rw [if_pos hlimit]
        have hcase := @fatFreeRun_cases s part count first count 0 (Nat.zero_add _) hfirst
        generalize hr : (fatFreeRun first count 0).run s = r at hcase
        cases hcase with
        | used j _ hj hin hentry hsafe hrun =>
            have hnext : (first + j + 1) % 2 ^ 32 = first + j + 1 :=
              Nat.mod_eq_of_lt (by rw [installFatEntries_eq] at hin; omega)
            have hrest := @ih (first + j + 1) (by omega) hin (by omega) (fun f hf hlt hfits => ?_)
              (.inr (by rwa [Nat.add_sub_cancel]))
            · unfold SafeRun trace result at hrest ⊢
              rw [run_bind_ok (hr.trans hrun)]
              dsimp only
              rw [hnext, List.forall_mem_append, and_iff_right hsafe]
              exact hrest
            · -- a fit that begins up to the used entry has it
              by_cases hbefore : f < first
              · exact hnone f hf hbefore hfits
              · have hfree := hfits.free (first + j - f) (by omega)
                rw [Nat.add_sub_cancel' (by omega)] at hfree
                exact hentry hfree
        | free hin hfree hsafe hrun =>
            obtain ⟨s', events, hlink, hlinked⟩ := @fatLinkRun_run s part count first hin
            unfold SafeRun trace result
            rw [run_bind_ok (hr.trans hrun)]
            dsimp only
            rw [run_bind_ok hlink]
            constructor
            · refine iff_of_true ?_ (.inl ⟨first, htwo, hin, hlimit, fun i hi => hfree i (Nat.zero_le i) hi⟩)
              exact List.forall_mem_append.mpr ⟨hsafe, List.forall_mem_append.mpr
                ⟨hlinked, fun e he => absurd he List.not_mem_nil⟩⟩
            · intro cluster hok
              obtain rfl : first = cluster := Except.ok.inj hok
              exact .inr ⟨htwo, hlimit⟩
        | left hout hfree hbad hrun =>
            unfold SafeRun trace result
            rw [run_bind_error (hr.trans hrun)]
            refine ⟨iff_of_false hbad ?_, fun cluster hok => by cases hok⟩
            rintro (⟨f, hf, hfits⟩ | hfew)
            · have hinside := hfits.inside
              exact hnone f hf (by omega) hfits
            · have htoo := hfew first htwo hfirst fun c hlo hhi => hfree c hlo hhi
              omega
      · rw [if_neg hlimit]
        refine ⟨iff_of_true (fun e he => absurd he List.not_mem_nil) (.inr fun u hu hin hfree => ?_), ?_⟩
        · -- a free end of the buffer that begins before would hold the used entry
          by_contra hless
          rcases hused with rfl | hentry
          · omega
          · exact hentry (hfree (first - 1) (by omega) (by omega))
        · intro cluster hok
          exact .inl (Except.ok.inj hok).symm

/-- The search does not depend on the number of its rounds, if there are enough to go
through `install_fat`. -/
theorem fatAllocLoop_congr {fuel' : Nat} (hcount : count ≤ 2 ^ 31) (hfirst : first ≤ installFatEntries)
    (hfuel : installFatEntries < first + fuel) (hfuel' : installFatEntries < first + fuel') :
    (fatAllocLoop limit count fuel first).run s = (fatAllocLoop limit count fuel' first).run s := by
  induction fuel generalizing first fuel' with
  | zero => omega
  | succ fuel ih =>
      cases fuel' with
      | zero => omega
      | succ fuel' =>
          have hsum : (first + count) % 2 ^ 32 = first + count :=
            Nat.mod_eq_of_lt (by rw [installFatEntries_eq] at hfirst; omega)
          rw [fatAllocLoop, fatAllocLoop, hsum]
          by_cases hlimit : first + count < limit
          · rw [if_pos hlimit, if_pos hlimit]
            have hcase := @fatFreeRun_cases s ⟨0, 0, 0, 0⟩ count first count 0 (Nat.zero_add _) hfirst
            generalize hr : (fatFreeRun first count 0).run s = r at hcase
            cases hcase with
            | used j _ hj hin hentry hsafe hrun =>
                have hnext : (first + j + 1) % 2 ^ 32 = first + j + 1 :=
                  Nat.mod_eq_of_lt (by rw [installFatEntries_eq] at hin; omega)
                rw [run_bind_ok (hr.trans hrun), run_bind_ok (hr.trans hrun)]
                dsimp only
                rw [hnext, @ih (first + j + 1) fuel' hin (by omega) (by omega)]
            | free hin hfree hsafe hrun =>
                rw [run_bind_ok (hr.trans hrun), run_bind_ok (hr.trans hrun)]
            | left hout hfree hbad hrun =>
                rw [run_bind_error (hr.trans hrun), run_bind_error (hr.trans hrun)]
          · rw [if_neg hlimit, if_neg hlimit]

/-- A table without a free entry, as far as the volume goes. -/
theorem fatAllocLoop_congr_full :
    (fatAllocLoop 4 1 (installFatEntries + 1) 2).run ⟨⟨true, fun _ => true, true, fun _ => zeroMem⟩, fun _ => 1⟩ =
      (fatAllocLoop 4 1 installFatEntries 2).run ⟨⟨true, fun _ => true, true, fun _ => zeroMem⟩, fun _ => 1⟩ :=
  fatAllocLoop_congr (by decide) (by decide) (by omega) (by omega)

/-- A chain is allocated inside `install_fat` just if there is a fit, or too little to
search on. -/
theorem safeRun_alloc (hpos : 0 < count) (hcount : count ≤ 2 ^ 31) :
    (SafeRun part (fatAllocLoop limit count installFatEntries 2) s ↔ AllocInside s.fat limit count) ∧
      ∀ cluster, (fatAllocLoop limit count installFatEntries 2).result s = .ok cluster →
        cluster = 0 ∨ (2 ≤ cluster ∧ cluster + count < limit) :=
  fatAllocLoop_cases hpos hcount le_rfl (by decide) (by decide) (fun f hf hlt => by omega) (.inl rfl)

end Alloc

/-- Where `install_fat` has an entry for each cluster, everything is inside. -/
theorem EspEvent.meets_of_small {vol : Fat32Volume} (hlimit : vol.limit ≤ installFatEntries)
    (hroot : vol.rootCluster < installFatEntries) (e : EspEvent) : e.Meets vol := by
  cases e with
  | sectors lba n => exact trivial
  | buffer off n => exact trivial
  | free fat cluster => exact fun k c _ _ hhi => inFat_of_lt (by omega)
  | alloc fat count =>
      refine or_iff_not_imp_right.mpr fun hfew => ?_
      simp only [not_forall, not_le] at hfew
      obtain ⟨u, hu, hin, hfree, hless⟩ := hfew
      exact ⟨u, hu, by omega, hless, fun i hi => hfree (u + i) (by omega) (by omega)⟩
  | root => exact inFat_of_lt hroot

end Orizon
