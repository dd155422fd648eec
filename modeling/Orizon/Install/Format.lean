import Orizon.Install.Fat
import Orizon.Lib.Run

/-!
# Orizon.Install.Format

The file system that `fat32_init` lays out.

The size of one table is searched: a larger table leaves fewer clusters, which
need a smaller table.  The search looks for a size that needs itself, and goes
round for ever where there is none (`fat32InitSound_iff`).
-/

namespace Orizon

/-! ## The code -/

/-- The volume of a new file system, with its `next_cluster`. -/
structure NewFat32Volume extends Fat32Volume where
  nextCluster : Nat
  deriving DecidableEq

/-- `INSTALL_SECTORS_PER_CLUSTER`. -/
def installSectorsPerCluster : Nat := 8

/-- `reserved_sectors`. -/
def fat32Reserved : Nat := 32

/-- `fat_count`. -/
def fat32Count : Nat := 2

/-- `data_sectors` beside tables of `spf` sectors each, as a `uint32_t`. -/
def fat32DataSectors (total spf : Nat) : Nat :=
  (total + 2 ^ 32 - fat32Reserved + 2 ^ 32 - fat32Count * spf % 2 ^ 32) % 2 ^ 32

/-- `needed`: the sectors of a table for so many clusters. -/
def fat32Needed (clusters : Nat) : Nat :=
  ((clusters + 2) * 4 + sectorSize - 1) % 2 ^ 32 / sectorSize

/-- The body of the search: the size and the number of clusters, or a refusal. -/
def fat32SizeTurn (total spf : Nat) : Turn Nat (Option (Nat × Nat)) :=
  let clusters := fat32DataSectors total spf / installSectorsPerCluster
  let needed := fat32Needed clusters
  if needed = spf then .leave (some (spf, clusters))
  else if needed > installFatSectorsMax then .leave none
  else .again needed

/-- The volume of `fat32_init` once the size is found. -/
def fat32Laid (startLba total spf clusters : Nat) : NewFat32Volume :=
  { startLba := startLba
    totalSectors := total
    sectorsPerCluster := installSectorsPerCluster
    reservedSectors := fat32Reserved
    fatCount := fat32Count
    sectorsPerFat := spf
    rootCluster := 2
    dataStartSector := fat32Reserved + fat32Count * spf
    clusterCount := clusters
    nextCluster := 3 }

/-- `fat32_init` with so many turns of its search: the volume and the cleared
`install_fat`, or -1. -/
def fat32Init (turns : Nat) (fat : Mem) (startLba total : Nat) : Option (Option (NewFat32Volume × Mem)) :=
  if total < 65536 then some none
  else (loopFor (fat32SizeTurn total) turns 1).map fun found => found.map fun (spf, clusters) =>
    (fat32Laid startLba total spf clusters, memset fat 0 0 (spf * sectorSize))

/-! ## What it is for -/

/-- The search ends, and a table that is found has an entry for every cluster. -/
structure Fat32InitSound (fat : Mem) (startLba total : Nat) : Prop where
  ends : ∃ turns r, fat32Init turns fat startLba total = some r
  room : ∀ turns vol fat', fat32Init turns fat startLba total = some (some (vol, fat')) →
    ∀ cluster < vol.clusterCount + 2, cluster * 4 + 4 ≤ vol.sectorsPerFat * sectorSize

/-- Some size of the table needs itself, or the first one that is tried is refused. -/
def FatSizeExists (total : Nat) : Prop :=
  (total + 1000) % 1026 < 1024 ∨ (installFatSectorsMax + 1) * 1024 ≤ total + 998

/-! ## The search -/

section Search

variable {fat : Mem} {startLba total spf clusters turns : Nat}

theorem fat32Needed_eq (h : 65536 ≤ total) (h32 : total < 2 ^ 32) (hspf : spf ≤ installFatSectorsMax) :
    fat32Needed (fat32DataSectors total spf / installSectorsPerCluster) = (total + 1000 - 2 * spf) / 1024 := by
  have hmax : spf ≤ 2048 := hspf
  simp only [fat32Needed, fat32DataSectors, fat32Reserved, fat32Count, installSectorsPerCluster, sectorSize]
  omega

theorem fat32SizeTurn_eq (h : 65536 ≤ total) (h32 : total < 2 ^ 32) (hspf : spf ≤ installFatSectorsMax) :
    fat32SizeTurn total spf =
      if (total + 1000 - 2 * spf) / 1024 = spf then
        .leave (some (spf, fat32DataSectors total spf / installSectorsPerCluster))
      else if (total + 1000 - 2 * spf) / 1024 > installFatSectorsMax then .leave none
      else .again ((total + 1000 - 2 * spf) / 1024) := by
  simp only [fat32SizeTurn, fat32Needed_eq h h32 hspf]

theorem fat32Size_returns_of_next (h : 65536 ≤ total) (h32 : total < 2 ^ 32) (hspf : spf ≤ installFatSectorsMax)
    (hnext : (total + 1000 - 2 * spf) / 1024 ≤ installFatSectorsMax →
      ∃ found, LoopReturns (fat32SizeTurn total) ((total + 1000 - 2 * spf) / 1024) found) :
    ∃ found, LoopReturns (fat32SizeTurn total) spf found := by
  have hturn := fat32SizeTurn_eq h h32 hspf
  by_cases hfix : (total + 1000 - 2 * spf) / 1024 = spf
  · rw [if_pos hfix] at hturn
    exact ⟨_, (loopReturns_of_leave hturn).mpr rfl⟩
  · by_cases hmax : (total + 1000 - 2 * spf) / 1024 > installFatSectorsMax
    · rw [if_neg hfix, if_pos hmax] at hturn
      exact ⟨_, (loopReturns_of_leave hturn).mpr rfl⟩
    · rw [if_neg hfix, if_neg hmax] at hturn
      obtain ⟨found, hfound⟩ := hnext (by omega)
      exact ⟨found, (loopReturns_of_again hturn).mpr hfound⟩

theorem fat32Size_returns_of_fixed (h : 65536 ≤ total) (h32 : total < 2 ^ 32) (hspf : spf ≤ installFatSectorsMax)
    (hfix : (total + 1000 - 2 * spf) / 1024 = spf) :
    ∃ found, LoopReturns (fat32SizeTurn total) spf found := by
  have hturn := fat32SizeTurn_eq h h32 hspf
  rw [if_pos hfix] at hturn
  exact ⟨_, (loopReturns_of_leave hturn).mpr rfl⟩

/-- Two turns reach the neighbourhood of the size that needs itself, and the third
one reaches it, unless the first size is refused. -/
theorem fat32Size_returns (h : 65536 ≤ total) (h32 : total < 2 ^ 32) (hsize : FatSizeExists total) :
    ∃ found, LoopReturns (fat32SizeTurn total) 1 found := by
  have hmax : installFatSectorsMax = 2048 := rfl
  refine fat32Size_returns_of_next h h32 (by omega) fun h1 => ?_
  have hrest : (total + 1000) % 1026 < 1024 := by
    unfold FatSizeExists at hsize
    omega
  generalize hs1 : (total + 1000 - 2 * 1) / 1024 = s1 at h1 ⊢
  refine fat32Size_returns_of_next h h32 h1 fun h2 => ?_
  generalize hs2 : (total + 1000 - 2 * s1) / 1024 = s2 at h2 ⊢
  have hnear : s2 = (total + 1000) / 1026 ∨ s2 + 1 = (total + 1000) / 1026 := by omega
  refine fat32Size_returns_of_next h h32 h2 fun h3 => ?_
  have hs3 : (total + 1000 - 2 * s2) / 1024 = (total + 1000) / 1026 := by omega
  rw [hs3] at h3 ⊢
  exact fat32Size_returns_of_fixed h h32 h3 (by omega)

/-- Where no size needs itself, the search swings between two neighbours. -/
theorem fat32Size_not_returns (h : 65536 ≤ total) (h32 : total < 2 ^ 32) (hsize : ¬ FatSizeExists total)
    (found : Option (Nat × Nat)) : ¬ LoopReturns (fat32SizeTurn total) 1 found := by
  have hmax : installFatSectorsMax = 2048 := rfl
  have hrest : 1024 ≤ (total + 1000) % 1026 ∧ total + 998 < 2049 * 1024 := by
    unfold FatSizeExists at hsize
    omega
  -- the first sizes lie a little above, and come down to the two neighbours
  let around (s : Nat) : Prop := s = 1 ∨ s ≤ installFatSectorsMax ∧
    (s = (total + 998) / 1024 ∨ s = (total + 1000) / 1026 ∨ s = (total + 1000) / 1026 + 1)
  refine not_loopReturns around (fun s hs => ?_) (.inl rfl)
  have hspf : s ≤ installFatSectorsMax := by omega
  have hne : (total + 1000 - 2 * s) / 1024 ≠ s := by omega
  have hle : ¬ (total + 1000 - 2 * s) / 1024 > installFatSectorsMax := by omega
  refine ⟨(total + 1000 - 2 * s) / 1024, ?_, ?_⟩
  · rw [fat32SizeTurn_eq h h32 hspf, if_neg hne, if_neg hle]
  · right
    omega

theorem fat32Size_fixed (h : 65536 ≤ total) (h32 : total < 2 ^ 32) (hspf : spf ≤ installFatSectorsMax)
    {s c : Nat} (hfor : loopFor (fat32SizeTurn total) turns spf = some (some (s, c))) :
    s ≤ installFatSectorsMax ∧ (total + 1000 - 2 * s) / 1024 = s ∧
      c = fat32DataSectors total s / installSectorsPerCluster := by
  induction turns generalizing spf with
  | zero => simp [loopFor] at hfor
  | succ turns ih =>
      rw [loopFor, fat32SizeTurn_eq h h32 hspf] at hfor
      by_cases hfix : (total + 1000 - 2 * spf) / 1024 = spf
      · rw [if_pos hfix] at hfor
        obtain ⟨rfl, rfl⟩ := Prod.mk.inj (Option.some.inj (Option.some.inj hfor))
        exact ⟨hspf, hfix, rfl⟩
      · by_cases hmax : (total + 1000 - 2 * spf) / 1024 > installFatSectorsMax
        · simp [if_neg hfix, if_pos hmax] at hfor
        · rw [if_neg hfix, if_neg hmax] at hfor
          exact ih (by omega) hfor

end Search

/-! ## The layout -/

variable {fat fat' : Mem} {startLba total turns : Nat} {vol : NewFat32Volume}

/-- The table that is found has room for every cluster of the volume. -/
theorem fat32Init_room (h : 65536 ≤ total) (h32 : total < 2 ^ 32)
    (hinit : fat32Init turns fat startLba total = some (some (vol, fat')))
    {cluster : Nat} (hc : cluster < vol.clusterCount + 2) :
    cluster * 4 + 4 ≤ vol.sectorsPerFat * sectorSize := by
  rw [fat32Init, if_neg (by omega)] at hinit
  obtain ⟨found, hfor, hfound⟩ := Option.map_eq_some_iff.mp hinit
  obtain ⟨⟨spf, clusters⟩, rfl, hvol⟩ := Option.map_eq_some_iff.mp hfound
  obtain ⟨rfl, -⟩ := Prod.mk.inj hvol
  obtain ⟨hspf, hfix, hclusters⟩ := fat32Size_fixed h h32 (by decide) hfor
  have hmax : installFatSectorsMax = 2048 := rfl
  simp only [fat32Laid] at hc ⊢
  rw [hclusters] at hc
  simp only [fat32DataSectors, fat32Reserved, fat32Count, installSectorsPerCluster, sectorSize] at hc ⊢
  omega

/-- The search ends, and finds room, just if there is a size to be found. -/
theorem fat32InitSound_iff (fat : Mem) (startLba : Nat) (h : 65536 ≤ total) (h32 : total < 2 ^ 32) :
    Fat32InitSound fat startLba total ↔ FatSizeExists total := by
  constructor
  · intro hsound
    by_contra hsize
    obtain ⟨turns, r, hr⟩ := hsound.ends
    rw [fat32Init, if_neg (by omega)] at hr
    obtain ⟨found, hfor, -⟩ := Option.map_eq_some_iff.mp hr
    exact fat32Size_not_returns h h32 hsize found ⟨turns, hfor⟩
  · intro hsize
    obtain ⟨found, turns, hfor⟩ := fat32Size_returns h h32 hsize
    refine ⟨⟨turns, _, by rw [fat32Init, if_neg (by omega), hfor]; rfl⟩, fun turns vol fat' hinit cluster hc => ?_⟩
    exact fat32Init_room h h32 hinit hc

/-- With 65536 sectors the search ends. -/
theorem fat32InitSound_65536 : Fat32InitSound (fun _ => 0) 2048 65536 :=
  (fat32InitSound_iff (fun _ => 0) 2048 (by decide) (by decide)).mpr (by simp [FatSizeExists])

/-- With 65688 sectors it does not. -/
theorem not_fat32InitSound :
    ¬ ∀ total, 65536 ≤ total → total < 2 ^ 32 → Fat32InitSound (fun _ => 0) 2048 total := by
  intro h
  obtain ⟨turns, r, hr⟩ := (h 65688 (by decide) (by decide)).ends
  rw [fat32Init, if_neg (by decide)] at hr
  obtain ⟨found, hfor, -⟩ := Option.map_eq_some_iff.mp hr
  refine fat32Size_not_returns (by decide) (by decide) ?_ found ⟨turns, hfor⟩
  simp [FatSizeExists, installFatSectorsMax]

end Orizon
