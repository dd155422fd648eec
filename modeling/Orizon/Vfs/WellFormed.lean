import Orizon.Vfs.Canonical
import Orizon.Vfs.Frame

/-!
# Orizon.Vfs.WellFormed

Inode tables that form a tree.

In a well-formed table the root is entry 0, paths are distinct, and the parent
of every other entry is the directory at the parent of its path.  Parent paths
get shorter, so the parent links cannot cycle (`WellFormed.rank_parent`).
When the paths are canonical, every directory above an entry is there
(`WellFormed.above`).  Removing an entry without children keeps all of it.
-/

namespace Orizon

variable {H : Type}

/-- The inode table is a tree: distinct paths, and every entry but the root has
as its parent the directory whose path is its path's parent. -/
structure WellFormed (v : Vfs H) : Prop where
  pos : 0 < v.inodeCount
  rootPath : (v.inodes 0).path.val = [slash]
  rootDir : (v.inodes 0).type = .dir
  rootParent : (v.inodes 0).parent = none
  distinct : ∀ i j, i < v.inodeCount → j < v.inodeCount →
    (v.inodes i).path.val = (v.inodes j).path.val → i = j
  parent : ∀ i, i < v.inodeCount → i ≠ 0 → ∃ j, (v.inodes i).parent = some j ∧
    j < v.inodeCount ∧ (v.inodes j).type = .dir ∧
    (v.inodes j).path.val = getParentPath (v.inodes i).path.val

/-- Whether a table is a tree can be computed. -/
instance (v : Vfs H) : Decidable (WellFormed v) :=
  decidable_of_iff (0 < v.inodeCount ∧ (v.inodes 0).path.val = [slash] ∧
      (v.inodes 0).type = .dir ∧ (v.inodes 0).parent.isNone ∧
      (∀ i, i < v.inodeCount → ∀ j, j < v.inodeCount →
        (v.inodes i).path.val = (v.inodes j).path.val → i = j) ∧
      ∀ i, i < v.inodeCount → i ≠ 0 → ∃ j, j < v.inodeCount ∧ (v.inodes i).parent = some j ∧
        (v.inodes j).type = .dir ∧
        (v.inodes j).path.val = getParentPath (v.inodes i).path.val)
    ⟨fun ⟨h1, h2, h3, h4, h5, h6⟩ => ⟨h1, h2, h3, Option.isNone_iff_eq_none.mp h4,
        fun i j hi hj => h5 i hi j hj, fun i hi hne =>
          let ⟨j, hj, hp, hrest⟩ := h6 i hi hne
          ⟨j, hp, hj, hrest⟩⟩,
      fun h => ⟨h.pos, h.rootPath, h.rootDir, Option.isNone_iff_eq_none.mpr h.rootParent,
        fun i hi j hj => h.distinct i j hi hj, fun i hi hne =>
          let ⟨j, hp, hj, hrest⟩ := h.parent i hi hne
          ⟨j, hj, hp, hrest⟩⟩⟩

/-- Every path of the table is canonical. -/
def CanonicalPaths (v : Vfs H) : Prop := ∀ i, i < v.inodeCount → Canonical (v.inodes i).path.val

variable {v w : Vfs H} {path : CStr} {i j : Nat}

/-! ## Lookup -/

theorem WellFormed.findInode_eq_some (h : WellFormed v) :
    findInode v path = some i ↔ i < v.inodeCount ∧ (v.inodes i).path.val = path := by
  refine ⟨findInode_some, ?_⟩
  rintro ⟨hi, hpath⟩
  obtain ⟨j, hj⟩ := Option.isSome_iff_exists.mp (findInode_isSome_iff.mpr ⟨i, hi, hpath⟩)
  obtain ⟨hjlt, hjpath⟩ := findInode_some hj
  rw [hj, h.distinct i j hi hjlt (hpath.trans hjpath.symm)]

theorem findInode_eq_none : findInode v path = none ↔
    ∀ i, i < v.inodeCount → (v.inodes i).path.val ≠ path := by
  refine ⟨fun h i hi => findInode_none h hi, fun h => ?_⟩
  by_contra hne
  obtain ⟨i, hi, hpath⟩ := findInode_isSome_iff.mp (Option.isSome_iff_ne_none.mpr hne)
  exact h i hi hpath

theorem WellFormed.path_eq_root (h : WellFormed v) (hi : i < v.inodeCount) :
    (v.inodes i).path.val = [slash] ↔ i = 0 := by
  constructor
  · intro hpath
    exact h.distinct i 0 hi h.pos (hpath.trans h.rootPath.symm)
  · rintro rfl
    exact h.rootPath

theorem WellFormed.parent_dir (h : WellFormed v) (hi : i < v.inodeCount)
    (hj : (v.inodes i).parent = some j) : i ≠ 0 ∧ j < v.inodeCount ∧ (v.inodes j).type = .dir ∧
      (v.inodes j).path.val = getParentPath (v.inodes i).path.val := by
  have hne : i ≠ 0 := by
    rintro rfl
    rw [h.rootParent] at hj
    cases hj
  obtain ⟨k, hk, hrest⟩ := h.parent i hi hne
  obtain rfl := Option.some.inj (hk.symm.trans hj)
  exact ⟨hne, hrest⟩

/-! ## No cycles -/

/-- A measure that decreases from an entry to its parent. -/
def rank (v : Vfs H) (i : Nat) : Nat := if i = 0 then 0 else (v.inodes i).path.val.length + 1

theorem WellFormed.rank_parent (h : WellFormed v) (hi : i < v.inodeCount)
    (hj : (v.inodes i).parent = some j) : rank v j < rank v i := by
  obtain ⟨hne, hjlt, -, hpath⟩ := h.parent_dir hi hj
  unfold rank
  rw [if_neg hne]
  by_cases hj0 : j = 0
  · rw [if_pos hj0]
    omega
  · rw [if_neg hj0, hpath]
    rcases getParentPath_lt (v.inodes i).path.val with hroot | hlt
    · rw [hroot, h.path_eq_root hjlt] at hpath
      exact absurd hpath hj0
    · omega

/-! ## Directories above an entry -/

/-- The directories above an entry are in the table, and so is a child of each. -/
theorem WellFormed.above (h : WellFormed v) (hcan : CanonicalPaths v) {x t : CStr} (hx : x ≠ [])
    (hi : i < v.inodeCount) (hpath : (v.inodes i).path.val = x ++ slash :: t) :
    ∃ c j, c < v.inodeCount ∧ (v.inodes c).parent = some j ∧ j < v.inodeCount ∧
      (v.inodes j).path.val = x ∧ (v.inodes j).type = .dir := by
  induction hn : t.length using Nat.strong_induction_on generalizing i t with
  | h n ih =>
      have hxlen := List.length_pos_iff.mpr hx
      have hroot : (v.inodes i).path.val ≠ [slash] := by
        intro heq
        rw [hpath] at heq
        have hlen := congrArg List.length heq
        simp at hlen
        omega
      obtain ⟨d, name, hsplit, hname, hne, hd⟩ := (hcan i hi).split hroot
      obtain ⟨j, hj, hjlt, hjdir, hjpath⟩ := h.parent i hi fun h0 =>
        hroot ((h.path_eq_root hi).mpr h0)
      have hlen := (hcan i hi).length
      rw [hsplit] at hlen hpath
      rw [hsplit, getParentPath_append hname hne hlen] at hjpath
      rcases append_slash_eq hname hpath with ⟨rfl, -⟩ | ⟨t', rfl, rfl⟩
      · rw [if_neg hx] at hjpath
        exact ⟨i, j, hi, hj, hjlt, hjpath, hjdir⟩
      · rw [if_neg (by simp)] at hjpath
        refine ih t'.length ?_ hjlt hjpath rfl
        rw [← hn]
        simp

/-! ## Removing an entry -/

section Remove

variable [Allocator H] {idx : Nat}

theorem wellFormed_removeInode (h : WellFormed v) (hidx : idx < v.inodeCount) (hroot : idx ≠ 0)
    (hempty : findChildInode v idx = none) : WellFormed (removeInode v idx) := by
  have hentry : ∀ {i}, i < v.inodeCount - 1 → (removeInode v idx).inodes i =
      { v.inodes (movedFrom v idx i) with
        parent := (v.inodes (movedFrom v idx i)).parent.map (movedTo v idx) } :=
    fun hi => inodes_removeInode hidx hi
  have hzero : movedFrom v idx 0 = 0 := if_neg (Ne.symm hroot)
  have hpos : 0 < v.inodeCount - 1 := by omega
  constructor
  · rw [inodeCount_removeInode]
    exact hpos
  · rw [hentry hpos, hzero]
    exact h.rootPath
  · rw [hentry hpos, hzero]
    exact h.rootDir
  · rw [hentry hpos, hzero, h.rootParent]
    rfl
  · intro i j hi hj heq
    rw [inodeCount_removeInode] at hi hj
    rw [hentry hi, hentry hj] at heq
    have hsame := h.distinct _ _ (movedFrom_lt idx hi).1 (movedFrom_lt idx hj).1 heq
    rw [← movedTo_movedFrom idx hi, hsame, movedTo_movedFrom idx hj]
  · intro i hi hne
    rw [inodeCount_removeInode] at hi ⊢
    obtain ⟨hflt, -⟩ := movedFrom_lt idx hi
    have hf0 : movedFrom v idx i ≠ 0 := by
      unfold movedFrom
      split <;> omega
    obtain ⟨j, hj, hjlt, hjdir, hjpath⟩ := h.parent _ hflt hf0
    have hjne : j ≠ idx := by
      rintro rfl
      exact findChildInode_none hempty hflt hj
    have hto := movedTo_lt hidx hjlt hjne
    refine ⟨movedTo v idx j, ?_, hto, ?_, ?_⟩
    · rw [hentry hi, hj]
      rfl
    · rw [hentry hto, movedFrom_movedTo hjne]
      exact hjdir
    · rw [hentry hto, hentry hi, movedFrom_movedTo hjne]
      exact hjpath

theorem canonicalPaths_removeInode (h : CanonicalPaths v) (hidx : idx < v.inodeCount) :
    CanonicalPaths (removeInode v idx) := by
  intro i hi
  rw [inodeCount_removeInode] at hi
  rw [inodes_removeInode hidx hi]
  exact h _ (movedFrom_lt idx hi).1

end Remove

/-! ## States with the same files -/

theorem SameFiles.wellFormed (h : SameFiles v w) (hv : WellFormed v) : WellFormed w := by
  obtain ⟨hpos, hpath, hdir, hparent, hdistinct, hparents⟩ := hv
  constructor <;> simpa only [h.inodes, h.inodeCount]

theorem SameFiles.canonicalPaths (h : SameFiles v w) (hv : CanonicalPaths v) :
    CanonicalPaths w := by
  unfold CanonicalPaths at *
  simpa only [h.inodes, h.inodeCount]

end Orizon
