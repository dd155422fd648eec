import Orizon.Lib.Reindex
import Orizon.Vfs.Shape
import Orizon.Vfs.WellFormed

/-!
# Orizon.Vfs.Clear

Recursive deletion.

`delete_inode_index` deletes the children of an entry one by one and then the
entry, by the index it was called with.  Each deletion moves the last entry
of the table, so the index is good to the end exactly when the table keeps
more entries than that index once the children are gone: `Fits`.  When every
call fits, a subtree goes and every other entry stays, with its index and its
parent's renumbered (`clearDirectoryContents_removes`).
-/

namespace Orizon

variable {H : Type}

/-! ## Subtrees -/

/-- Entry `i` is strictly below entry `d`. -/
def Below (v : Vfs H) (d i : Nat) : Prop :=
  Relation.TransGen (fun a b => (v.inodes a).parent = some b) i d

/-- The number of entries strictly below `d`. -/
noncomputable def belowCount (v : Vfs H) (d : Nat) : Nat := Reindex.count v.inodeCount (Below v d)

/-- As many entries come after `idx` as there are below it, at least. -/
def Fits (v : Vfs H) (idx : Nat) : Prop := idx + belowCount v idx < v.inodeCount

/-- The entries of `v` that are not `gone` are those of `w`, renumbered by `σ`. -/
structure Compacted (v w : Vfs H) (gone : Nat → Prop) (σ : Nat → Nat) : Prop where
  reindex : Reindex v.inodeCount w.inodeCount gone σ
  entry : ∀ i, i < v.inodeCount → ¬ gone i →
    w.inodes (σ i) = { v.inodes i with parent := (v.inodes i).parent.map σ }

/-! ## The calls of a deletion -/

section Calls

variable [Allocator H]

mutual

/-- `delete_inode_index idx` and every call it makes fit. -/
def DeleteFits (fuel : Nat) (v : Vfs H) (idx : Nat) : Prop :=
  match fuel with
  | 0 => True
  | fuel + 1 => idx = 0 ∨ idx ≥ v.inodeCount ∨ (Fits v idx ∧ ChildrenFit fuel v idx)

/-- Every call for the children of `idx` fits. -/
def ChildrenFit (fuel : Nat) (v : Vfs H) (idx : Nat) : Prop :=
  match fuel with
  | 0 => True
  | fuel + 1 =>
      match findChildInode v idx with
      | none => True
      | some child => DeleteFits fuel v child ∧
          ∀ f w, deleteInodeIndex f v child = some w → ChildrenFit fuel w idx

end

/-- Every call of `clear_directory_contents path`, with the directory at `root`,
fits. -/
def ClearFits (path : CStr) : Nat → Vfs H → Nat → Prop
  | 0, _, _ => True
  | fuel + 1, v, root =>
      match findChildInode v root with
      | none => True
      | some child => DeleteFits fuel v child ∧
          ∀ f w, deleteInodeIndex f v child = some w →
            ∀ root', findInode w path = some root' → ClearFits path fuel w root'

end Calls

variable {v w u : Vfs H} {d i j c idx : Nat} {gone gone' : Nat → Prop} {σ τ : Nat → Nat}

/-! ## Subtrees of a tree -/

theorem WellFormed.parent_lt (h : WellFormed v) (hi : i < v.inodeCount)
    (hj : (v.inodes i).parent = some j) : j < v.inodeCount := (h.parent_dir hi hj).2.1

theorem WellFormed.below_rank (h : WellFormed v) (hi : i < v.inodeCount) (hb : Below v d i) :
    d < v.inodeCount ∧ rank v d < rank v i := by
  induction hb using Relation.TransGen.head_induction_on with
  | single hj => exact ⟨h.parent_lt hi hj, h.rank_parent hi hj⟩
  | head hj _ ih =>
      obtain ⟨hd, hrank⟩ := ih (h.parent_lt hi hj)
      exact ⟨hd, lt_trans hrank (h.rank_parent hi hj)⟩

theorem WellFormed.not_below_self (h : WellFormed v) (hi : i < v.inodeCount) : ¬ Below v i i :=
  fun hb => lt_irrefl _ (h.below_rank hi hb).2

theorem WellFormed.exists_child (h : WellFormed v) (hi : i < v.inodeCount) (hb : Below v d i) :
    ∃ c, c < v.inodeCount ∧ (v.inodes c).parent = some d := by
  induction hb using Relation.TransGen.head_induction_on with
  | single hj => exact ⟨_, hi, hj⟩
  | head hj _ ih => exact ih (h.parent_lt hi hj)

theorem WellFormed.not_below_of_findChildInode (h : WellFormed v)
    (hnone : findChildInode v d = none) (hi : i < v.inodeCount) : ¬ Below v d i := by
  intro hb
  obtain ⟨c, hc, hcd⟩ := h.exists_child hi hb
  exact findChildInode_none hnone hc hcd

/-! ## Compaction -/

theorem Compacted.refl (v : Vfs H) (hnone : ∀ i, i < v.inodeCount → ¬ gone i) :
    Compacted v v gone id where
  reindex := (Reindex.refl _).congr fun i hi => iff_of_false (hnone i hi) not_false
  entry i _ _ := by
    rw [Option.map_id]
    rfl

theorem Compacted.comp (h : Compacted v w gone σ) (h' : Compacted w u gone' τ) :
    Compacted v u (fun i => gone i ∨ gone' (σ i)) (τ ∘ σ) where
  reindex := h.reindex.comp h'.reindex
  entry i hi hkept := by
    obtain ⟨hk, hk'⟩ := not_or.mp hkept
    rw [Function.comp_apply, h'.entry _ (h.reindex.maps i hi hk) hk', h.entry i hi hk,
      Option.map_map]

theorem Compacted.congr (h : Compacted v w gone σ)
    (hiff : ∀ i, i < v.inodeCount → (gone' i ↔ gone i)) : Compacted v w gone' σ where
  reindex := h.reindex.congr hiff
  entry i hi hkept := h.entry i hi (mt (hiff i hi).mpr hkept)

theorem compacted_removeInode [Allocator H] (hidx : idx < v.inodeCount) :
    Compacted v (removeInode v idx) (fun i => i = idx) (movedTo v idx) where
  reindex := by
    rw [inodeCount_removeInode]
    exact Reindex.swapRemove hidx
  entry i hi hne := by
    rw [inodes_removeInode hidx (movedTo_lt hidx hi hne), movedFrom_movedTo hne]

/-- What is below a kept entry is the same before and after, when subtrees go
whole. -/
theorem Compacted.below_iff (hv : WellFormed v) (h : Compacted v w gone σ)
    (hgone : ∀ i j, i < v.inodeCount → (v.inodes i).parent = some j → gone j → gone i)
    (hi : i < v.inodeCount) (hik : ¬ gone i) (hd : d < v.inodeCount) (hdk : ¬ gone d) :
    Below w (σ d) (σ i) ↔ Below v d i :=
  h.reindex.transGen_iff (fun j hj hk => by rw [h.entry j hj hk])
    (fun _ _ hi hj => hv.parent_lt hi hj) hgone hi hik hd hdk

/-! ## Deleting one child -/

/-- Entry `c` and everything below it. -/
def Subtree (v : Vfs H) (c i : Nat) : Prop := i = c ∨ Below v c i

theorem below_of_subtree (hparent : (v.inodes c).parent = some d) (h : Subtree v c i) :
    Below v d i := by
  have hbelow : Below v d c := Relation.TransGen.single hparent
  rcases h with rfl | hci
  · exact hbelow
  · exact Relation.TransGen.trans hci hbelow

theorem subtree_of_parent (hij : (v.inodes i).parent = some j) (h : Subtree v c j) :
    Subtree v c i := by
  refine Or.inr ?_
  rcases h with rfl | hcj
  · exact Relation.TransGen.single hij
  · exact Relation.TransGen.head hij hcj

theorem WellFormed.parent_not_subtree (hv : WellFormed v) (hd : d < v.inodeCount)
    (hparent : (v.inodes c).parent = some d) : ¬ Subtree v c d :=
  fun h => hv.not_below_self hd (below_of_subtree hparent h)

/-- When the subtree of a child goes, the rest below the parent is what is
below it afterwards. -/
theorem Compacted.below_parent_iff (hv : WellFormed v) (hd : d < v.inodeCount)
    (hparent : (v.inodes c).parent = some d) (h : Compacted v w (Subtree v c) σ)
    (hi : i < v.inodeCount) : Below v d i ↔ Subtree v c i ∨ (¬ Subtree v c i ∧ Below w (σ d) (σ i)) := by
  by_cases hsub : Subtree v c i
  · exact iff_of_true (below_of_subtree hparent hsub) (Or.inl hsub)
  · have hiff := h.below_iff hv (fun _ _ _ => subtree_of_parent) hi hsub hd
      (hv.parent_not_subtree hd hparent)
    constructor
    · exact fun hb => Or.inr ⟨hsub, hiff.mpr hb⟩
    · rintro (hs | ⟨-, hb⟩)
      · exact absurd hs hsub
      · exact hiff.mp hb

theorem Compacted.belowCount_parent (hv : WellFormed v) (hd : d < v.inodeCount)
    (hparent : (v.inodes c).parent = some d) (h : Compacted v w (Subtree v c) σ) :
    belowCount v d = Reindex.count v.inodeCount (Subtree v c) + belowCount w (σ d) := by
  unfold belowCount
  rw [Reindex.count_congr fun i hi => h.below_parent_iff hv hd hparent hi,
    Reindex.count_or fun i _ hsub hrest => hrest.1 hsub]
  congr 1
  exact h.reindex.count_eq (fun i _ hrest => hrest.1) fun i _ hk => and_iff_right hk

/-- Deleting the rest below the parent after the child's subtree deletes all
that was below it. -/
theorem Compacted.comp_parent (hv : WellFormed v) (hd : d < v.inodeCount)
    (hparent : (v.inodes c).parent = some d) (h : Compacted v w (Subtree v c) σ)
    (h' : Compacted w u (Below w (σ d)) τ) : Compacted v u (Below v d) (τ ∘ σ) := by
  refine (h.comp h').congr fun i hi => ?_
  rw [h.below_parent_iff hv hd hparent hi]
  by_cases hsub : Subtree v c i
  · exact iff_of_true (Or.inl hsub) (Or.inl hsub)
  · simp only [hsub, false_or, not_false_eq_true, true_and]

theorem WellFormed.belowCount_child_lt (hv : WellFormed v) (hc : c < v.inodeCount)
    (hparent : (v.inodes c).parent = some d) : belowCount v c < belowCount v d :=
  Reindex.count_lt_of_imp (fun _ _ hb => below_of_subtree hparent (Or.inr hb)) hc
    (hv.not_below_self hc) (Relation.TransGen.single hparent)

theorem Compacted.belowCount_parent_lt (hv : WellFormed v) (hc : c < v.inodeCount)
    (hd : d < v.inodeCount) (hparent : (v.inodes c).parent = some d)
    (h : Compacted v w (Subtree v c) σ) : belowCount w (σ d) < belowCount v d := by
  have hpos : 0 < Reindex.count v.inodeCount (Subtree v c) := by
    rw [← Reindex.count_eq_zero (n := v.inodeCount) (p := fun _ => False) fun _ _ hf => hf]
    exact Reindex.count_lt_of_imp (fun _ _ hf => hf.elim) hc not_false (Or.inl rfl)
  have hcount := h.belowCount_parent hv hd hparent
  omega

/-! ## Fuel -/

section Fuel

variable [Allocator H]

theorem delete_mono (fuel : Nat) :
    (∀ (v w : Vfs H) idx, deleteInodeIndex fuel v idx = some w →
      deleteInodeIndex (fuel + 1) v idx = some w) ∧
    (∀ (v w : Vfs H) idx, deleteChildren fuel v idx = some w →
      deleteChildren (fuel + 1) v idx = some w) := by
  induction fuel with
  | zero =>
      constructor <;> intro v w idx h
      · simp [deleteInodeIndex] at h
      · simp [deleteChildren] at h
  | succ fuel ih =>
      constructor <;> intro v w idx h
      · unfold deleteInodeIndex at h ⊢
        split at h
        · next hout =>
            rw [if_pos hout]
            exact h
        · next hin =>
            rw [if_neg hin]
            obtain ⟨u, hu, rfl⟩ := Option.map_eq_some_iff.mp h
            rw [ih.2 v u idx hu]
            rfl
      · unfold deleteChildren at h ⊢
        split at h
        · next hnone => exact h
        · next child hchild =>
            split at h
            · cases h
            · next u hu =>
                rw [ih.1 v u child hu]
                exact ih.2 u w idx h

theorem deleteInodeIndex_mono {fuel fuel' : Nat} (hle : fuel ≤ fuel')
    (h : deleteInodeIndex fuel v idx = some w) : deleteInodeIndex fuel' v idx = some w := by
  induction fuel', hle using Nat.le_induction with
  | base => exact h
  | succ n _ ih => exact (delete_mono n).1 v w idx ih

theorem deleteChildren_mono {fuel fuel' : Nat} (hle : fuel ≤ fuel')
    (h : deleteChildren fuel v idx = some w) : deleteChildren fuel' v idx = some w := by
  induction fuel', hle using Nat.le_induction with
  | base => exact h
  | succ n _ ih => exact (delete_mono n).2 v w idx ih

end Fuel

/-! ## The recursion -/

section Delete

theorem Compacted.findChildInode_none (hv : WellFormed v) (hd : d < v.inodeCount)
    (h : Compacted v w (Below v d) σ) : findChildInode w (σ d) = none := by
  by_contra hchild
  obtain ⟨c, hc⟩ := Option.ne_none_iff_exists'.mp hchild
  obtain ⟨hclt, hcparent⟩ := findChildInode_some hc
  obtain ⟨i, hi, hik, rfl⟩ := h.reindex.onto c hclt
  rw [h.entry i hi hik] at hcparent
  obtain ⟨j, hj, heq⟩ := Option.map_eq_some_iff.mp hcparent
  have hjk : ¬ Below v d j := fun hb => hik (Relation.TransGen.head hj hb)
  obtain rfl := h.reindex.injective j d (hv.parent_lt hi hj) hd hjk (hv.not_below_self hd) heq
  exact hik (Relation.TransGen.single hj)

variable [Allocator H]

theorem deleteFits_spec (hc : c < v.inodeCount) (hne : c ≠ 0) (h : ∀ fuel, DeleteFits fuel v c) :
    Fits v c ∧ ∀ fuel, ChildrenFit fuel v c := by
  have hstep : ∀ fuel, Fits v c ∧ ChildrenFit fuel v c := by
    intro fuel
    have hfuel := h (fuel + 1)
    unfold DeleteFits at hfuel
    rcases hfuel with hzero | hout | hin
    · exact absurd hzero hne
    · omega
    · exact hin
  exact ⟨(hstep 0).1, fun fuel => (hstep fuel).2⟩

theorem childrenFit_spec (hchild : findChildInode v d = some c) (h : ∀ fuel, ChildrenFit fuel v d) :
    (∀ fuel, DeleteFits fuel v c) ∧
      ∀ f w, deleteInodeIndex f v c = some w → ∀ fuel, ChildrenFit fuel w d := by
  have hstep : ∀ fuel, DeleteFits fuel v c ∧
      ∀ f w, deleteInodeIndex f v c = some w → ChildrenFit fuel w d := by
    intro fuel
    have hfuel := h (fuel + 1)
    unfold ChildrenFit at hfuel
    rwa [hchild] at hfuel
  exact ⟨fun fuel => (hstep fuel).1, fun f w hrun fuel => (hstep fuel).2 f w hrun⟩

/-- Deleting an entry, when its children are deleted first and its index stays
good. -/
theorem deleteInodeIndex_of_children {fuel : Nat} (hv : WellFormed v) (hc : c < v.inodeCount)
    (hne : c ≠ 0) (hrun : deleteChildren fuel v c = some w) (hw : WellFormed w)
    (h : Compacted v w (Below v c) σ) (hfix : σ c = c) :
    deleteInodeIndex (fuel + 1) v c = some (removeInode w c) ∧ WellFormed (removeInode w c) ∧
      Compacted v (removeInode w c) (Subtree v c) (movedTo w c ∘ σ) := by
  have hkept := hv.not_below_self hc
  have hcw : c < w.inodeCount := by
    have hmaps := h.reindex.maps c hc hkept
    rwa [hfix] at hmaps
  refine ⟨?_, ?_, ?_⟩
  · unfold deleteInodeIndex
    rw [if_neg (by omega), hrun]
    rfl
  · refine wellFormed_removeInode hw hcw hne ?_
    have hnone := h.findChildInode_none hv hc
    rwa [hfix] at hnone
  · refine (h.comp (compacted_removeInode hcw)).congr fun i hi => ?_
    constructor
    · rintro (rfl | hb)
      · exact Or.inr hfix
      · exact Or.inl hb
    · rintro (hb | heq)
      · exact Or.inr hb
      · by_cases hb : Below v c i
        · exact Or.inr hb
        · exact Or.inl (h.reindex.injective i c hi hc hb hkept (heq.trans hfix.symm))

/-- When every call fits, deleting the children of an entry deletes what is
below it, and the entry keeps its index. -/
theorem deleteChildren_removes (n : Nat) : ∀ {v : Vfs H} {idx : Nat}, WellFormed v →
    idx < v.inodeCount → belowCount v idx = n → Fits v idx → (∀ fuel, ChildrenFit fuel v idx) →
    ∃ fuel w σ, deleteChildren fuel v idx = some w ∧ WellFormed w ∧
      Compacted v w (Below v idx) σ ∧ σ idx = idx := by
  induction n using Nat.strong_induction_on with
  | h n ih =>
      intro v idx hv hidx hn hfits hcalls
      cases hchild : findChildInode v idx with
      | none =>
          refine ⟨1, v, id, ?_, hv,
            Compacted.refl v fun i hi => hv.not_below_of_findChildInode hchild hi, rfl⟩
          unfold deleteChildren
          rw [hchild]
      | some c =>
          obtain ⟨hc, hparent⟩ := findChildInode_some hchild
          have hne := (hv.parent_dir hc hparent).1
          obtain ⟨hcall, hnext⟩ := childrenFit_spec hchild hcalls
          obtain ⟨hcfits, hccalls⟩ := deleteFits_spec hc hne hcall
          -- the child's subtree goes
          obtain ⟨f₁, u, σ, hrun, hu, hcomp, hfix⟩ := ih (belowCount v c)
            (hn ▸ hv.belowCount_child_lt hc hparent) hv hc rfl hcfits hccalls
          obtain ⟨hdelete, hwf, hremoved⟩ :=
            deleteInodeIndex_of_children hv hc hne hrun hu hcomp hfix
          -- the table keeps more entries than `idx`, so `idx` did not move
          have hcount := hremoved.belowCount_parent hv hidx hparent
          have hsize := hremoved.reindex.count_gone
          have hlt := hremoved.belowCount_parent_lt hv hc hidx hparent
          unfold Fits at hfits
          have hstay := hremoved.reindex.stable idx (by omega) (hv.parent_not_subtree hidx hparent)
          rw [hstay] at hcount hlt
          -- and the rest of the children go
          obtain ⟨f₂, w, τ, hrest, hw, hcomp', hfix'⟩ := ih (belowCount (removeInode u c) idx)
            (by omega) hwf (by omega) rfl (by unfold Fits; omega) (hnext _ _ hdelete)
          refine ⟨max (f₁ + 1) f₂ + 1, w, τ ∘ (movedTo u c ∘ σ), ?_, hw, ?_, ?_⟩
          · unfold deleteChildren
            rw [hchild]
            dsimp only
            rw [deleteInodeIndex_mono (le_max_left _ _) hdelete]
            exact deleteChildren_mono (le_max_right _ _) hrest
          · exact hremoved.comp_parent hv hidx hparent (by rw [hstay]; exact hcomp')
          · rw [Function.comp_apply, hstay, hfix']

/-- When every call fits, `delete_inode_index` deletes a subtree. -/
theorem deleteInodeIndex_removes (hv : WellFormed v) (hc : c < v.inodeCount) (hne : c ≠ 0)
    (hcalls : ∀ fuel, DeleteFits fuel v c) :
    ∃ fuel w σ, deleteInodeIndex fuel v c = some w ∧ WellFormed w ∧
      Compacted v w (Subtree v c) σ := by
  obtain ⟨hfits, hccalls⟩ := deleteFits_spec hc hne hcalls
  obtain ⟨fuel, w, σ, hrun, hw, hcomp, hfix⟩ :=
    deleteChildren_removes (belowCount v c) hv hc rfl hfits hccalls
  obtain ⟨hdelete, hwf, hremoved⟩ := deleteInodeIndex_of_children hv hc hne hrun hw hcomp hfix
  exact ⟨fuel + 1, _, _, hdelete, hwf, hremoved⟩

/-- The condition is the right one: when the calls for the children fit and the
entry does not, its index is past the table once they are gone, and what
`delete_inode_index` takes off the table is another entry. -/
theorem deleteChildren_moves (n : Nat) : ∀ {v : Vfs H} {idx : Nat}, WellFormed v →
    idx < v.inodeCount → belowCount v idx = n → ¬ Fits v idx → (∀ fuel, ChildrenFit fuel v idx) →
    ∃ fuel w, deleteChildren fuel v idx = some w ∧ w.inodeCount ≤ idx := by
  induction n using Nat.strong_induction_on with
  | h n ih =>
      intro v idx hv hidx hn hfits hcalls
      unfold Fits at hfits
      cases hchild : findChildInode v idx with
      | none =>
          have hzero : belowCount v idx = 0 :=
            Reindex.count_eq_zero fun i hi => hv.not_below_of_findChildInode hchild hi
          omega
      | some c =>
          obtain ⟨hc, hparent⟩ := findChildInode_some hchild
          obtain ⟨hcall, hnext⟩ := childrenFit_spec hchild hcalls
          obtain ⟨f₁, u, σ, hdelete, hu, hremoved⟩ :=
            deleteInodeIndex_removes hv hc (hv.parent_dir hc hparent).1 hcall
          have hcount := hremoved.belowCount_parent hv hidx hparent
          have hsize := hremoved.reindex.count_gone
          have hlt := hremoved.belowCount_parent_lt hv hc hidx hparent
          obtain ⟨f₂, w, hrest, hw⟩ : ∃ f w, deleteChildren f u idx = some w ∧ w.inodeCount ≤ idx := by
            by_cases hin : idx < u.inodeCount
            · have hstay := hremoved.reindex.stable idx hin (hv.parent_not_subtree hidx hparent)
              rw [hstay] at hcount hlt
              exact ih (belowCount u idx) (by omega) hu hin rfl (by unfold Fits; omega)
                (hnext _ _ hdelete)
            · refine ⟨1, u, ?_, by omega⟩
              unfold deleteChildren
              have hnone : findChildInode u idx = none := by
                by_contra hsome
                obtain ⟨k, hk⟩ := Option.ne_none_iff_exists'.mp hsome
                obtain ⟨hklt, hkparent⟩ := findChildInode_some hk
                exact hin (hu.parent_lt hklt hkparent)
              rw [hnone]
          refine ⟨max f₁ f₂ + 1, w, ?_, hw⟩
          unfold deleteChildren
          rw [hchild]
          dsimp only
          rw [deleteInodeIndex_mono (le_max_left _ _) hdelete]
          exact deleteChildren_mono (le_max_right _ _) hrest

end Delete

/-! ## Clearing a directory -/

section Clear

/-- The children of `d` have no children. -/
def Flat (v : Vfs H) (d : Nat) : Prop := ∀ i, i < v.inodeCount → ∀ j, j < v.inodeCount →
  (v.inodes i).parent = some d → (v.inodes j).parent ≠ some i

theorem Compacted.flat (hv : WellFormed v) (hd : d < v.inodeCount)
    (hparent : (v.inodes c).parent = some d) (h : Compacted v w (Subtree v c) σ) (hflat : Flat v d) :
    Flat w (σ d) := by
  intro i' hi' j' hj' hid hji
  obtain ⟨i, hi, hik, rfl⟩ := h.reindex.onto i' hi'
  obtain ⟨j, hj, hjk, rfl⟩ := h.reindex.onto j' hj'
  rw [h.entry i hi hik] at hid
  rw [h.entry j hj hjk] at hji
  obtain ⟨a, ha, had⟩ := Option.map_eq_some_iff.mp hid
  obtain ⟨b, hb, hbi⟩ := Option.map_eq_some_iff.mp hji
  have hak : ¬ Subtree v c a := fun hs => hik (subtree_of_parent ha hs)
  have hbk : ¬ Subtree v c b := fun hs => hjk (subtree_of_parent hb hs)
  obtain rfl := h.reindex.injective a d (hv.parent_lt hi ha) hd hak
    (hv.parent_not_subtree hd hparent) had
  obtain rfl := h.reindex.injective b i (hv.parent_lt hj hb) hi hbk hik hbi
  exact hflat b hi j hj ha hb

variable [Allocator H] {path : CStr}

theorem clearLoop_mono {fuel fuel' : Nat} (hle : fuel ≤ fuel') :
    ∀ {v w : Vfs H} {root : Nat}, clearLoop path fuel v root = some w →
      clearLoop path fuel' v root = some w := by
  induction fuel generalizing fuel' with
  | zero =>
      intro v w root h
      cases h
  | succ fuel ih =>
      intro v w root h
      obtain ⟨n, rfl⟩ : ∃ n, fuel' = n + 1 := ⟨fuel' - 1, by omega⟩
      unfold clearLoop at h ⊢
      split at h
      · exact h
      · next child hchild =>
          split at h
          · cases h
          · next u hu =>
              rw [deleteInodeIndex_mono (by omega : fuel ≤ n) hu]
              dsimp only
              split at h
              · exact h
              · exact ih (by omega) h

theorem clearDirectoryContents_mono {fuel fuel' : Nat} (hle : fuel ≤ fuel')
    (h : clearDirectoryContents fuel v path = some w) :
    clearDirectoryContents fuel' v path = some w := by
  unfold clearDirectoryContents at h ⊢
  split at h
  · exact h
  · exact clearLoop_mono hle h

theorem clearLoop_removes (n : Nat) : ∀ {v : Vfs H} {root : Nat}, WellFormed v →
    root < v.inodeCount → (v.inodes root).path.val = path → belowCount v root = n →
    (∀ fuel, ClearFits path fuel v root) →
    ∃ fuel w σ, clearLoop path fuel v root = some w ∧ WellFormed w ∧
      Compacted v w (Below v root) σ := by
  induction n using Nat.strong_induction_on with
  | h n ih =>
      intro v root hv hroot hpath hn hcalls
      cases hchild : findChildInode v root with
      | none =>
          refine ⟨1, v, id, ?_, hv,
            Compacted.refl v fun i hi => hv.not_below_of_findChildInode hchild hi⟩
          unfold clearLoop
          rw [hchild]
      | some c =>
          obtain ⟨hc, hparent⟩ := findChildInode_some hchild
          have hcall : ∀ fuel, DeleteFits fuel v c ∧ ∀ f w, deleteInodeIndex f v c = some w →
              ∀ root', findInode w path = some root' → ClearFits path fuel w root' := by
            intro fuel
            have hstep := hcalls (fuel + 1)
            unfold ClearFits at hstep
            rwa [hchild] at hstep
          obtain ⟨f₁, u, σ, hdelete, hu, hremoved⟩ := deleteInodeIndex_removes hv hc
            (hv.parent_dir hc hparent).1 fun fuel => (hcall fuel).1
          have hkept := hv.parent_not_subtree hroot hparent
          have hrootlt := hremoved.reindex.maps root hroot hkept
          have hrootpath : (u.inodes (σ root)).path.val = path := by
            rw [hremoved.entry root hroot hkept]
            exact hpath
          have hfound : findInode u path = some (σ root) :=
            hu.findInode_eq_some.mpr ⟨hrootlt, hrootpath⟩
          have hlt := hremoved.belowCount_parent_lt hv hc hroot hparent
          obtain ⟨f₂, w, τ, hrest, hw, hcomp⟩ := ih (belowCount u (σ root)) (by omega) hu hrootlt
            hrootpath rfl fun fuel => (hcall fuel).2 _ _ hdelete _ hfound
          refine ⟨max f₁ f₂ + 1, w, τ ∘ σ, ?_, hw, hremoved.comp_parent hv hroot hparent hcomp⟩
          unfold clearLoop
          rw [hchild]
          dsimp only
          rw [deleteInodeIndex_mono (le_max_left _ _) hdelete]
          dsimp only
          rw [hfound]
          exact clearLoop_mono (le_max_right _ _) hrest

/-- In a directory without subdirectories that have entries every call fits. -/
theorem clearFits_of_flat (fuel : Nat) : ∀ {v : Vfs H} {root : Nat}, WellFormed v →
    findInode v path = some root → Flat v root → ClearFits path fuel v root := by
  induction fuel with
  | zero => exact fun _ _ _ => trivial
  | succ fuel ih =>
      intro v root hv hfind hflat
      obtain ⟨hroot, hpath⟩ := findInode_some hfind
      unfold ClearFits
      cases hchild : findChildInode v root with
      | none => trivial
      | some c =>
          obtain ⟨hc, hparent⟩ := findChildInode_some hchild
          have hleaf : findChildInode v c = none := by
            by_contra hsome
            obtain ⟨k, hk⟩ := Option.ne_none_iff_exists'.mp hsome
            obtain ⟨hklt, hkparent⟩ := findChildInode_some hk
            exact hflat c hc k hklt hparent hkparent
          have hcall : ∀ fuel, DeleteFits fuel v c := by
            intro fuel
            cases fuel with
            | zero => trivial
            | succ fuel =>
                have hzero : belowCount v c = 0 :=
                  Reindex.count_eq_zero fun i hi => hv.not_below_of_findChildInode hleaf hi
                unfold DeleteFits
                refine Or.inr (Or.inr ⟨by unfold Fits; omega, ?_⟩)
                cases fuel with
                | zero => trivial
                | succ fuel =>
                    unfold ChildrenFit
                    rw [hleaf]
                    trivial
          refine ⟨hcall fuel, fun f w hrun root' hfound => ?_⟩
          obtain ⟨f', w', σ, hrun', hw', hremoved⟩ :=
            deleteInodeIndex_removes hv hc (hv.parent_dir hc hparent).1 hcall
          have hsame := deleteInodeIndex_mono (le_max_left f f') hrun
          rw [deleteInodeIndex_mono (le_max_right f f') hrun'] at hsame
          obtain rfl := Option.some.inj hsame
          have hkept := hv.parent_not_subtree hroot hparent
          have hσ : findInode w' path = some (σ root) := hw'.findInode_eq_some.mpr
            ⟨hremoved.reindex.maps root hroot hkept, by
              rw [hremoved.entry root hroot hkept]
              exact hpath⟩
          obtain rfl := Option.some.inj (hσ.symm.trans hfound)
          exact ih hw' hσ (hremoved.flat hv hroot hparent hflat)

end Clear

/-! ## Two directories -/

/-- `/workspace` with an empty file in it. -/
def flatTree : Vfs KernelHeap :=
  treeCall (treeCall (vfsInit (bootVfs KernelHeap.boot noDisk bootPersist))
    (.mkdir (cstr "/workspace"))) (.create (cstr "/workspace/f"))

/-- `/workspace/x` with `/workspace/x/c`, which was `/c` before a rename, and `/s`
between them in the table. -/
def displacedTree : Vfs KernelHeap :=
  let v := vfsInit (bootVfs KernelHeap.boot noDisk bootPersist)
  let v := treeCall (treeCall v (.mkdir (cstr "/workspace"))) (.create (cstr "/c"))
  let v := treeCall (treeCall v (.create (cstr "/s"))) (.mkdir (cstr "/workspace/x"))
  treeCall v (.rename (cstr "/c") (cstr "/workspace/x/c"))

end Orizon
