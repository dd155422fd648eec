import Mathlib.Logic.Function.Basic
import Orizon.Vfs.State
import Orizon.Vfs.Shape
import Orizon.Vfs.WellFormed

/-!
# Orizon.Vfs.Refine

The tree calls refine the operations on the path map: what a caller of the file system sees, a map
from paths to a type and bytes.  `Allowed` says when an operation may succeed and `apply` what it
does then.  A rename carries everything inside the old path to the new one (`apply_rename_inside`)
and leaves the rest alone (`apply_rename_outside`).

On a well-formed tree with canonical paths, `vfs_create` and `vfs_mkdir` under
a directory, `vfs_delete` and `vfs_rename` succeed exactly when the operation
on the path map is allowed (a creation also needs a free table entry), do to
the path map what the operation does, and keep the tree well formed; when
they fail the path map stays.
-/

namespace Orizon

/-! ## The path map -/

/-- What is at each path: a type, and the bytes of a file. -/
abbrev PathMap := CStr → Option (InodeType × List UInt8)

/-- The operations on the tree. -/
inductive FileOp
  | create (path : CStr)
  | mkdir (path : CStr)
  | delete (path : CStr)
  | rename (oldpath newpath : CStr)
  deriving DecidableEq

namespace PathMap

/-- There is a directory at `path`. -/
def IsDir (m : PathMap) (path : CStr) : Prop := ∃ bytes, m path = some (.dir, bytes)

/-- When an operation may succeed: a new path needs a directory to go to and
nothing there yet, a removed one must not be the root or have anything below,
and nothing moves into itself or past the longest path. -/
def Allowed (m : PathMap) : FileOp → Prop
  | .create path => m path = none ∧ m.IsDir (getParentPath path)
  | .mkdir path => m path = none ∧ m.IsDir (getParentPath path)
  | .delete path => path ≠ [slash] ∧ m path ≠ none ∧ ∀ s, m (path ++ slash :: s) = none
  | .rename oldpath newpath => oldpath ≠ [slash] ∧ m oldpath ≠ none ∧ m newpath = none ∧
      m.IsDir (getParentPath newpath) ∧ ¬ pathIsInside newpath oldpath = true ∧
      ∀ s, m (oldpath ++ slash :: s) ≠ none → (newpath ++ slash :: s).length < maxPath

/-- The map after an operation. -/
def apply (m : PathMap) : FileOp → PathMap
  | .create path => Function.update m path (some (.file, []))
  | .mkdir path => Function.update m path (some (.dir, []))
  | .delete path => Function.update m path none
  | .rename oldpath newpath => fun q =>
      if pathIsInside q newpath then m (oldpath ++ q.drop newpath.length)
      else if pathIsInside q oldpath then none
      else m q

variable {m : PathMap} {oldpath newpath s q : CStr}

/-- What was at `old/s` is at `new/s`. -/
theorem apply_rename_inside (hs : s = [] ∨ ∃ t, s = slash :: t) :
    m.apply (.rename oldpath newpath) (newpath ++ s) = m (oldpath ++ s) := by
  have hin : pathIsInside (newpath ++ s) newpath = true := pathIsInside_iff.mpr ⟨s, rfl, hs⟩
  dsimp only [apply]
  rw [if_pos hin, List.drop_left]

/-- A path inside neither stays, also one that has the old path as a prefix. -/
theorem apply_rename_outside (hold : ¬ pathIsInside q oldpath = true)
    (hnew : ¬ pathIsInside q newpath = true) : m.apply (.rename oldpath newpath) q = m q := by
  dsimp only [apply]
  rw [if_neg hnew, if_neg hold]

end PathMap

/-! ## The tree -/

variable {H : Type}

/-- The path map of an inode table. -/
def pathMap (v : Vfs H) : PathMap :=
  fun path => (findInode v path).map fun i => ((v.inodes i).type, (v.inodes i).contents)

/-- The call behind an operation. -/
def fileOp [Allocator H] (v : Vfs H) : FileOp → Except Errno Unit × Vfs H
  | .create path => ((vfsCreate v path).1.map fun _ => (), (vfsCreate v path).2)
  | .mkdir path => ((vfsMkdir v path).1.map fun _ => (), (vfsMkdir v path).2)
  | .delete path => vfsDelete v path
  | .rename oldpath newpath => vfsRename v oldpath newpath

/-- A mounted file system whose table is a tree of canonical paths. -/
structure CanonicalTree (v : Vfs H) : Prop extends WellFormed v where
  initialized : v.vfsInitialized = true
  canonical : CanonicalPaths v

/-- The path an operation makes is canonical, and a creation does not go below a
file. -/
def CanonicalOp (m : PathMap) : FileOp → Prop
  | .create path => Canonical path ∧ ∀ bytes, m (getParentPath path) ≠ some (.file, bytes)
  | .mkdir path => Canonical path ∧ ∀ bytes, m (getParentPath path) ≠ some (.file, bytes)
  | .delete _ => True
  | .rename _ newpath => Canonical newpath

/-- The table has room for what an operation creates. -/
def HasRoom (v : Vfs H) : FileOp → Prop
  | .create _ => v.inodeCount < maxFiles
  | .mkdir _ => v.inodeCount < maxFiles
  | .delete _ => True
  | .rename _ _ => True

variable {v w : Vfs H} {path : CStr} {i idx parent : Nat}

/-! ## The path map of a tree -/

theorem pathMap_eq_none : pathMap v path = none ↔ findInode v path = none := by
  unfold pathMap
  rw [Option.map_eq_none_iff]

theorem WellFormed.pathMap_eq (h : WellFormed v) (hi : i < v.inodeCount)
    (hpath : (v.inodes i).path.val = path) :
    pathMap v path = some ((v.inodes i).type, (v.inodes i).contents) := by
  unfold pathMap
  rw [h.findInode_eq_some.mpr ⟨hi, hpath⟩]
  rfl

theorem pathMap_ne_none (h : pathMap v path ≠ none) :
    ∃ i, i < v.inodeCount ∧ (v.inodes i).path.val = path := by
  obtain ⟨i, hi⟩ := Option.ne_none_iff_exists'.mp fun hnone => h (pathMap_eq_none.mpr hnone)
  exact ⟨i, findInode_some hi⟩

theorem isDir_pathMap_iff : (pathMap v).IsDir path ↔
    ∃ j, findInode v path = some j ∧ (v.inodes j).type = .dir := by
  unfold PathMap.IsDir pathMap
  constructor
  · rintro ⟨bytes, h⟩
    obtain ⟨j, hj, hnode⟩ := Option.map_eq_some_iff.mp h
    exact ⟨j, hj, (Prod.mk.inj hnode).1⟩
  · rintro ⟨j, hj, hdir⟩
    exact ⟨_, by rw [hj, ← hdir]; rfl⟩

theorem SameFiles.pathMap_eq (h : SameFiles v w) : pathMap w = pathMap v := by
  unfold pathMap
  funext path
  rw [h.findInode, h.inodes]

/-- Two tables have the same path map when each path of either leads to the same
type and bytes in the other. -/
theorem pathMap_eq_of_entries (hw : WellFormed w) {m : PathMap}
    (hentry : ∀ i, i < w.inodeCount →
      m (w.inodes i).path.val = some ((w.inodes i).type, (w.inodes i).contents))
    (hnone : ∀ path, (∀ i, i < w.inodeCount → (w.inodes i).path.val ≠ path) → m path = none) :
    pathMap w = m := by
  funext path
  cases hfind : findInode w path with
  | none => rw [pathMap_eq_none.mpr hfind, hnone path (findInode_eq_none.mp hfind)]
  | some i =>
      obtain ⟨hi, hpath⟩ := findInode_some hfind
      rw [hw.pathMap_eq hi hpath, ← hpath, hentry i hi]

theorem CanonicalTree.mounted (h : CanonicalTree v) : Mounted v := ⟨h.initialized, h.pos⟩

theorem SameFiles.canonicalTree (h : SameFiles v w) (hv : CanonicalTree v) : CanonicalTree w where
  toWellFormed := h.wellFormed hv.toWellFormed
  initialized := by
    rw [h.vfsInitialized]
    exact hv.initialized
  canonical := h.canonicalPaths hv.canonical

/-! ## Creating -/

section Create

variable {type : InodeType}

theorem CanonicalTree.addInode (h : CanonicalTree v) (hpath : Canonical path)
    (hc : Creatable v path) (hdir : (pathMap v).IsDir (getParentPath path)) :
    CanonicalTree (addInode v path type) := by
  obtain ⟨j, hj, hjdir⟩ := isDir_pathMap_iff.mp hdir
  obtain ⟨hjlt, hjpath⟩ := findInode_some hj
  have hold : ∀ {i}, i < v.inodeCount → (Orizon.addInode v path type).inodes i = v.inodes i :=
    inodes_addInode_of_lt
  have hnew := inodes_addInode_self v path type
  have hstored : (newInode v path type).path.val = path := strCpy_of_lt hpath.length
  have hlast : ∀ {i}, i < v.inodeCount + 1 → i ≠ v.inodeCount → i < v.inodeCount := by omega
  refine ⟨⟨Nat.succ_pos _, ?_, ?_, ?_, ?_, ?_⟩, h.initialized, ?_⟩
  · rw [hold h.pos]
    exact h.rootPath
  · rw [hold h.pos]
    exact h.rootDir
  · rw [hold h.pos]
    exact h.rootParent
  · intro i k hi hk heq
    by_cases hilast : i = v.inodeCount <;> by_cases hklast : k = v.inodeCount
    · rw [hilast, hklast]
    · rw [hilast, hnew, hstored, hold (hlast hk hklast)] at heq
      exact absurd heq.symm (findInode_none hc.fresh (hlast hk hklast))
    · rw [hklast, hnew, hstored, hold (hlast hi hilast)] at heq
      exact absurd heq (findInode_none hc.fresh (hlast hi hilast))
    · rw [hold (hlast hi hilast), hold (hlast hk hklast)] at heq
      exact h.distinct i k (hlast hi hilast) (hlast hk hklast) heq
  · intro i hi hne
    by_cases hilast : i = v.inodeCount
    · refine ⟨j, ?_, Nat.lt_succ_of_lt hjlt, ?_, ?_⟩
      · rw [hilast, hnew]
        exact hj
      · rw [hold hjlt]
        exact hjdir
      · rw [hold hjlt, hilast, hnew, hstored]
        exact hjpath
    · obtain ⟨k, hk, hklt, hkdir, hkpath⟩ := h.parent i (hlast hi hilast) hne
      rw [hold (hlast hi hilast)]
      refine ⟨k, hk, Nat.lt_succ_of_lt hklt, ?_, ?_⟩ <;> rw [hold hklt] <;> assumption
  · intro i hi
    by_cases hilast : i = v.inodeCount
    · rw [hilast, hnew, hstored]
      exact hpath
    · rw [hold (hlast hi hilast)]
      exact h.canonical i (hlast hi hilast)

theorem CanonicalTree.pathMap_addInode (h : CanonicalTree v) (hpath : Canonical path)
    (hc : Creatable v path) (hdir : (pathMap v).IsDir (getParentPath path)) :
    pathMap (Orizon.addInode v path type) =
      Function.update (pathMap v) path (some (type, [])) := by
  have hstored : (newInode v path type).path.val = path := strCpy_of_lt hpath.length
  refine pathMap_eq_of_entries (h.addInode hpath hc hdir).toWellFormed (fun i hi => ?_)
    fun q hq => ?_
  · by_cases hilast : i = v.inodeCount
    · rw [hilast, inodes_addInode_self, hstored, Function.update_self]
      rfl
    · have hlt : i < v.inodeCount := by
        rw [inodeCount_addInode] at hi
        omega
      rw [inodes_addInode_of_lt hlt, Function.update_of_ne (findInode_none hc.fresh hlt),
        h.pathMap_eq hlt rfl]
  · have hne : q ≠ path := by
      intro heq
      refine hq v.inodeCount (Nat.lt_succ_self _) ?_
      rw [inodes_addInode_self, hstored, heq]
    rw [Function.update_of_ne hne, pathMap_eq_none, findInode_eq_none]
    intro i hi
    have hother := hq i (Nat.lt_succ_of_lt hi)
    rwa [inodes_addInode_of_lt hi] at hother

/-- A path can be created when nothing is there, its parent is, and there is
room. -/
theorem CanonicalTree.creatable_iff (h : CanonicalTree v)
    (hfile : ∀ bytes, pathMap v (getParentPath path) ≠ some (.file, bytes)) :
    Creatable v path ↔ v.inodeCount < maxFiles ∧ pathMap v path = none ∧
      (pathMap v).IsDir (getParentPath path) := by
  constructor
  · rintro ⟨hroom, hfresh, hparent⟩
    refine ⟨hroom, pathMap_eq_none.mpr hfresh, isDir_pathMap_iff.mpr ?_⟩
    rcases hparent with rfl | ⟨j, hj⟩
    · exact absurd h.rootPath (findInode_none hfresh h.pos)
    · refine ⟨j, hj, ?_⟩
      obtain ⟨hjlt, hjpath⟩ := findInode_some hj
      have hnot := hfile (v.inodes j).contents
      rw [h.pathMap_eq hjlt hjpath] at hnot
      cases htype : (v.inodes j).type with
      | file => exact absurd (by rw [htype]) hnot
      | dir => rfl
  · rintro ⟨hroom, hfresh, hdir⟩
    obtain ⟨j, hj, -⟩ := isDir_pathMap_iff.mp hdir
    exact ⟨hroom, pathMap_eq_none.mp hfresh, Or.inr ⟨j, hj⟩⟩

end Create

/-! ## Deleting -/

section Delete

/-- A path can be deleted when it is not the root and nothing is below it. -/
theorem CanonicalTree.deletable_iff (h : CanonicalTree v) :
    (∃ idx, Deletable v path idx) ↔ (pathMap v).Allowed (.delete path) := by
  constructor
  · rintro ⟨idx, hd⟩
    obtain ⟨hidx, hidxpath⟩ := findInode_some hd.source
    have hne : path ≠ [] := by
      rw [← hidxpath]
      exact (h.canonical idx hidx).ne_nil
    refine ⟨fun heq => hd.notRoot ((h.path_eq_root hidx).mp (hidxpath.trans heq)), ?_, fun s => ?_⟩
    · rw [h.pathMap_eq hidx hidxpath]
      exact Option.some_ne_none _
    · by_contra hbelow
      obtain ⟨i, hi, hipath⟩ := pathMap_ne_none hbelow
      obtain ⟨c, j, hc, hcj, hj, hjpath, hjdir⟩ := h.above h.canonical hne hi hipath
      obtain rfl := h.distinct idx j hidx hj (hidxpath.trans hjpath.symm)
      exact findChildInode_none (hd.empty hjdir) hc hcj
  · rintro ⟨hroot, hsome, hbelow⟩
    obtain ⟨idx, hidx, hidxpath⟩ := pathMap_ne_none hsome
    refine ⟨idx, h.findInode_eq_some.mpr ⟨hidx, hidxpath⟩, ?_, fun _ => ?_⟩
    · rintro rfl
      exact hroot (hidxpath.symm.trans h.rootPath)
    · by_contra hchild
      obtain ⟨c, hc⟩ := Option.ne_none_iff_exists'.mp hchild
      obtain ⟨hclt, hcparent⟩ := findChildInode_some hc
      obtain ⟨hc0, -, -, hidxparent⟩ := h.parent_dir hclt hcparent
      obtain ⟨d, name, hsplit, hname, hnename, -⟩ :=
        (h.canonical c hclt).split fun heq => hc0 ((h.path_eq_root hclt).mp heq)
      have hlen := (h.canonical c hclt).length
      rw [hsplit] at hlen hidxparent
      rw [getParentPath_append hname hnename hlen, hidxpath] at hidxparent
      split at hidxparent
      · exact hroot hidxparent
      · have hnone := hbelow name
        rw [hidxparent, h.pathMap_eq hclt hsplit] at hnone
        cases hnone

theorem WellFormed.findChildInode_of_deletable (h : WellFormed v) (hd : Deletable v path idx) :
    findChildInode v idx = none := by
  by_contra hchild
  obtain ⟨c, hc⟩ := Option.ne_none_iff_exists'.mp hchild
  obtain ⟨hclt, hcparent⟩ := findChildInode_some hc
  exact hchild (hd.empty (h.parent_dir hclt hcparent).2.2.1)

variable [Allocator H]

theorem CanonicalTree.removeInode (h : CanonicalTree v) (hd : Deletable v path idx) :
    CanonicalTree (removeInode v idx) where
  toWellFormed := wellFormed_removeInode h.toWellFormed (findInode_some hd.source).1 hd.notRoot
    (h.findChildInode_of_deletable hd)
  initialized := by simpa [Orizon.removeInode] using h.initialized
  canonical := canonicalPaths_removeInode h.canonical (findInode_some hd.source).1

theorem CanonicalTree.pathMap_removeInode (h : CanonicalTree v) (hd : Deletable v path idx) :
    pathMap (Orizon.removeInode v idx) = Function.update (pathMap v) path none := by
  obtain ⟨hidx, hidxpath⟩ := findInode_some hd.source
  refine pathMap_eq_of_entries (h.removeInode hd).toWellFormed (fun i hi => ?_) fun q hq => ?_
  · rw [inodeCount_removeInode] at hi
    obtain ⟨hflt, hfne⟩ := movedFrom_lt idx hi
    have hother : (v.inodes (movedFrom v idx i)).path.val ≠ path := fun heq =>
      hfne (h.distinct _ _ hflt hidx (heq.trans hidxpath.symm))
    rw [inodes_removeInode hidx hi, Function.update_of_ne hother, h.pathMap_eq hflt rfl]
    rfl
  · by_cases hpath : q = path
    · rw [hpath, Function.update_self]
    · rw [Function.update_of_ne hpath, pathMap_eq_none, findInode_eq_none]
      intro j hj heq
      have hjne : j ≠ idx := by
        rintro rfl
        exact hpath (heq.symm.trans hidxpath)
      have hto := movedTo_lt hidx hj hjne
      refine hq (movedTo v idx j) (by rw [inodeCount_removeInode]; exact hto) ?_
      rw [inodes_removeInode hidx hto, movedFrom_movedTo hjne]
      exact heq

end Delete

/-! ## Renaming -/

section Rename

variable {oldpath newpath : CStr}

/-- Where the entries of a tree are with respect to the renamed one: it, below
it, or not inside it. -/
theorem CanonicalTree.rename_cases (h : CanonicalTree v)
    (hr : Renamable v oldpath newpath idx parent) (hi : i < v.inodeCount) :
    i = idx ∨
    (Moved v idx oldpath i ∧ ∃ t, (v.inodes i).path.val = oldpath ++ slash :: t ∧ t ≠ []) ∨
    (i ≠ idx ∧ ¬ Moved v idx oldpath i ∧ ¬ pathIsInside (v.inodes i).path.val oldpath = true) := by
  obtain ⟨hidx, hidxpath⟩ := findInode_some hr.source
  have hroot : oldpath ≠ [slash] := fun heq =>
    hr.notRoot ((h.path_eq_root hidx).mp (hidxpath.trans heq))
  have hne : oldpath ≠ [] := by
    rw [← hidxpath]
    exact (h.canonical idx hidx).ne_nil
  by_cases heq : i = idx
  · exact Or.inl heq
  · refine Or.inr ?_
    by_cases hin : pathIsInside (v.inodes i).path.val oldpath = true
    · refine Or.inl ?_
      obtain ⟨s, hpath, hs⟩ := pathIsInside_iff.mp hin
      rcases hs with rfl | ⟨t, rfl⟩
      · rw [List.append_nil, ← hidxpath] at hpath
        exact absurd (h.distinct i idx hi hidx hpath) heq
      · obtain ⟨-, j, -, -, hj, hjpath, hjdir⟩ := h.above h.canonical hne hi hpath
        obtain rfl := h.distinct idx j hidx hj (hidxpath.trans hjpath.symm)
        refine ⟨⟨hjdir, ?_⟩, t, hpath, ?_⟩
        · simp only [renamesWith, Bool.and_eq_true, decide_eq_true_eq]
          exact ⟨⟨hi, heq⟩, hin⟩
        · rintro rfl
          refine (h.canonical i hi).noTrailing ?_ (by rw [hpath]; simp)
          intro hslash
          rw [hpath] at hslash
          exact hne (List.append_left_eq_self.mp hslash)
    · exact Or.inr ⟨heq, fun hmoved => hin hmoved.spec.2.2, hin⟩

theorem CanonicalTree.free_below (h : CanonicalTree v) (hnew : Canonical newpath)
    (hfresh : findInode v newpath = none) (hi : i < v.inodeCount) :
    ¬ pathIsInside (v.inodes i).path.val newpath = true := by
  intro hin
  obtain ⟨s, hpath, hs⟩ := pathIsInside_iff.mp hin
  rcases hs with rfl | ⟨t, rfl⟩
  · rw [List.append_nil] at hpath
    exact findInode_none hfresh hi hpath
  · obtain ⟨-, j, -, -, hj, hjpath, -⟩ := h.above h.canonical hnew.ne_nil hi hpath
    exact findInode_none hfresh hj hjpath

theorem Renamable.length_lt (hr : Renamable v oldpath newpath idx parent) (hnew : Canonical newpath)
    (hmoved : Moved v idx oldpath i) :
    newpath.length + ((v.inodes i).path.val.drop oldpath.length).length < maxPath := by
  have hfit := hr.fits hmoved.1 i hmoved.2
  have hint : cInt newpath.length = newpath.length := cInt_of_lt (by
    have hlen := hnew.length
    unfold maxPath at hlen
    omega)
  rw [hint] at hfit
  omega

theorem CanonicalTree.renameFits (h : CanonicalTree v) (hnew : Canonical newpath)
    (hr : Renamable v oldpath newpath idx parent) : RenameFits v idx oldpath newpath where
  target j hj _ _ heq := by
    have hval := congrArg Subtype.val heq
    rw [strCpy_of_lt hnew.length] at hval
    exact findInode_none hr.fresh hj hval
  below i j hmoved hj _ _ heq := by
    have hval := congrArg Subtype.val heq
    rw [renamedPath_of_lt (hr.length_lt hnew hmoved)] at hval
    refine h.free_below hnew hr.fresh hj (pathIsInside_iff.mpr ⟨_, hval, ?_⟩)
    obtain ⟨s, hpath, hs⟩ := pathIsInside_iff.mp hmoved.spec.2.2
    rw [hpath, List.drop_left]
    exact hs
  length i hmoved := hr.length_lt hnew hmoved

theorem pathAfterRename_below (hnew : Canonical newpath)
    (hr : Renamable v oldpath newpath idx parent) (hmoved : Moved v idx oldpath i) {t : CStr}
    (hpath : (v.inodes i).path.val = oldpath ++ slash :: t) :
    (pathAfterRename v idx oldpath newpath i).val = newpath ++ slash :: t := by
  rw [pathAfterRename_moved hmoved, renamedPath_of_lt (hr.length_lt hnew hmoved), hpath,
    List.drop_left]

theorem pathAfterRename_idx (hnew : Canonical newpath) :
    (pathAfterRename v idx oldpath newpath idx).val = newpath := by
  rw [pathAfterRename_self, strCpy_of_lt hnew.length]

theorem CanonicalTree.outside (h : CanonicalTree v) (hnew : Canonical newpath)
    (hr : Renamable v oldpath newpath idx parent) : ¬ pathIsInside newpath oldpath = true := by
  intro hin
  obtain ⟨hidx, hidxpath⟩ := findInode_some hr.source
  obtain ⟨hplt, hppath⟩ := findInode_some hr.parentFound
  have hne : oldpath ≠ [] := by
    rw [← hidxpath]
    exact (h.canonical idx hidx).ne_nil
  refine hr.outside ⟨?_, hin⟩
  obtain ⟨s, hpath, hs⟩ := pathIsInside_iff.mp hin
  rcases hs with rfl | ⟨t, rfl⟩
  · rw [List.append_nil, ← hidxpath] at hpath
    exact absurd hpath.symm (findInode_none hr.fresh hidx)
  · have hroot : newpath ≠ [slash] := fun heq =>
      findInode_none hr.fresh h.pos (h.rootPath.trans heq.symm)
    obtain ⟨d, name, hsplit, hname, hnename, -⟩ := hnew.split hroot
    have hlen := hnew.length
    rw [hsplit] at hlen hppath hpath
    rw [getParentPath_append hname hnename hlen] at hppath
    rcases append_slash_eq hname hpath with ⟨rfl, -⟩ | ⟨t', rfl, -⟩
    · rw [if_neg hne] at hppath
      obtain rfl := h.distinct parent idx hplt hidx (hppath.trans hidxpath.symm)
      exact hr.parentDir
    · rw [if_neg (by simp)] at hppath
      obtain ⟨-, j, -, -, hj, hjpath, hjdir⟩ := h.above h.canonical hne hplt hppath
      obtain rfl := h.distinct idx j hidx hj (hidxpath.trans hjpath.symm)
      exact hjdir

/-- An entry whose parent path is inside the old path is inside it too. -/
theorem CanonicalTree.inside_of_parent (h : CanonicalTree v)
    (hr : Renamable v oldpath newpath idx parent) {p : CStr} (hp : Canonical p)
    (hroot : p ≠ [slash]) (hin : pathIsInside (getParentPath p) oldpath = true) :
    pathIsInside p oldpath = true := by
  obtain ⟨hidx, hidxpath⟩ := findInode_some hr.source
  obtain ⟨d, name, rfl, hname, hnename, -⟩ := hp.split hroot
  rw [getParentPath_append hname hnename hp.length] at hin
  obtain ⟨s, hpath, hs⟩ := pathIsInside_iff.mp hin
  split at hpath
  · -- the root is inside nothing else
    cases oldpath with
    | nil => exact absurd hidxpath (h.canonical idx hidx).ne_nil
    | cons c old =>
        simp only [List.cons_append, List.cons.injEq, List.nil_eq, List.append_eq_nil_iff] at hpath
        obtain ⟨rfl, rfl, -⟩ := hpath
        exact absurd ((h.path_eq_root hidx).mp hidxpath) hr.notRoot
  · refine pathIsInside_iff.mpr ⟨s ++ slash :: name, by rw [hpath, List.append_assoc], Or.inr ?_⟩
    rcases hs with rfl | ⟨t, rfl⟩
    · exact ⟨name, rfl⟩
    · exact ⟨t ++ slash :: name, rfl⟩

/-- The state after a rename, before it is saved. -/
def renamed (v : Vfs H) (idx parent : Nat) (oldpath newpath : CStr) : Vfs H :=
  { v with inodes := renamedInodes v idx parent oldpath newpath }

theorem renamed_path (v : Vfs H) (idx parent : Nat) (oldpath newpath : CStr) (i : Nat) :
    ((renamed v idx parent oldpath newpath).inodes i).path =
      pathAfterRename v idx oldpath newpath i := renamedInodes_path ..

theorem renamed_type (v : Vfs H) (idx parent : Nat) (oldpath newpath : CStr) (i : Nat) :
    ((renamed v idx parent oldpath newpath).inodes i).type = (v.inodes i).type :=
  renamedInodes_type ..

theorem renamed_contents (v : Vfs H) (idx parent : Nat) (oldpath newpath : CStr) (i : Nat) :
    ((renamed v idx parent oldpath newpath).inodes i).contents = (v.inodes i).contents :=
  renamedInodes_contents ..

theorem renamed_parent (v : Vfs H) (idx parent : Nat) (oldpath newpath : CStr) (i : Nat) :
    ((renamed v idx parent oldpath newpath).inodes i).parent =
      if i = idx then some parent else (v.inodes i).parent := renamedInodes_parent ..

theorem CanonicalTree.pathAfterRename_outside (h : CanonicalTree v)
    (hr : Renamable v oldpath newpath idx parent) (hi : i < v.inodeCount)
    (hout : ¬ pathIsInside (v.inodes i).path.val oldpath = true) :
    i ≠ idx ∧ (pathAfterRename v idx oldpath newpath i).val = (v.inodes i).path.val := by
  rcases h.rename_cases hr hi with rfl | ⟨hmoved, -⟩ | ⟨hne, hkept, -⟩
  · rw [(findInode_some hr.source).2] at hout
    exact absurd (pathIsInside_iff.mpr ⟨[], by simp, Or.inl rfl⟩) hout
  · exact absurd hmoved.spec.2.2 hout
  · rw [pathAfterRename_kept hne hkept]
    exact ⟨hne, rfl⟩

/-- The parent of an entry after a rename is the parent of its path. -/
theorem CanonicalTree.parent_renamed (h : CanonicalTree v) (hnew : Canonical newpath)
    (hr : Renamable v oldpath newpath idx parent) (hi : i < v.inodeCount) (hne : i ≠ 0) :
    ∃ j, (if i = idx then some parent else (v.inodes i).parent) = some j ∧ j < v.inodeCount ∧
      (v.inodes j).type = .dir ∧ (pathAfterRename v idx oldpath newpath j).val =
        getParentPath (pathAfterRename v idx oldpath newpath i).val := by
  obtain ⟨hidx, hidxpath⟩ := findInode_some hr.source
  have hnewroot : newpath ≠ [slash] := fun heq =>
    findInode_none hr.fresh h.pos (h.rootPath.trans heq.symm)
  rcases h.rename_cases hr hi with rfl | ⟨hmoved, t, hpath, ht⟩ | ⟨hidxne, hkept, hout⟩
  · -- the new parent is not inside what moves
    obtain ⟨hplt, hppath⟩ := findInode_some hr.parentFound
    have hpout : ¬ pathIsInside (v.inodes parent).path.val oldpath = true := by
      rw [hppath]
      exact fun hin => h.outside hnew hr (h.inside_of_parent hr hnew hnewroot hin)
    refine ⟨parent, if_pos rfl, hplt, hr.parentDir, ?_⟩
    rw [(h.pathAfterRename_outside hr hplt hpout).2, pathAfterRename_idx hnew, hppath]
  · obtain ⟨j, hj, hjlt, hjdir, hjpath⟩ := h.parent i hi hne
    refine ⟨j, (if_neg hmoved.spec.2.1).trans hj, hjlt, hjdir, ?_⟩
    obtain ⟨d, name, hsplit, hname, hnename, -⟩ :=
      (h.canonical i hi).split fun heq => hne ((h.path_eq_root hi).mp heq)
    have hlen := (h.canonical i hi).length
    have hlen' := (pathAfterRename v idx oldpath newpath i).2
    have hipath := pathAfterRename_below hnew hr hmoved hpath
    rw [hsplit] at hlen hjpath hpath
    rw [getParentPath_append hname hnename hlen] at hjpath
    rw [hipath] at hlen' ⊢
    rcases append_slash_eq hname hpath with ⟨rfl, rfl⟩ | ⟨t', rfl, rfl⟩
    · -- a child of the renamed directory
      rw [if_neg (by rw [← hidxpath]; exact (h.canonical idx hidx).ne_nil)] at hjpath
      obtain rfl := h.distinct j idx hjlt hidx (hjpath.trans hidxpath.symm)
      rw [pathAfterRename_idx hnew, getParentPath_append hname hnename hlen', if_neg hnew.ne_nil]
    · -- deeper below
      rw [if_neg (by simp)] at hjpath
      have hassoc : newpath ++ slash :: (t' ++ slash :: name) =
          (newpath ++ slash :: t') ++ slash :: name := by simp
      rw [hassoc] at hlen' ⊢
      rw [getParentPath_append hname hnename hlen', if_neg (by simp)]
      rcases h.rename_cases hr hjlt with rfl | ⟨hjmoved, -⟩ | ⟨-, -, hjout⟩
      · rw [hidxpath, List.self_eq_append_right] at hjpath
        cases hjpath
      · exact pathAfterRename_below hnew hr hjmoved hjpath
      · exact absurd (pathIsInside_iff.mpr ⟨_, hjpath, Or.inr ⟨t', rfl⟩⟩) hjout
  · obtain ⟨j, hj, hjlt, hjdir, hjpath⟩ := h.parent i hi hne
    have hroot : (v.inodes i).path.val ≠ [slash] := fun heq => hne ((h.path_eq_root hi).mp heq)
    have hjout : ¬ pathIsInside (v.inodes j).path.val oldpath = true := by
      rw [hjpath]
      exact fun hin => hout (h.inside_of_parent hr (h.canonical i hi) hroot hin)
    refine ⟨j, (if_neg hidxne).trans hj, hjlt, hjdir, ?_⟩
    rw [(h.pathAfterRename_outside hr hjlt hjout).2, (h.pathAfterRename_outside hr hi hout).2,
      hjpath]

theorem CanonicalTree.renamed (h : CanonicalTree v) (hnew : Canonical newpath)
    (hr : Renamable v oldpath newpath idx parent) :
    CanonicalTree (renamed v idx parent oldpath newpath) := by
  have hzero : ¬ pathIsInside (v.inodes 0).path.val oldpath = true := by
    intro hin
    rcases h.rename_cases hr h.pos with heq | ⟨hmoved, t, hpath, ht⟩ | ⟨-, -, hout⟩
    · exact hr.notRoot heq.symm
    · rw [h.rootPath] at hpath
      have hlen := congrArg List.length hpath
      have hpos := List.length_pos_iff.mpr ht
      simp at hlen
      omega
    · exact hout hin
  obtain ⟨hzeroidx, hzeropath⟩ := h.pathAfterRename_outside hr h.pos hzero
  have hinj := (pathAfterRename_injective_iff hr fun i j hi hj heq =>
    h.distinct i j hi hj (congrArg Subtype.val heq)).mpr (h.renameFits hnew hr)
  refine ⟨⟨h.pos, ?_, ?_, ?_, fun i j hi hj heq => ?_, fun i hi hne => ?_⟩, h.initialized,
    fun i hi => ?_⟩
  · rw [renamed_path, hzeropath]
    exact h.rootPath
  · rw [renamed_type]
    exact h.rootDir
  · rw [renamed_parent, if_neg hzeroidx]
    exact h.rootParent
  · rw [renamed_path, renamed_path] at heq
    exact hinj i j hi hj (Subtype.ext heq)
  · simp only [renamed_parent, renamed_type, renamed_path]
    exact h.parent_renamed hnew hr hi hne
  · rw [renamed_path]
    rcases h.rename_cases hr hi with rfl | ⟨hmoved, t, hpath, ht⟩ | ⟨-, -, hout⟩
    · rw [pathAfterRename_idx hnew]
      exact hnew
    · have hlen := (pathAfterRename v idx oldpath newpath i).2
      have hcan := h.canonical i hi
      have hroot : newpath ≠ [slash] := fun heq =>
        findInode_none hr.fresh h.pos (h.rootPath.trans heq.symm)
      rw [hpath] at hcan
      rw [pathAfterRename_below hnew hr hmoved hpath] at hlen ⊢
      exact hnew.append hroot hcan ht hlen
    · rw [(h.pathAfterRename_outside hr hi hout).2]
      exact h.canonical i hi

theorem CanonicalTree.pathMap_renamed (h : CanonicalTree v) (hnew : Canonical newpath)
    (hr : Renamable v oldpath newpath idx parent) :
    pathMap (Orizon.renamed v idx parent oldpath newpath) =
      (pathMap v).apply (.rename oldpath newpath) := by
  have hself : ∀ p : CStr, pathIsInside p p = true := fun p =>
    pathIsInside_iff.mpr ⟨[], by simp, Or.inl rfl⟩
  obtain ⟨hidx, hidxpath⟩ := findInode_some hr.source
  refine pathMap_eq_of_entries (h.renamed hnew hr).toWellFormed (fun i hi => ?_) fun q hq => ?_
  · rw [renamed_path, renamed_type, renamed_contents]
    rcases h.rename_cases hr hi with rfl | ⟨hmoved, t, hpath, -⟩ | ⟨-, -, hout⟩
    · have hmap : (pathMap v).apply (.rename oldpath newpath) (newpath ++ []) =
          pathMap v (oldpath ++ []) := PathMap.apply_rename_inside (Or.inl rfl)
      rw [List.append_nil, List.append_nil] at hmap
      rw [pathAfterRename_idx hnew, hmap, h.pathMap_eq hidx hidxpath]
    · rw [pathAfterRename_below hnew hr hmoved hpath,
        PathMap.apply_rename_inside (Or.inr ⟨t, rfl⟩), h.pathMap_eq hi hpath]
    · rw [(h.pathAfterRename_outside hr hi hout).2,
        PathMap.apply_rename_outside hout (h.free_below hnew hr.fresh hi), h.pathMap_eq hi rfl]
  · by_cases hqnew : pathIsInside q newpath = true
    · obtain ⟨s, rfl, hs⟩ := pathIsInside_iff.mp hqnew
      rw [PathMap.apply_rename_inside hs, pathMap_eq_none, findInode_eq_none]
      intro i hi hpath
      refine hq i hi ?_
      rw [renamed_path]
      rcases h.rename_cases hr hi with rfl | ⟨hmoved, -⟩ | ⟨-, -, hout⟩
      · rw [pathAfterRename_idx hnew]
        rw [hidxpath, List.self_eq_append_right] at hpath
        rw [hpath, List.append_nil]
      · rw [pathAfterRename_moved hmoved, renamedPath_of_lt (hr.length_lt hnew hmoved), hpath,
          List.drop_left]
      · exact absurd (pathIsInside_iff.mpr ⟨s, hpath, hs⟩) hout
    · by_cases hqold : pathIsInside q oldpath = true
      · dsimp only [PathMap.apply]
        rw [if_neg hqnew, if_pos hqold]
      · rw [PathMap.apply_rename_outside hqold hqnew, pathMap_eq_none, findInode_eq_none]
        intro i hi hpath
        refine hq i hi ?_
        rw [renamed_path, (h.pathAfterRename_outside hr hi (by rw [hpath]; exact hqold)).2, hpath]

theorem CanonicalTree.renamable_iff (h : CanonicalTree v) (hnew : Canonical newpath) :
    (∃ idx parent, Renamable v oldpath newpath idx parent) ↔
      (pathMap v).Allowed (.rename oldpath newpath) := by
  constructor
  · rintro ⟨idx, parent, hr⟩
    obtain ⟨hidx, hidxpath⟩ := findInode_some hr.source
    refine ⟨fun heq => hr.notRoot ((h.path_eq_root hidx).mp (hidxpath.trans heq)), ?_,
      pathMap_eq_none.mpr hr.fresh, isDir_pathMap_iff.mpr ⟨parent, hr.parentFound, hr.parentDir⟩,
      h.outside hnew hr, fun s hs => ?_⟩
    · rw [h.pathMap_eq hidx hidxpath]
      exact Option.some_ne_none _
    · obtain ⟨i, hi, hpath⟩ := pathMap_ne_none hs
      rcases h.rename_cases hr hi with rfl | ⟨hmoved, -⟩ | ⟨-, -, hout⟩
      · rw [hidxpath, List.self_eq_append_right] at hpath
        cases hpath
      · have hlt := hr.length_lt hnew hmoved
        rw [hpath, List.drop_left] at hlt
        rw [List.length_append]
        exact hlt
      · exact absurd (pathIsInside_iff.mpr ⟨_, hpath, Or.inr ⟨s, rfl⟩⟩) hout
  · rintro ⟨hroot, hsome, hfresh, hdir, hout, hlen⟩
    obtain ⟨idx, hidx, hidxpath⟩ := pathMap_ne_none hsome
    obtain ⟨parent, hparent, hparentdir⟩ := isDir_pathMap_iff.mp hdir
    refine ⟨idx, parent, h.findInode_eq_some.mpr ⟨hidx, hidxpath⟩, ?_, pathMap_eq_none.mp hfresh,
      hparent, hparentdir, fun hin => hout hin.2, fun _ i hmoved => ?_⟩
    · rintro rfl
      exact hroot (hidxpath.symm.trans h.rootPath)
    · simp only [renamesWith, Bool.and_eq_true, decide_eq_true_eq] at hmoved
      obtain ⟨⟨hi, hne⟩, hin⟩ := hmoved
      obtain ⟨s, hpath, hs⟩ := pathIsInside_iff.mp hin
      rw [cInt_of_lt (by have hlt := hnew.length; unfold maxPath at hlt; omega), hpath,
        List.drop_left]
      rcases hs with rfl | ⟨t, rfl⟩
      · rw [List.append_nil, ← hidxpath] at hpath
        exact absurd (h.distinct i idx hi hidx hpath) hne
      · have hlt := hlen t (by rw [h.pathMap_eq hi hpath]; exact Option.some_ne_none _)
        rw [List.length_append] at hlt
        omega

end Rename

/-! ## The refinement -/

section Refine

variable [Allocator H]

theorem CanonicalTree.vfsMake_refines (h : CanonicalTree v) (type : InodeType) (hpath : Canonical path)
    (hfile : ∀ bytes, pathMap v (getParentPath path) ≠ some (.file, bytes)) :
    CanonicalTree (vfsMake v path type).2 ∧
    ((∃ n, (vfsMake v path type).1 = .ok n) ∧
        ((pathMap v path = none ∧ (pathMap v).IsDir (getParentPath path)) ∧
          v.inodeCount < maxFiles) ∧
        pathMap (vfsMake v path type).2 =
          Function.update (pathMap v) path (some (type, [])) ∨
      (∃ e, (vfsMake v path type).1 = .error e) ∧
        ¬ ((pathMap v path = none ∧ (pathMap v).IsDir (getParentPath path)) ∧
          v.inodeCount < maxFiles) ∧
        pathMap (vfsMake v path type).2 = pathMap v) := by
  have hiff := h.creatable_iff hfile
  rcases vfsMake_cases h.mounted path type with ⟨hc, hok, hsame⟩ | ⟨hc, e, he⟩
  · obtain ⟨hroom, hfresh, hdir⟩ := hiff.mp hc
    refine ⟨hsame.canonicalTree (h.addInode hpath hc hdir), Or.inl ⟨⟨_, hok⟩, ⟨⟨hfresh, hdir⟩, hroom⟩,
      ?_⟩⟩
    rw [hsame.pathMap_eq, h.pathMap_addInode hpath hc hdir]
  · rw [he]
    exact ⟨h, Or.inr ⟨⟨e, rfl⟩, fun hall => hc (hiff.mpr ⟨hall.2, hall.1⟩), rfl⟩⟩

/-- On every tree of canonical paths, a call succeeds exactly when its operation
is allowed on the path map and there is room, and then does to the path map
what the operation does; when it fails the path map stays.  Either way the
table is a tree of canonical paths again. -/
theorem fileOp_refines (h : CanonicalTree v) (op : FileOp) (hop : CanonicalOp (pathMap v) op) :
    CanonicalTree (fileOp v op).2 ∧
    ((fileOp v op).1 = .ok () ∧ ((pathMap v).Allowed op ∧ HasRoom v op) ∧
        pathMap (fileOp v op).2 = (pathMap v).apply op ∨
      (∃ e, (fileOp v op).1 = .error e) ∧ ¬ ((pathMap v).Allowed op ∧ HasRoom v op) ∧
        pathMap (fileOp v op).2 = pathMap v) := by
  cases op with
  | create path =>
      obtain ⟨htree, ⟨⟨n, hn⟩, hall, hmap⟩ | ⟨⟨e, he⟩, hall, hmap⟩⟩ :=
        h.vfsMake_refines .file hop.1 hop.2
      · exact ⟨htree, Or.inl ⟨congrArg (Except.map fun _ => ()) hn, hall, hmap⟩⟩
      · exact ⟨htree, Or.inr ⟨⟨e, congrArg (Except.map fun _ => ()) he⟩, hall, hmap⟩⟩
  | mkdir path =>
      obtain ⟨htree, ⟨⟨n, hn⟩, hall, hmap⟩ | ⟨⟨e, he⟩, hall, hmap⟩⟩ :=
        h.vfsMake_refines .dir hop.1 hop.2
      · exact ⟨htree, Or.inl ⟨congrArg (Except.map fun _ => ()) hn, hall, hmap⟩⟩
      · exact ⟨htree, Or.inr ⟨⟨e, congrArg (Except.map fun _ => ()) he⟩, hall, hmap⟩⟩
  | delete path =>
      dsimp only [fileOp]
      rcases vfsDelete_cases v path with ⟨idx, hd⟩ | ⟨e, he⟩
      · have hsame := persistIf_same (pathShouldPersist path) (Orizon.removeInode v idx)
        rw [vfsDelete_ok hd]
        refine ⟨hsame.canonicalTree (h.removeInode hd),
          Or.inl ⟨rfl, ⟨h.deletable_iff.mp ⟨idx, hd⟩, trivial⟩, ?_⟩⟩
        rw [hsame.pathMap_eq, h.pathMap_removeInode hd]
        rfl
      · rw [he]
        refine ⟨h, Or.inr ⟨⟨e, rfl⟩, fun hall => ?_, rfl⟩⟩
        obtain ⟨idx, hd⟩ := h.deletable_iff.mpr hall.1
        rw [vfsDelete_ok hd] at he
        cases (Prod.mk.inj he).1
  | rename oldpath newpath =>
      dsimp only [fileOp]
      rcases vfsRename_cases v oldpath newpath with ⟨idx, parent, hr⟩ | ⟨e, he⟩
      · have hsame := persistIf_same (pathShouldPersist oldpath || pathShouldPersist newpath)
          (Orizon.renamed v idx parent oldpath newpath)
        have hok : vfsRename v oldpath newpath = (.ok (), persistIf
            (pathShouldPersist oldpath || pathShouldPersist newpath)
            (Orizon.renamed v idx parent oldpath newpath)) := vfsRename_ok hr
        rw [hok]
        refine ⟨hsame.canonicalTree (h.renamed hop hr),
          Or.inl ⟨rfl, ⟨(h.renamable_iff hop).mp ⟨idx, parent, hr⟩, trivial⟩, ?_⟩⟩
        rw [hsame.pathMap_eq, h.pathMap_renamed hop hr]
      · rw [he]
        refine ⟨h, Or.inr ⟨⟨e, rfl⟩, fun hall => ?_, rfl⟩⟩
        obtain ⟨idx, parent, hr⟩ := (h.renamable_iff hop).mpr hall.1
        rw [vfsRename_ok hr] at he
        cases (Prod.mk.inj he).1

/-- `vfs_init` makes a tree. -/
theorem canonicalTree_boot (heap : H) (disk : Disk) (persist : Persist) :
    CanonicalTree (vfsInit (bootVfs heap disk persist)) := by
  have hone : ∀ {i}, i < 1 → i = 0 := Nat.lt_one_iff.mp
  rw [vfsInit_bootVfs_eq]
  refine ⟨⟨Nat.one_pos, rfl, rfl, rfl, fun i j hi hj _ => ?_, fun i hi hne => ?_⟩, rfl,
    fun i hi => ?_⟩
  · rw [hone hi, hone hj]
  · exact absurd (hone hi) hne
  · rw [hone hi]
    exact canonical_slash

end Refine

theorem canonical_slash_a : Canonical (cstr "/a") := by
  refine ⟨rfl, fun _ => by decide, fun i hi => ?_, by decide⟩
  have hlt : i < 2 := (List.getElem?_eq_some_iff.mp hi).1
  obtain rfl | rfl : i = 0 ∨ i = 1 := by omega
  · decide
  · exact absurd hi (by decide)

/-- Making `/a` after boot. -/
theorem fileOp_refines_boot :
    pathMap (fileOp (vfsInit (bootVfs KernelHeap.boot noDisk bootPersist)) (.mkdir (cstr "/a"))).2 =
      Function.update (pathMap (vfsInit (bootVfs KernelHeap.boot noDisk bootPersist)))
        (cstr "/a") (some (.dir, [])) := by
  have hroot : pathMap (vfsInit (bootVfs KernelHeap.boot noDisk bootPersist))
      (getParentPath (cstr "/a")) = some (.dir, []) := by decide +kernel
  have hop : CanonicalOp (pathMap (vfsInit (bootVfs KernelHeap.boot noDisk bootPersist)))
      (.mkdir (cstr "/a")) :=
    ⟨canonical_slash_a, fun bytes hfile => by rw [hroot] at hfile; cases hfile⟩
  obtain ⟨-, ⟨-, -, hmap⟩ | ⟨-, hno, -⟩⟩ :=
    fileOp_refines (canonicalTree_boot KernelHeap.boot noDisk bootPersist) (.mkdir (cstr "/a")) hop
  · exact hmap
  · have hroom : (vfsInit (bootVfs KernelHeap.boot noDisk bootPersist)).inodeCount < maxFiles := by
      decide +kernel
    exact absurd ⟨⟨by decide +kernel, ⟨_, hroot⟩⟩, hroom⟩ hno

end Orizon
