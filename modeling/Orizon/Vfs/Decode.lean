import Orizon.Vfs.Handles
import Orizon.Vfs.Quiet

/-!
# Orizon.Vfs.Decode

What the entry loop of `persist_apply_snapshot_entries` does with a buffer: it is the
decoding of the buffer into entries that follow each other below the limit, and
`applyEntry` for each of them (`applyEntries_eq`).

An entry changes the table at its own path only, and adds that path and missing
parents of it; all of these are inside the persistent roots (`applyEntry_touches`).
-/

namespace Orizon

/-! ## Entries -/

/-- An entry of a snapshot, and where it starts. -/
structure SnapshotEntry where
  offset : Nat
  pathLen : Nat
  type : Nat
  path : CStr
  data : List UInt8

/-- Where the next entry starts. -/
def SnapshotEntry.stop (e : SnapshotEntry) : Nat := e.offset + 7 + e.pathLen + e.data.length

/-- The entry at `offset` of the payload that ends at `limit`, unless it is malformed. -/
def snapshotEntryAt (buf : Mem) (limit offset : Nat) : Option SnapshotEntry :=
  let pathLen := getU16 buf (offset + 1)
  let dataSize := getU32 buf (offset + 3)
  if offset + 7 > limit ∨ pathLen = 0 ∨ pathLen ≥ maxPath ∨ offset + 7 + pathLen + dataSize > limit then none
  else some
    { offset
      pathLen
      type := (buf offset).toNat
      path := toCStr (bufBytes buf (offset + 7) pathLen)
      data := bufBytes buf (offset + 7 + pathLen) dataSize }

/-- At most `n` entries from `offset`, up to the first malformed one. -/
def snapshotEntries (buf : Mem) (limit offset : Nat) : Nat → List SnapshotEntry
  | 0 => []
  | n + 1 =>
      match snapshotEntryAt buf limit offset with
      | none => []
      | some e => e :: snapshotEntries buf limit e.stop n

/-- The loop skips the entry, or knows its type. -/
def SnapshotEntry.WellTyped (e : SnapshotEntry) : Prop :=
  ¬ pathShouldPersist e.path ∨ pathIsPersistentRoot e.path ∨ e.type = 0 ∨ e.type = 1

/-- The loop does not skip the entry. -/
def SnapshotEntry.Applied (e : SnapshotEntry) : Prop :=
  pathShouldPersist e.path ∧ ¬ pathIsPersistentRoot e.path

/-- The entry is what the buffer holds at its offset, below the limit: its path, and
right behind it the `data_size` bytes of its data. -/
structure SnapshotEntry.In (e : SnapshotEntry) (buf : Mem) (limit : Nat) : Prop where
  type_eq : e.type = (buf e.offset).toNat
  pathLen_eq : e.pathLen = getU16 buf (e.offset + 1)
  pathLen_pos : 0 < e.pathLen
  pathLen_lt : e.pathLen < maxPath
  path_eq : e.path = toCStr (bufBytes buf (e.offset + 7) e.pathLen)
  dataSize : e.data.length = getU32 buf (e.offset + 3)
  data_eq : e.data = bufBytes buf (e.offset + 7 + e.pathLen) e.data.length
  stop_le : e.stop ≤ limit

/-- The entries follow each other from `offset`. -/
def Consecutive (buf : Mem) (limit : Nat) : Nat → List SnapshotEntry → Prop
  | _, [] => True
  | offset, e :: es => e.offset = offset ∧ e.In buf limit ∧ Consecutive buf limit e.stop es

section Decoding

variable {buf buf' : Mem} {limit offset : Nat} {e : SnapshotEntry}

@[simp] theorem length_bufBytes (buf : Mem) (off len : Nat) : (bufBytes buf off len).length = len := by
  simp [bufBytes]

theorem snapshotEntryAt_in (h : snapshotEntryAt buf limit offset = some e) :
    e.offset = offset ∧ e.In buf limit := by
  unfold snapshotEntryAt at h
  dsimp only at h
  split at h
  · cases h
  next hfits =>
  obtain rfl := Option.some.inj h
  simp only [not_or, Nat.not_lt, gt_iff_lt, ge_iff_le, Nat.not_le] at hfits
  obtain ⟨-, hpos, hlt, hstop⟩ := hfits
  exact ⟨rfl, rfl, rfl, Nat.pos_of_ne_zero hpos, hlt, rfl, length_bufBytes .., by rw [length_bufBytes],
    by simpa [SnapshotEntry.stop] using hstop⟩

theorem snapshotEntries_consecutive (buf : Mem) (limit offset n : Nat) :
    Consecutive buf limit offset (snapshotEntries buf limit offset n) := by
  induction n generalizing offset with
  | zero => trivial
  | succ n ih =>
      unfold snapshotEntries
      split
      · trivial
      next e he =>
        obtain ⟨hoffset, hin⟩ := snapshotEntryAt_in he
        exact ⟨hoffset, hin, ih e.stop⟩

theorem bufBytes_congr {off len : Nat} (h : ∀ i, i < limit → buf' i = buf i) (hle : off + len ≤ limit) :
    bufBytes buf' off len = bufBytes buf off len :=
  List.map_congr_left fun i hi => h (off + i) (by
    have hlt := List.mem_range.mp hi
    omega)

theorem snapshotEntryAt_congr (h : ∀ i, i < limit → buf' i = buf i) (offset : Nat) :
    snapshotEntryAt buf' limit offset = snapshotEntryAt buf limit offset := by
  unfold snapshotEntryAt
  by_cases hhead : offset + 7 > limit
  · simp [hhead]
  have hu16 : getU16 buf' (offset + 1) = getU16 buf (offset + 1) :=
    load_congr fun x _ hx => h x (by omega)
  have hu32 : getU32 buf' (offset + 3) = getU32 buf (offset + 3) :=
    load_congr fun x _ hx => h x (by omega)
  dsimp only
  rw [hu16, hu32, h offset (by omega)]
  split
  · rfl
  next hfits =>
    simp only [not_or, Nat.not_lt, gt_iff_lt] at hfits
    rw [bufBytes_congr h (by omega), bufBytes_congr h (by omega)]

theorem snapshotEntries_congr (h : ∀ i, i < limit → buf' i = buf i) (offset n : Nat) :
    snapshotEntries buf' limit offset n = snapshotEntries buf limit offset n := by
  induction n generalizing offset with
  | zero => rfl
  | succ n ih =>
      unfold snapshotEntries
      rw [snapshotEntryAt_congr h]
      split
      · rfl
      · rw [ih]

end Decoding

/-! ## The loop -/

section Loop

variable {H : Type} [Allocator H]

/-- `applyEntry` of a decoded entry. -/
def SnapshotEntry.apply (e : SnapshotEntry) (v : Vfs H) : Vfs H := (applyEntry v e.type e.path e.data).2

theorem applyEntry_wellTyped (v : Vfs H) (e : SnapshotEntry) :
    (applyEntry v e.type e.path e.data).1 = true ↔ e.WellTyped := by
  unfold applyEntry SnapshotEntry.WellTyped
  split
  next hskip => exact iff_of_true rfl (hskip.imp id .inl)
  next happly =>
  obtain ⟨hpersist, hroot⟩ := not_or.mp happly
  dsimp only
  split
  next htype => simp [htype]
  · split
    next htype =>
      split <;> simp [htype]
    next hdir hfile => simp [hdir, hfile, not_not.mp hpersist, hroot]

theorem applyEntries_eq (buf : Mem) (limit : Nat) (v : Vfs H) (offset n : Nat) :
    (applyEntries buf limit v offset n).2 =
        (snapshotEntries buf limit offset n).foldl (fun v e => e.apply v) v ∧
      ((applyEntries buf limit v offset n).1 = true ↔
        (snapshotEntries buf limit offset n).length = n ∧
          ∀ e ∈ snapshotEntries buf limit offset n, e.WellTyped) := by
  induction n generalizing v offset with
  | zero => simp [applyEntries, snapshotEntries]
  | succ n ih =>
      unfold applyEntries snapshotEntries snapshotEntryAt
      by_cases hhead : offset + 7 > limit
      · simp [hhead]
      dsimp only
      rw [if_neg hhead]
      by_cases hbad : getU16 buf (offset + 1) = 0 ∨ getU16 buf (offset + 1) ≥ maxPath ∨
          offset + 7 + getU16 buf (offset + 1) + getU32 buf (offset + 3) > limit
      · rw [if_pos hbad, if_pos (.inr hbad)]
        simp
      rw [if_neg hbad, if_neg (by simp [hhead, hbad])]
      dsimp only
      generalize he : SnapshotEntry.mk offset (getU16 buf (offset + 1)) (buf offset).toNat
        (toCStr (bufBytes buf (offset + 7) (getU16 buf (offset + 1))))
        (bufBytes buf (offset + 7 + getU16 buf (offset + 1)) (getU32 buf (offset + 3))) = e
      have hstop : e.stop = offset + 7 + getU16 buf (offset + 1) + getU32 buf (offset + 3) := by
        rw [← he, SnapshotEntry.stop, length_bufBytes]
      have htype : (buf offset).toNat = e.type := by rw [← he]
      have hpath : toCStr (bufBytes buf (offset + 7) (getU16 buf (offset + 1))) = e.path := by rw [← he]
      have hdata : bufBytes buf (offset + 7 + getU16 buf (offset + 1)) (getU32 buf (offset + 3)) =
          e.data := by
        rw [← he]
      obtain ⟨hstate, hflag⟩ := ih (e.apply v) e.stop
      have htyped := applyEntry_wellTyped v e
      rw [htype, hpath, hdata, ← hstop]
      refine ⟨hstate, ?_⟩
      rw [Bool.and_eq_true, htyped, List.length_cons, Nat.add_right_cancel_iff, List.forall_mem_cons]
      exact (and_congr_right fun _ => hflag).trans and_left_comm

end Loop

/-! ## What an entry touches -/

section Touches

variable {H : Type}

/-- The path lies strictly inside a persistent root. -/
def InsideRoot (path : CStr) : Prop := ∃ root ∈ persistentRoots, ∃ rest, path = root ++ slash :: rest

/-- Table entries are changed at paths `p` only, and new ones are inside the persistent
roots or are such roots that were missing. -/
structure Touches (p : CStr → Prop) (v w : Vfs H) : Prop where
  initialized : w.vfsInitialized = v.vfsInitialized
  count : v.inodeCount ≤ w.inodeCount
  paths : ∀ i, i < v.inodeCount → (w.inodes i).path = (v.inodes i).path
  kept : ∀ i, i < v.inodeCount → ¬ p (v.inodes i).path.val → w.inodes i = v.inodes i
  created : ∀ i, v.inodeCount ≤ i → i < w.inodeCount →
    (w.inodes i).path.val ∈ persistentRoots ∨ InsideRoot (w.inodes i).path.val

variable {v w u : Vfs H} {p q : CStr → Prop} {path : CStr}

theorem Touches.refl (p : CStr → Prop) (v : Vfs H) : Touches p v v :=
  ⟨rfl, Nat.le_refl _, fun _ _ => rfl, fun _ _ _ => rfl, fun i hge hlt => absurd hge (by omega)⟩

theorem Touches.trans (h : Touches p v w) (h' : Touches p w u) : Touches p v u where
  initialized := h'.initialized.trans h.initialized
  count := Nat.le_trans h.count h'.count
  paths := fun i hi => (h'.paths i (Nat.lt_of_lt_of_le hi h.count)).trans (h.paths i hi)
  kept := by
    intro i hi hp
    have hw : ¬ p (w.inodes i).path.val := by rwa [h.paths i hi]
    exact (h'.kept i (Nat.lt_of_lt_of_le hi h.count) hw).trans (h.kept i hi hp)
  created := by
    intro i hge hlt
    obtain hold | hnew := Nat.lt_or_ge i w.inodeCount
    · rw [h'.paths i hold]
      exact h.created i hge hold
    · exact h'.created i hnew hlt

theorem Touches.mono (h : Touches p v w) (hpq : ∀ path, p path → q path) : Touches q v w :=
  ⟨h.initialized, h.count, h.paths, fun i hi hq => h.kept i hi fun hp => hq (hpq _ hp), h.created⟩

theorem SameFiles.touches (h : SameFiles v w) : Touches p v w :=
  ⟨h.vfsInitialized, h.inodeCount.ge, fun _ _ => by rw [h.inodes], fun _ _ _ => by rw [h.inodes],
    fun i hge hlt => absurd hge (by rw [h.inodeCount] at hlt; omega)⟩

theorem touches_addInode {type : InodeType} (hlen : path.length < maxPath)
    (hpath : path ∈ persistentRoots ∨ InsideRoot path) : Touches p v (addInode v path type) where
  initialized := rfl
  count := Nat.le_succ _
  paths := fun i hi => by rw [inodes_addInode_of_lt hi]
  kept := fun i hi _ => inodes_addInode_of_lt hi
  created := by
    intro i hge hlt
    obtain rfl : i = v.inodeCount := Nat.le_antisymm (Nat.le_of_lt_succ hlt) hge
    rw [inodes_addInode_self, newInode]
    dsimp only
    rwa [strCpy_of_lt hlen]

theorem touches_createInode (type : InodeType) (hlen : path.length < maxPath)
    (hpath : path ∈ persistentRoots ∨ InsideRoot path) : Touches p v (createInode v path type).2 := by
  obtain hc | ⟨e, he⟩ := createInode_cases v path type
  · rw [createInode_ok type hc]
    exact touches_addInode hlen hpath
  · rw [he]
    exact .refl p v

theorem insideRoot_of_applied (hpersist : pathShouldPersist path = true)
    (hroot : ¬ pathIsPersistentRoot path = true) : InsideRoot path := by
  unfold pathShouldPersist at hpersist
  unfold pathIsPersistentRoot at hroot
  obtain ⟨root, hmem, hinside⟩ := List.any_eq_true.mp hpersist
  obtain ⟨s, rfl, rfl | ⟨rest, rfl⟩⟩ := pathIsInside_iff.mp hinside
  · refine absurd (List.any_eq_true.mpr ⟨root, hmem, ?_⟩) hroot
    simp
  · exact ⟨root, hmem, rest, rfl⟩

/-! ### Parents -/

theorem insideRoot_append (h : path ∈ persistentRoots ∨ InsideRoot path) (t : CStr) :
    InsideRoot (path ++ slash :: t) := by
  obtain hroot | ⟨root, hroot, rest, rfl⟩ := h
  · exact ⟨path, hroot, t, rfl⟩
  · exact ⟨root, hroot, rest ++ slash :: t, by simp⟩

theorem appendPathComponent_some {size : Nat} {component path' : CStr} (hlong : 1 < path.length)
    (h : appendPathComponent path size component = some path') :
    path' = path ∨ path' = path ++ slash :: component ∧ path'.length < size := by
  unfold appendPathComponent at h
  split at h
  · exact .inl (Option.some.inj h).symm
  split at h
  · cases h
  dsimp only at h
  split at h
  · cases h
  next hfits =>
    obtain rfl := Option.some.inj h
    exact .inr ⟨by simp, by
      rw [List.length_append]
      omega⟩

theorem touches_ensureParentLoop (fuel : Nat) (v : Vfs H) (cur rest : CStr) (hlong : 1 < cur.length)
    (hlen : cur.length < maxPath) (hcur : cur ∈ persistentRoots ∨ InsideRoot cur) :
    Touches p v (ensureParentLoop v cur rest fuel).2 := by
  induction fuel generalizing v cur rest with
  | zero => exact .refl p v
  | succ fuel ih =>
      unfold ensureParentLoop
      split
      · exact .refl p v
      dsimp only
      split
      · exact .refl p v
      split
      · exact .refl p v
      next cur' happend =>
      have hcur' : 1 < cur'.length ∧ cur'.length < maxPath ∧
          (cur' ∈ persistentRoots ∨ InsideRoot cur') := by
        obtain rfl | ⟨rfl, hfits⟩ := appendPathComponent_some hlong happend
        · exact ⟨hlong, hlen, hcur⟩
        · exact ⟨by rw [List.length_append]; omega, hfits, .inr (insideRoot_append hcur _)⟩
      obtain ⟨hlong', hlen', hgood'⟩ := hcur'
      split
      · exact ih v cur' _ hlong' hlen' hgood'
      · have hcreate : Touches p v (createInode v cur' .dir).2 :=
          touches_createInode .dir hlen' hgood'
        split <;> next heq =>
          rw [heq] at hcreate
          first
          | exact hcreate
          | exact hcreate.trans (ih _ cur' _ hlong' hlen' hgood')

/-- The parents of a path inside a root are that root and paths inside it. -/
theorem touches_ensureParentDirs (v : Vfs H) (hinside : InsideRoot path) :
    Touches p v (ensureParentDirs v path).2 := by
  obtain ⟨root, hroot, rest, rfl⟩ := hinside
  obtain ⟨name, rfl, hname, hne, hshort⟩ : ∃ name, root = slash :: name ∧ slash ∉ name ∧ name ≠ [] ∧
      name.length < 16 := by
    have hall : ∀ root ∈ persistentRoots, root.head? = some slash ∧ slash ∉ root.tail ∧ root.tail ≠ [] ∧
        root.tail.length < 16 := by decide
    obtain ⟨hhead, hrest⟩ := hall root hroot
    cases root with
    | nil => cases hhead
    | cons c name =>
        obtain rfl := Option.some.inj hhead
        exact ⟨name, rfl, hrest⟩
  rw [List.cons_append, ensureParentDirs, if_neg (not_not.mpr rfl), List.length_append, List.length_cons,
    ← Nat.add_assoc, ensureParentLoop, if_neg (by simp)]
  have hcomponent : (name ++ slash :: rest).takeWhile (· ≠ slash) = name := by
    have hall : ∀ c ∈ name, decide (c ≠ slash) = true := by
      intro c hc
      refine decide_eq_true ?_
      rintro rfl
      exact hname hc
    rw [List.takeWhile_append_of_pos hall]
    simp
  have happend : appendPathComponent [slash] maxPath name = some (slash :: name) := by
    unfold appendPathComponent
    rw [if_neg (by simpa using hne), if_neg (by simp)]
    show (if [slash].length + name.length ≥ maxPath then none else some ([slash] ++ name)) = some (slash :: name)
    rw [if_neg (by simp [maxPath]; omega)]
    rfl
  have hlong : 1 < (slash :: name).length := by
    have hpos := List.length_pos_iff.mpr hne
    rw [List.length_cons]
    omega
  have hlen : (slash :: name).length < maxPath := by
    simp [maxPath]
    omega
  dsimp only
  rw [hcomponent, List.drop_left, if_neg (List.cons_ne_nil _ _), happend]
  dsimp only
  split
  · exact touches_ensureParentLoop _ v _ _ hlong hlen (.inl hroot)
  · have hcreate : Touches p v (createInode v (slash :: name) .dir).2 :=
      touches_createInode .dir hlen (.inl hroot)
    split <;> next heq =>
      rw [heq] at hcreate
      first
      | exact hcreate
      | exact hcreate.trans (touches_ensureParentLoop _ _ _ _ hlong hlen (.inl hroot))

theorem touches_vfsClose (v : Vfs H) (fd : Nat) : Touches p v (vfsClose v fd) := by
  have hclosed : Touches p v (v.closeFile fd) :=
    ⟨rfl, Nat.le_refl _, fun _ _ => rfl, fun _ _ _ => rfl, fun i hge hlt => absurd hge (Nat.not_le_of_lt hlt)⟩
  obtain hsame | heq := vfsClose_state v fd
  · exact hclosed.trans hsame.touches
  · rw [heq]
    exact .refl p v

/-! ### Entries -/

section Entry

variable [Allocator H]

theorem touches_opened {fd idx flags : Nat} (hidx : p (v.inodes idx).path.val) :
    Touches p v (opened v fd idx flags) := by
  have hshape := opened_shape v fd idx flags
  refine ⟨?_, hshape.1.ge, fun i _ => (hshape.2 i).1, fun i _ hp => ?_, fun i hge hlt => ?_⟩
  · rw [vfsInitialized_opened]
  · have hne : i ≠ idx := by
      rintro rfl
      exact hp hidx
    unfold opened openInode
    split
    · rfl
    · dsimp only
      split
      · simp [truncateInode, Vfs.setInode, Function.update_of_ne hne]
      · rfl
  · rw [hshape.1] at hlt
    omega

theorem touches_vfsOpen (flags : Nat) (hinit : v.vfsInitialized = true) (hlen : path.length < maxPath)
    (hinside : InsideRoot path) : Touches (· = path) v (vfsOpen v path flags).2 := by
  have hmounted : vfsInit v = v := if_pos hinit
  have hcases := vfsOpen_cases v path flags
  rw [hmounted] at hcases
  obtain ⟨heq, -⟩ | ⟨fd, -, ⟨idx, hidx, -, heq⟩ | ⟨-, -, heq⟩⟩ := hcases
  · rw [heq]
    exact .refl _ v
  · rw [heq]
    exact touches_opened (findInode_some hidx).2
  · rw [heq]
    refine (touches_addInode hlen (.inr hinside)).trans (touches_opened ?_)
    rw [inodes_addInode_self]
    exact strCpy_of_lt hlen

theorem touches_vfsWrite {fd : Nat} (hon : HandleOn v fd path) (bytes : List UInt8) :
    Touches (· = path) v (vfsWrite v fd bytes).2 := by
  obtain ⟨e, heap, heq⟩ | ⟨-, heq⟩ | ⟨heap, data, size, capacity, heq, -⟩ := vfsWrite_cases v fd bytes
  · rw [heq]
    exact ⟨rfl, Nat.le_refl _, fun _ _ => rfl, fun _ _ _ => rfl, fun i hge hlt => absurd hge (by simp at hlt; omega)⟩
  · rw [heq]
    exact .refl _ v
  · rw [heq]
    refine ⟨rfl, Nat.le_refl _, fun i _ => ?_, fun i _ hp => ?_, fun i hge hlt => absurd hge (by simp at hlt; omega)⟩
    · dsimp only [written]
      by_cases hi : i = (v.openFiles fd).inode
      · subst hi
        rw [Function.update_self]
      · rw [Function.update_of_ne hi]
    · dsimp only [written]
      refine Function.update_of_ne ?_ _ _
      rintro rfl
      exact hp hon.named

theorem applyEntry_touches (hinit : v.vfsInitialized = true) (type : Nat) (bytes : List UInt8)
    (hlen : path.length < maxPath) : Touches (· = path) v (applyEntry v type path bytes).2 := by
  unfold applyEntry
  split
  · exact .refl _ v
  next happlied =>
  obtain ⟨hpersist, hroot⟩ := not_or.mp happlied
  have hinside := insideRoot_of_applied (not_not.mp hpersist) hroot
  have hparents : Touches (· = path) v (ensureParentDirs v path).2 := touches_ensureParentDirs v hinside
  dsimp only
  split
  · dsimp only
    split
    · exact hparents
    · exact hparents.trans (touches_createInode .dir hlen (.inr hinside))
  split
  · have hinit' := hparents.initialized.trans hinit
    have hopen := hparents.trans (touches_vfsOpen (oCreat ||| oWronly ||| oTrunc) hinit' hlen hinside)
    split
    next heq =>
      rw [heq] at hopen
      exact hopen
    next heq =>
      have hon := (handleOn_vfsOpen heq hlen).2
      rw [heq] at hopen
      exact (hopen.trans (touches_vfsWrite hon bytes)).trans (touches_vfsClose _ _)
  · exact hparents

theorem length_toCStr_le (bytes : List UInt8) : (toCStr bytes).length ≤ bytes.length := by
  induction bytes with
  | nil => exact Nat.le_refl _
  | cons b bytes ih =>
      unfold toCStr
      split
      · exact Nat.succ_le_succ ih
      · exact Nat.zero_le _

theorem SnapshotEntry.In.length_path_lt {e : SnapshotEntry} {buf : Mem} {limit : Nat} (h : e.In buf limit) :
    e.path.length < maxPath := by
  have hle := length_toCStr_le (bufBytes buf (e.offset + 7) e.pathLen)
  rw [← h.path_eq, length_bufBytes] at hle
  have hlt := h.pathLen_lt
  omega

theorem SnapshotEntry.apply_skipped {e : SnapshotEntry} (h : ¬ e.Applied) (v : Vfs H) : e.apply v = v := by
  unfold SnapshotEntry.apply applyEntry
  rw [if_pos]
  rw [SnapshotEntry.Applied, not_and_or, not_not] at h
  exact h

theorem foldl_apply_touches {buf : Mem} {limit offset : Nat} {entries : List SnapshotEntry}
    (hinit : v.vfsInitialized = true) (h : Consecutive buf limit offset entries) :
    Touches (fun path => ∃ e ∈ entries, e.Applied ∧ e.path = path) v
      (entries.foldl (fun v e => e.apply v) v) := by
  induction entries generalizing v offset with
  | nil => exact .refl _ v
  | cons e entries ih =>
      obtain ⟨-, hin, hrest⟩ := h
      have hfirst : Touches (fun path => ∃ e' ∈ e :: entries, e'.Applied ∧ e'.path = path) v (e.apply v) := by
        by_cases happlied : e.Applied
        · refine (applyEntry_touches hinit e.type e.data hin.length_path_lt).mono ?_
          rintro path rfl
          exact ⟨e, .head _, happlied, rfl⟩
        · rw [e.apply_skipped happlied]
          exact .refl _ v
      refine hfirst.trans ((ih (hfirst.initialized.trans hinit) hrest).mono ?_)
      rintro path ⟨e', hmem, he'⟩
      exact ⟨e', .tail _ hmem, he'⟩

end Entry

/-! ## The loop on an accepted buffer -/

section Accepted

/-- A round of `ensure_parent_dirs` shortens the path that is left. -/
theorem length_nextComponent_lt {rest : CStr} (hne : rest ≠ []) :
    ((rest.drop (rest.takeWhile (· ≠ slash)).length).dropWhile (· = slash)).length < rest.length := by
  induction rest with
  | nil => exact absurd rfl hne
  | cons c rest ih =>
      by_cases hc : c = slash
      · subst hc
        have hle := (List.dropWhile_suffix (l := rest) (· = slash)).length_le
        simp
        omega
      · by_cases hrest : rest = []
        · subst hrest
          simp [hc]
        · have hlt := ih hrest
          have hkept : decide (c ≠ slash) = true := decide_eq_true hc
          rw [List.takeWhile_cons, hkept, if_pos rfl, List.length_cons, List.drop_succ_cons, List.length_cons]
          omega

theorem ensureParentLoop_fuel (rest : CStr) (fuel fuel' : Nat) (h : rest.length ≤ fuel)
    (h' : rest.length ≤ fuel')
    (v : Vfs H) (cur : CStr) : ensureParentLoop v cur rest fuel = ensureParentLoop v cur rest fuel' := by
  induction fuel generalizing fuel' v cur rest with
  | zero =>
      obtain rfl := List.eq_nil_of_length_eq_zero (Nat.le_zero.mp h)
      cases fuel' <;> simp [ensureParentLoop]
  | succ fuel ih =>
      by_cases hne : rest = []
      · subst hne
        cases fuel' <;> simp [ensureParentLoop]
      have hlt := length_nextComponent_lt hne
      obtain ⟨fuel', rfl⟩ : ∃ k, fuel' = k + 1 := Nat.exists_eq_succ_of_ne_zero (by omega)
      have hnext := ih ((rest.drop (rest.takeWhile (· ≠ slash)).length).dropWhile (· = slash)) fuel'
        (by omega) (by omega)
      unfold ensureParentLoop
      dsimp only
      simp only [hnext]

variable [Allocator H]

/-- What the entry loop does with a snapshot of `entryCount` entries and a payload up to
`limit`, in the state `v`. -/
structure LoopInside (buf : Mem) (limit entryCount : Nat) (v : Vfs H) (r : Bool × Vfs H) : Prop where
  /-- The payload ends within the buffer, and the rounds are bounded. -/
  limit_le : limit ≤ persistBytes
  entryCount_le : entryCount ≤ maxFiles
  /-- Bytes at and past the limit do not matter, and the loop does not write the buffer. -/
  reads : ∀ buf', (∀ i, i < limit → buf' i = buf i) →
    applyEntries buf' limit v persistHeaderSize entryCount = r
  buf_eq : r.2.persist.buf = v.persist.buf
  /-- It goes through entries that follow each other below the limit. -/
  consecutive : Consecutive buf limit persistHeaderSize
    (snapshotEntries buf limit persistHeaderSize entryCount)
  applies : r.2 = (snapshotEntries buf limit persistHeaderSize entryCount).foldl (fun v e => e.apply v) v
  /-- Paths that are not skipped are inside the roots, and no other entry is touched. -/
  inside : ∀ e ∈ snapshotEntries buf limit persistHeaderSize entryCount, e.Applied → InsideRoot e.path
  touches : Touches (fun path => ∃ e ∈ snapshotEntries buf limit persistHeaderSize entryCount,
    e.Applied ∧ e.path = path) v r.2
  /-- The parents of every path are ensured in as many rounds as it is long. -/
  parents : ∀ (u : Vfs H) (cur rest : CStr) (fuel : Nat), rest.length ≤ fuel →
    ensureParentLoop u cur rest fuel = ensureParentLoop u cur rest rest.length

theorem applyEntries_congr {buf buf' : Mem} {limit : Nat} (h : ∀ i, i < limit → buf' i = buf i) (v : Vfs H)
    (offset n : Nat) : applyEntries buf' limit v offset n = applyEntries buf limit v offset n := by
  obtain ⟨hstate, hflag⟩ := applyEntries_eq buf limit v offset n
  obtain ⟨hstate', hflag'⟩ := applyEntries_eq buf' limit v offset n
  rw [snapshotEntries_congr h] at hstate' hflag'
  exact Prod.ext (Bool.eq_iff_iff.mpr (hflag'.trans hflag.symm)) (hstate'.trans hstate.symm)

theorem persistSnapshotValidate_sizes {buf : Mem} {slot : Nat} {info : SnapshotMeta}
    (h : persistSnapshotValidate buf slot = some info) :
    persistHeaderSize + info.payloadSize ≤ persistBytes ∧ info.entryCount ≤ maxFiles := by
  unfold persistSnapshotValidate at h
  split at h
  · dsimp only at h
    split at h
    · cases h
    split at h
    · cases h
    next hsizes =>
    split at h
    · cases h
    obtain rfl := Option.some.inj h
    have hheader : persistHeaderSize ≤ persistBytes := by decide
    rw [not_or, Nat.not_lt, Nat.not_lt] at hsizes
    refine ⟨?_, hsizes.1⟩
    calc persistHeaderSize + getU32 buf 16 ≤ persistHeaderSize + (persistBytes - persistHeaderSize) :=
          Nat.add_le_add_left hsizes.2 _
      _ = persistBytes := Nat.add_sub_of_le hheader
  · cases h

end Accepted

/-! ## A snapshot with one file -/

/-- The entry of the file `/home/a` with one byte. -/
def homeEntry : List UInt8 := [0, 7, 0, 1, 0, 0, 0] ++ (cstr "/home/a").map Subtype.val ++ [42]

/-- The header of a snapshot of `homeEntry`: version 2, one entry, its size and checksum. -/
def homeHeader : List UInt8 :=
  persistMagic ++ [0, 2, 0, 0, 0, 1, 0, 0, 0, 15, 0, 0, 0] ++
    (List.range 4).map fun i => UInt8.ofNat (persistChecksum (bytesMem homeEntry) 0 15 / 256 ^ i)

/-- A snapshot of the file `/home/a` with one byte. -/
def homeSnapshot : Mem := fun i =>
  if i < persistHeaderSize then bytesMem homeHeader i else bytesMem homeEntry (i - persistHeaderSize)

/-- The state in which a restore gets to its entry. -/
def restoringVfs : Vfs KernelHeap :=
  (vfsInit (bootVfs KernelHeap.boot noDisk bootPersist)).setPersist
    { bootPersist with loading := true, buf := homeSnapshot }

end Touches

end Orizon
