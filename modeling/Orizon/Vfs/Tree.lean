import Orizon.Vfs.State

/-!
# Orizon.Vfs.Tree

The functions of `fs/vfs.c` that edit the inode table: creation, removal with
the swap of the last entry, recursive deletion, and the parents of a path.
-/

namespace Orizon

variable {H : Type}

/-! ## Creation -/

/-- `create_inode`: the index of the new entry. -/
def createInode (v : Vfs H) (path : CStr) (type : InodeType) : Except Errno Nat × Vfs H :=
  if v.inodeCount ≥ maxFiles then (.error .enospc, v)
  else if (findInode v path).isSome then (.error .eexist, v)
  else
    let parent := findInode v (getParentPath path)
    if path ≠ [slash] ∧ parent = none then (.error .enoent, v)
    else
      let idx := v.inodeCount
      let node : Inode :=
        { name := getFilename path
          path := strCpy maxPath path
          type
          data := none
          size := 0
          capacity := 0
          parent }
      (.ok idx, { v.setInode idx node with inodeCount := idx + 1 })

/-- `vfs_init`. -/
def vfsInit [Allocator H] (v : Vfs H) : Vfs H :=
  if v.vfsInitialized then v
  else
    let v := { v with
      heap := Allocator.init v.heap
      inodes := fun _ => Inode.zero
      openFiles := fun _ => File.zero
      inodeCount := 0 }
    let v := (createInode v [slash] .dir).2
    { v with vfsInitialized := true }

/-- The loop of `ensure_parent_dirs`: `cur` is the path so far and `p` the rest.
`p` shortens in every round, so its length is enough fuel. -/
def ensureParentLoop (v : Vfs H) (cur p : CStr) : Nat → Except Errno Unit × Vfs H
  | 0 => (.ok (), v)
  | fuel + 1 =>
      if p = [] then (.ok (), v)
      else
        let component := p.takeWhile (· ≠ slash)
        let rest := p.drop component.length
        if rest = [] then (.ok (), v) -- final component
        else
          match appendPathComponent cur maxPath component with
          | none => (.error .enametoolong, v)
          | some cur =>
              if (findInode v cur).isSome then
                ensureParentLoop v cur (rest.dropWhile (· = slash)) fuel
              else
                match createInode v cur .dir with
                | (.error _, v) => (.error .enoent, v)
                | (.ok _, v) => ensureParentLoop v cur (rest.dropWhile (· = slash)) fuel

/-- `ensure_parent_dirs`. -/
def ensureParentDirs (v : Vfs H) (path : CStr) : Except Errno Unit × Vfs H :=
  match path with
  | [] => (.error .einval, v)
  | c :: p => if c ≠ slash then (.error .einval, v) else ensureParentLoop v [slash] p p.length

/-! ## Removal -/

/-- `find_child_inode`. -/
def findChildInode (v : Vfs H) (parent : Nat) : Option Nat :=
  (List.range v.inodeCount).find? fun i => (v.inodes i).parent = some parent

/-- The table after the last entry moved to `idx` and its children were
re-parented. -/
def moveLastInode (v : Vfs H) (idx : Nat) : Nat → Inode :=
  let last := v.inodeCount - 1
  let inodes := Function.update v.inodes idx (v.inodes last)
  fun i =>
    if i < last ∧ (inodes i).parent = some last then { inodes i with parent := some idx }
    else inodes i

/-- The end of `delete_inode_index` and of `vfs_delete`: free the data, move
the last entry into the hole, and shrink the table. -/
def removeInode [Allocator H] (v : Vfs H) (idx : Nat) : Vfs H :=
  let v := v.freeData (v.inodes idx).data
  { v with
    inodes := if idx < v.inodeCount - 1 then moveLastInode v idx else v.inodes
    inodeCount := v.inodeCount - 1 }

mutual

/-- `delete_inode_index`; `none` when the fuel runs out. -/
def deleteInodeIndex [Allocator H] (fuel : Nat) (v : Vfs H) (idx : Nat) : Option (Vfs H) :=
  match fuel with
  | 0 => none
  | fuel + 1 =>
      if idx = 0 ∨ idx ≥ v.inodeCount then some v
      else (deleteChildren fuel v idx).map fun v => removeInode v idx

/-- The loop of `delete_inode_index` that deletes the children of `idx`. -/
def deleteChildren [Allocator H] (fuel : Nat) (v : Vfs H) (idx : Nat) : Option (Vfs H) :=
  match fuel with
  | 0 => none
  | fuel + 1 =>
      match findChildInode v idx with
      | none => some v
      | some child =>
          match deleteInodeIndex fuel v child with
          | none => none
          | some v => deleteChildren fuel v idx

end

/-- The loop of `clear_directory_contents`, with the directory at `root`. -/
def clearLoop [Allocator H] (path : CStr) : Nat → Vfs H → Nat → Option (Vfs H)
  | 0, _, _ => none
  | fuel + 1, v, root =>
      match findChildInode v root with
      | none => some v
      | some child =>
          match deleteInodeIndex fuel v child with
          | none => none
          | some v =>
              match findInode v path with
              | none => some v
              | some root => clearLoop path fuel v root

/-- `clear_directory_contents`. -/
def clearDirectoryContents [Allocator H] (fuel : Nat) (v : Vfs H) (path : CStr) :
    Option (Vfs H) :=
  match findInode v path with
  | none => some v
  | some root => clearLoop path fuel v root

end Orizon
