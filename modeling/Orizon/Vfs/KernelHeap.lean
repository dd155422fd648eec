import Orizon.Kmalloc.Run
import Orizon.Vfs.State

/-!
# Orizon.Vfs.KernelHeap

The kernel's allocator under the file system: a heap session that satisfies
the allocator's invariant, with the calls of `mm/kmalloc.c`.
-/

namespace Orizon

/-- A heap with the allocator's invariant. -/
structure KernelHeap where
  session : HeapSession
  inv : session.Inv

namespace KernelHeap

theorem inv_kmallocInit (h : KernelHeap) :
    HeapSession.Inv ⟨kmallocInit h.session.heap, h.session.live⟩ :=
  Or.inr (kept_kmallocInit h.inv)

theorem inv_kmalloc (h : KernelHeap) {size ptr : Nat} {heap : Heap}
    (hrun : kmalloc h.session.heap size = some (ptr, heap)) (hlt : size + 64 < 2 ^ 64) :
    HeapSession.Inv ⟨heap, recordAlloc h.session.live ptr size⟩ := by
  obtain ⟨ptr', heap', hrun', hk, -, -⟩ := kmalloc_kept (kept_kmallocInit h.inv)
    (show Unwrapped _ size from Or.inl (by omega))
  rw [kmalloc_kmallocInit, hrun] at hrun'
  obtain ⟨rfl, rfl⟩ := Prod.mk.inj (Option.some.inj hrun')
  exact Or.inr hk

/-- `kmalloc` for the file system, which never asks for a size that wraps. -/
def malloc (h : KernelHeap) (size : Nat) : Option DataBuf × KernelHeap :=
  if hlt : size + 64 < 2 ^ 64 then
    match hrun : kmalloc h.session.heap size with
    | none => (none, h)
    | some (ptr, heap) =>
        (if ptr = 0 then none else some ⟨ptr, fun i => heap.mem (ptr + i)⟩,
          ⟨_, h.inv_kmalloc hrun hlt⟩)
  else (none, h)

/-- `kfree` of a live pointer. -/
def free (h : KernelHeap) (ptr : Nat) : KernelHeap :=
  match hlive : h.session.live ptr with
  | none => h
  | some _ => ⟨⟨kfree h.session.heap ptr, recordFree h.session.live ptr⟩,
      Or.inr (kfree_kept (kept_of_live h.inv hlive) hlive)⟩

instance : Allocator KernelHeap where
  init h := ⟨_, h.inv_kmallocInit⟩
  malloc := malloc
  free := free

/-- The heap at boot. -/
def boot : KernelHeap := ⟨bootSession, HeapSession.Boot.inv ⟨rfl, fun _ => rfl⟩⟩

end KernelHeap

end Orizon
