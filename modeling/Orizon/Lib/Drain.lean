import Mathlib.Data.List.Basic
import Mathlib.Data.List.Infix

/-!
# Orizon.Lib.Drain

A buffer that is drained from the front in chunks while it may still grow at the
end, or be filled anew.

What went out since it was last filled anew is the part of the buffer before the
offset (`Sent`), so nothing is lost, repeated or reordered, however the filling
and the draining alternate.
-/

namespace Orizon

/-- A buffer, and how much of it went out. -/
structure Drain (α : Type*) where
  buffer : List α
  off : Nat

namespace Drain

variable {α : Type*}

/-- The next at most `n` elements. -/
def chunk (n : Nat) (d : Drain α) : List α := (d.buffer.drop d.off).take n

/-- The buffer grows at its end, or is filled anew, within its capacity. -/
structure Fills (cap : Nat) (d d' : Drain α) : Prop where
  grows : d'.off = d.off ∧ d.buffer <+: d'.buffer ∨ d'.off = 0
  fits : d.buffer.length ≤ cap → d'.buffer.length ≤ cap

/-- What went out since the buffer was last filled anew is `out`. -/
def Sent (d : Drain α) (out : List α) : Prop := d.off = 0 ∨ out = d.buffer.take d.off

/-- What went out after the next chunk. -/
def emit (n : Nat) (d : Drain α) (out : List α) : List α :=
  (if d.off = 0 then [] else out) ++ d.chunk n

variable {cap n : Nat} {d d' d'' : Drain α} {out : List α}

theorem Fills.refl (cap : Nat) (d : Drain α) : Fills cap d d := ⟨.inl ⟨rfl, List.prefix_rfl⟩, id⟩

theorem Fills.trans (h : Fills cap d d') (h' : Fills cap d' d'') : Fills cap d d'' := by
  refine ⟨?_, h'.fits ∘ h.fits⟩
  obtain ⟨hoff', hgrow'⟩ | hnew' := h'.grows
  · obtain ⟨hoff, hgrow⟩ | hnew := h.grows
    · exact .inl ⟨hoff'.trans hoff, hgrow.trans hgrow'⟩
    · exact .inr (hoff'.trans hnew)
  · exact .inr hnew'

/-- Filling keeps what went out, as long as it went out of the buffer. -/
theorem Sent.fills (h : d.Sent out) (hoff : d.off ≤ d.buffer.length) (hfill : Fills cap d d') :
    d'.Sent out := by
  obtain ⟨hsame, hgrow⟩ | hnew := hfill.grows
  · obtain hzero | hout := h
    · exact .inl (hsame.trans hzero)
    · obtain ⟨rest, hrest⟩ := hgrow
      exact .inr (by rw [hout, hsame, ← hrest, List.take_append_of_le_length hoff])
  · exact .inl hnew

theorem Fills.off_le (h : Fills cap d d') (hoff : d.off ≤ d.buffer.length) :
    d'.off ≤ d'.buffer.length := by
  obtain ⟨hsame, hgrow⟩ | hnew := h.grows
  · rw [hsame]
    exact Nat.le_trans hoff hgrow.length_le
  · rw [hnew]
    exact Nat.zero_le _

theorem Sent.emit_eq (h : d.Sent out) :
    d.emit n out = d.buffer.take (d.off + (d.chunk n).length) := by
  have hchunk : d.chunk n = (d.buffer.drop d.off).take (d.chunk n).length := by
    unfold chunk
    rw [List.length_take, List.take_eq_take_iff]
    omega
  have hpart : (if d.off = 0 then [] else out) = d.buffer.take d.off := by
    by_cases hzero : d.off = 0
    · rw [if_pos hzero, hzero, List.take_zero]
    · rw [if_neg hzero, h.resolve_left hzero]
  rw [emit, hpart, List.take_add, ← hchunk]

theorem off_chunk_le (hoff : d.off ≤ d.buffer.length) :
    d.off + (d.chunk n).length ≤ d.buffer.length := by
  unfold chunk
  rw [List.length_take, List.length_drop]
  omega

end Drain

end Orizon
