import Orizon.Lib.LogRing
import Orizon.Vfs.Path

/-!
# Orizon.System.Klog

The kernel log of `system/klog.c`: a ring of `KLOG_BUFFER_SIZE` characters that
every writer appends to, and snapshots of its end.

A run is a sequence of the calls from boot.  Whatever they are, a snapshot is
the end of everything that was written (`klogRun_snapshot`).
-/

namespace Orizon

/-- `KLOG_BUFFER_SIZE`. -/
def klogBufferSize : Nat := 32 * 1024

/-- The statics of `klog.c`; `buffer` is read at indices below `KLOG_BUFFER_SIZE`. -/
structure Klog where
  buffer : Nat → UInt8
  head : Nat
  count : Nat
  dropped : UInt64

/-- `klog_putc`. -/
def klogPutc (k : Klog) (c : UInt8) : Klog where
  buffer := Function.update k.buffer k.head c
  head := (k.head + 1) % klogBufferSize
  count := if k.count < klogBufferSize then k.count + 1 else k.count
  dropped := if k.count < klogBufferSize then k.dropped else k.dropped + 1

/-- The bytes `klog_write_raw` writes; a text of `NULL` is `none`. -/
def klogRawBytes (text : Option CStr) : List UInt8 := (text.getD []).map Subtype.val

/-- `klog_write_raw`. -/
def klogWriteRaw (k : Klog) (text : Option CStr) : Klog := (klogRawBytes text).foldl klogPutc k

/-- The `line[256]` of `klog_info`, at the given tick. -/
def klogInfoLine (ticks : UInt64) (subsystem message : Option CStr) : CStr :=
  let subsystem := match subsystem with
    | none | some [] => cstr "kernel"
    | some s => s
  (cstr "[" ++ cstr (toString ticks.toNat) ++ cstr "] [" ++ subsystem ++ cstr "] " ++
    message.getD [] ++ cstr "\n").take 255

/-- `klog_info`, when `timer_ticks` returns `ticks`. -/
def klogInfo (k : Klog) (ticks : UInt64) (subsystem message : Option CStr) : Klog :=
  klogWriteRaw k (some (klogInfoLine ticks subsystem message))

/-- `klog_snapshot` into an array of `outSize` bytes: the value returned, and the bytes
written to the array. -/
def klogSnapshot (k : Klog) (outSize : Nat) : Nat × List UInt8 :=
  if outSize = 0 then (0, [])
  else
    let copy := if k.count > outSize - 1 then outSize - 1 else k.count
    let start :=
      if copy < k.count then (k.head + klogBufferSize - copy) % klogBufferSize
      else (k.head + klogBufferSize - k.count) % klogBufferSize
    (copy, (List.range copy).map (fun i => k.buffer ((start + i) % klogBufferSize)) ++ [0])

/-- `klog_size`. -/
def klogSize (k : Klog) : Nat := k.count

/-- `klog_dropped_bytes`. -/
def klogDroppedBytes (k : Klog) : UInt64 := k.dropped

/-- The statics at boot. -/
def klogBoot : Klog := ⟨fun _ => 0, 0, 0, 0⟩

/-! ## Runs -/

/-- A call of the log. -/
inductive KlogCall
  | writeRaw (text : Option CStr)
  | info (ticks : UInt64) (subsystem message : Option CStr)
  | snapshot (outSize : Nat)

/-- One call; a snapshot writes to its caller's array only. -/
def klogStep (k : Klog) : KlogCall → Klog
  | .writeRaw text => klogWriteRaw k text
  | .info ticks subsystem message => klogInfo k ticks subsystem message
  | .snapshot _ => k

/-- The state after the calls. -/
def klogRun (calls : List KlogCall) : Klog := calls.foldl klogStep klogBoot

/-- What a call writes. -/
def KlogCall.written : KlogCall → List UInt8
  | .writeRaw text => klogRawBytes text
  | .info ticks subsystem message => klogRawBytes (some (klogInfoLine ticks subsystem message))
  | .snapshot _ => []

/-- Everything the calls write. -/
def klogWritten (calls : List KlogCall) : List UInt8 := calls.flatMap KlogCall.written

/-! ## The invariant -/

/-- The log holds the end of `written`, and has counted the rest. -/
structure Klog.Holds (k : Klog) (written : List UInt8) : Prop where
  logged : Logged klogBufferSize k.buffer k.head k.count written
  dropped : k.dropped = UInt64.ofNat (written.length - k.count)

variable {k : Klog} {written : List UInt8}

theorem holds_klogBoot : klogBoot.Holds [] := ⟨logged_nil _ _, rfl⟩

theorem Klog.Holds.putc (h : k.Holds written) (c : UInt8) : (klogPutc k c).Holds (written ++ [c]) where
  logged := h.logged.push c
  dropped := by
    have hcount := h.logged.count_eq
    have hlen : (written ++ [c]).length = written.length + 1 := List.length_append
    dsimp only [klogPutc]
    rw [hlen, h.dropped]
    by_cases hroom : k.count < klogBufferSize
    · rw [if_pos hroom, if_pos hroom, Nat.add_sub_add_right]
    · have hone : written.length + 1 - k.count = written.length - k.count + 1 := by omega
      rw [if_neg hroom, if_neg hroom, hone, UInt64.ofNat_add]
      rfl

theorem Klog.Holds.write (h : k.Holds written) (bytes : List UInt8) :
    (bytes.foldl klogPutc k).Holds (written ++ bytes) := by
  induction bytes generalizing k written with
  | nil => simpa using h
  | cons c bytes ih => simpa using ih (h.putc c)

theorem Klog.Holds.step (h : k.Holds written) (call : KlogCall) :
    (klogStep k call).Holds (written ++ call.written) := by
  cases call with
  | writeRaw text => exact h.write _
  | info ticks subsystem message => exact h.write _
  | snapshot outSize =>
      rw [KlogCall.written, List.append_nil]
      exact h

theorem holds_klogRun (calls : List KlogCall) : (klogRun calls).Holds (klogWritten calls) := by
  induction calls using List.reverseRecOn with
  | nil => exact holds_klogBoot
  | append_singleton calls call ih =>
      simpa [klogRun, klogWritten] using ih.step call

theorem Klog.Holds.snapshot (h : k.Holds written) {outSize : Nat} (hsize : 0 < outSize) :
    klogSnapshot k outSize = (min k.count (outSize - 1),
      written.drop (written.length - min k.count (outSize - 1)) ++ [0]) := by
  have hcount := h.logged.count_eq
  have hhead := h.logged.head_eq
  have hcopy : (if k.count > outSize - 1 then outSize - 1 else k.count) = min k.count (outSize - 1) := by
    split <;> omega
  unfold klogSnapshot
  dsimp only
  rw [if_neg (by omega), hcopy]
  generalize hk : min k.count (outSize - 1) = copy
  have hstart : (if copy < k.count then (k.head + klogBufferSize - copy) % klogBufferSize
      else (k.head + klogBufferSize - k.count) % klogBufferSize) =
      (k.head + klogBufferSize - copy) % klogBufferSize := by
    split
    · rfl
    · have heq : k.count = copy := by omega
      rw [heq]
  have hmod : (k.head + klogBufferSize - copy) % klogBufferSize % klogBufferSize =
      (written.length - copy) % klogBufferSize := by
    have hdiv := Nat.mod_add_div written.length klogBufferSize
    rw [← hhead] at hdiv
    have hround : k.head + klogBufferSize - copy + klogBufferSize * (written.length / klogBufferSize) =
        written.length - copy + klogBufferSize := by omega
    rw [Nat.mod_mod, ← Nat.add_mul_mod_self_left _ _ (written.length / klogBufferSize), hround,
      Nat.add_mod_right]
  rw [hstart, h.logged.read (by omega) hmod]

/-! ## The law of the log -/

/-- After any calls, a snapshot into `outSize` bytes is the last `outSize - 1` bytes of all
that was written, as far as the log holds them, and a terminator; the log holds the last
`KLOG_BUFFER_SIZE` bytes and has counted the others. -/
theorem klogRun_snapshot (calls : List KlogCall) (outSize : Nat) (hsize : 0 < outSize) :
    klogSnapshot (klogRun calls) outSize = (min (klogSize (klogRun calls)) (outSize - 1),
        (klogWritten calls).drop
          ((klogWritten calls).length - min (klogSize (klogRun calls)) (outSize - 1)) ++ [0]) ∧
      klogSize (klogRun calls) = min (klogWritten calls).length 32768 ∧
      klogDroppedBytes (klogRun calls) =
        UInt64.ofNat ((klogWritten calls).length - klogSize (klogRun calls)) ∧
      klogStep (klogRun calls) (.snapshot outSize) = klogRun calls := by
  have h := holds_klogRun calls
  exact ⟨h.snapshot hsize, h.logged.count_eq, h.dropped, rfl⟩

theorem klogRun_snapshot_hello :
    klogSnapshot (klogRun [.writeRaw (some (cstr "hello"))]) 4 = (3, [0x6c, 0x6c, 0x6f, 0]) := by
  have h := klogRun_snapshot [.writeRaw (some (cstr "hello"))] 4 (by decide)
  exact h.1

end Orizon
