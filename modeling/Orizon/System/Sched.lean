import Mathlib.Data.List.Nodup
import Orizon.Lib.Run
import Orizon.Vfs.Path

/-!
# Orizon.System.Sched

The process table of `system/sched.c`.  Slots are never given back, so the table
is the list of the processes created so far, and a slot is an index into it.

A name is stored in `SCHED_NAME_LEN` bytes and looked up as the caller gives it,
and a state is set without regard to the current process.  While every name fits
and no state is forced that way (`SchedCallOk`), names are found again and the
one running process is the current one (`schedRun_good`).
-/

namespace Orizon

/-! ## The table -/

/-- `SCHED_MAX_PROCESSES`. -/
def schedMaxProcesses : Nat := 16

/-- `SCHED_NAME_LEN`. -/
def schedNameLen : Nat := 32

instance : NeZero schedNameLen := ⟨by decide⟩

/-- `sched_state_t`. -/
inductive SchedState
  | unused | running | ready | sleeping | idle
deriving DecidableEq, Repr

/-- `sched_process_t`. -/
structure SchedProcess where
  pid : Int
  name : CBuf schedNameLen
  state : SchedState
  cpuTicks : UInt64
  wakeTick : UInt64

/-- The statics of `sched.c`; a `current_slot` of -1 is `none`. -/
structure Sched where
  processes : List SchedProcess
  currentSlot : Option Nat
  contextSwitchCount : UInt64

/-- `sched_find`; `none` is -1. -/
def schedFind (s : Sched) (name : CStr) : Option Nat :=
  s.processes.findIdx? fun p => p.state ≠ .unused ∧ p.name.val = name

/-- Change the process in a slot. -/
def Sched.modify (s : Sched) (slot : Nat) (f : SchedProcess → SchedProcess) : Sched :=
  { s with processes := s.processes.modify slot f }

/-- The `pid` of the process in a slot. -/
def Sched.pid (s : Sched) (slot : Nat) : Int := ((s.processes[slot]?).map SchedProcess.pid).getD (-1)

/-- The entry of a new process. -/
def schedNewProcess (s : Sched) (name : CStr) (state : SchedState) : SchedProcess where
  pid := s.processes.length + 1
  name := strCpy schedNameLen name
  state
  cpuTicks := 0
  wakeTick := 0

/-- `sched_create_process`; a name of `NULL` is `none`. -/
def schedCreateProcess (s : Sched) (name : Option CStr) (state : SchedState) : Int × Sched :=
  match name with
  | none | some [] => (-1, s)
  | some name =>
      match schedFind s name with
      | some existing => (s.pid existing, s)
      | none =>
          if s.processes.length ≥ schedMaxProcesses then (-1, s)
          else
            let proc := schedNewProcess s name state
            (proc.pid, { s with processes := s.processes ++ [proc] })

/-- A running current process is ready again. -/
def schedYield (s : Sched) : Sched :=
  match s.currentSlot with
  | none => s
  | some slot => s.modify slot fun p => if p.state = .running then { p with state := .ready } else p

/-- The slot becomes the current one, in the given state. -/
def schedSwitch (s : Sched) (slot : Nat) (state : SchedState) : Sched :=
  let s := schedYield s
  let s := { s with
    contextSwitchCount :=
      if s.currentSlot ≠ some slot then s.contextSwitchCount + 1 else s.contextSwitchCount
    currentSlot := some slot }
  s.modify slot fun p => { p with state }

/-- `sched_enter_process` from the search on that follows a creation. -/
def schedEnterFound (s : Sched) (name : CStr) : Int × Sched :=
  match schedFind s name with
  | none => (-1, s)
  | some slot => ((schedSwitch s slot .running).pid slot, schedSwitch s slot .running)

/-- `sched_enter_process`. -/
def schedEnterProcess (s : Sched) (name : CStr) : Int × Sched :=
  match schedFind s name with
  | some _ => schedEnterFound s name
  | none =>
      let created := schedCreateProcess s (some name) .ready
      if created.1 < 0 then (-1, created.2) else schedEnterFound created.2 name

/-- `sched_set_process_state`. -/
def schedSetProcessState (s : Sched) (name : CStr) (state : SchedState) : Int × Sched :=
  match schedFind s name with
  | none => (-1, s)
  | some slot =>
      (s.pid slot, s.modify slot fun p =>
        { p with state, wakeTick := if state ≠ .sleeping then 0 else p.wakeTick })

/-- `sched_enter_idle`. -/
def schedEnterIdle (s : Sched) : Sched :=
  match schedFind s (cstr "idle") with
  | none => s
  | some slot => schedSwitch s slot .idle

/-- A sleeping process whose time has come. -/
def schedWake (now : UInt64) (p : SchedProcess) : SchedProcess :=
  if p.state = .sleeping ∧ p.wakeTick ≠ 0 ∧ p.wakeTick ≤ now then
    { p with state := .ready, wakeTick := 0 }
  else p

/-- `sched_tick`, when `timer_ticks` returns `now`. -/
def schedTick (s : Sched) (now : UInt64) : Sched :=
  let s := match s.currentSlot with
    | none => s
    | some slot => s.modify slot fun p => { p with cpuTicks := p.cpuTicks + 1 }
  { s with processes := s.processes.map (schedWake now) }

/-- `sched_init`. -/
def schedInit (s : Sched) : Sched :=
  if s.processes.length > 0 then s
  else
    let s := (schedCreateProcess s (some (cstr "kernel")) .running).2
    let s := (schedCreateProcess s (some (cstr "idle")) .idle).2
    let s := (schedCreateProcess s (some (cstr "gui-shell")) .ready).2
    let s := (schedCreateProcess s (some (cstr "input")) .ready).2
    let s := (schedCreateProcess s (some (cstr "update-manager")) .sleeping).2
    { s with currentSlot := schedFind s (cstr "kernel") }

/-- The statics at boot. -/
def schedBoot : Sched := ⟨[], none, 0⟩

/-! ## Runs -/

/-- A call of the process table. -/
inductive SchedCall
  | init
  | createProcess (name : Option CStr) (state : SchedState)
  | enterProcess (name : CStr)
  | setProcessState (name : CStr) (state : SchedState)
  | enterIdle
  | tick (now : UInt64)

/-- One call: the value it returns, if any, and the table after it. -/
def schedCall (s : Sched) : SchedCall → Int × Sched
  | .init => (0, schedInit s)
  | .createProcess name state => schedCreateProcess s name state
  | .enterProcess name => schedEnterProcess s name
  | .setProcessState name state => schedSetProcessState s name state
  | .enterIdle => (0, schedEnterIdle s)
  | .tick now => (0, schedTick s now)

/-- The table after one call. -/
def schedNext (s : Sched) (call : SchedCall) : Sched := (schedCall s call).2

/-- The name a call created a process with, or found one by, and the `pid` it returned. -/
def schedNamed (s : Sched) (call : SchedCall) : List (CStr × Int) :=
  match call with
  | .createProcess (some name) _ | .enterProcess name =>
      if (schedCall s call).1 < 0 then [] else [(name, (schedCall s call).1)]
  | _ => []

/-- A call that keeps the table as it is meant to be: a new name fits its field, a process
is not created running or unused, and no state makes a process unused, or running while
another is current. -/
def SchedCallOk (s : Sched) : SchedCall → Prop
  | .createProcess (some name) state =>
      schedFind s name = none → s.processes.length < schedMaxProcesses →
        name.length < schedNameLen ∧ state ≠ .unused ∧ state ≠ .running
  | .enterProcess name =>
      schedFind s name = none → s.processes.length < schedMaxProcesses → name.length < schedNameLen
  | .setProcessState name state =>
      ∀ slot, schedFind s name = some slot →
        state ≠ .unused ∧ (state = .running → s.currentSlot = some slot)
  | _ => True

/-! ## The invariant -/

/-- The stored names. -/
def Sched.names (s : Sched) : List CStr := s.processes.map fun p => p.name.val

/-- No slot is unused, slots are numbered and differently named, and a running process is
the current one. -/
structure Sched.Sound (s : Sched) : Prop where
  used : ∀ p ∈ s.processes, p.state ≠ .unused
  nodup : s.names.Nodup
  numbered : ∀ (i : Nat) (p : SchedProcess), s.processes[i]? = some p → p.pid = i + 1
  running : ∀ i p, s.processes[i]? = some p → p.state = .running → s.currentSlot = some i

variable {s s' : Sched} {slot : Nat} {name : CStr} {state : SchedState}

theorem Sched.getElem?_names (i : Nat) :
    s.names[i]? = (s.processes[i]?).map fun p => p.name.val := List.getElem?_map

/-- In a table without unused slots a process is found by its stored name. -/
theorem Sched.Sound.find_iff (h : s.Sound) :
    schedFind s name = some slot ↔ s.names[slot]? = some name := by
  unfold schedFind
  rw [List.findIdx?_eq_some_iff_getElem, Sched.getElem?_names]
  constructor
  · rintro ⟨hlt, hp, -⟩
    obtain ⟨-, hname⟩ : _ ∧ _ := by simpa using hp
    simp [List.getElem?_eq_getElem hlt, hname]
  · intro hname
    obtain ⟨p, hp, rfl⟩ := Option.map_eq_some_iff.mp hname
    obtain ⟨hlt, rfl⟩ := List.getElem?_eq_some_iff.mp hp
    refine ⟨hlt, by simpa using h.used _ (List.getElem_mem hlt), fun j hj => ?_⟩
    have hlt' : slot < s.names.length := by simpa [Sched.names] using hlt
    have hne : s.names[j] ≠ s.names[slot] := fun heq => by
      have hinj := h.nodup.getElem_inj_iff.mp heq
      omega
    simp only [Sched.names, List.getElem_map] at hne
    simp [hne]

theorem Sched.Sound.find_prefix (h : s.Sound) (h' : s'.Sound) (hnames : s.names <+: s'.names)
    (hfind : schedFind s name = some slot) : schedFind s' name = some slot := by
  obtain ⟨rest, hrest⟩ := hnames
  have hname := h.find_iff.mp hfind
  have hlt := (List.getElem?_eq_some_iff.mp hname).1
  rw [h'.find_iff, ← hrest, List.getElem?_append_left hlt, hname]

theorem Sched.Sound.pid_eq (h : s.Sound) (hfind : schedFind s name = some slot) :
    s.pid slot = slot + 1 := by
  have hname := h.find_iff.mp hfind
  rw [Sched.getElem?_names] at hname
  obtain ⟨p, hp, -⟩ := Option.map_eq_some_iff.mp hname
  rw [Sched.pid, hp]
  exact h.numbered slot p hp

/-! ### Changes of a slot -/

theorem getElem?_modify (f : SchedProcess → SchedProcess) (i : Nat) :
    (s.modify slot f).processes[i]? =
      if slot = i then (s.processes[i]?).map f else s.processes[i]? := by
  rw [Sched.modify, List.getElem?_modify]
  split <;> cases s.processes[i]? <;> rfl

theorem names_modify {f : SchedProcess → SchedProcess} (hname : ∀ p, (f p).name = p.name) :
    (s.modify slot f).names = s.names := by
  refine List.ext_getElem? fun i => ?_
  rw [Sched.getElem?_names, Sched.getElem?_names, getElem?_modify]
  split
  · cases s.processes[i]? <;> simp [hname]
  · rfl

theorem Sched.Sound.modify (h : s.Sound) {f : SchedProcess → SchedProcess}
    (hname : ∀ p, (f p).name = p.name) (hpid : ∀ p, (f p).pid = p.pid)
    (hused : ∀ p, p.state ≠ .unused → (f p).state ≠ .unused)
    (hrunning : ∀ p, s.processes[slot]? = some p → (f p).state = .running → s.currentSlot = some slot) :
    (s.modify slot f).Sound where
  used := by
    intro p hp
    obtain ⟨i, hi⟩ := List.getElem?_of_mem hp
    rw [getElem?_modify] at hi
    split at hi
    · obtain ⟨q, hq, rfl⟩ := Option.map_eq_some_iff.mp hi
      exact hused q (h.used q (List.mem_of_getElem? hq))
    · exact h.used p (List.mem_of_getElem? hi)
  nodup := by
    rw [names_modify hname]
    exact h.nodup
  numbered := by
    intro i p hp
    rw [getElem?_modify] at hp
    split at hp
    · obtain ⟨q, hq, rfl⟩ := Option.map_eq_some_iff.mp hp
      rw [hpid]
      exact h.numbered i q hq
    · exact h.numbered i p hp
  running := by
    intro i p hp hrun
    rw [getElem?_modify] at hp
    split at hp
    next heq =>
      subst heq
      obtain ⟨q, hq, rfl⟩ := Option.map_eq_some_iff.mp hp
      exact hrunning q hq hrun
    · exact h.running i p hp hrun

/-- After the current process was made ready, no process is running. -/
theorem Sched.Sound.yield (h : s.Sound) : (schedYield s).Sound ∧
    (∀ p ∈ (schedYield s).processes, p.state ≠ .running) ∧ (schedYield s).names = s.names := by
  unfold schedYield
  cases hcurrent : s.currentSlot with
  | none =>
      refine ⟨h, fun p hp hrun => ?_, rfl⟩
      obtain ⟨i, hi⟩ := List.getElem?_of_mem hp
      simp [h.running i p hi hrun] at hcurrent
  | some slot =>
      dsimp only
      refine ⟨h.modify ?_ ?_ ?_ (fun _ _ _ => hcurrent), fun p hp hrun => ?_, names_modify ?_⟩
      · intro p
        split <;> rfl
      · intro p
        split <;> rfl
      · intro p hp
        split
        · simp
        · exact hp
      · obtain ⟨i, hi⟩ := List.getElem?_of_mem hp
        rw [getElem?_modify] at hi
        split at hi
        · obtain ⟨q, -, rfl⟩ := Option.map_eq_some_iff.mp hi
          split at hrun
          · simp at hrun
          next hq => exact hq hrun
        next hne =>
          have hslot := h.running i p hi hrun
          rw [hcurrent] at hslot
          exact hne (Option.some.inj hslot)
      · intro p
        split <;> rfl

theorem schedSwitch_currentSlot : (schedSwitch s slot state).currentSlot = some slot := rfl

theorem Sched.Sound.switch (h : s.Sound) (hstate : state ≠ .unused) :
    (schedSwitch s slot state).Sound ∧ (schedSwitch s slot state).names = s.names := by
  obtain ⟨hyield, hnone, hnames⟩ := h.yield
  have hcurrent : Sched.Sound { schedYield s with
      contextSwitchCount := if (schedYield s).currentSlot ≠ some slot then
        (schedYield s).contextSwitchCount + 1 else (schedYield s).contextSwitchCount
      currentSlot := some slot } :=
    ⟨hyield.used, hyield.nodup, hyield.numbered,
      fun i p hp hrun => absurd hrun (hnone p (List.mem_of_getElem? hp))⟩
  unfold schedSwitch
  dsimp only
  refine ⟨hcurrent.modify (fun _ => rfl) (fun _ => rfl) (fun _ _ => hstate) (fun _ _ _ => rfl), ?_⟩
  refine Eq.trans (names_modify ?_) hnames
  exact fun _ => rfl

/-! ### Calls -/

/-- What a call keeps, and that the processes it names are found. -/
structure SchedKeeps (s s' : Sched) : Prop where
  sound : s'.Sound
  names : s.names <+: s'.names

theorem SchedKeeps.refl (h : s.Sound) : SchedKeeps s s := ⟨h, List.prefix_rfl⟩

theorem Sched.Sound.append (h : s.Sound) (hnew : schedFind s name = none)
    (hfits : name.length < schedNameLen) (hused : state ≠ .unused) (hrunning : state ≠ .running) :
    Sched.Sound { s with processes := s.processes ++ [schedNewProcess s name state] } := by
  have hname : (strCpy schedNameLen name).val = name := strCpy_of_lt hfits
  have hget : ∀ (i : Nat) (p : SchedProcess), (s.processes ++ [schedNewProcess s name state])[i]? = some p →
      s.processes[i]? = some p ∨ i = s.processes.length ∧ p = schedNewProcess s name state := by
    intro i p hp
    obtain hlt | hge := Nat.lt_or_ge i s.processes.length
    · exact .inl (by rwa [List.getElem?_append_left hlt] at hp)
    · rw [List.getElem?_append_right hge, List.getElem?_singleton] at hp
      split at hp
      · exact .inr ⟨by omega, (Option.some.inj hp).symm⟩
      · cases hp
  refine ⟨fun p hp => ?_, ?_, fun i p hp => ?_, fun i p hp hrun => ?_⟩
  · obtain ⟨i, hi⟩ := List.getElem?_of_mem hp
    obtain hold | ⟨-, rfl⟩ := hget i p hi
    · exact h.used p (List.mem_of_getElem? hold)
    · exact hused
  · rw [Sched.names, List.map_append, List.map_singleton, schedNewProcess, hname]
    refine List.nodup_append.mpr ⟨h.nodup, List.nodup_singleton _, fun a ha b hb => ?_⟩
    obtain rfl := List.mem_singleton.mp hb
    rintro rfl
    obtain ⟨i, hi⟩ := List.getElem?_of_mem ha
    rw [h.find_iff.mpr hi] at hnew
    cases hnew
  · obtain hold | ⟨rfl, rfl⟩ := hget i p hp
    · exact h.numbered i p hold
    · rfl
  · obtain hold | ⟨-, rfl⟩ := hget i p hp
    · exact h.running i p hold hrun
    · exact absurd hrun hrunning

/-- A process is created, found, or refused; it is refused for want of a name or of a slot. -/
theorem schedCreateProcess_keeps (h : s.Sound) (hne : name ≠ [])
    (hok : schedFind s name = none → s.processes.length < schedMaxProcesses →
      name.length < schedNameLen ∧ state ≠ .unused ∧ state ≠ .running) :
    SchedKeeps s (schedCreateProcess s (some name) state).2 ∧
      ((∃ slot, schedFind (schedCreateProcess s (some name) state).2 name = some slot ∧
          (schedCreateProcess s (some name) state).1 = slot + 1) ∨
        (schedCreateProcess s (some name) state).1 = -1 ∧ schedFind s name = none ∧
          schedMaxProcesses ≤ s.processes.length) := by
  unfold schedCreateProcess
  split
  next heq => cases heq
  next heq => exact absurd (Option.some.inj heq) hne
  next name' _ heq =>
  obtain rfl := Option.some.inj heq
  split
  next slot hfind => exact ⟨.refl h, .inl ⟨slot, hfind, h.pid_eq hfind⟩⟩
  next hfind =>
  split
  next hfull => exact ⟨.refl h, .inr ⟨rfl, hfind, hfull⟩⟩
  next hroom =>
  obtain ⟨hfits, hused, hrunning⟩ := hok hfind (by omega)
  have hsound := h.append hfind hfits hused hrunning
  have hnames : s.names <+:
      Sched.names { s with processes := s.processes ++ [schedNewProcess s name state] } := by
    rw [Sched.names, Sched.names, List.map_append]
    exact List.prefix_append _ _
  refine ⟨⟨hsound, hnames⟩, .inl ⟨s.processes.length, ?_, rfl⟩⟩
  have hname : (strCpy schedNameLen name).val = name := strCpy_of_lt hfits
  rw [hsound.find_iff, Sched.getElem?_names]
  simp [schedNewProcess, hname]

/-- A call that switches to the slot of a process leaves the process findable. -/
theorem SchedKeeps.switch (h : s.Sound) (hstate : state ≠ .unused) :
    SchedKeeps s (schedSwitch s slot state) := by
  obtain ⟨hsound, hnames⟩ := h.switch hstate
  exact ⟨hsound, hnames ▸ List.prefix_rfl⟩

theorem SchedKeeps.trans {t : Sched} (h : SchedKeeps s s') (h' : SchedKeeps s' t) : SchedKeeps s t :=
  ⟨h'.sound, h.names.trans h'.names⟩

/-- The process in the slot is the current one, and was entered by its name. -/
structure SchedEntered (r : Int × Sched) (name : CStr) (slot : Nat) : Prop where
  found : schedFind r.2 name = some slot
  current : r.2.currentSlot = some slot
  pid : r.1 = r.2.pid slot

theorem schedEnterFound_keeps (h : s.Sound) (hfind : schedFind s name = some slot) :
    SchedKeeps s (schedEnterFound s name).2 ∧ SchedEntered (schedEnterFound s name) name slot := by
  have hkeeps : SchedKeeps s (schedSwitch s slot .running) := .switch h (by decide)
  have hfound := h.find_prefix hkeeps.sound hkeeps.names hfind
  unfold schedEnterFound
  rw [hfind]
  exact ⟨hkeeps, hfound, schedSwitch_currentSlot, rfl⟩

/-- A process is entered unless its name is empty, or new in a full table. -/
theorem schedEnterProcess_keeps (h : s.Sound) (hok : SchedCallOk s (.enterProcess name)) :
    SchedKeeps s (schedEnterProcess s name).2 ∧
      ((∃ slot, SchedEntered (schedEnterProcess s name) name slot) ∨
        (schedEnterProcess s name).1 = -1 ∧ schedFind s name = none ∧
          (name = [] ∨ schedMaxProcesses ≤ s.processes.length)) := by
  unfold schedEnterProcess
  split
  next slot hfind =>
    obtain ⟨hkeeps, hentered⟩ := schedEnterFound_keeps h hfind
    exact ⟨hkeeps, .inl ⟨slot, hentered⟩⟩
  next hfind =>
  dsimp only
  by_cases hempty : name = []
  · subst hempty
    exact ⟨.refl h, .inr ⟨rfl, hfind, .inl rfl⟩⟩
  have hready : SchedCallOk s (.createProcess name .ready) := fun hnew hroom =>
    ⟨hok hnew hroom, by decide, by decide⟩
  obtain ⟨hkeeps, ⟨slot, hslot, hpid⟩ | ⟨hrefused, -, hfull⟩⟩ := schedCreateProcess_keeps h hempty hready
  · obtain ⟨hthen, hentered⟩ := schedEnterFound_keeps hkeeps.sound hslot
    rw [if_neg (by omega)]
    exact ⟨hkeeps.trans hthen, .inl ⟨slot, hentered⟩⟩
  · rw [if_pos (by omega)]
    exact ⟨hkeeps, .inr ⟨rfl, hfind, .inr hfull⟩⟩

theorem schedSetProcessState_keeps (h : s.Sound) (hok : SchedCallOk s (.setProcessState name state)) :
    SchedKeeps s (schedSetProcessState s name state).2 := by
  unfold schedSetProcessState
  split
  · exact .refl h
  next slot hfind =>
  obtain ⟨hused, hrunning⟩ := hok slot hfind
  refine ⟨h.modify (fun _ => rfl) (fun _ => rfl) (fun _ _ => hused) (fun _ _ => hrunning), ?_⟩
  rw [names_modify]
  exact fun _ => rfl

theorem schedEnterIdle_keeps (h : s.Sound) : SchedKeeps s (schedEnterIdle s) := by
  unfold schedEnterIdle
  split
  · exact .refl h
  · exact .switch h (by decide)

theorem schedWake_state (now : UInt64) (p : SchedProcess) :
    (schedWake now p).name = p.name ∧ (schedWake now p).pid = p.pid ∧
      ((schedWake now p).state = p.state ∨ (schedWake now p).state = .ready) := by
  unfold schedWake
  split
  · exact ⟨rfl, rfl, .inr rfl⟩
  · exact ⟨rfl, rfl, .inl rfl⟩

theorem Sched.Sound.wake (h : s.Sound) (now : UInt64) :
    SchedKeeps s { s with processes := s.processes.map (schedWake now) } := by
  have hget : ∀ (i : Nat) (p : SchedProcess), (s.processes.map (schedWake now))[i]? = some p →
      ∃ q, s.processes[i]? = some q ∧ p.pid = q.pid ∧ (p.state = q.state ∨ p.state = .ready) := by
    intro i p hp
    rw [List.getElem?_map] at hp
    obtain ⟨q, hq, rfl⟩ := Option.map_eq_some_iff.mp hp
    exact ⟨q, hq, (schedWake_state now q).2⟩
  have hnames : Sched.names { s with processes := s.processes.map (schedWake now) } = s.names := by
    rw [Sched.names, Sched.names, List.map_map]
    exact List.map_congr_left fun p _ => congrArg Subtype.val (schedWake_state now p).1
  refine ⟨⟨fun p hp => ?_, hnames ▸ h.nodup, fun i p hp => ?_, fun i p hp hrun => ?_⟩,
    hnames ▸ List.prefix_rfl⟩
  · obtain ⟨i, hi⟩ := List.getElem?_of_mem hp
    obtain ⟨q, hq, -, hstate | hstate⟩ := hget i p hi
    · rw [hstate]
      exact h.used q (List.mem_of_getElem? hq)
    · simp [hstate]
  · obtain ⟨q, hq, hpid, -⟩ := hget i p hp
    exact hpid.trans (h.numbered i q hq)
  · obtain ⟨q, hq, -, hstate | hstate⟩ := hget i p hp
    · exact h.running i q hq (hstate.symm.trans hrun)
    · simp [hstate] at hrun

theorem schedTick_keeps (h : s.Sound) (now : UInt64) : SchedKeeps s (schedTick s now) := by
  unfold schedTick
  split
  · exact h.wake now
  next slot hcurrent =>
  have hcount : SchedKeeps s (s.modify slot fun p => { p with cpuTicks := p.cpuTicks + 1 }) := by
    refine ⟨h.modify (fun _ => rfl) (fun _ => rfl) (fun _ hp => hp) (fun _ _ _ => hcurrent), ?_⟩
    rw [names_modify]
    exact fun _ => rfl
  exact hcount.trans (hcount.sound.wake now)

theorem sound_schedBoot : schedBoot.Sound := by
  refine ⟨?_, List.nodup_nil, ?_, ?_⟩ <;> simp [schedBoot]

/-- The processes of `sched_init`, of which the first is running. -/
theorem sound_schedInit : (schedInit schedBoot).Sound where
  used := by decide
  nodup := by decide
  numbered := by
    have hall : ∀ i : Fin 5, ((schedInit schedBoot).processes.get i).pid = (i : Nat) + 1 := by decide
    intro i p hp
    obtain ⟨hlt, rfl⟩ := List.getElem?_eq_some_iff.mp hp
    exact hall ⟨i, hlt⟩
  running := by
    have hall : ∀ i : Fin 5, ((schedInit schedBoot).processes.get i).state = .running →
        (schedInit schedBoot).currentSlot = some (i : Nat) := by decide
    intro i p hp hrun
    obtain ⟨hlt, rfl⟩ := List.getElem?_eq_some_iff.mp hp
    exact hall ⟨i, hlt⟩ hrun

theorem schedInit_keeps (h : s.Sound) : SchedKeeps s (schedInit s) := by
  by_cases hempty : s.processes.length > 0
  · rw [schedInit, if_pos hempty]
    exact .refl h
  obtain ⟨processes, current, switches⟩ := s
  obtain rfl : processes = [] := List.eq_nil_of_length_eq_zero (by simpa using hempty)
  have hinit : schedInit ⟨[], current, switches⟩ =
      { schedInit schedBoot with contextSwitchCount := switches } := rfl
  have hsound := sound_schedInit
  rw [hinit]
  exact ⟨⟨hsound.used, hsound.nodup, hsound.numbered, hsound.running⟩, List.nil_prefix⟩

/-! ## The law of the table -/

/-- Names differ, a process is found by the name it was created with, and a running
process is the current one. -/
structure SchedGood (s : Sched) (named : List (CStr × Int)) : Prop where
  names : s.names.Nodup
  found : ∀ name pid, (name, pid) ∈ named → ∃ slot, schedFind s name = some slot ∧ s.pid slot = pid
  running : ∀ i p, s.processes[i]? = some p → p.state = .running → s.currentSlot = some i

/-- A name that exists, or still fits in the table, is entered. -/
def SchedEnters (s : Sched) (name : CStr) : Prop :=
  (schedFind s name).isSome ∨ name ≠ [] ∧ s.processes.length < schedMaxProcesses →
    ∃ slot, SchedEntered (schedEnterProcess s name) name slot

theorem schedNext_keeps (h : s.Sound) {call : SchedCall} (hok : SchedCallOk s call) :
    SchedKeeps s (schedNext s call) ∧ ∀ name pid, (name, pid) ∈ schedNamed s call →
      ∃ slot, schedFind (schedNext s call) name = some slot ∧ pid = slot + 1 := by
  have hnothing : ∀ {p : CStr → Int → Prop}, ∀ name pid, (name, pid) ∈ ([] : List (CStr × Int)) → p name pid :=
    fun _ _ hmem => absurd hmem List.not_mem_nil
  cases call with
  | init => exact ⟨schedInit_keeps h, hnothing⟩
  | createProcess name state =>
      rcases name with _ | ⟨_ | ⟨c, name⟩⟩
      · exact ⟨.refl h, hnothing⟩
      · exact ⟨.refl h, hnothing⟩
      obtain ⟨hkeeps, ⟨slot, hslot, hpid⟩ | ⟨hrefused, -⟩⟩ :=
        schedCreateProcess_keeps h (List.cons_ne_nil c name) hok
      · refine ⟨hkeeps, fun name' pid hmem => ?_⟩
        rw [schedNamed, schedCall, if_neg (by omega)] at hmem
        obtain ⟨rfl, rfl⟩ : _ ∧ _ := by simpa using hmem
        exact ⟨slot, hslot, hpid⟩
      · refine ⟨hkeeps, fun name' pid hmem => ?_⟩
        rw [schedNamed, schedCall, if_pos (by omega)] at hmem
        cases hmem
  | enterProcess name =>
      obtain ⟨hkeeps, ⟨slot, hentered⟩ | ⟨hrefused, -⟩⟩ := schedEnterProcess_keeps h hok
      · have hpid := hentered.pid.trans (hkeeps.sound.pid_eq hentered.found)
        refine ⟨hkeeps, fun name' pid hmem => ?_⟩
        rw [schedNamed, schedCall, if_neg (by omega)] at hmem
        obtain ⟨rfl, rfl⟩ : _ ∧ _ := by simpa using hmem
        exact ⟨slot, hentered.found, hpid⟩
      · refine ⟨hkeeps, fun name' pid hmem => ?_⟩
        rw [schedNamed, schedCall, if_pos (by omega)] at hmem
        cases hmem
  | setProcessState name state => exact ⟨schedSetProcessState_keeps h hok, hnothing⟩
  | enterIdle => exact ⟨schedEnterIdle_keeps h, hnothing⟩
  | tick now => exact ⟨schedTick_keeps h now, hnothing⟩

/-- Over a run of permitted calls the table stays sound, and every process named is found. -/
theorem schedRun_keeps (h : s.Sound) {calls : List SchedCall} (hok : AllSteps schedNext SchedCallOk s calls) :
    SchedKeeps s (calls.foldl schedNext s) ∧ ∀ name pid, (name, pid) ∈ outputs schedNext schedNamed s calls →
      ∃ slot, schedFind (calls.foldl schedNext s) name = some slot ∧ pid = slot + 1 := by
  induction calls generalizing s with
  | nil => exact ⟨.refl h, fun _ _ hmem => absurd hmem List.not_mem_nil⟩
  | cons call calls ih =>
      obtain ⟨hfirst, hnamed⟩ := schedNext_keeps h hok.1
      obtain ⟨hrest, hlater⟩ := ih hfirst.sound hok.2
      refine ⟨hfirst.trans hrest, fun name pid hmem => ?_⟩
      rw [outputs] at hmem
      obtain hnow | hthen := List.mem_append.mp hmem
      · obtain ⟨slot, hfind, hpid⟩ := hnamed name pid hnow
        exact ⟨slot, hfirst.sound.find_prefix hrest.sound hrest.names hfind, hpid⟩
      · exact hlater name pid hthen

/-- In every run of permitted calls the table is as it is meant to be, and the next name
that may be entered is. -/
theorem schedRun_good (calls : List SchedCall) (hok : AllSteps schedNext SchedCallOk schedBoot calls) :
    SchedGood (calls.foldl schedNext schedBoot) (outputs schedNext schedNamed schedBoot calls) ∧
      ∀ name, SchedCallOk (calls.foldl schedNext schedBoot) (.enterProcess name) →
        SchedEnters (calls.foldl schedNext schedBoot) name := by
  obtain ⟨⟨hsound, -⟩, hnamed⟩ := schedRun_keeps sound_schedBoot hok
  refine ⟨⟨hsound.nodup, fun name pid hmem => ?_, hsound.running⟩, fun name hname hfits => ?_⟩
  · obtain ⟨slot, hfind, hpid⟩ := hnamed name pid hmem
    exact ⟨slot, hfind, (hsound.pid_eq hfind).trans hpid.symm⟩
  · obtain ⟨-, hentered | ⟨-, hnone, hrefused⟩⟩ := schedEnterProcess_keeps hsound hname
    · exact hentered
    · obtain hfound | ⟨hne, hroom⟩ := hfits
      · simp [hnone] at hfound
      · obtain hempty | hfull := hrefused
        · exact absurd hempty hne
        · omega

/-- The calls of an update after boot. -/
def sampleUpdateCalls : List SchedCall :=
  [.init, .enterProcess (cstr "update-manager"), .tick 7,
    .setProcessState (cstr "update-manager") .sleeping, .enterProcess (cstr "gui-shell"), .enterIdle]

theorem schedRun_good_update :
    SchedGood (sampleUpdateCalls.foldl schedNext schedBoot)
      (outputs schedNext schedNamed schedBoot sampleUpdateCalls) := by
  refine (schedRun_good sampleUpdateCalls ⟨trivial, fun _ _ => by decide, trivial, ?_, fun _ _ => by decide,
    trivial, trivial⟩).1
  exact fun slot _ => ⟨by decide, fun h => by cases h⟩

/-- A name that does not fit its field. -/
def sampleLongName : CStr := List.replicate 32 (cchar 'a')

/-- A long name is not found again, and its process is created twice under one name. -/
theorem sched_longName_twice : ¬ ∀ calls : List SchedCall,
    SchedGood (calls.foldl schedNext schedBoot) (outputs schedNext schedNamed schedBoot calls) ∧
      ∀ name, SchedEnters (calls.foldl schedNext schedBoot) name := by
  intro h
  have hnames := (h [.createProcess (some sampleLongName) .ready,
    .createProcess (some sampleLongName) .ready]).1.names
  exact absurd hnames (by decide)

end Orizon
