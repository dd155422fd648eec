import Orizon.Desktop.Layout
import Orizon.Desktop.Session

/-!
# Orizon.Desktop.HitTest

The client that is drawn at a point, and the one that is focused there.

What is drawn goes by the focus, what is hit by the slots of the clients.  The two agree as long
as each client at the point that is not drawn is in a slot below one that is, and a drawn special
client of another workspace is not alone there (`hitTestAgrees_iff`).
-/

namespace Orizon

/-! ## What is drawn -/

/-- `desktop_focused_client_index_for_workspace`. -/
def desktopFocusedClientIndexForWorkspace (s : Desktop) (workspace : Int) : Desktop × Option Nat :=
  match s.indexWhere (fun c => desktopClientOnWorkspace s c workspace) s.focusedClientId with
  | some idx => (s, some idx)
  | none => desktopLastFocusedIndexOnWorkspaceScope s workspace false

/-- `desktop_client_rendered_on_workspace`. -/
def desktopClientRenderedOnWorkspace (g : DesktopScene) (s : Desktop) (idx : Nat) (workspace : Int) : Desktop × Bool :=
  match s.clients[idx]? with
  | none => (s, false)
  | some c =>
      if ¬ desktopClientOnWorkspace s c workspace then (s, false)
      else
        let (s, focused) := desktopFocusedClientIndexForWorkspace s workspace
        let fullscreen (i : Nat) : Bool := (s.clients[i]?).any (·.fullscreen)
        let layoutMode := desktopLayoutModeFromName (desktopLayoutEngineForWorkspace g workspace)
        (s,
          if focused.any fullscreen then focused = some idx
          else if fullscreen idx ∧ focused ≠ some idx then false
          else if layoutMode = 2 then focused = some idx
          else true)

/-! ## What is required -/

section Points

variable (g : DesktopScene) (s : Desktop) (x y : Int)

/-- The client in a slot is drawn on the active workspace. -/
def Drawn (i : Nat) : Prop := (desktopClientRenderedOnWorkspace g s i s.activeWorkspace).2 = true

/-- The rectangle that it has there contains the point. -/
def Under (i : Nat) : Prop := (x, y) ∈ (desktopClientRectForWorkspace g s i s.activeWorkspace).pixels

/-- The client of an id is drawn at the point. -/
def DrawnAt (id : Int) : Prop := ∃ i c, s.clients[i]? = some c ∧ c.id = id ∧ Drawn g s i ∧ Under g s x y i

/-- The focus moves only to a client that is drawn at the point, and one is found if there is one. -/
structure HitTestAgrees : Prop where
  moved : (desktopFocusClientAt s (desktopClientRect g) x y).1.focusedClientId ≠ s.focusedClientId →
    DrawnAt g s x y (desktopFocusClientAt s (desktopClientRect g) x y).1.focusedClientId
  found : (∃ i, Drawn g s i ∧ Under g s x y i) → (desktopFocusClientAt s (desktopClientRect g) x y).2 = true ∧
    DrawnAt g s x y (desktopFocusClientAt s (desktopClientRect g) x y).1.focusedClientId

/-- The workspace of a client is the active one, or it is on every workspace. -/
def Home (i : Nat) : Prop := ∃ c, s.clients[i]? = some c ∧ (c.pinned = true ∨ c.workspace = s.activeWorkspace)

/-- Each client at the point that is not drawn is in a slot below one that is, and a drawn special
client of another workspace has one of this workspace beside it. -/
structure HitsDrawn : Prop where
  below : ∀ i ∈ s.slots s.activeWorkspace, Under g s x y i → Home s i → ¬ Drawn g s i →
    ∃ j, i < j ∧ Drawn g s j ∧ Home s j ∧ Under g s x y j
  beside : ∀ i ∈ s.slots s.activeWorkspace, Under g s x y i → ¬ Home s i → Drawn g s i →
    ∃ j, Drawn g s j ∧ Home s j ∧ Under g s x y j

end Points

/-! ## The clients that can be hit -/

section Hits

variable {g : DesktopScene} {s : Desktop} {x y : Int} {i j : Nat} {c : DesktopClient}

theorem mem_slots_iff : i ∈ s.slots s.activeWorkspace ↔
    ∃ c, s.clients[i]? = some c ∧ desktopClientOnWorkspace s c s.activeWorkspace = true := by
  constructor
  · intro h
    obtain ⟨hi, hon⟩ := List.mem_findIdxs_iff_exists_getElem_pos.mp h
    exact ⟨_, List.getElem?_eq_getElem hi, hon⟩
  · rintro ⟨c, hc, hon⟩
    exact mem_slots hc hon

theorem visible_of_on {workspace : Int} (h : desktopClientOnWorkspace s c workspace = true) : c.visible = true := by
  by_contra hv
  simp [desktopClientOnWorkspace, hv] at h

theorem Drawn.mem_slots (h : Drawn g s i) : i ∈ s.slots s.activeWorkspace := by
  rw [Drawn, desktopClientRenderedOnWorkspace] at h
  cases hc : s.clients[i]? with
  | none => simp [hc] at h
  | some c =>
      rw [hc] at h
      dsimp only at h
      split at h
      · cases h
      · next hon => exact Orizon.mem_slots hc (not_not.mp hon)

theorem drawn_of_focused (hc : s.clients[i]? = some c) (hon : desktopClientOnWorkspace s c s.activeWorkspace = true)
    (hfocused : (desktopFocusedClientIndexForWorkspace s s.activeWorkspace).2 = some i) : Drawn g s i := by
  rw [Drawn, desktopClientRenderedOnWorkspace, hc]
  dsimp only
  rw [if_neg (not_not.mpr hon)]
  generalize desktopFocusedClientIndexForWorkspace s s.activeWorkspace = r at hfocused
  obtain ⟨t, focused⟩ := r
  dsimp only at hfocused ⊢
  subst hfocused
  simp

theorem drawn_of_focusedId (h : DesktopKept s) (hc : s.clients[i]? = some c)
    (hon : desktopClientOnWorkspace s c s.activeWorkspace = true) (hid : c.id = s.focusedClientId) : Drawn g s i := by
  have hv := visible_of_on hon
  have hfind := desktopClientIndexById_eq h.distinct hc hv (h.ids c (List.mem_of_getElem? hc) hv).1
  have hwhere : s.indexWhere (fun c => desktopClientOnWorkspace s c s.activeWorkspace) s.focusedClientId = some i := by
    rw [Desktop.indexWhere, ← hid, hfind]
    simp [hc, hon]
  refine drawn_of_focused hc hon ?_
  rw [desktopFocusedClientIndexForWorkspace, hwhere]

/-- On the active workspace a client has the rectangle that is tested if that is its own one, and else
none is tested. -/
theorem mem_clientRect_iff (hc : s.clients[i]? = some c) (hon : desktopClientOnWorkspace s c s.activeWorkspace = true) :
    (x, y) ∈ (desktopClientRect g s i).pixels ↔ Home s i ∧ Under g s x y i := by
  have hv := visible_of_on hon
  rw [desktopClientRect, hc]
  dsimp only
  rw [if_neg (not_not.mpr hv)]
  by_cases hpinned : c.pinned = true
  · have hhome : Home s i := ⟨c, hc, .inl hpinned⟩
    rw [if_pos hpinned]
    exact ⟨fun h => ⟨hhome, h⟩, fun h => h.2⟩
  · rw [if_neg hpinned]
    by_cases hactive : c.workspace = s.activeWorkspace
    · have hhome : Home s i := ⟨c, hc, .inr hactive⟩
      rw [hactive]
      exact ⟨fun h => ⟨hhome, h⟩, fun h => h.2⟩
    · have hhome : ¬ Home s i := by
        rintro ⟨b, hb, hor⟩
        obtain rfl := Option.some.inj (hc.symm.trans hb)
        exact hor.elim hpinned hactive
      -- a special client is on the active workspace alone
      have hoff : desktopClientOnWorkspace s c c.workspace = false := by
        rw [desktopClientOnWorkspace, if_neg (not_not.mpr hv)] at hon ⊢
        by_cases hspecial : c.special = true
        · rw [if_pos hspecial]
          simp [hactive]
        · rw [if_neg hspecial] at hon
          split at hon
          · cases hon
          · simp [hpinned, hactive] at hon
      rw [desktopClientRectForWorkspace, hc]
      dsimp only
      rw [if_neg (not_not.mpr hv), hoff, if_pos (by simp), pixels_zero]
      exact ⟨fun h => absurd h (Set.notMem_empty _), fun h => absurd h.1 hhome⟩

theorem find?_reverse_slots {l : List Nat} {p : Nat → Bool} (hl : l.Pairwise (· < ·)) :
    (l.reverse.find? p = none ∧ ∀ i ∈ l, p i = false) ∨
      ∃ i ∈ l, l.reverse.find? p = some i ∧ p i = true ∧ ∀ j ∈ l, i < j → p j = false := by
  cases hfind : l.reverse.find? p with
  | none =>
      refine .inl ⟨rfl, fun i hi => ?_⟩
      simpa using List.find?_eq_none.mp hfind i (List.mem_reverse.mpr hi)
  | some i =>
      obtain ⟨hp, above, below, hsplit, habove⟩ := List.find?_eq_some_iff_append.mp hfind
      have hmem : ∀ j, j ∈ l ↔ j ∈ above ∨ j = i ∨ j ∈ below := by
        intro j
        rw [← List.mem_reverse, hsplit]
        simp
      refine .inr ⟨i, (hmem i).mpr (.inr (.inl rfl)), rfl, hp, fun j hj hlt => ?_⟩
      obtain hj | rfl | hj := (hmem j).mp hj
      · simpa using habove j hj
      · exact absurd hlt (lt_irrefl _)
      · have hpairs := List.pairwise_reverse.mpr hl
        rw [hsplit, List.pairwise_append, List.pairwise_cons] at hpairs
        exact absurd (hpairs.2.1.1 j hj) (Nat.lt_asymm hlt)

/-- The focus goes to the client of the highest slot that is hit, or nothing is done. -/
theorem desktopFocusClientAt_cases (h : DesktopGood s) (g : DesktopScene) (x y : Int) :
    (desktopFocusClientAt s (desktopClientRect g) x y = (s, false) ∧
        ∀ i ∈ s.slots s.activeWorkspace, ¬ (Home s i ∧ Under g s x y i)) ∨
      ∃ i c, s.clients[i]? = some c ∧ desktopClientOnWorkspace s c s.activeWorkspace = true ∧ Home s i ∧
        Under g s x y i ∧
        (∀ j ∈ s.slots s.activeWorkspace, i < j → ¬ (Home s j ∧ Under g s x y j)) ∧
        (desktopFocusClientAt s (desktopClientRect g) x y).2 = true ∧
        (desktopFocusClientAt s (desktopClientRect g) x y).1.focusedClientId = c.id := by
  have hunder : ∀ r : DesktopRect, (x ≥ r.x ∧ y ≥ r.y ∧ x < r.x + r.w ∧ y < r.y + r.h) ↔ (x, y) ∈ r.pixels := by
    intro r
    simp only [DesktopRect.pixels, Set.mem_prod, Set.mem_Ico]
    omega
  have hhit : ∀ i ∈ s.slots s.activeWorkspace, (x, y) ∈ (desktopClientRect g s i).pixels ↔ Home s i ∧
      Under g s x y i := by
    intro i hi
    obtain ⟨c, hc, hon⟩ := mem_slots_iff.mp hi
    exact mem_clientRect_iff hc hon
  have hsorted : (s.slots s.activeWorkspace).Pairwise (· < ·) := List.pairwise_findIdxs
  unfold desktopFocusClientAt
  dsimp only
  obtain ⟨hnone, hall⟩ | ⟨i, hi, hsome, hp, habove⟩ :=
    find?_reverse_slots (p := fun i => decide (x ≥ (desktopClientRect g s i).x ∧ y ≥ (desktopClientRect g s i).y ∧
      x < (desktopClientRect g s i).x + (desktopClientRect g s i).w ∧
      y < (desktopClientRect g s i).y + (desktopClientRect g s i).h)) hsorted
  · rw [hnone]
    exact .inl ⟨rfl, fun i hi hit => of_decide_eq_false (hall i hi) ((hunder _).mpr ((hhit i hi).mpr hit))⟩
  · obtain ⟨c, hc, hon⟩ := mem_slots_iff.mp hi
    obtain ⟨hhome, hu⟩ := (hhit i hi).mp ((hunder _).mp (of_decide_eq_true hp))
    have hhighest : ∀ j ∈ s.slots s.activeWorkspace, i < j → ¬ (Home s j ∧ Under g s x y j) := fun j hj hlt hit =>
      of_decide_eq_false (habove j hj hlt) ((hunder _).mpr ((hhit j hj).mpr hit))
    refine .inr ⟨i, c, hc, hon, hhome, hu, hhighest, ?_⟩
    rw [hsome]
    dsimp only
    rw [hc, Option.any_some]
    by_cases hid : c.id = s.focusedClientId
    · rw [if_neg (by simpa using hid)]
      exact ⟨rfl, hid.symm⟩
    · rw [if_pos (by simpa using hid)]
      refine ⟨rfl, (desktopSetFocusedClientIndex_spec h (some i)).focused.trans ?_⟩
      rw [Desktop.focusId, Option.bind_some, hc, Option.filter_some, if_pos (visible_of_on hon), Option.map_some,
        Option.getD_some]

/-! ## When the two agree -/

theorem DrawnAt.slot (h : DesktopKept s) (hc : s.clients[i]? = some c)
    (hon : desktopClientOnWorkspace s c s.activeWorkspace = true) (hdrawn : DrawnAt g s x y c.id) : Drawn g s i := by
  obtain ⟨j, b, hb, hid, hdrawn, -⟩ := hdrawn
  obtain ⟨b', hb', honb⟩ := mem_slots_iff.mp hdrawn.mem_slots
  obtain rfl := Option.some.inj (hb.symm.trans hb')
  have hv := visible_of_on hon
  have hpos := (h.ids c (List.mem_of_getElem? hc) hv).1
  have hi := desktopClientIndexById_eq h.distinct hc hv hpos
  have hj := desktopClientIndexById_eq h.distinct hb (visible_of_on honb) (hid ▸ hpos)
  rw [hid, hi] at hj
  exact Option.some.inj hj ▸ hdrawn

/-- The focus goes to what is drawn at the point iff each client there that is not drawn is in a lower slot
than one that is, and no special client of another workspace is drawn alone there. -/
theorem hitTestAgrees_iff (g : DesktopScene) (s : Desktop) (x y : Int) (h : DesktopGood s) :
    HitTestAgrees g s x y ↔ HitsDrawn g s x y := by
  have hcases := desktopFocusClientAt_cases h g x y
  constructor
  · intro hagrees
    obtain ⟨hnone, hno⟩ | ⟨i, c, hc, hon, hhome, hu, habove, -, hid⟩ := hcases
    · have hfound := hagrees.found
      rw [hnone] at hfound
      exact ⟨fun i hi hu hhome _ => absurd ⟨hhome, hu⟩ (hno i hi),
        fun i _ hu _ hdrawn => absurd (hfound ⟨i, hdrawn, hu⟩).1 Bool.false_ne_true⟩
    · -- the client that is hit is drawn, as it keeps the focus or gets it
      have hdrawn : Drawn g s i := by
        by_cases hkeeps : c.id = s.focusedClientId
        · exact drawn_of_focusedId h.toDesktopKept hc hon hkeeps
        · have hmoved := hagrees.moved
          rw [hid] at hmoved
          exact (hmoved hkeeps).slot h.toDesktopKept hc hon
      refine ⟨fun j hj huj hhomej hundrawn => ?_, fun j _ _ _ _ => ⟨i, hdrawn, hhome, hu⟩⟩
      obtain hlt | rfl | hgt := lt_trichotomy j i
      · exact ⟨i, hlt, hdrawn, hhome, hu⟩
      · exact absurd hdrawn hundrawn
      · exact absurd ⟨hhomej, huj⟩ (habove j hj hgt)
  · intro hhits
    obtain ⟨hnone, hno⟩ | ⟨i, c, hc, hon, hhome, hu, habove, htrue, hid⟩ := hcases
    · refine ⟨fun hmoves => absurd (by rw [hnone]) hmoves, fun hfound => ?_⟩
      obtain ⟨i, hdrawn, hu⟩ := hfound
      obtain ⟨j, hdrawnj, hhome, huj⟩ : ∃ j, Drawn g s j ∧ Home s j ∧ Under g s x y j := by
        by_cases hhome : Home s i
        · exact ⟨i, hdrawn, hhome, hu⟩
        · exact hhits.beside i hdrawn.mem_slots hu hhome hdrawn
      exact absurd ⟨hhome, huj⟩ (hno j hdrawnj.mem_slots)
    · have hdrawn : Drawn g s i := by
        by_contra hundrawn
        obtain ⟨j, hlt, hdrawn, hhomej, huj⟩ := hhits.below i (mem_slots hc hon) hu hhome hundrawn
        exact habove j hdrawn.mem_slots hlt ⟨hhomej, huj⟩
      have hat : DrawnAt g s x y (desktopFocusClientAt s (desktopClientRect g) x y).1.focusedClientId :=
        hid ▸ ⟨i, c, hc, rfl, hdrawn, hu⟩
      exact ⟨fun _ => hat, fun _ => ⟨htrue, hat⟩⟩

/-- Two clients, with the focus on the one in the lower slot. -/
def lowerFocused : List DesktopOp := [.spawn none none true [], .spawn none none false [], .focusRelative 1]

/-- Both are drawn side by side. -/
theorem hitTestAgrees_tiled : HitTestAgrees sampleScene (desktopRun lowerFocused) 600 300 := by
  have hslots : (desktopRun lowerFocused).slots (desktopRun lowerFocused).activeWorkspace = [0, 1] := by decide
  have hdrawn : ∀ i ∈ [0, 1], Drawn sampleScene (desktopRun lowerFocused) i := by
    unfold Drawn
    decide
  have hhome : ∀ i ∈ [0, 1], Home (desktopRun lowerFocused) i := fun i hi => by
    obtain rfl | rfl : i = 0 ∨ i = 1 := by simpa using hi
    · exact ⟨_, rfl, .inr (by decide)⟩
    · exact ⟨_, rfl, .inr (by decide)⟩
  refine (hitTestAgrees_iff sampleScene (desktopRun lowerFocused) 600 300
    (desktopRun_good lowerFocused (by decide)).1).mpr ⟨fun i hi _ _ hundrawn => ?_, fun i hi _ haway _ => ?_⟩
  · exact absurd (hdrawn i (hslots ▸ hi)) hundrawn
  · exact absurd (hhome i (hslots ▸ hi)) haway

/-- The screen with the focused client alone on it. -/
def monocleScene : DesktopScene := { sampleScene with sessionLayout := cstr "monocle" }

/-- With the focused one alone on the screen, the focus goes to the other one. -/
theorem not_hitTestAgrees : ¬ ∀ (g : DesktopScene) (ops : List DesktopOp) (x y : Int),
    ops.countP DesktopOp.isSpawn < 2 ^ 31 - 1 → HitTestAgrees g (desktopRun ops) x y := by
  intro h
  have hmoved := (h monocleScene lowerFocused 512 384 (by decide)).moved
  have hhit :
      (desktopFocusClientAt (desktopRun lowerFocused) (desktopClientRect monocleScene) 512 384).1.focusedClientId =
      2 := by decide
  rw [hhit] at hmoved
  have hgood := (desktopRun_good lowerFocused (by decide)).1
  obtain ⟨c, hc, hid⟩ : ∃ c, (desktopRun lowerFocused).clients[1]? = some c ∧ c.id = 2 := ⟨_, rfl, by decide⟩
  have hon : desktopClientOnWorkspace (desktopRun lowerFocused) c (desktopRun lowerFocused).activeWorkspace = true := by
    obtain rfl := Option.some.inj hc
    decide
  have hat : DrawnAt monocleScene (desktopRun lowerFocused) 512 384 c.id := by
    rw [hid]
    exact hmoved (by decide)
  have hdrawn : ¬ Drawn monocleScene (desktopRun lowerFocused) 1 := by
    rw [Drawn]
    decide
  exact hdrawn (hat.slot hgood.toDesktopKept hc hon)

end Hits

end Orizon
