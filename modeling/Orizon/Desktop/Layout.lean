import Orizon.Desktop.Actions
import Orizon.Lib.CutInto
import Orizon.Terminal.Grid

/-!
# Orizon.Desktop.Layout

Where the clients of a workspace are on the screen.

The rectangle of a client is computed on its own, from its position and the number of clients.
The rectangles of all positions cut the area into parts (`cutInto_dwindle`, `cutInto_master`), so
no two clients of a workspace overlap (`desktopTiling_holds`).  The layout state of a workspace is
made when it is first read; the model reads it as it will be.
-/

namespace Orizon

/-! ## The statics -/

/-- `DESKTOP_DEFAULT_SPLIT_RATIO`. -/
def desktopDefaultSplitRatio : Int := 50

/-- `DESKTOP_DEFAULT_MASTER_RATIO`. -/
def desktopDefaultMasterRatio : Int := 58

/-- `DESKTOP_DEFAULT_MASTER_COUNT`. -/
def desktopDefaultMasterCount : Int := 1

/-- `desktop_workspace_t`, what it remembers of the layout. -/
structure DesktopLayoutState where
  layoutMode : Int
  splitMode : Int
  splitRatioPercent : Int
  masterRatioPercent : Int
  masterCount : Int

/-- The statics that the layout reads besides the clients; a workspace has no layout state as long
as `layout_initialized` is 0. -/
structure DesktopScene where
  screenWidth : UInt32
  screenHeight : UInt32
  gapsIn : Int
  gapsOut : Int
  sessionLayout : CStr
  workspaces : List (Option DesktopLayoutState)

/-- `desktop_layout_mode_from_name`. -/
def desktopLayoutModeFromName (name : CStr) : Int :=
  if name = cstr "master" then 1 else if name = cstr "monocle" then 2 else 0

/-- `desktop_layout_mode_name`. -/
def desktopLayoutModeName (mode : Int) : CStr :=
  if mode = 1 then cstr "master" else if mode = 2 then cstr "monocle" else cstr "dwindle"

/-- `desktop_workspace_state_index`; `none` is -1. -/
def desktopWorkspaceStateIndex (workspace : Int) : Option Nat :=
  if workspace < 1 ∨ workspace > desktopMaxWorkspaces then none else some (workspace - 1).toNat

/-- `desktop_workspace_init_layout_state`, for a workspace without a layout state. -/
def desktopWorkspaceInitLayoutState (g : DesktopScene) : DesktopLayoutState where
  layoutMode := desktopLayoutModeFromName g.sessionLayout
  splitMode := 0
  splitRatioPercent := desktopDefaultSplitRatio
  masterRatioPercent := desktopDefaultMasterRatio
  masterCount := desktopDefaultMasterCount

/-- The layout state of a workspace. -/
def DesktopScene.layoutState (g : DesktopScene) (idx : Nat) : DesktopLayoutState :=
  ((g.workspaces[idx]?).join).getD (desktopWorkspaceInitLayoutState g)

/-- `desktop_layout_engine_for_workspace`. -/
def desktopLayoutEngineForWorkspace (g : DesktopScene) (workspace : Int) : CStr :=
  match desktopWorkspaceStateIndex workspace with
  | none => cstr "dwindle"
  | some idx => desktopLayoutModeName (g.layoutState idx).layoutMode

/-- A setting of the layout of a workspace, with its default. -/
def DesktopScene.setting (g : DesktopScene) (workspace default : Int) (field : DesktopLayoutState → Int) : Int :=
  match desktopWorkspaceStateIndex workspace with
  | none => default
  | some idx => field (g.layoutState idx)

/-- `desktop_split_mode_for_workspace`. -/
def desktopSplitModeForWorkspace (g : DesktopScene) (workspace : Int) : Int :=
  g.setting workspace 0 DesktopLayoutState.splitMode

/-- `desktop_split_ratio_for_workspace`. -/
def desktopSplitRatioForWorkspace (g : DesktopScene) (workspace : Int) : Int :=
  g.setting workspace desktopDefaultSplitRatio DesktopLayoutState.splitRatioPercent

/-- `desktop_master_ratio_for_workspace`. -/
def desktopMasterRatioForWorkspace (g : DesktopScene) (workspace : Int) : Int :=
  g.setting workspace desktopDefaultMasterRatio DesktopLayoutState.masterRatioPercent

/-- `desktop_master_count_for_workspace`. -/
def desktopMasterCountForWorkspace (g : DesktopScene) (workspace : Int) : Int :=
  g.setting workspace desktopDefaultMasterCount DesktopLayoutState.masterCount

/-! ## The rectangles -/

/-- The first part of a side that is split: its percentage, or the half if that is too small. -/
def desktopFirstPart (size ratio least : Int) : Int :=
  let first := (int32 (size * ratio)).tdiv 100
  if first < least then size.tdiv 2 else first

/-- The loop of `desktop_dwindle_rect_with_state` from round `i` on, over what is left of the area. -/
def desktopDwindleLoop (target count splitMode ratio : Int) : Nat → Int → DesktopRect → DesktopRect
  | 0, _, cur => cur
  | fuel + 1, i, cur =>
      if i < count then
        if i = count - 1 then cur
        else if splitMode = 1 ∨ (splitMode = 0 ∧ cur.w ≥ cur.h) then
          let firstW := desktopFirstPart cur.w ratio 48
          if i = target then { cur with w := firstW }
          else
            desktopDwindleLoop target count splitMode ratio fuel (i + 1)
              { cur with x := int32 (cur.x + firstW), w := int32 (cur.w - firstW) }
        else
          let firstH := desktopFirstPart cur.h ratio 40
          if i = target then { cur with h := firstH }
          else
            desktopDwindleLoop target count splitMode ratio fuel (i + 1)
              { cur with y := int32 (cur.y + firstH), h := int32 (cur.h - firstH) }
      else cur

/-- `desktop_dwindle_rect_with_state`. -/
def desktopDwindleRectWithState (target count : Int) (area : DesktopRect) (splitMode ratio : Int) : DesktopRect :=
  if count ≤ 1 then area else desktopDwindleLoop target count splitMode ratio count.toNat 0 area

/-- `desktop_master_rect_with_state`. -/
def desktopMasterRectWithState (target count : Int) (area : DesktopRect) (ratio masterCount : Int) : DesktopRect :=
  let masterCount := if masterCount < 1 then 1 else masterCount
  let masterCount := if masterCount > desktopMaxClients then (desktopMaxClients : Int) else masterCount
  let effective := if masterCount < count then masterCount else count
  if count ≤ 1 then area
  else if target < effective then
    let masterW := if count ≤ effective then area.w else (int32 (area.w * ratio)).tdiv 100
    let masterH := area.h.tdiv effective
    { x := area.x
      y := int32 (area.y + int32 (target * masterH))
      w := masterW
      h := if target = effective - 1 then int32 (area.h - int32 (target * masterH)) else masterH }
  else
    let masterW := (int32 (area.w * ratio)).tdiv 100
    let stackCount := count - effective
    let stackH := area.h.tdiv stackCount
    { x := int32 (area.x + masterW)
      y := int32 (area.y + int32 ((target - effective) * stackH))
      w := int32 (area.w - masterW)
      h := if target = count - 1 then int32 (area.h - int32 ((target - effective) * stackH)) else stackH }

/-- `desktop_tiling_area`; `TOP_BAR_HEIGHT` is 30 and `FOOTER_HEIGHT` 28. -/
def desktopTilingArea (g : DesktopScene) : DesktopRect :=
  let areaX := int32 (44 + g.gapsOut)
  let areaY : Int := 30 + 92
  let areaW := int32 (int32 (int32 g.screenWidth.toNat - 88) - int32 (g.gapsOut * 2))
  let areaH := int32 (int32 (int32 (int32 (int32 g.screenHeight.toNat - areaY) - 28) - 18) - g.gapsOut)
  ⟨areaX, areaY, if areaW < 120 then 120 else areaW, if areaH < 80 then 80 else areaH⟩

/-- `desktop_client_position_on_workspace`; `none` is -1. -/
def desktopClientPositionOnWorkspace (s : Desktop) (idx : Nat) (workspace : Int) : Option Nat :=
  (s.slots workspace).idxOf? idx

/-- A rectangle without the inner gap. -/
def DesktopRect.shrink (r : DesktopRect) (gap : Int) : DesktopRect :=
  let w := int32 (r.w - int32 (gap * 2))
  let h := int32 (r.h - int32 (gap * 2))
  ⟨int32 (r.x + gap), int32 (r.y + gap), if w < 0 then 0 else w, if h < 0 then 0 else h⟩

/-- `desktop_client_rect_for_workspace`. -/
def desktopClientRectForWorkspace (g : DesktopScene) (s : Desktop) (idx : Nat) (workspace : Int) : DesktopRect :=
  match s.clients[idx]? with
  | none => ⟨0, 0, 0, 0⟩
  | some c =>
      if ¬ c.visible then ⟨0, 0, 0, 0⟩
      else if ¬ desktopClientOnWorkspace s c workspace then ⟨0, 0, 0, 0⟩
      else
        let area := desktopTilingArea g
        let count := desktopClientCountOnWorkspace s workspace
        let layoutMode := desktopLayoutModeFromName (desktopLayoutEngineForWorkspace g workspace)
        let r :=
          match desktopClientPositionOnWorkspace s idx workspace with
          | none => area
          | some pos =>
              if count ≤ 0 ∨ c.fullscreen ∨ layoutMode = 2 then area
              else if layoutMode = 1 then
                desktopMasterRectWithState pos count area (desktopMasterRatioForWorkspace g workspace)
                  (desktopMasterCountForWorkspace g workspace)
              else
                desktopDwindleRectWithState pos count area (desktopSplitModeForWorkspace g workspace)
                  (desktopSplitRatioForWorkspace g workspace)
        r.shrink g.gapsIn

/-- `desktop_client_rect`. -/
def desktopClientRect (g : DesktopScene) : DesktopLayout := fun s idx =>
  match s.clients[idx]? with
  | none => ⟨0, 0, 0, 0⟩
  | some c =>
      if ¬ c.visible then ⟨0, 0, 0, 0⟩
      else desktopClientRectForWorkspace g s idx (if c.pinned then s.activeWorkspace else c.workspace)

/-! ## What is required -/

/-- The pixels of a rectangle. -/
def DesktopRect.pixels (r : DesktopRect) : Set (Int × Int) := Set.Ico r.x (r.x + r.w) ×ˢ Set.Ico r.y (r.y + r.h)

/-- An area whose edges are `int`s, as are a hundred times its width and height. -/
structure DesktopRect.Tileable (r : DesktopRect) : Prop where
  width : 0 ≤ r.w ∧ r.w * 100 < 2 ^ 31
  height : 0 ≤ r.h ∧ r.h * 100 < 2 ^ 31
  left : -2 ^ 31 ≤ r.x
  right : r.x + r.w < 2 ^ 31
  top : -2 ^ 31 ≤ r.y
  bottom : r.y + r.h < 2 ^ 31

/-- A percentage. -/
abbrev Percent := { ratio : Int // 0 ≤ ratio ∧ ratio ≤ 100 }

/-- A workspace in the dwindle or master layout without a fullscreen client, on an area whose edges
are `int`s with the gap too. -/
structure DesktopTiled (g : DesktopScene) (s : Desktop) (workspace : Int) : Prop where
  area : (desktopTilingArea g).Tileable
  gap : 0 ≤ g.gapsIn
  gaps : g.gapsIn * 2 < 2 ^ 31
  right : (desktopTilingArea g).x + (desktopTilingArea g).w + g.gapsIn < 2 ^ 31
  bottom : (desktopTilingArea g).y + (desktopTilingArea g).h + g.gapsIn < 2 ^ 31
  split : 0 ≤ desktopSplitRatioForWorkspace g workspace ∧ desktopSplitRatioForWorkspace g workspace ≤ 100
  master : 0 ≤ desktopMasterRatioForWorkspace g workspace ∧ desktopMasterRatioForWorkspace g workspace ≤ 100
  layout : desktopLayoutModeFromName (desktopLayoutEngineForWorkspace g workspace) ≠ 2
  plain : ∀ c ∈ s.clients, desktopClientOnWorkspace s c workspace = true → c.fullscreen = false

/-! ## Splitting -/

section Splitting

variable {r cur : DesktopRect} {size ratio least k splitMode target count : Int}

theorem desktopFirstPart_range (hsize : 0 ≤ size) (hsmall : size * 100 < 2 ^ 31) (hratio : 0 ≤ ratio ∧ ratio ≤ 100) :
    0 ≤ desktopFirstPart size ratio least ∧ desktopFirstPart size ratio least ≤ size := by
  have hlow : 0 ≤ size * ratio := Int.mul_nonneg hsize hratio.1
  have hhigh : size * ratio ≤ size * 100 := Int.mul_le_mul_of_nonneg_left hratio.2 hsize
  rw [desktopFirstPart, int32_of_range (by omega) (by omega), Int.tdiv_eq_ediv_of_nonneg hlow,
    Int.tdiv_eq_ediv_of_nonneg hsize]
  split <;> omega

/-- A rectangle that does not reach outside of another one, also where it is empty. -/
structure DesktopRect.Within (r area : DesktopRect) : Prop where
  left : area.x ≤ r.x
  top : area.y ≤ r.y
  width : 0 ≤ r.w
  height : 0 ≤ r.h
  right : r.x + r.w ≤ area.x + area.w
  bottom : r.y + r.h ≤ area.y + area.h

theorem DesktopRect.Tileable.within (h : r.Tileable) : r.Within r :=
  ⟨le_rfl, le_rfl, h.width.1, h.height.1, le_rfl, le_rfl⟩

theorem DesktopRect.Within.trans {q : DesktopRect} (h : q.Within r) (h' : r.Within cur) : q.Within cur :=
  ⟨h'.left.trans h.left, h'.top.trans h.top, h.width, h.height, h.right.trans h'.right, h.bottom.trans h'.bottom⟩

/-- A rectangle in two parts, of which the second one is split further. -/
structure DesktopRect.Split (r first rest : DesktopRect) : Prop where
  tileable : rest.Tileable
  first_within : first.Within r
  rest_within : rest.Within r
  union : first.pixels ∪ rest.pixels = r.pixels
  disjoint : Disjoint first.pixels rest.pixels

theorem DesktopRect.Tileable.splitWidth (h : r.Tileable) (hk : 0 ≤ k ∧ k ≤ r.w) :
    r.Split { r with w := k } { r with x := int32 (r.x + k), w := int32 (r.w - k) } := by
  obtain ⟨hwidth, hheight, hleft, hright, htop, hbottom⟩ := h
  rw [int32_of_range (by omega) (by omega), int32_of_range (by omega) (by omega)]
  refine ⟨?_, ?_, ?_, ?_, ?_⟩
  · constructor <;> dsimp only <;> omega
  · constructor <;> dsimp only <;> omega
  · constructor <;> dsimp only <;> omega
  · ext p
    simp only [DesktopRect.pixels, Set.mem_union, Set.mem_prod, Set.mem_Ico]
    omega
  · rw [Set.disjoint_left]
    intro p hp
    simp only [DesktopRect.pixels, Set.mem_prod, Set.mem_Ico] at hp ⊢
    omega

theorem DesktopRect.Tileable.splitHeight (h : r.Tileable) (hk : 0 ≤ k ∧ k ≤ r.h) :
    r.Split { r with h := k } { r with y := int32 (r.y + k), h := int32 (r.h - k) } := by
  obtain ⟨hwidth, hheight, hleft, hright, htop, hbottom⟩ := h
  rw [int32_of_range (by omega) (by omega), int32_of_range (by omega) (by omega)]
  refine ⟨?_, ?_, ?_, ?_, ?_⟩
  · constructor <;> dsimp only <;> omega
  · constructor <;> dsimp only <;> omega
  · constructor <;> dsimp only <;> omega
  · ext p
    simp only [DesktopRect.pixels, Set.mem_union, Set.mem_prod, Set.mem_Ico]
    omega
  · rw [Set.disjoint_left]
    intro p hp
    simp only [DesktopRect.pixels, Set.mem_prod, Set.mem_Ico] at hp ⊢
    omega

/-- A round before the last one splits what is left: its target gets the first part, and the others
are in the rest. -/
theorem desktopDwindleLoop_round (hratio : 0 ≤ ratio ∧ ratio ≤ 100) (hcur : cur.Tileable) {i : Int} (hlive : i < count)
    (hmore : i ≠ count - 1) :
    ∃ first rest : DesktopRect, cur.Split first rest ∧ ∀ (target : Int) (fuel : Nat),
      desktopDwindleLoop target count splitMode ratio (fuel + 1) i cur =
        if i = target then first else desktopDwindleLoop target count splitMode ratio fuel (i + 1) rest := by
  by_cases hsplit : splitMode = 1 ∨ (splitMode = 0 ∧ cur.w ≥ cur.h)
  · have hpart := @desktopFirstPart_range cur.w ratio 48 hcur.width.1 hcur.width.2 hratio
    refine ⟨_, _, hcur.splitWidth hpart, fun target fuel => ?_⟩
    rw [desktopDwindleLoop, if_pos hlive, if_neg hmore, if_pos hsplit]
  · have hpart := @desktopFirstPart_range cur.h ratio 40 hcur.height.1 hcur.height.2 hratio
    refine ⟨_, _, hcur.splitHeight hpart, fun target fuel => ?_⟩
    rw [desktopDwindleLoop, if_pos hlive, if_neg hmore, if_neg hsplit]

/-- From round `i` on the targets cut what is left of the area. -/
theorem cutInto_dwindleLoop (hratio : 0 ≤ ratio ∧ ratio ≤ 100) {n fuel : Nat} (hfuel : n < fuel) {i : Int}
    (hi : i + n + 1 = count) (hcur : cur.Tileable) :
    CutInto cur.pixels (n + 1) fun t =>
      (desktopDwindleLoop (i + t) count splitMode ratio fuel i cur).pixels := by
  induction n generalizing fuel i cur with
  | zero =>
      obtain ⟨fuel, rfl⟩ := Nat.exists_eq_add_of_lt hfuel
      refine cutInto_one ?_
      rw [desktopDwindleLoop, if_pos (by omega), if_pos (by omega)]
  | succ n ih =>
      obtain ⟨fuel, rfl⟩ := Nat.exists_eq_add_of_lt hfuel
      obtain ⟨first, rest, hsplit, hround⟩ :=
        @desktopDwindleLoop_round _ ratio splitMode count hratio hcur i (by omega) (by omega)
      have hfirst : desktopDwindleLoop (i + (0 : ℕ)) count splitMode ratio (n + 1 + fuel + 1) i cur = first := by
        rw [hround, if_pos (by omega)]
      have hcut := @ih _ (n + 1 + fuel) (by omega) (i + 1) (by omega) hsplit.tileable
      refine CutInto.cons (b := rest.pixels) (hcut.congr fun t _ => ?_) ?_ ?_
      · rw [hround, if_neg (by omega), show i + (t + 1 : ℕ) = i + 1 + t by omega]
      · rw [hfirst, hsplit.union]
      · rw [hfirst]
        exact hsplit.disjoint

theorem cutInto_dwindle (area : DesktopRect) (harea : area.Tileable) {n : Nat} (hn : 0 < n) (splitMode : Int)
    (hratio : 0 ≤ ratio ∧ ratio ≤ 100) :
    CutInto area.pixels n fun t => (desktopDwindleRectWithState t n area splitMode ratio).pixels := by
  by_cases hone : n = 1
  · subst hone
    exact cutInto_one rfl
  · obtain ⟨n, rfl⟩ := Nat.exists_eq_add_of_lt hn
    have hloop := @cutInto_dwindleLoop area ratio splitMode (0 + n + 1 : ℕ) hratio n (0 + n + 1) (by omega) 0
        (by omega) harea
    rw [Nat.zero_add] at hloop ⊢
    refine hloop.congr fun t _ => ?_
    rw [desktopDwindleRectWithState, if_neg (by omega), Int.toNat_natCast, Int.zero_add]

/-! ## Master and stack -/

theorem cutInto_strips {y height : Int} (hheight : 0 ≤ height) {n : Nat} (hn : 0 < n) :
    CutInto (Set.Ico y (y + height)) n fun t =>
      Set.Ico (y + t * height.tdiv n)
        (y + t * height.tdiv n + if (t : Int) = n - 1 then height - t * height.tdiv n else height.tdiv n) := by
  obtain ⟨n, rfl⟩ := Nat.exists_eq_add_of_lt hn
  rw [Nat.zero_add]
  generalize hstrip : height.tdiv ((n + 1 : ℕ) : Int) = strip
  have hstrip0 : 0 ≤ strip := hstrip ▸ Int.tdiv_nonneg hheight (Int.natCast_nonneg _)
  have hfits : ((n + 1 : ℕ) : Int) * strip ≤ height := by
    rw [← hstrip, Int.tdiv_eq_ediv_of_nonneg hheight]
    exact Int.mul_ediv_self_le (by omega)
  -- the edges of the strips
  have hedges : Monotone fun t : ℕ => if t < n + 1 then y + t * strip else y + height := by
    refine monotone_nat_of_le_succ fun t => ?_
    have hnext : ((t + 1 : ℕ) : Int) * strip = t * strip + strip := by push_cast; ring
    split
    · split
      · omega
      · have hle := Int.mul_le_mul_of_nonneg_right (show (t : Int) ≤ (n + 1 : ℕ) by omega) hstrip0
        omega
    · rw [if_neg (by omega)]
  have hcut := cutInto_Ico hedges n
  simp only [Nat.zero_lt_succ, if_true, lt_irrefl, if_false, Nat.cast_zero, zero_mul, add_zero] at hcut
  refine hcut.congr fun t ht => ?_
  rw [if_pos ht]
  by_cases hlast : t = n
  · subst hlast
    rw [if_neg (lt_irrefl _), if_pos (by omega)]
    congr 1
    omega
  · have hinner : ¬ (t : Int) = ((n + 1 : ℕ) : Int) - 1 := by omega
    rw [if_neg hinner, if_pos (show t + 1 < n + 1 by omega)]
    congr 1
    push_cast
    ring

/-- A strip of a column, as the code computes it. -/
def columnRect (area : DesktopRect) (x w : Int) (n t : Nat) : DesktopRect where
  x := x
  y := int32 (area.y + int32 (t * area.h.tdiv n))
  w := w
  h := if (t : Int) = n - 1 then int32 (area.h - int32 (t * area.h.tdiv n)) else area.h.tdiv n

theorem columnRect_eq {area : DesktopRect} (harea : area.Tileable) (x w : Int) {n t : Nat} (ht : t < n) :
    columnRect area x w n t =
        ⟨x, area.y + t * area.h.tdiv n, w, if (t : Int) = n - 1 then area.h - t * area.h.tdiv n else area.h.tdiv n⟩ ∧
      area.y ≤ (columnRect area x w n t).y ∧ 0 ≤ (columnRect area x w n t).h ∧
      (columnRect area x w n t).y + (columnRect area x w n t).h ≤ area.y + area.h := by
  obtain ⟨-, hheight, -, -, htop, hbottom⟩ := harea
  have hstrip0 : 0 ≤ area.h.tdiv n := Int.tdiv_nonneg hheight.1 (Int.natCast_nonneg _)
  have hfits : (n : Int) * area.h.tdiv n ≤ area.h := by
    rw [Int.tdiv_eq_ediv_of_nonneg hheight.1]
    exact Int.mul_ediv_self_le (by omega)
  have hbehind : (t + 1 : Int) * area.h.tdiv n ≤ n * area.h.tdiv n := Int.mul_le_mul_of_nonneg_right (by omega) hstrip0
  have hpos : 0 ≤ (t : Int) * area.h.tdiv n := Int.mul_nonneg (Int.natCast_nonneg _) hstrip0
  rw [Int.add_mul, Int.one_mul] at hbehind
  have heq : columnRect area x w n t =
      ⟨x, area.y + t * area.h.tdiv n, w, if (t : Int) = n - 1 then area.h - t * area.h.tdiv n else area.h.tdiv n⟩ := by
    rw [columnRect, int32_of_range (show -2 ^ 31 ≤ (t : Int) * area.h.tdiv n by omega) (by omega),
      int32_of_range (show -2 ^ 31 ≤ area.y + (t : Int) * area.h.tdiv n by omega) (by omega),
      int32_of_range (show -2 ^ 31 ≤ area.h - (t : Int) * area.h.tdiv n by omega) (by omega)]
  rw [heq]
  refine ⟨rfl, ?_, ?_, ?_⟩
  · change area.y ≤ area.y + t * area.h.tdiv n
    omega
  · dsimp only
    split <;> omega
  · dsimp only
    split <;> omega

theorem cutInto_column {area : DesktopRect} (harea : area.Tileable) (x w : Int) {n : Nat} (hn : 0 < n) :
    CutInto (Set.Ico x (x + w) ×ˢ Set.Ico area.y (area.y + area.h)) n fun t => (columnRect area x w n t).pixels := by
  have hstrips := (@cutInto_strips area.y area.h harea.height.1 n hn).prod (Set.Ico x (x + w))
  refine hstrips.congr fun t ht => ?_
  rw [(columnRect_eq harea x w ht).1]
  rfl

theorem desktopMasterRectWithState_columns (area : DesktopRect) (harea : area.Tileable) {n : Nat} (hn : 1 < n)
    (hratio : 0 ≤ ratio ∧ ratio ≤ 100) (masterCount : Int) : ∃ (m : Nat) (masterW : Int), 0 < m ∧ m ≤ n ∧
      0 ≤ masterW ∧ masterW ≤ area.w ∧ (m = n → masterW = area.w) ∧
      (∀ t < m, desktopMasterRectWithState t n area ratio masterCount = columnRect area area.x masterW m t) ∧
      ∀ t < n - m, desktopMasterRectWithState (m + t : ℕ) n area ratio masterCount =
        columnRect area (area.x + masterW) (area.w - masterW) (n - m) t := by
  let atLeast := if masterCount < 1 then 1 else masterCount
  let clamped := if atLeast > desktopMaxClients then (desktopMaxClients : Int) else atLeast
  have hleast : 1 ≤ atLeast := by
    simp only [atLeast]
    split <;> omega
  have hclamped : 1 ≤ clamped := by
    simp only [clamped]
    split
    · decide
    · exact hleast
  obtain ⟨m, hm⟩ := Int.eq_ofNat_of_zero_le (show 0 ≤ if clamped < n then clamped else (n : Int) by split <;> omega)
  have hmrange : 0 < m ∧ m ≤ n := by split at hm <;> omega
  have heffective : ∀ t : Nat, desktopMasterRectWithState t n area ratio masterCount =
      if (t : Int) < m then
        ⟨area.x, int32 (area.y + int32 (t * area.h.tdiv m)),
          if (n : Int) ≤ m then area.w else (int32 (area.w * ratio)).tdiv 100,
          if (t : Int) = m - 1 then int32 (area.h - int32 (t * area.h.tdiv m)) else area.h.tdiv m⟩
      else
        ⟨int32 (area.x + (int32 (area.w * ratio)).tdiv 100), int32 (area.y + int32 ((t - m) * area.h.tdiv (n - m))),
          int32 (area.w - (int32 (area.w * ratio)).tdiv 100),
          if (t : Int) = n - 1 then int32 (area.h - int32 ((t - m) * area.h.tdiv (n - m)))
          else area.h.tdiv (n - m)⟩ := by
    intro t
    rw [desktopMasterRectWithState, ← hm]
    exact if_neg (by omega)
  have hlow : 0 ≤ area.w * ratio := Int.mul_nonneg harea.width.1 hratio.1
  have hhigh : area.w * ratio ≤ area.w * 100 := Int.mul_le_mul_of_nonneg_left hratio.2 harea.width.1
  obtain ⟨hwidth, -, hleft, hright, -, -⟩ := harea
  obtain ⟨masterW, hmaster, hmasterW⟩ : ∃ masterW, (int32 (area.w * ratio)).tdiv 100 = masterW ∧
      0 ≤ masterW ∧ masterW ≤ area.w := by
    refine ⟨_, rfl, ?_⟩
    rw [int32_of_range (by omega) (by omega), Int.tdiv_eq_ediv_of_nonneg hlow]
    omega
  refine ⟨m, if n ≤ m then area.w else masterW, hmrange.1, hmrange.2, by split <;> omega, by split <;> omega,
    fun hall => if_pos hall.ge, fun t ht => ?_, fun t ht => ?_⟩
  · rw [heffective, if_pos (by omega), hmaster, columnRect]
    simp only [Nat.cast_le]
  · have hsome : ¬ n ≤ m := by omega
    have htarget : ((m + t : ℕ) : Int) - m = t := by push_cast; ring
    have hstack : (n : Int) - m = (n - m : ℕ) := by omega
    have hlast : (((m + t : ℕ) : Int) = (n : Int) - 1) = ((t : Int) = ((n - m : ℕ) : Int) - 1) := by
      rw [eq_iff_iff]
      omega
    rw [heffective, if_neg (by omega), hmaster, int32_of_range (show -2 ^ 31 ≤ area.x + masterW by omega) (by omega),
      int32_of_range (show -2 ^ 31 ≤ area.w - masterW by omega) (by omega), htarget, hstack, if_neg hsome, columnRect]
    simp only [hlast]

theorem cutInto_master (area : DesktopRect) (harea : area.Tileable) {n : Nat} (hn : 0 < n)
    (hratio : 0 ≤ ratio ∧ ratio ≤ 100) (masterCount : Int) :
    CutInto area.pixels n fun t => (desktopMasterRectWithState t n area ratio masterCount).pixels := by
  by_cases hone : n = 1
  · subst hone
    refine cutInto_one ?_
    rw [desktopMasterRectWithState]
    simp
  · obtain ⟨m, masterW, hm, hmn, hlow, hhigh, hall, hmasters, hstack⟩ :=
      desktopMasterRectWithState_columns area harea (show 1 < n by omega) hratio masterCount
    have hleft := (cutInto_column harea area.x masterW hm).congr fun t ht => by rw [← hmasters t ht]
    by_cases hsome : m = n
    · subst hsome
      rw [hall rfl] at hleft
      exact hleft
    · have hright := (cutInto_column harea (area.x + masterW) (area.w - masterW) (show 0 < n - m by omega)).congr
        fun t ht => by rw [← hstack t ht]
      have hcut := @CutInto.append _ area.pixels _ _
        (fun t : ℕ => (desktopMasterRectWithState t n area ratio masterCount).pixels) _ _ hleft hright ?_ ?_
      · rwa [Nat.add_sub_of_le hmn] at hcut
      · ext p
        simp only [DesktopRect.pixels, Set.mem_union, Set.mem_prod, Set.mem_Ico]
        omega
      · rw [Set.disjoint_left]
        intro p hp
        simp only [Set.mem_prod, Set.mem_Ico] at hp ⊢
        omega

/-! ## Within the area -/

theorem within_dwindleLoop (hratio : 0 ≤ ratio ∧ ratio ≤ 100) (fuel : Nat) (i : Int) (hcur : cur.Tileable) :
    (desktopDwindleLoop target count splitMode ratio fuel i cur).Within cur := by
  induction fuel generalizing i cur with
  | zero => exact hcur.within
  | succ fuel ih =>
      by_cases hlast : i < count ∧ i ≠ count - 1
      · obtain ⟨first, rest, hsplit, hround⟩ :=
          @desktopDwindleLoop_round _ ratio splitMode count hratio hcur i hlast.1 hlast.2
        rw [hround]
        split
        · exact hsplit.first_within
        · exact (ih (i + 1) hsplit.tileable).trans hsplit.rest_within
      · rw [desktopDwindleLoop]
        split
        · rw [if_pos (by omega)]
          exact hcur.within
        · exact hcur.within

theorem within_dwindle (area : DesktopRect) (harea : area.Tileable) (target count splitMode : Int)
    (hratio : 0 ≤ ratio ∧ ratio ≤ 100) :
    (desktopDwindleRectWithState target count area splitMode ratio).Within area := by
  rw [desktopDwindleRectWithState]
  split
  · exact harea.within
  · exact within_dwindleLoop hratio _ _ harea

theorem within_column {area : DesktopRect} (harea : area.Tileable) {x w : Int} (hx : area.x ≤ x) (hw : 0 ≤ w)
    (hright : x + w ≤ area.x + area.w) {n t : Nat} (ht : t < n) : (columnRect area x w n t).Within area := by
  obtain ⟨-, htop, hheight, hbottom⟩ := columnRect_eq harea x w ht
  exact ⟨hx, htop, hw, hheight, hright, hbottom⟩

theorem within_master (area : DesktopRect) (harea : area.Tileable) {n t : Nat} (ht : t < n)
    (hratio : 0 ≤ ratio ∧ ratio ≤ 100) (masterCount : Int) :
    (desktopMasterRectWithState t n area ratio masterCount).Within area := by
  by_cases hone : n = 1
  · subst hone
    rw [desktopMasterRectWithState]
    simpa using harea.within
  · obtain ⟨m, masterW, hm, hmn, hlow, hhigh, -, hmasters, hstack⟩ :=
      desktopMasterRectWithState_columns area harea (show 1 < n by omega) hratio masterCount
    by_cases htm : t < m
    · rw [hmasters t htm]
      exact within_column harea le_rfl hlow (by omega) htm
    · obtain ⟨k, rfl⟩ := Nat.exists_eq_add_of_le (Nat.le_of_not_lt htm)
      rw [hstack k (by omega)]
      exact within_column harea (by omega) (by omega) (by omega) (by omega)

end Splitting

/-! ## The clients of a workspace -/

section Clients

variable {g : DesktopScene} {s : Desktop} {workspace : Int} {r area : DesktopRect} {i j : Nat}

theorem shrink_subset (harea : area.Tileable) {gap : Int} (hgap : 0 ≤ gap) (hgaps : gap * 2 < 2 ^ 31)
    (hright : area.x + area.w + gap < 2 ^ 31) (hbottom : area.y + area.h + gap < 2 ^ 31) (h : r.Within area) :
    (r.shrink gap).pixels ⊆ r.pixels := by
  obtain ⟨hwidth, hheight, hleft, -, htop, -⟩ := harea
  obtain ⟨hl, ht, hw, hh, hr, hb⟩ := h
  intro p hp
  rw [DesktopRect.shrink, int32_of_range (x := gap * 2) (by omega) (by omega),
    int32_of_range (x := r.w - gap * 2) (by omega) (by omega),
    int32_of_range (x := r.h - gap * 2) (by omega) (by omega), int32_of_range (x := r.x + gap) (by omega) (by omega),
    int32_of_range (x := r.y + gap) (by omega) (by omega)] at hp
  simp only [DesktopRect.pixels, Set.mem_prod, Set.mem_Ico] at hp ⊢
  split at hp <;> split at hp <;> omega

/-- A tile of a workspace in the dwindle or master layout. -/
def clientTile (g : DesktopScene) (workspace : Int) (count pos : Nat) : DesktopRect :=
  if desktopLayoutModeFromName (desktopLayoutEngineForWorkspace g workspace) = 1 then
    desktopMasterRectWithState pos count (desktopTilingArea g) (desktopMasterRatioForWorkspace g workspace)
      (desktopMasterCountForWorkspace g workspace)
  else
    desktopDwindleRectWithState pos count (desktopTilingArea g) (desktopSplitModeForWorkspace g workspace)
      (desktopSplitRatioForWorkspace g workspace)

theorem cutInto_clientTile (h : DesktopTiled g s workspace) {n : Nat} (hn : 0 < n) :
    CutInto (desktopTilingArea g).pixels n fun t => (clientTile g workspace n t).pixels := by
  by_cases hmode : desktopLayoutModeFromName (desktopLayoutEngineForWorkspace g workspace) = 1
  · simpa only [clientTile, if_pos hmode] using cutInto_master _ h.area hn h.master _
  · simpa only [clientTile, if_neg hmode] using cutInto_dwindle _ h.area hn _ h.split

theorem within_clientTile (h : DesktopTiled g s workspace) {n t : Nat} (ht : t < n) :
    (clientTile g workspace n t).Within (desktopTilingArea g) := by
  rw [clientTile]
  split
  · exact within_master _ h.area ht h.master _
  · exact within_dwindle _ h.area _ _ _ h.split

theorem pixels_zero : DesktopRect.pixels ⟨0, 0, 0, 0⟩ = ∅ := by simp [DesktopRect.pixels]

theorem mem_slots {c : DesktopClient} (hc : s.clients[i]? = some c)
    (hon : desktopClientOnWorkspace s c workspace = true) :
    i ∈ s.slots workspace := by
  obtain ⟨hi, rfl⟩ := List.getElem?_eq_some_iff.mp hc
  exact List.mem_findIdxs_iff_exists_getElem_pos.mpr ⟨hi, hon⟩

/-- A client has no rectangle, or the tile of its position without the gap. -/
theorem desktopClientRectForWorkspace_tile (h : DesktopTiled g s workspace) (i : Nat) :
    (desktopClientRectForWorkspace g s i workspace).pixels = ∅ ∨
      ∃ pos, (s.slots workspace)[pos]? = some i ∧ desktopClientRectForWorkspace g s i workspace =
        (clientTile g workspace (desktopClientCountOnWorkspace s workspace) pos).shrink g.gapsIn := by
  rw [desktopClientRectForWorkspace]
  cases hc : s.clients[i]? with
  | none => exact .inl pixels_zero
  | some c =>
      dsimp only
      split
      · exact .inl pixels_zero
      · split
        · exact .inl pixels_zero
        · next hon =>
            have hon := not_not.mp hon
            have hplain := h.plain c (List.mem_of_getElem? hc) hon
            obtain ⟨pos, hpos⟩ := Option.isSome_iff_exists.mp (List.isSome_idxOf?.mpr (mem_slots hc hon))
            obtain ⟨hlt, hget, -⟩ := List.idxOf?_eq_some_iff.mp hpos
            refine .inr ⟨pos, by rw [List.getElem?_eq_getElem hlt, hget], ?_⟩
            have hcount : ¬ (desktopClientCountOnWorkspace s workspace ≤ 0 ∨ c.fullscreen = true ∨
                desktopLayoutModeFromName (desktopLayoutEngineForWorkspace g workspace) = 2) := by
              have hsome : ¬ desktopClientCountOnWorkspace s workspace ≤ 0 := by
                rw [desktopClientCountOnWorkspace]
                omega
              simp [hsome, hplain, h.layout]
            rw [desktopClientPositionOnWorkspace, hpos]
            dsimp only
            rw [if_neg hcount]
            rfl

theorem disjoint_clientRects (h : DesktopTiled g s workspace) (hne : i ≠ j) :
    Disjoint (desktopClientRectForWorkspace g s i workspace).pixels
      (desktopClientRectForWorkspace g s j workspace).pixels := by
  obtain hi | ⟨pos, hpos, hrect⟩ := desktopClientRectForWorkspace_tile h i
  · simp [hi]
  obtain hj | ⟨pos', hpos', hrect'⟩ := desktopClientRectForWorkspace_tile h j
  · simp [hj]
  obtain ⟨hlt, hget⟩ := List.getElem?_eq_some_iff.mp hpos
  obtain ⟨hlt', hget'⟩ := List.getElem?_eq_some_iff.mp hpos'
  have hposne : pos ≠ pos' := by
    rintro rfl
    exact hne (hget.symm.trans hget')
  have hcut := cutInto_clientTile h (Nat.zero_lt_of_lt hlt)
  have hsub := fun t (ht : t < (s.slots workspace).length) =>
    shrink_subset h.area h.gap h.gaps h.right h.bottom (within_clientTile h ht)
  rw [hrect, hrect']
  exact (hcut.disjoint hlt hlt' hposne).mono (hsub pos hlt) (hsub pos' hlt')

/-- The dwindle rectangles and those of master and stack cut the area, so the clients of a
workspace do not overlap. -/
theorem desktopTiling_holds (harea : area.Tileable) (count : ℕ+) (splitMode masterCount : Int)
    (splitRatio masterRatio : Percent)
    (h : DesktopTiled g s workspace) :
    CutInto area.pixels count (fun t => (desktopDwindleRectWithState t count area splitMode splitRatio).pixels) ∧
      CutInto area.pixels count (fun t => (desktopMasterRectWithState t count area masterRatio masterCount).pixels) ∧
      Pairwise fun i j => Disjoint (desktopClientRectForWorkspace g s i workspace).pixels
        (desktopClientRectForWorkspace g s j workspace).pixels :=
  ⟨cutInto_dwindle area harea count.pos splitMode splitRatio.property,
    cutInto_master area harea count.pos masterRatio.property masterCount, fun _ _ hne => disjoint_clientRects h hne⟩

/-- With gaps as the settings have them the edges of the area are `int`s, if its size allows for the
percentages. -/
theorem desktopTilingArea_tileable (hin : 0 ≤ g.gapsIn ∧ g.gapsIn ≤ 48) (hout : 0 ≤ g.gapsOut ∧ g.gapsOut ≤ 64)
    (hwidth : (desktopTilingArea g).w * 100 < 2 ^ 31) (hheight : (desktopTilingArea g).h * 100 < 2 ^ 31) :
    (desktopTilingArea g).Tileable ∧ (desktopTilingArea g).x + (desktopTilingArea g).w + g.gapsIn < 2 ^ 31 ∧
      (desktopTilingArea g).y + (desktopTilingArea g).h + g.gapsIn < 2 ^ 31 := by
  have hx : (desktopTilingArea g).x = 44 + g.gapsOut := int32_of_range (by omega) (by omega)
  have hy : (desktopTilingArea g).y = 122 := rfl
  have hw : 120 ≤ (desktopTilingArea g).w := by
    simp only [desktopTilingArea]
    split <;> omega
  have hh : 80 ≤ (desktopTilingArea g).h := by
    simp only [desktopTilingArea]
    split <;> omega
  refine ⟨⟨?_, ?_, ?_, ?_, ?_, ?_⟩, ?_, ?_⟩ <;> omega

/-- A screen of 1024 to 768 with the default gaps. -/
def sampleScene : DesktopScene where
  screenWidth := 1024
  screenHeight := 768
  gapsIn := 6
  gapsOut := 12
  sessionLayout := cstr "dwindle"
  workspaces := []

/-- Two clients on the first workspace. -/
def sampleClients (focused : Int) (first : DesktopClient → DesktopClient) : Desktop :=
  { desktopInit with
    clients := [first { desktopClientZero with id := 1, workspace := 1, visible := true },
      { desktopClientZero with id := 2, workspace := 1, visible := true }] ++ List.replicate 6 desktopClientZero
    nextClientId := 3
    focusedClientId := focused }

theorem desktopTiled_sample : DesktopTiled sampleScene (sampleClients 1 id) 1 where
  area := ⟨by decide, by decide, by decide, by decide, by decide, by decide⟩
  gap := by decide
  gaps := by decide
  right := by decide
  bottom := by decide
  split := by decide
  master := by decide
  layout := by decide
  plain := by decide

/-- For three targets on that screen, and its first workspace. -/
theorem desktopTiling_sample :
    CutInto (desktopTilingArea sampleScene).pixels 3
        (fun t => (desktopDwindleRectWithState t 3 (desktopTilingArea sampleScene) 0 50).pixels) ∧
      CutInto (desktopTilingArea sampleScene).pixels 3
        (fun t => (desktopMasterRectWithState t 3 (desktopTilingArea sampleScene) 58 1).pixels) ∧
      Pairwise fun i j => Disjoint (desktopClientRectForWorkspace sampleScene (sampleClients 1 id) i 1).pixels
        (desktopClientRectForWorkspace sampleScene (sampleClients 1 id) j 1).pixels :=
  desktopTiling_holds desktopTiled_sample.area 3 0 1 ⟨50, by decide⟩ ⟨58, by decide⟩ desktopTiled_sample

end Clients

end Orizon
