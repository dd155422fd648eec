import Orizon.Desktop.Clients
import Orizon.Lib.Refill

/-!
# Orizon.Desktop.Actions

What a user does with the clients of `gui/compositor.c`: spawn, focus, swap, move, pin and
mark them.

The texts of the dispatchers are not parsed here.  A selector is what it matches, a rank is
the position it gives, a rule is the clients it matches and its action, and the layout is
the rectangle of every slot; all of these may be any functions.
-/

namespace Orizon

/-! ## Spawning -/

/-- The action of a rule, as `desktop_rule_apply_action_to_client` tells them apart. -/
inductive DesktopRuleAction
  | tile
  | fullscreen
  | pseudo
  | pin
  | tag (tag : CStr)
  | workspace (workspace : Int)
  | ignored

/-- `desktop_rule_match_t`, after it was parsed. -/
structure DesktopRule where
  matchesClient : DesktopClient → Bool
  action : DesktopRuleAction

/-- `desktop_rule_apply_action_to_client`. -/
def desktopRuleApplyActionToClient (action : DesktopRuleAction) (c : DesktopClient) : DesktopClient × Bool :=
  match action with
  | .tile => (c, true)
  | .fullscreen =>
      ({ c with fullscreen := true, fullscreenStateInternal := 2, fullscreenStateClient := 2 }, true)
  | .pseudo => ({ c with pseudo := true }, true)
  | .pin => ({ c with pinned := true }, true)
  | .tag tag => ({ c with tag }, true)
  | .workspace workspace =>
      if workspace < 1 ∨ workspace > desktopMaxWorkspaces then (c, false)
      else if c.workspace = workspace then (c, true)
      else ({ c with lastWorkspace := c.workspace, workspace }, true)
  | .ignored => (c, false)

/-- `desktop_apply_spawn_rules_to_client`. -/
def desktopApplySpawnRulesToClient (rules : List DesktopRule) (c : DesktopClient) : DesktopClient :=
  rules.foldl
    (fun c rule =>
      if rule.matchesClient c then
        let c := { c with ruleMatchCount := c.ruleMatchCount + 1 }
        let (c, applied) := desktopRuleApplyActionToClient rule.action c
        if applied then { c with ruleApplyCount := c.ruleApplyCount + 1 } else c
      else c)
    c

/-- The client that `desktop_spawn_client` puts in a free slot. -/
def desktopNewClient (s : Desktop) (title appId : Option CStr) (terminalBacked : Bool) : DesktopClient where
  id := s.nextClientId
  workspace := s.activeWorkspace
  lastWorkspace := s.activeWorkspace
  visible := true
  mapped := true
  hidden := false
  terminalBacked
  fullscreen := false
  fullscreenStateInternal := 0
  fullscreenStateClient := 0
  pseudo := false
  pinned := false
  special := false
  urgent := false
  focusHistoryId := -1
  mappedGeneration := s.clientSerial
  focusGeneration := 0
  title := (title.getD (cstr "client")).take 47
  appId := (appId.getD (cstr "orizon-client")).take 31
  tag := []
  specialWorkspace := []
  ruleMatchCount := 0
  ruleApplyCount := 0

/-- `desktop_next_client_id++`. -/
def desktopClientIdSucc (id : Int) : Int := if id = 2 ^ 31 - 1 then -2 ^ 31 else id + 1

/-- `desktop_spawn_client`; `none` is -1. -/
def desktopSpawnClient (s : Desktop) (title appId : Option CStr) (terminalBacked : Bool)
    (rules : List DesktopRule) :
    Desktop × Option Int :=
  match s.clients.findIdx? fun c => !c.visible with
  | none => (s, none)
  | some idx =>
      let c := desktopApplySpawnRulesToClient rules (desktopNewClient s title appId terminalBacked)
      let s' :=
        { s.modify idx fun _ => c with
          nextClientId := desktopClientIdSucc s.nextClientId
          clientSerial := s.clientSerial + 1 }
      let s' :=
        if desktopClientOnWorkspace s' c s'.activeWorkspace then desktopSetFocusedClientIndex s' (some idx)
        else (desktopFocusedClientIndex s').1
      (s', some c.id)

/-! ## Focusing -/

/-- `desktop_focus_relative`. -/
def desktopFocusRelative (s : Desktop) (delta : Int) : Desktop × Bool :=
  let count : Int := desktopClientCountOnWorkspace s s.activeWorkspace
  let (s, focused) := desktopFocusedClientIndex s
  if count ≤ 0 then (s, false)
  else
    let pos := (focused.bind (desktopClientRankOnWorkspace s s.activeWorkspace)).getD 0
    match desktopNthClientOnWorkspace s s.activeWorkspace ((pos + delta + count).tmod count) with
    | none => (s, false)
    | some idx => (desktopSetFocusedClientIndex s (some idx), true)

/-- `desktop_focus_client_index_follow`. -/
def desktopFocusClientIndexFollow (s : Desktop) (idx : Nat) : Desktop × Bool :=
  match (s.clients[idx]?).filter (·.visible) with
  | none => (s, false)
  | some c =>
      if c.special then
        let s := desktopUpdateSpecialHiddenStates
          { s with
            specialVisible := true
            specialPreviousWorkspace := s.activeWorkspace
            specialName := if c.specialWorkspace = [] then desktopSpecialDefaultName else c.specialWorkspace }
        (desktopSetFocusedClientIndex s (some idx), true)
      else
        let s :=
          if ¬ c.pinned ∧ c.workspace ≠ s.activeWorkspace then
            { s with
              previousWorkspace := s.activeWorkspace
              activeWorkspace := desktopClampWorkspace c.workspace }
          else s
        (desktopSetFocusedClientIndex s (some idx), true)

/-- A selector, given the id that is focused. -/
abbrev DesktopQuery := Int → DesktopClient → Bool

/-- `desktop_client_matches_focus_query`. -/
def desktopClientMatchesFocusQuery (s : Desktop) (query : DesktopQuery) (c : DesktopClient) : Bool :=
  c.visible && query s.focusedClientId c

/-- `desktop_find_client_by_focus_query`. -/
def desktopFindClientByFocusQuery (s : Desktop) (query : DesktopQuery) : Desktop × Option Nat :=
  let s := desktopFocusHistoryCompact s
  match s.focusHistory.findSome? (s.indexWhere (desktopClientMatchesFocusQuery s query)) with
  | some idx => (s, some idx)
  | none => (s, s.clients.findIdx? (desktopClientMatchesFocusQuery s query))

/-- `desktop_focus_window_query`, which follows the client that it finds. -/
def desktopFocusWindowQuery (s : Desktop) (query : DesktopQuery) : Desktop × Bool :=
  match desktopFindClientByFocusQuery s query with
  | (s, none) => (s, false)
  | (s, some idx) => desktopFocusClientIndexFollow s idx

/-- `desktop_focus_master_client`. -/
def desktopFocusMasterClient (s : Desktop) : Desktop × Bool :=
  match desktopNthClientOnWorkspace s s.activeWorkspace 0 with
  | none => (s, false)
  | some idx => (desktopSetFocusedClientIndex s (some idx), true)

/-- The focused client, its rank, and the client at the rank that the argument of a `*mwindow`
dispatcher gives. -/
def desktopMWindowTarget (s : Desktop) (count : Int) (target : Int → Int → Option Int) :
    Desktop × Option (Nat × Nat) :=
  let (s, focused) := desktopFocusedClientIndex s
  (s, focused.bind fun focused =>
    (desktopClientRankOnWorkspace s s.activeWorkspace focused).bind fun pos =>
      ((target pos count).bind (desktopNthClientOnWorkspace s s.activeWorkspace)).map fun idx =>
        (focused, idx))

/-- `desktop_focus_mwindow_dispatch`. -/
def desktopFocusMWindowDispatch (s : Desktop) (target : Int → Int → Option Int) : Desktop × Bool :=
  let count := desktopClientCountOnWorkspace s s.activeWorkspace
  match desktopMWindowTarget s count target with
  | (s, none) => (s, false)
  | (s, some (_, idx)) => if count = 0 then (s, false) else (desktopSetFocusedClientIndex s (some idx), true)

/-- `desktop_previous_focus_index`. -/
def desktopPreviousFocusIndex (s : Desktop) : Desktop × Option Nat :=
  let s := desktopFocusHistoryCompact s
  (s, s.focusHistory.findSome? (s.indexWhere fun c => decide (c.id ≠ s.focusedClientId)))

/-- `desktop_urgent_focus_index`. -/
def desktopUrgentFocusIndex (s : Desktop) : Desktop × Option Nat :=
  let s := desktopFocusHistoryCompact s
  match s.focusHistory.findSome? (s.indexWhere (·.urgent)) with
  | some idx => (s, some idx)
  | none => (s, s.clients.findIdx? fun c => c.visible && c.urgent)

/-- `desktop_focus_current_or_last`. -/
def desktopFocusCurrentOrLast (s : Desktop) : Desktop × Bool :=
  match desktopPreviousFocusIndex s with
  | (s, none) => (s, false)
  | (s, some idx) => desktopFocusClientIndexFollow s idx

/-- `desktop_focus_urgent_or_last`. -/
def desktopFocusUrgentOrLast (s : Desktop) : Desktop × Bool :=
  match desktopUrgentFocusIndex s with
  | (s, some idx) => desktopFocusClientIndexFollow s idx
  | (s, none) => desktopFocusCurrentOrLast s

/-! ### By direction -/

/-- A rectangle of the layout. -/
structure DesktopRect where
  x : Int
  y : Int
  w : Int
  h : Int

/-- The layout of a desktop. -/
abbrev DesktopLayout := Desktop → Nat → DesktopRect

/-- How far the centre of a rectangle is from that of the focused one, in the direction and
across it; `none` if it does not lie there. -/
def desktopDistance (f r : DesktopRect) (dx dy : Int) : Option (Int × Int) :=
  let fcx := f.x + f.w.tdiv 2
  let fcy := f.y + f.h.tdiv 2
  let cx := r.x + r.w.tdiv 2
  let cy := r.y + r.h.tdiv 2
  if dx < 0 then if cx ≥ fcx then none else some (fcx - cx, |cy - fcy|)
  else if dx > 0 then if cx ≤ fcx then none else some (cx - fcx, |cy - fcy|)
  else if dy < 0 then if cy ≥ fcy then none else some (fcy - cy, |cx - fcx|)
  else if cy ≤ fcy then none else some (cy - fcy, |cx - fcx|)

/-- `desktop_directional_neighbor_index`. -/
def desktopDirectionalNeighborIndex (s : Desktop) (layout : DesktopLayout) (focused : Nat) (dx dy : Int) :
    Option Nat :=
  let f := layout s focused
  if (dx = 0 ∧ dy = 0) ∨ f.w ≤ 0 ∨ f.h ≤ 0 then none
  else
    let best := (s.slots s.activeWorkspace).foldl
      (fun (best : Option (Nat × Int × Int)) i =>
        let r := layout s i
        if i = focused ∨ r.w ≤ 0 ∨ r.h ≤ 0 then best
        else
          match desktopDistance f r dx dy, best with
          | none, best => best
          | some (primary, secondary), none => some (i, primary, secondary)
          | some (primary, secondary), some (bestIdx, bestPrimary, bestSecondary) =>
              if primary < bestPrimary ∨ primary = bestPrimary ∧ secondary < bestSecondary then
                some (i, primary, secondary)
              else some (bestIdx, bestPrimary, bestSecondary))
      none
    best.map Prod.fst

/-- `desktop_focus_directional`. -/
def desktopFocusDirectional (s : Desktop) (layout : DesktopLayout) (dx dy fallbackDelta : Int) :
    Desktop × Bool :=
  match desktopFocusedClientIndex s with
  | (s, none) => (s, false)
  | (s, some focused) =>
      match desktopDirectionalNeighborIndex s layout focused dx dy with
      | some idx => (desktopSetFocusedClientIndex s (some idx), true)
      | none => desktopFocusRelative s fallbackDelta

/-- `desktop_focus_client_at`. -/
def desktopFocusClientAt (s : Desktop) (layout : DesktopLayout) (x y : Int) : Desktop × Bool :=
  let under (r : DesktopRect) : Prop := x ≥ r.x ∧ y ≥ r.y ∧ x < r.x + r.w ∧ y < r.y + r.h
  match (s.slots s.activeWorkspace).reverse.find? fun i => under (layout s i) with
  | none => (s, false)
  | some idx =>
      if (s.clients[idx]?).any fun c => decide (c.id ≠ s.focusedClientId) then
        (desktopSetFocusedClientIndex s (some idx), true)
      else (s, true)

/-! ## Swapping and moving -/

/-- The clients of two slots change places. -/
def Desktop.swap (s : Desktop) (i j : Nat) : Desktop :=
  match s.clients[i]?, s.clients[j]? with
  | some a, some b => { s with clients := (s.clients.set i b).set j a }
  | _, _ => s

/-- `desktop_swap_client_indices`. -/
def desktopSwapClientIndices (s : Desktop) (focused other : Nat) : Desktop × Bool :=
  if focused = other then (s, false)
  else (desktopSetFocusedClientIndex (s.swap focused other) (some other), true)

/-- `desktop_swap_relative`. -/
def desktopSwapRelative (s : Desktop) (delta : Int) : Desktop × Bool :=
  let count : Int := desktopClientCountOnWorkspace s s.activeWorkspace
  match desktopFocusedClientIndex s with
  | (s, none) => (s, false)
  | (s, some focused) =>
      if count ≤ 1 then (s, false)
      else
        match (desktopClientRankOnWorkspace s s.activeWorkspace focused).bind fun pos =>
            desktopNthClientOnWorkspace s s.activeWorkspace ((pos + delta + count).tmod count) with
        | none => (s, false)
        | some other => desktopSwapClientIndices s focused other

/-- `desktop_swap_directional`. -/
def desktopSwapDirectional (s : Desktop) (layout : DesktopLayout) (dx dy fallbackDelta : Int) :
    Desktop × Bool :=
  match desktopFocusedClientIndex s with
  | (s, none) => (s, false)
  | (s, some focused) =>
      match desktopDirectionalNeighborIndex s layout focused dx dy with
      | some other => desktopSwapClientIndices s focused other
      | none => desktopSwapRelative s fallbackDelta

/-- `desktop_swap_mwindow_dispatch`. -/
def desktopSwapMWindowDispatch (s : Desktop) (target : Int → Int → Option Int) : Desktop × Bool :=
  let count := desktopClientCountOnWorkspace s s.activeWorkspace
  match desktopMWindowTarget s count target with
  | (s, none) => (s, false)
  | (s, some (focused, idx)) =>
      if count ≤ 1 ∨ idx = focused then (s, false)
      else
        let (s, ok) := desktopSwapClientIndices s focused idx
        ((desktopFocusedClientIndex s).1, ok)

/-- `desktop_swap_with_master`. -/
def desktopSwapWithMaster (s : Desktop) : Desktop × Bool :=
  let (s, focused) := desktopFocusedClientIndex s
  match focused, desktopNthClientOnWorkspace s s.activeWorkspace 0 with
  | some focused, some master => desktopSwapClientIndices s focused master
  | _, _ => (s, false)

/-- `desktop_move_client_index_in_scope`. -/
def desktopMoveClientIndexInScope (s : Desktop) (start target : Nat) : Desktop × Bool :=
  if start = target then (s, false)
  else
    let slots := s.slots s.activeWorkspace
    let ordered := s.clients.filter fun c => desktopClientOnWorkspace s c s.activeWorkspace
    match slots.idxOf? start, slots.idxOf? target with
    | some fromPos, some toPos =>
        let s := { s with clients := writeSlots s.clients slots (moveEntry ordered fromPos toPos) }
        (desktopSetFocusedClientIndex s (some target), true)
    | _, _ => (s, false)

/-- `desktop_move_window_relative`. -/
def desktopMoveWindowRelative (s : Desktop) (delta : Int) : Desktop × Bool :=
  let count : Int := desktopClientCountOnWorkspace s s.activeWorkspace
  match desktopFocusedClientIndex s with
  | (s, none) => (s, false)
  | (s, some focused) =>
      if count ≤ 1 then (s, false)
      else
        match (desktopClientRankOnWorkspace s s.activeWorkspace focused).bind fun pos =>
            desktopNthClientOnWorkspace s s.activeWorkspace ((pos + delta + count).tmod count) with
        | none => (s, false)
        | some target => desktopMoveClientIndexInScope s focused target

/-- `desktop_move_window_to_master`. -/
def desktopMoveWindowToMaster (s : Desktop) : Desktop × Bool :=
  let (s, focused) := desktopFocusedClientIndex s
  match focused, desktopNthClientOnWorkspace s s.activeWorkspace 0 with
  | some focused, some master => desktopMoveClientIndexInScope s focused master
  | _, _ => (s, false)

/-! ## Marking -/

/-- `desktop_set_active_pin`, and `desktop_toggle_active_pin` for `none`. -/
def desktopSetActivePin (s : Desktop) (desired : Option Bool) : Desktop × Bool :=
  match desktopFocusedClientIndex s with
  | (s, none) => (s, false)
  | (s, some idx) => (s.modify idx fun c => { c with pinned := desired.getD (!c.pinned) }, true)

/-- `desktop_mark_client_urgent`. -/
def desktopMarkClientUrgent (s : Desktop) (idx : Nat) (desired : Bool) : Desktop × Bool :=
  if (s.clients[idx]?).any (·.visible) then (s.modify idx fun c => { c with urgent := desired }, true)
  else (s, false)

/-- The client that is selected, or else the active one. -/
def desktopTargetIndex (s : Desktop) : Option DesktopQuery → Desktop × Option Nat
  | none => desktopFocusedClientIndex s
  | some query => desktopFindClientByFocusQuery s query

/-- `desktop_mark_urgent_dispatch`, with the state that is asked for given the present one. -/
def desktopMarkUrgentDispatch (s : Desktop) (query : Option DesktopQuery) (desired : Bool → Option Bool) :
    Desktop × Bool :=
  let (s, idx) := desktopTargetIndex s query
  match idx.bind fun idx =>
      ((s.clients[idx]?).bind fun c => desired c.urgent).map fun desired => (idx, desired) with
  | none => (s, false)
  | some (idx, desired) => desktopMarkClientUrgent s idx desired

end Orizon
