import Mathlib.Data.List.Basic
import Orizon.Vfs.Path

/-!
# Orizon.Desktop.Clients

The clients of `gui/compositor.c`, their workspaces, and the focus.

What is drawn (transitions, layouts, the launcher, the redraw flag) and what the terminal
module is told are left out.  The log of the ids that were focused, of the clients that are
still open, is not kept by the source; the focus history is compared with it.
-/

namespace Orizon

/-! ## The statics -/

/-- `DESKTOP_MAX_CLIENTS`. -/
def desktopMaxClients : Nat := 8

/-- `DESKTOP_MAX_WORKSPACES`, which `desktop_workspace_count` always is. -/
def desktopMaxWorkspaces : Nat := 10

/-- `DESKTOP_SPECIAL_DEFAULT_NAME`. -/
def desktopSpecialDefaultName : CStr := cstr "default"

/-- `desktop_client_t`. -/
structure DesktopClient where
  id : Int
  workspace : Int
  lastWorkspace : Int
  visible : Bool
  mapped : Bool
  hidden : Bool
  terminalBacked : Bool
  fullscreen : Bool
  fullscreenStateInternal : Int
  fullscreenStateClient : Int
  pseudo : Bool
  pinned : Bool
  special : Bool
  urgent : Bool
  focusHistoryId : Int
  mappedGeneration : UInt64
  focusGeneration : UInt64
  title : CStr
  appId : CStr
  tag : CStr
  specialWorkspace : CStr
  ruleMatchCount : Nat
  ruleApplyCount : Nat

/-- A slot that was never used. -/
def desktopClientZero : DesktopClient where
  id := 0
  workspace := 0
  lastWorkspace := 0
  visible := false
  mapped := false
  hidden := false
  terminalBacked := false
  fullscreen := false
  fullscreenStateInternal := 0
  fullscreenStateClient := 0
  pseudo := false
  pinned := false
  special := false
  urgent := false
  focusHistoryId := 0
  mappedGeneration := 0
  focusGeneration := 0
  title := []
  appId := []
  tag := []
  specialWorkspace := []
  ruleMatchCount := 0
  ruleApplyCount := 0

/-- `desktop_workspace_t`, what it remembers of the focus. -/
structure DesktopWorkspace where
  lastFocusedClientId : Int
  focusGeneration : UInt64

/-- The statics of the desktop, and the log of the focused ids, the latest first. -/
structure Desktop where
  clients : List DesktopClient
  workspaces : List DesktopWorkspace
  activeWorkspace : Int
  previousWorkspace : Int
  specialVisible : Bool
  specialPreviousWorkspace : Int
  specialLastFocusedClientId : Int
  specialName : CStr
  nextClientId : Int
  focusedClientId : Int
  focusHistory : List Int
  clientSerial : UInt64
  focusSerial : UInt64
  focusLog : List Int

/-- Their initial values. -/
def desktopInit : Desktop where
  clients := List.replicate desktopMaxClients desktopClientZero
  workspaces := List.replicate desktopMaxWorkspaces ⟨0, 0⟩
  activeWorkspace := 1
  previousWorkspace := 1
  specialVisible := false
  specialPreviousWorkspace := 1
  specialLastFocusedClientId := 0
  specialName := desktopSpecialDefaultName
  nextClientId := 1
  focusedClientId := 0
  focusHistory := List.replicate desktopMaxClients 0
  clientSerial := 1
  focusSerial := 1
  focusLog := []

/-- Change the client in a slot. -/
def Desktop.modify (s : Desktop) (idx : Nat) (f : DesktopClient → DesktopClient) : Desktop :=
  { s with clients := s.clients.modify idx f }

/-! ## Where clients are -/

/-- `desktop_clamp_workspace`. -/
def desktopClampWorkspace (workspace : Int) : Int :=
  if workspace < 1 then 1 else if workspace > desktopMaxWorkspaces then desktopMaxWorkspaces else workspace

/-- `desktop_special_name_matches`. -/
def desktopSpecialNameMatches (a b : CStr) : Bool :=
  (if a = [] then desktopSpecialDefaultName else a) = if b = [] then desktopSpecialDefaultName else b

/-- `desktop_client_special_visible`. -/
def desktopClientSpecialVisible (s : Desktop) (c : DesktopClient) : Bool :=
  c.visible && c.special && s.specialVisible && desktopSpecialNameMatches c.specialWorkspace s.specialName

/-- `desktop_update_special_hidden_states`. -/
def desktopUpdateSpecialHiddenStates (s : Desktop) : Desktop :=
  { s with
    clients := s.clients.map fun c =>
      if c.visible then { c with hidden := c.special && !desktopClientSpecialVisible s c } else c }

/-- `desktop_client_on_workspace`. -/
def desktopClientOnWorkspace (s : Desktop) (c : DesktopClient) (workspace : Int) : Bool :=
  if ¬ c.visible then false
  else if c.special then desktopClientSpecialVisible s c && decide (workspace = s.activeWorkspace)
  else if c.hidden then false
  else c.pinned || decide (c.workspace = workspace)

/-- `desktop_client_local_to_workspace`. -/
def desktopClientLocalToWorkspace (c : DesktopClient) (workspace : Int) : Bool :=
  c.visible && !c.pinned && !c.special && !c.hidden && decide (c.workspace = workspace)

/-- `desktop_client_index_by_id`; `none` is -1. -/
def desktopClientIndexById (clients : List DesktopClient) (id : Int) : Option Nat :=
  if id ≤ 0 then none else clients.findIdx? fun c => c.visible && decide (c.id = id)

/-- The index of a client of an id if it satisfies `p`. -/
def Desktop.indexWhere (s : Desktop) (p : DesktopClient → Bool) (id : Int) : Option Nat :=
  (desktopClientIndexById s.clients id).filter fun idx => (s.clients[idx]?).any p

/-- The slots of the clients on a workspace, in order. -/
def Desktop.slots (s : Desktop) (workspace : Int) : List Nat :=
  s.clients.findIdxs fun c => desktopClientOnWorkspace s c workspace

/-- `desktop_client_count_on_workspace`. -/
def desktopClientCountOnWorkspace (s : Desktop) (workspace : Int) : Nat := (s.slots workspace).length

/-- `desktop_nth_client_on_workspace`. -/
def desktopNthClientOnWorkspace (s : Desktop) (workspace nth : Int) : Option Nat :=
  if nth < 0 then none else (s.slots workspace)[nth.toNat]?

/-- `desktop_client_rank_on_workspace`. -/
def desktopClientRankOnWorkspace (s : Desktop) (workspace : Int) (idx : Nat) : Option Nat :=
  (s.slots workspace).idxOf? idx

/-! ## The focus history -/

/-- `compacted`, zero behind the entries in use. -/
def desktopHistory (kept : List Int) : List Int := kept ++ List.replicate (desktopMaxClients - kept.length) 0

/-- An entry of the history and its position, given to the client. -/
def desktopRefreshEntry (clients : List DesktopClient) (entry : Int × Nat) : List DesktopClient :=
  match desktopClientIndexById clients entry.1 with
  | none => clients
  | some idx => clients.modify idx fun c => { c with focusHistoryId := entry.2 }

/-- `desktop_refresh_focus_history_ids`. -/
def desktopRefreshFocusHistoryIds (s : Desktop) : Desktop :=
  let cleared := s.clients.map fun c => if c.visible then { c with focusHistoryId := -1 } else c
  { s with clients := s.focusHistory.zipIdx.foldl desktopRefreshEntry cleared }

/-- Keeps the id of a visible client that was not seen before. -/
def desktopHistoryKeep (clients : List DesktopClient) (kept : List Int) (id : Int) : List Int :=
  if id ≤ 0 ∨ desktopClientIndexById clients id = none ∨ id ∈ kept then kept else kept ++ [id]

/-- `desktop_focus_history_compact`. -/
def desktopFocusHistoryCompact (s : Desktop) : Desktop :=
  desktopRefreshFocusHistoryIds
    { s with focusHistory := desktopHistory (s.focusHistory.foldl (desktopHistoryKeep s.clients) []) }

/-- The same behind the id that is touched, while there is room. -/
def desktopHistoryTouch (clients : List DesktopClient) (id : Int) (kept : List Int) (old : Int) : List Int :=
  if kept.length < desktopMaxClients ∧ old ≠ id then desktopHistoryKeep clients kept old else kept

/-- `desktop_focus_history_touch`. -/
def desktopFocusHistoryTouch (s : Desktop) (id : Int) : Desktop :=
  match desktopClientIndexById s.clients id with
  | none => s
  | some _ =>
      let s := desktopFocusHistoryCompact s
      let kept := s.focusHistory.foldl (desktopHistoryTouch s.clients id) [id]
      desktopRefreshFocusHistoryIds { s with focusHistory := desktopHistory kept }

/-- `desktop_workspace_record_focus_index`. -/
def desktopWorkspaceRecordFocusIndex (s : Desktop) (idx : Nat) : Desktop :=
  match s.clients[idx]? with
  | none => s
  | some c =>
      if ¬ c.visible ∨ c.id ≤ 0 then s
      else if c.special then { s with specialLastFocusedClientId := c.id }
      else
        let workspace := if c.pinned then s.activeWorkspace else c.workspace
        if workspace < 1 ∨ workspace > desktopMaxWorkspaces then s
        else
          { s with workspaces := s.workspaces.set (workspace - 1).toNat ⟨c.id, c.focusGeneration⟩ }

/-! ## The focus -/

/-- What a client that is focused has changed besides its place in the history. -/
def desktopFocusedClient (s : Desktop) (c : DesktopClient) : DesktopClient × UInt64 :=
  let wasTop : Prop := s.focusHistory.head? = some c.id ∧ s.focusedClientId = c.id
  let c := { c with urgent := false }
  if ¬ wasTop ∨ c.focusGeneration = 0 then ({ c with focusGeneration := s.focusSerial }, s.focusSerial + 1)
  else (c, s.focusSerial)

/-- `desktop_set_focused_client_index`; an index of -1 is `none`. -/
def desktopSetFocusedClientIndex (s : Desktop) (idx : Option Nat) : Desktop :=
  match idx.bind fun idx => ((s.clients[idx]?).filter (·.visible)).map fun c => (idx, c) with
  | none => desktopFocusHistoryCompact { s with focusedClientId := 0 }
  | some (idx, c) =>
      let (focused, serial) := desktopFocusedClient s c
      let s := { s.modify idx fun _ => focused with focusedClientId := c.id, focusSerial := serial }
      let s := desktopWorkspaceRecordFocusIndex (desktopFocusHistoryTouch s c.id) idx
      { s with focusLog := c.id :: s.focusLog }

/-- The scope of a search, the clients of the workspace only or also the pinned ones. -/
def desktopClientInScope (s : Desktop) (workspace : Int) (localOnly : Bool) (c : DesktopClient) : Bool :=
  if localOnly then desktopClientLocalToWorkspace c workspace else desktopClientOnWorkspace s c workspace

/-- `desktop_last_focused_index_on_workspace_scope`. -/
def desktopLastFocusedIndexOnWorkspaceScope (s : Desktop) (workspace : Int) (localOnly : Bool) :
    Desktop × Option Nat :=
  if workspace < 1 ∨ workspace > desktopMaxWorkspaces then (s, none)
  else
    let remembered := ((s.workspaces[(workspace - 1).toNat]?).map DesktopWorkspace.lastFocusedClientId).getD 0
    match s.indexWhere (desktopClientInScope s workspace localOnly) remembered with
    | some idx => (s, some idx)
    | none =>
        let s := desktopFocusHistoryCompact s
        match s.focusHistory.findSome? (s.indexWhere (desktopClientInScope s workspace localOnly)) with
        | some idx => (s, some idx)
        | none => (s, s.clients.findIdx? (desktopClientInScope s workspace localOnly))

/-- `desktop_restore_focus_for_workspace`. -/
def desktopRestoreFocusForWorkspace (s : Desktop) (workspace : Int) : Desktop × Bool :=
  match desktopLastFocusedIndexOnWorkspaceScope s workspace true with
  | (s, some idx) => (desktopSetFocusedClientIndex s (some idx), true)
  | (s, none) =>
      let (s, idx) := desktopLastFocusedIndexOnWorkspaceScope s workspace false
      (desktopSetFocusedClientIndex s idx, idx.isSome)

/-- `desktop_focused_client_index`. -/
def desktopFocusedClientIndex (s : Desktop) : Desktop × Option Nat :=
  match s.indexWhere (fun c => desktopClientOnWorkspace s c s.activeWorkspace) s.focusedClientId with
  | some idx => (s, some idx)
  | none =>
      match desktopRestoreFocusForWorkspace s s.activeWorkspace with
      | (s, true) => (s, desktopClientIndexById s.clients s.focusedClientId)
      | (s, false) => (s, none)

end Orizon
