import Orizon.Desktop.Focus

/-!
# Orizon.Desktop.Workspaces

Switching workspaces, sending clients to another one, and closing them.

The name of a special workspace is given as the dispatcher parses it.  The desktop is
enabled.
-/

namespace Orizon

/-! ## The operations -/

/-- `gui_desktop_switch_workspace`. -/
def guiDesktopSwitchWorkspace (s : Desktop) (workspace : Int) : Desktop × Bool :=
  if workspace < 1 ∨ workspace > desktopMaxWorkspaces then (s, false)
  else
    let s := desktopUpdateSpecialHiddenStates { s with specialVisible := false }
    let s :=
      { s with
        previousWorkspace := if workspace ≠ s.activeWorkspace then s.activeWorkspace else s.previousWorkspace
        activeWorkspace := workspace }
    ((desktopRestoreFocusForWorkspace s workspace).1, true)

/-- `desktop_last_special_client_index`. -/
def desktopLastSpecialClientIndex (s : Desktop) (name : CStr) : Desktop × Option Nat :=
  let inSpecial (c : DesktopClient) : Bool := c.special && desktopSpecialNameMatches c.specialWorkspace name
  match s.indexWhere inSpecial s.specialLastFocusedClientId with
  | some idx => (s, some idx)
  | none =>
      let s := desktopFocusHistoryCompact s
      match s.focusHistory.findSome? (s.indexWhere inSpecial) with
      | some idx => (s, some idx)
      | none => (s, s.clients.findIdx? fun c => c.visible && inSpecial c)

/-- A special workspace is shown over the active one. -/
def Desktop.showSpecial (s : Desktop) (name : CStr) : Desktop :=
  desktopUpdateSpecialHiddenStates
    { s with specialVisible := true, specialPreviousWorkspace := s.activeWorkspace, specialName := name }

/-- `desktop_toggle_special_workspace`; `none` is a name that is not safe. -/
def desktopToggleSpecialWorkspace (s : Desktop) (name : Option CStr) : Desktop × Bool :=
  match name with
  | none => (s, false)
  | some safe =>
      if s.specialVisible && desktopSpecialNameMatches s.specialName safe then
        let s := desktopUpdateSpecialHiddenStates { s with specialVisible := false }
        match s.indexWhere (·.special) s.focusedClientId with
        | some _ => ((desktopRestoreFocusForWorkspace s s.activeWorkspace).1, true)
        | none => (s, true)
      else
        match desktopLastSpecialClientIndex (s.showSpecial safe) safe with
        | (s, some idx) => (desktopSetFocusedClientIndex s (some idx), true)
        | (s, none) => (s, true)

/-- `desktop_move_client_to_special_index`. -/
def desktopMoveClientToSpecialIndex (s : Desktop) (idx : Nat) (name : Option CStr) (follow : Bool) :
    Desktop × Bool :=
  match (s.clients[idx]?).filter (·.visible), name with
  | some c, some safe =>
      let wasFocused : Prop := c.id = s.focusedClientId
      let lastWorkspace :=
        if c.special then c.lastWorkspace else if c.workspace > 0 then c.workspace else s.activeWorkspace
      let s :=
        { s.modify idx fun c => { c with lastWorkspace, special := true, specialWorkspace := safe } with
          specialLastFocusedClientId := c.id }
      if follow then (desktopSetFocusedClientIndex (s.showSpecial safe) (some idx), true)
      else
        let s := desktopUpdateSpecialHiddenStates s
        if wasFocused then ((desktopRestoreFocusForWorkspace s s.activeWorkspace).1, true) else (s, true)
  | _, _ => (s, false)

/-- `desktop_move_client_to_workspace_index`. -/
def desktopMoveClientToWorkspaceIndex (s : Desktop) (idx : Nat) (workspace : Int) (follow : Bool) :
    Desktop × Bool :=
  match (s.clients[idx]?).filter (·.visible) with
  | none => (s, false)
  | some c =>
      if workspace < 1 ∨ workspace > desktopMaxWorkspaces then (s, false)
      else
        let source := s.activeWorkspace
        let wasFocused : Prop := c.id = s.focusedClientId
        let moved :=
          { c with
            lastWorkspace := c.workspace, special := false, specialWorkspace := [], hidden := false, workspace }
        let s :=
          { s.modify idx fun _ => moved with
            workspaces := s.workspaces.set (workspace - 1).toNat ⟨c.id, c.focusGeneration⟩ }
        if follow then
          let s := (guiDesktopSwitchWorkspace s workspace).1
          match desktopClientIndexById s.clients c.id with
          | some idx => (desktopSetFocusedClientIndex s (some idx), true)
          | none => (s, true)
        else if wasFocused ∧ ¬ desktopClientOnWorkspace s moved source then
          ((desktopRestoreFocusForWorkspace s source).1, true)
        else if wasFocused then (desktopSetFocusedClientIndex s (some idx), true)
        else (s, true)

/-- `desktop_workspace_forget_focus_id`. -/
def desktopWorkspaceForgetFocusId (s : Desktop) (id : Int) : Desktop :=
  if id ≤ 0 then s
  else { s with workspaces := s.workspaces.map fun w => if w.lastFocusedClientId = id then ⟨0, 0⟩ else w }

/-- `desktop_focus_history_remove`. -/
def desktopFocusHistoryRemove (s : Desktop) (id : Int) : Desktop :=
  let kept := s.focusHistory.foldl
    (fun kept old => if old ≠ id then desktopHistoryKeep s.clients kept old else kept) []
  desktopRefreshFocusHistoryIds { s with focusHistory := desktopHistory kept }

/-- What is left of a client that was closed. -/
def desktopClosedClient : DesktopClient := { desktopClientZero with focusHistoryId := -1 }

/-- `gui_desktop_close_active_client`.  The log forgets the client too. -/
def guiDesktopCloseActiveClient (s : Desktop) : Desktop × Bool :=
  match desktopFocusedClientIndex s with
  | (s, none) => (s, false)
  | (s, some idx) =>
      match s.clients[idx]? with
      | none => (s, false)
      | some c =>
          let s := desktopFocusHistoryRemove (desktopWorkspaceForgetFocusId s c.id) c.id
          let s :=
            { s.modify idx fun _ => desktopClosedClient with
              focusLog := s.focusLog.filter (· ≠ c.id) }
          ((desktopFocusedClientIndex (desktopSetFocusedClientIndex s none)).1, true)

/-! ## They keep everything in step -/

section Showing

variable {s : Desktop} {c : DesktopClient} {idx : Nat}

theorem DesktopGood.reaches_restore (h : DesktopGood s) {workspace : Int}
    (hworkspace : 1 ≤ workspace ∧ workspace ≤ desktopMaxWorkspaces) :
    DesktopReaches s (desktopRestoreFocusForWorkspace s workspace).1 := by
  obtain ⟨s', r, hrestore, hgood, hsame, -⟩ := desktopRestoreFocusForWorkspace_spec h hworkspace
  rw [hrestore]
  exact ⟨hgood, hsame.next⟩

theorem DesktopGood.reaches_special (h : DesktopGood s) (visible : Bool) (previous : Int) (name : CStr) :
    DesktopReaches s (desktopUpdateSpecialHiddenStates
      { s with specialVisible := visible, specialPreviousWorkspace := previous, specialName := name }) :=
  ⟨⟨h.toDesktopKept.congr (List.Perm.of_eq (desktopUpdateSpecialHiddenStates_key _)) rfl rfl rfl, h.head,
    h.active⟩, rfl⟩

theorem guiDesktopSwitchWorkspace_reaches (h : DesktopGood s) (workspace : Int) :
    DesktopReaches s (guiDesktopSwitchWorkspace s workspace).1 := by
  unfold guiDesktopSwitchWorkspace
  split
  · exact .refl h
  next hbounds =>
    have hbounds : 1 ≤ workspace ∧ workspace ≤ desktopMaxWorkspaces := by omega
    have hhidden := h.reaches_special false s.specialPreviousWorkspace s.specialName
    have hgood : DesktopGood
        { desktopUpdateSpecialHiddenStates { s with specialVisible := false } with
          previousWorkspace :=
            if workspace ≠ s.activeWorkspace then s.activeWorkspace else s.previousWorkspace
          activeWorkspace := workspace } :=
      ⟨hhidden.good.toDesktopKept.congr (List.Perm.refl _) rfl rfl rfl, h.head, hbounds⟩
    have hrestore := hgood.reaches_restore hbounds
    exact ⟨hrestore.good, hrestore.next⟩

theorem desktopLastSpecialClientIndex_eq (h : DesktopGood s) (name : CStr) :
    ∃ r, desktopLastSpecialClientIndex s name = (s, r) := by
  unfold desktopLastSpecialClientIndex
  rw [desktopFocusHistoryCompact_eq h.toDesktopKept]
  dsimp only
  split
  · exact ⟨_, rfl⟩
  · split <;> exact ⟨_, rfl⟩

theorem desktopToggleSpecialWorkspace_reaches (h : DesktopGood s) (name : Option CStr) :
    DesktopReaches s (desktopToggleSpecialWorkspace s name).1 := by
  unfold desktopToggleSpecialWorkspace
  split
  · exact .refl h
  next safe =>
    split
    · have hhidden := h.reaches_special false s.specialPreviousWorkspace s.specialName
      dsimp only
      split
      · exact hhidden.trans (hhidden.good.reaches_restore hhidden.good.active)
      · exact hhidden
    · have hshown : DesktopReaches s (s.showSpecial safe) := h.reaches_special true s.activeWorkspace safe
      obtain ⟨r, hlast⟩ := desktopLastSpecialClientIndex_eq hshown.good safe
      rw [hlast]
      cases r with
      | none => exact hshown
      | some idx => exact hshown.trans (hshown.good.reaches_set _)

theorem desktopMoveClientToSpecialIndex_reaches (h : DesktopGood s) (idx : Nat) (name : Option CStr)
    (follow : Bool) : DesktopReaches s (desktopMoveClientToSpecialIndex s idx name follow).1 := by
  unfold desktopMoveClientToSpecialIndex
  split
  next c safe _ =>
    dsimp only
    generalize (if c.special = true then c.lastWorkspace
      else if c.workspace > 0 then c.workspace else s.activeWorkspace) = lastWorkspace
    have hmodify := h.reaches_modify idx (f := fun c =>
      { c with lastWorkspace, special := true, specialWorkspace := safe }) fun _ => rfl
    have hmarked : DesktopReaches s { s.modify idx fun c =>
        { c with lastWorkspace, special := true, specialWorkspace := safe } with
          specialLastFocusedClientId := c.id } :=
      ⟨⟨hmodify.good.toDesktopKept.congr (List.Perm.refl _) rfl rfl rfl, h.head, h.active⟩, rfl⟩
    split
    · have hshown := hmarked.good.reaches_special true s.activeWorkspace safe
      exact hmarked.trans (hshown.trans (hshown.good.reaches_set (some idx)))
    · have hhidden := hmarked.good.reaches_special s.specialVisible s.specialPreviousWorkspace s.specialName
      split
      · exact hmarked.trans (hhidden.trans (hhidden.good.reaches_restore hhidden.good.active))
      · exact hmarked.trans hhidden
  · exact .refl h

theorem desktopMoveClientToWorkspaceIndex_reaches (h : DesktopGood s) (idx : Nat) (workspace : Int)
    (follow : Bool) : DesktopReaches s (desktopMoveClientToWorkspaceIndex s idx workspace follow).1 := by
  unfold desktopMoveClientToWorkspaceIndex
  split
  · exact .refl h
  next c hc =>
    obtain ⟨hat, -⟩ := Option.filter_eq_some_iff.mp hc
    split
    · exact .refl h
    dsimp only
    generalize hb : ({ c with
      lastWorkspace := c.workspace, special := false, specialWorkspace := [], hidden := false,
      workspace } : DesktopClient) = b
    have hkey : b.key = c.key := by
      rw [← hb]
      rfl
    have hkeys := map_modify_eq hat hkey
    have hplaced : DesktopReaches s { s.modify idx fun _ => b with
        workspaces := s.workspaces.set (workspace - 1).toNat ⟨c.id, c.focusGeneration⟩ } :=
      ⟨⟨h.toDesktopKept.congr (List.Perm.of_eq hkeys) rfl rfl rfl, h.head, h.active⟩, rfl⟩
    split
    · have hswitch := guiDesktopSwitchWorkspace_reaches hplaced.good workspace
      split
      · exact hplaced.trans (hswitch.trans (hswitch.good.reaches_set _))
      · exact hplaced.trans hswitch
    · split
      · exact hplaced.trans (hplaced.good.reaches_restore h.active)
      · split
        · exact hplaced.trans (hplaced.good.reaches_set _)
        · exact hplaced

end Showing

/-! ## Closing -/

section Closing

variable {s : Desktop} {c : DesktopClient} {clients : List DesktopClient} {l kept : List Int} {idx : Nat}
  {id : Int}

theorem desktopHistoryRemove_foldl (h : (kept ++ l.filter (· ≠ id)).Nodup)
    (hl : ∀ x ∈ l, 0 < x ∧ desktopClientIndexById clients x ≠ none) :
    l.foldl (fun kept old => if old ≠ id then desktopHistoryKeep clients kept old else kept) kept =
      kept ++ l.filter (· ≠ id) := by
  rw [← desktopHistoryKeep_foldl h fun x hx => hl x (List.mem_of_mem_filter hx), List.foldl_filter]
  simp only [decide_eq_true_eq]

theorem desktopFocusHistoryRemove_eq (h : DesktopKept s) (id : Int) :
    desktopFocusHistoryRemove s id =
      { s with
        focusHistory := desktopHistory ((recent s.focusLog).filter (· ≠ id))
        clients := s.clients.map (DesktopClient.filed ((recent s.focusLog).filter (· ≠ id))) } := by
  have hnodup : ((recent s.focusLog).filter (· ≠ id)).Nodup := (nodup_recent _).filter _
  have hzeros : ∀ k (kept : List Int), (List.replicate k (0 : Int)).foldl
      (fun kept old => if old ≠ id then desktopHistoryKeep s.clients kept old else kept) kept = kept := by
    intro k kept
    induction k with
    | zero => rfl
    | succ k ih =>
        rw [List.replicate_succ, List.foldl_cons]
        split <;> exact ih
  have hkept : s.focusHistory.foldl
      (fun kept old => if old ≠ id then desktopHistoryKeep s.clients kept old else kept) [] =
        (recent s.focusLog).filter (· ≠ id) := by
    rw [h.history, desktopHistory, List.foldl_append, hzeros]
    exact desktopHistoryRemove_foldl hnodup fun x hx => h.found hx
  unfold desktopFocusHistoryRemove
  dsimp only
  rw [hkept, h.refresh hnodup]

theorem DesktopKept.close (h : DesktopKept s) (hc : s.clients[idx]? = some c) :
    DesktopKept
      { s with
        focusHistory := desktopHistory ((recent s.focusLog).filter (· ≠ c.id))
        clients := (s.clients.map (DesktopClient.filed ((recent s.focusLog).filter (· ≠ c.id)))).modify idx
          fun _ => desktopClosedClient
        focusLog := s.focusLog.filter (· ≠ c.id) } := by
  generalize hl : (recent s.focusLog).filter (· ≠ c.id) = l
  have hopen : ∀ b ∈ (s.clients.map (DesktopClient.filed l)).modify idx fun _ => desktopClosedClient,
      b.visible = true → ∃ d ∈ s.clients, d.visible = true ∧ b = d.filed l := by
    intro b hb hbv
    obtain ⟨j, hj⟩ := List.mem_iff_getElem?.mp hb
    rw [getElem?_put] at hj
    split at hj
    · obtain ⟨-, -, rfl⟩ := Option.map_eq_some_iff.mp hj
      cases hbv
    · obtain ⟨d, hd, rfl⟩ := List.mem_map.mp (List.mem_of_getElem? hj)
      exact ⟨d, hd, (d.filed_visible l).1 ▸ hbv, rfl⟩
  refine ⟨?_, ?_, ?_, ?_, ?_, ?_, h.next⟩
  · rw [List.length_modify, List.length_map, h.size]
  · refine List.pairwise_iff_getElem.mpr fun i j hi hj hlt hbi hbj => ?_
    have hpairs := List.pairwise_iff_getElem.mp (h.distinct.map (DesktopClient.filed_visible l))
    rw [List.length_modify] at hi hj
    simp only [List.getElem_modify] at hbi hbj ⊢
    split at hbi
    · cases hbi
    next hidx =>
      split at hbj
      · cases hbj
      next hidx' =>
        rw [if_neg hidx, if_neg hidx']
        exact hpairs i j hi hj hlt hbi hbj
  · intro b hb hbv
    obtain ⟨d, hd, hdv, rfl⟩ := hopen b hb hbv
    rw [(d.filed_visible l).2]
    exact h.ids d hd hdv
  · intro x hx
    obtain ⟨hlogged, hne⟩ := List.mem_filter.mp hx
    obtain ⟨d, hd, hdv, rfl⟩ := h.log x hlogged
    obtain ⟨j, hj⟩ := List.mem_iff_getElem?.mp hd
    have hother : idx ≠ j := by
      rintro rfl
      rw [hc] at hj
      obtain rfl := Option.some.inj hj
      simp at hne
    obtain ⟨hfv, hfid⟩ := d.filed_visible l
    refine ⟨d.filed l, List.mem_iff_getElem?.mpr ⟨j, ?_⟩, hfv.trans hdv, hfid⟩
    rw [getElem?_put, if_neg hother, List.getElem?_map, hj]
    rfl
  · rw [recent_filter, hl]
  · intro b hb hbv
    obtain ⟨d, hd, hdv, rfl⟩ := hopen b hb hbv
    rw [recent_filter, hl, d.filed_position l hdv, (d.filed_visible l).2]

theorem desktopSetFocusedClientIndex_none (s : Desktop) :
    desktopSetFocusedClientIndex s none = desktopSetFocusedClientIndex { s with focusedClientId := 0 } none :=
  rfl

theorem guiDesktopCloseActiveClient_reaches (h : DesktopGood s) :
    DesktopReaches s (guiDesktopCloseActiveClient s).1 := by
  obtain ⟨s', r, hfocused, hgood, hsame, hsome, -⟩ := desktopFocusedClientIndex_spec h
  have hfirst : DesktopReaches s s' := ⟨hgood, hsame.next⟩
  unfold guiDesktopCloseActiveClient
  rw [hfocused]
  cases r with
  | none => exact hfirst
  | some idx =>
      obtain ⟨c, hc, hon⟩ := (Option.any_eq_true ..).mp (hsome idx rfl)
      have hv := visible_of_onWorkspace hon
      have hpos := (hgood.ids c (List.mem_of_getElem? hc) hv).1
      have hforget : ∃ workspaces, desktopWorkspaceForgetFocusId s' c.id = { s' with workspaces } := by
        rw [desktopWorkspaceForgetFocusId, if_neg (by omega)]
        exact ⟨_, rfl⟩
      obtain ⟨workspaces, hforget⟩ := hforget
      have hkept : DesktopKept { s' with workspaces } :=
        hgood.toDesktopKept.congr (List.Perm.refl _) rfl rfl rfl
      have hclosed := hkept.close hc
      dsimp only
      rw [hc]
      dsimp only
      rw [hforget, desktopFocusHistoryRemove_eq hkept]
      have hlast : DesktopGood
          { s' with
            workspaces
            focusedClientId := 0
            focusHistory := desktopHistory ((recent s'.focusLog).filter (· ≠ c.id))
            clients :=
              (s'.clients.map (DesktopClient.filed ((recent s'.focusLog).filter (· ≠ c.id)))).modify idx
                fun _ => desktopClosedClient
            focusLog := s'.focusLog.filter (· ≠ c.id) } :=
        ⟨hclosed.congr (List.Perm.refl _) rfl rfl rfl, fun h0 => absurd rfl h0, hgood.active⟩
      have hset := hlast.reaches_set none
      have hdone := hset.trans hset.good.reaches_focused
      rw [desktopSetFocusedClientIndex_none]
      exact ⟨hdone.good, hdone.next.trans hfirst.next⟩

end Closing

end Orizon
