import Orizon.Desktop.Workspaces

/-!
# Orizon.Desktop.Session

Runs of the desktop: whatever is done with the clients keeps `DesktopGood`, and swaps and
moves only put the clients in another order.  Closing frees a slot but not its id, so the
bound on the spawns is what keeps the ids apart.
-/

namespace Orizon

/-! ## Other orders -/

/-- The clients of the active workspace, in order. -/
def Desktop.scope (s : Desktop) : List DesktopClient :=
  (s.clients.filter fun c => desktopClientOnWorkspace s c s.activeWorkspace).map DesktopClient.core

/-- And the clients are the same ones. -/
structure DesktopPermuted (s s' : Desktop) : Prop extends DesktopReaches s s' where
  perm : (s'.clients.map DesktopClient.core).Perm (s.clients.map DesktopClient.core)

/-- And those of the active workspace but the focused one are in the same order. -/
structure DesktopMoved (s s' : Desktop) : Prop extends DesktopPermuted s s' where
  others : s'.scope.filter (fun c => c.id ≠ s'.focusedClientId) =
    s.scope.filter fun c => c.id ≠ s'.focusedClientId

section Orders

variable {s s' t : Desktop} {clients : List DesktopClient} {idx i j : Nat}

theorem DesktopPermuted.trans (h : DesktopPermuted s s') (h' : DesktopPermuted s' t) : DesktopPermuted s t :=
  ⟨h.toDesktopReaches.trans h'.toDesktopReaches, h'.perm.trans h.perm⟩

theorem DesktopSame.permuted (h : DesktopSame s s') (hgood : DesktopGood s') : DesktopPermuted s s' :=
  ⟨⟨hgood, h.next⟩, List.Perm.of_eq h.core⟩

theorem scope_eq (s : Desktop) :
    s.scope = (s.clients.map DesktopClient.core).filter fun c =>
      desktopClientOnWorkspace s c s.activeWorkspace := by
  rw [List.filter_map]
  rfl

theorem DesktopSame.scope (h : DesktopSame s s') : s'.scope = s.scope := by
  rw [scope_eq, scope_eq, h.core, h.active]
  congr 1
  funext c
  exact h.onWorkspace c s.activeWorkspace

theorem DesktopSame.moved (h : DesktopSame s s') (hgood : DesktopGood s') : DesktopMoved s s' :=
  ⟨h.permuted hgood, by rw [h.scope]⟩

theorem DesktopMoved.of_same (h : DesktopSame s s') (h' : DesktopMoved s' t) (hgood : DesktopGood s') :
    DesktopMoved s t :=
  ⟨(h.permuted hgood).trans h'.toDesktopPermuted, by rw [h'.others, h.scope]⟩

theorem DesktopGood.permute (h : DesktopGood s) (hperm : clients.Perm s.clients) :
    DesktopGood { s with clients } :=
  ⟨h.toDesktopKept.congr (hperm.map _) rfl rfl rfl, h.head, h.active⟩

theorem DesktopGood.permute_focus (h : DesktopGood s) (hperm : clients.Perm s.clients) (idx : Option Nat) :
    DesktopPermuted s (desktopSetFocusedClientIndex { s with clients } idx) := by
  have hset := desktopSetFocusedClientIndex_spec (h.permute hperm) idx
  exact ⟨⟨hset.good, hset.same.next⟩, (List.Perm.of_eq hset.same.core).trans (hperm.map _)⟩

theorem swap_eq (s : Desktop) (i j : Nat) :
    ∃ clients, s.swap i j = { s with clients } ∧ clients.Perm s.clients := by
  unfold Desktop.swap
  split
  next a b ha hb =>
    obtain ⟨hi, rfl⟩ := List.getElem?_eq_some_iff.mp ha
    obtain ⟨hj, rfl⟩ := List.getElem?_eq_some_iff.mp hb
    exact ⟨_, rfl, List.set_set_perm hi hj⟩
  · exact ⟨s.clients, rfl, List.Perm.refl _⟩

theorem desktopSwapClientIndices_spec (h : DesktopGood s) (i j : Nat) :
    DesktopPermuted s (desktopSwapClientIndices s i j).1 := by
  unfold desktopSwapClientIndices
  split
  · exact (DesktopSame.refl s).permuted h
  · obtain ⟨clients, hswap, hperm⟩ := swap_eq s i j
    rw [hswap]
    exact h.permute_focus hperm (some j)

/-- A move takes the client out and puts it in, within the slots of the workspace. -/
theorem desktopMoveClientIndexInScope_spec (h : DesktopGood s) (start target : Nat) :
    DesktopMoved s (desktopMoveClientIndexInScope s start target).1 := by
  unfold desktopMoveClientIndexInScope
  split
  · exact (DesktopSame.refl s).moved h
  dsimp only
  split
  next fromPos toPos hfrom hto =>
    generalize hp : (fun c => desktopClientOnWorkspace s c s.activeWorkspace) = p
    have hslots : s.slots s.activeWorkspace = s.clients.findIdxs p := by
      rw [← hp]
      rfl
    rw [hslots] at hfrom hto ⊢
    have hcount : (s.clients.findIdxs p).length = (s.clients.filter p).length := by
      rw [List.length_findIdxs, List.countP_eq_length_filter]
    obtain ⟨hfromLt, -⟩ := List.idxOf?_eq_some_iff.mp hfrom
    obtain ⟨htoLt, htarget, -⟩ := List.idxOf?_eq_some_iff.mp hto
    rw [hcount] at hfromLt
    have htoLt' := htoLt
    rw [hcount] at htoLt'
    have hmove := moveEntry_perm (s.clients.filter p) hfromLt htoLt'
    rw [writeSlots_findIdxs p _ _ hmove.length_eq]
    have hperm := refill_perm hmove
    have hset := desktopSetFocusedClientIndex_spec (h.permute hperm) (some target)
    refine ⟨h.permute_focus hperm (some target), ?_⟩
    have hsat : ∀ c ∈ moveEntry (s.clients.filter p) fromPos toPos, p c := fun c hc =>
      (List.mem_filter.mp (hmove.mem_iff.mp hc)).2
    have hat : (refill p s.clients (moveEntry (s.clients.filter p) fromPos toPos))[target]? =
        some (s.clients.filter p)[fromPos] := by
      rw [refill_getElem? hmove.length_eq (List.getElem?_eq_some_iff.mpr ⟨htoLt, htarget⟩)]
      exact moveEntry_getElem? _ hfromLt htoLt'
    have hv : (s.clients.filter p)[fromPos].visible = true := by
      have hon := (List.mem_filter.mp (List.getElem_mem hfromLt)).2
      rw [← congrFun hp] at hon
      exact visible_of_onWorkspace hon
    have hid := hset.focused
    rw [Desktop.focusId, Option.bind_some, hat, Option.filter_some, if_pos hv] at hid
    have hscope : ∀ clients, Desktop.scope { s with clients } =
        (clients.filter p).map DesktopClient.core := by
      intro clients
      rw [← hp]
      rfl
    rw [hset.same.scope, hscope, hscope s.clients, refill_filter hsat hmove.length_eq, hid, List.filter_map,
      List.filter_map, moveEntry_filter _ hfromLt htoLt' (by simp [DesktopClient.core])]
  · exact (DesktopSame.refl s).moved h

end Orders

/-! ## Spawning -/

section Spawning

variable {s : Desktop} {c old : DesktopClient} {idx : Nat}

theorem desktopRuleApplyActionToClient_key (action : DesktopRuleAction) (c : DesktopClient) :
    (desktopRuleApplyActionToClient action c).1.key = c.key := by
  cases action with
  | workspace workspace =>
      rw [desktopRuleApplyActionToClient]
      split
      · rfl
      · split <;> rfl
  | _ => rfl

/-- The rules leave the id and the place in the history as they are. -/
theorem desktopApplySpawnRulesToClient_key (rules : List DesktopRule) (c : DesktopClient) :
    (desktopApplySpawnRulesToClient rules c).key = c.key := by
  induction rules generalizing c with
  | nil => rfl
  | cons rule rules ih =>
      refine (ih _).trans ?_
      dsimp only
      split
      · have happly := desktopRuleApplyActionToClient_key rule.action
          { c with ruleMatchCount := c.ruleMatchCount + 1 }
        generalize desktopRuleApplyActionToClient rule.action _ = r at happly ⊢
        obtain ⟨c', applied⟩ := r
        cases applied <;> exact happly
      · rfl

theorem DesktopKept.spawn (h : DesktopKept s) (hold : s.clients[idx]? = some old)
    (hfree : old.visible = false)
    (hid : c.id = s.nextClientId) (hplace : c.focusHistoryId = -1) (serial : UInt64) :
    DesktopKept
      { s.modify idx fun _ => c with nextClientId := s.nextClientId + 1, clientSerial := serial } := by
  have hmem : ∀ b ∈ s.clients.modify idx fun _ => c, b = c ∨ b ∈ s.clients := by
    intro b hb
    obtain ⟨j, hj⟩ := List.mem_iff_getElem?.mp hb
    rw [getElem?_put] at hj
    split at hj
    · obtain ⟨-, -, rfl⟩ := Option.map_eq_some_iff.mp hj
      exact .inl rfl
    · exact .inr (List.mem_of_getElem? hj)
  have hkept : ∀ b ∈ s.clients, b.visible = true → b ∈ s.clients.modify idx fun _ => c := by
    intro b hb hv
    obtain ⟨j, hj⟩ := List.mem_iff_getElem?.mp hb
    refine List.mem_iff_getElem?.mpr ⟨j, ?_⟩
    rw [getElem?_put, if_neg, hj]
    rintro rfl
    rw [hold] at hj
    obtain rfl := Option.some.inj hj
    rw [hfree] at hv
    cases hv
  have hbelow : ∀ b ∈ s.clients, b.visible = true → b.id < c.id := fun b hb hv => hid ▸ (h.ids b hb hv).2
  refine ⟨?_, ?_, ?_, ?_, h.history, ?_, ?_⟩
  · rw [← h.size]
    exact List.length_modify ..
  · refine List.pairwise_iff_getElem.mpr fun i j hi hj hlt hbi hbj => ?_
    have hpairs := List.pairwise_iff_getElem.mp h.distinct
    have hi' : i < s.clients.length := by simpa [Desktop.modify] using hi
    have hj' : j < s.clients.length := by simpa [Desktop.modify] using hj
    simp only [Desktop.modify, List.getElem_modify] at hbi hbj ⊢
    split at hbi
    next hidx =>
      subst hidx
      rw [if_pos rfl]
      rw [if_neg (by omega)] at hbj ⊢
      exact Int.ne_of_gt (hbelow _ (List.getElem_mem hj') hbj)
    next hidx =>
      rw [if_neg hidx]
      split at hbj
      next hidx' =>
        rw [if_pos hidx']
        exact Int.ne_of_lt (hbelow _ (List.getElem_mem hi') hbi)
      next hidx' =>
        rw [if_neg hidx']
        exact hpairs i j hi' hj' hlt hbi hbj
  · intro b hb hv
    have hnext := h.next
    obtain rfl | hb := hmem b hb
    · rw [hid]
      exact ⟨hnext, Int.lt_add_one_of_le (Int.le_refl _)⟩
    · have hb := h.ids b hb hv
      exact ⟨hb.1, Int.lt_add_one_of_le (Int.le_of_lt hb.2)⟩
  · intro x hx
    obtain ⟨b, hb, hv, rfl⟩ := h.log x hx
    exact ⟨b, hkept b hb hv, hv, rfl⟩
  · intro b hb hv
    obtain rfl | hb := hmem b hb
    · have hnew : b.id ∉ recent s.focusLog := by
        intro hlogged
        obtain ⟨d, hd, hdv, hdid⟩ := h.log b.id (mem_recent.mp hlogged)
        exact Int.ne_of_lt (hbelow d hd hdv) hdid
      have hposition : historyPosition (recent s.focusLog) b.id = -1 := by
        rw [historyPosition, List.idxOf?_eq_none_iff.mpr hnew]
      exact hplace.trans hposition.symm
    · exact h.position b hb hv
  · exact Int.lt_add_one_of_le (Int.le_of_lt h.next)

theorem desktopSpawnClient_spec (h : DesktopGood s) (hnext : s.nextClientId ≠ 2 ^ 31 - 1)
    (title appId : Option CStr)
    (terminalBacked : Bool) (rules : List DesktopRule) :
    DesktopGood (desktopSpawnClient s title appId terminalBacked rules).1 ∧
      (desktopSpawnClient s title appId terminalBacked rules).1.nextClientId ≤ s.nextClientId + 1 := by
  unfold desktopSpawnClient
  split
  · exact ⟨h, Int.le_of_lt (Int.lt_add_one_of_le (Int.le_refl _))⟩
  next idx hidx =>
    obtain ⟨hlt, hfree, -⟩ := List.findIdx?_eq_some_iff_getElem.mp hidx
    dsimp only
    have hkey := desktopApplySpawnRulesToClient_key rules (desktopNewClient s title appId terminalBacked)
    generalize desktopApplySpawnRulesToClient rules
      (desktopNewClient s title appId terminalBacked) = c at hkey ⊢
    obtain ⟨hv, hrest⟩ := Prod.mk.inj hkey
    obtain ⟨hid, hplace⟩ := Prod.mk.inj hrest
    rw [desktopClientIdSucc, if_neg hnext]
    have hkept := h.toDesktopKept.spawn (List.getElem?_eq_getElem hlt) (by simpa using hfree) hid hplace
      (s.clientSerial + 1)
    have hgood : DesktopGood { s.modify idx fun _ => c with
        nextClientId := s.nextClientId + 1, clientSerial := s.clientSerial + 1 } := ⟨hkept, h.head, h.active⟩
    split
    · have hset := hgood.reaches_set (some idx)
      exact ⟨hset.good, Int.le_of_eq hset.next⟩
    · have hfocused := hgood.reaches_focused
      exact ⟨hfocused.good, Int.le_of_eq hfocused.next⟩

end Spawning

/-! ## Focusing -/

section Focusing

variable {s : Desktop}

theorem desktopFocusRelative_reaches (h : DesktopGood s) (delta : Int) :
    DesktopReaches s (desktopFocusRelative s delta).1 := by
  obtain ⟨s', r, hfocused, hgood, hsame, -⟩ := desktopFocusedClientIndex_spec h
  have hreach : DesktopReaches s s' := ⟨hgood, hsame.next⟩
  unfold desktopFocusRelative
  rw [hfocused]
  dsimp only
  split
  · exact hreach
  · split
    · exact hreach
    · exact hreach.trans (hgood.reaches_set _)

theorem desktopClampWorkspace_bounds (workspace : Int) :
    1 ≤ desktopClampWorkspace workspace ∧ desktopClampWorkspace workspace ≤ desktopMaxWorkspaces := by
  unfold desktopClampWorkspace desktopMaxWorkspaces
  split
  · omega
  · split <;> omega

theorem desktopFocusClientIndexFollow_reaches (h : DesktopGood s) (idx : Nat) :
    DesktopReaches s (desktopFocusClientIndexFollow s idx).1 := by
  unfold desktopFocusClientIndexFollow
  split
  · exact .refl h
  next c _ =>
    split
    · dsimp only
      generalize ht : ({ s with
        specialVisible := true
        specialPreviousWorkspace := s.activeWorkspace
        specialName :=
          if c.specialWorkspace = [] then desktopSpecialDefaultName else c.specialWorkspace } : Desktop) = t
      have hgood : DesktopGood (desktopUpdateSpecialHiddenStates t) := by
        subst ht
        exact ⟨h.toDesktopKept.congr (List.Perm.of_eq (desktopUpdateSpecialHiddenStates_key _)) rfl rfl rfl,
          h.head, h.active⟩
      have hset := hgood.reaches_set (some idx)
      refine ⟨hset.good, hset.next.trans ?_⟩
      rw [← ht]
      rfl
    · dsimp only
      split
      · have hgood : DesktopGood { s with
            previousWorkspace := s.activeWorkspace, activeWorkspace := desktopClampWorkspace c.workspace } :=
          ⟨h.toDesktopKept.congr (List.Perm.refl _) rfl rfl rfl, h.head, desktopClampWorkspace_bounds _⟩
        exact ⟨(hgood.reaches_set _).good, (hgood.reaches_set _).next⟩
      · exact h.reaches_set _

theorem desktopFindClientByFocusQuery_eq (h : DesktopGood s) (query : DesktopQuery) :
    ∃ r, desktopFindClientByFocusQuery s query = (s, r) := by
  unfold desktopFindClientByFocusQuery
  rw [desktopFocusHistoryCompact_eq h.toDesktopKept]
  dsimp only
  split <;> exact ⟨_, rfl⟩

theorem desktopFocusWindowQuery_reaches (h : DesktopGood s) (query : DesktopQuery) :
    DesktopReaches s (desktopFocusWindowQuery s query).1 := by
  obtain ⟨r, hfind⟩ := desktopFindClientByFocusQuery_eq h query
  unfold desktopFocusWindowQuery
  rw [hfind]
  cases r with
  | none => exact .refl h
  | some idx => exact desktopFocusClientIndexFollow_reaches h idx

theorem desktopFocusMasterClient_reaches (h : DesktopGood s) :
    DesktopReaches s (desktopFocusMasterClient s).1 := by
  unfold desktopFocusMasterClient
  split
  · exact .refl h
  · exact h.reaches_set _

theorem desktopMWindowTarget_spec (h : DesktopGood s) (count : Int) (target : Int → Int → Option Int) :
    ∃ s' r, desktopMWindowTarget s count target = (s', r) ∧ DesktopGood s' ∧ DesktopSame s s' := by
  obtain ⟨s', r, hfocused, hgood, hsame, -⟩ := desktopFocusedClientIndex_spec h
  unfold desktopMWindowTarget
  rw [hfocused]
  exact ⟨s', _, rfl, hgood, hsame⟩

theorem desktopFocusMWindowDispatch_reaches (h : DesktopGood s) (target : Int → Int → Option Int) :
    DesktopReaches s (desktopFocusMWindowDispatch s target).1 := by
  obtain ⟨s', r, htarget, hgood, hsame⟩ :=
    desktopMWindowTarget_spec h (desktopClientCountOnWorkspace s s.activeWorkspace) target
  have hreach : DesktopReaches s s' := ⟨hgood, hsame.next⟩
  unfold desktopFocusMWindowDispatch
  dsimp only
  rw [htarget]
  cases r with
  | none => exact hreach
  | some pair =>
      dsimp only
      split
      · exact hreach
      · exact hreach.trans (hgood.reaches_set _)

theorem desktopFocusCurrentOrLast_reaches (h : DesktopGood s) :
    DesktopReaches s (desktopFocusCurrentOrLast s).1 := by
  unfold desktopFocusCurrentOrLast desktopPreviousFocusIndex
  rw [desktopFocusHistoryCompact_eq h.toDesktopKept]
  dsimp only
  cases s.focusHistory.findSome? _ with
  | none => exact .refl h
  | some idx => exact desktopFocusClientIndexFollow_reaches h idx

theorem desktopFocusUrgentOrLast_reaches (h : DesktopGood s) :
    DesktopReaches s (desktopFocusUrgentOrLast s).1 := by
  have hurgent : ∃ r, desktopUrgentFocusIndex s = (s, r) := by
    unfold desktopUrgentFocusIndex
    rw [desktopFocusHistoryCompact_eq h.toDesktopKept]
    dsimp only
    split <;> exact ⟨_, rfl⟩
  obtain ⟨r, hr⟩ := hurgent
  unfold desktopFocusUrgentOrLast
  rw [hr]
  cases r with
  | none => exact desktopFocusCurrentOrLast_reaches h
  | some idx => exact desktopFocusClientIndexFollow_reaches h idx

theorem desktopFocusDirectional_reaches (h : DesktopGood s) (layout : DesktopLayout)
    (dx dy fallbackDelta : Int) :
    DesktopReaches s (desktopFocusDirectional s layout dx dy fallbackDelta).1 := by
  obtain ⟨s', r, hfocused, hgood, hsame, -⟩ := desktopFocusedClientIndex_spec h
  have hreach : DesktopReaches s s' := ⟨hgood, hsame.next⟩
  unfold desktopFocusDirectional
  rw [hfocused]
  cases r with
  | none => exact hreach
  | some focused =>
      dsimp only
      split
      · exact hreach.trans (hgood.reaches_set _)
      · exact hreach.trans (desktopFocusRelative_reaches hgood fallbackDelta)

theorem desktopFocusClientAt_reaches (h : DesktopGood s) (layout : DesktopLayout) (x y : Int) :
    DesktopReaches s (desktopFocusClientAt s layout x y).1 := by
  unfold desktopFocusClientAt
  dsimp only
  split
  · exact .refl h
  · split
    · exact h.reaches_set _
    · exact .refl h

end Focusing

/-! ## Swapping and moving -/

section Swapping

variable {s : Desktop}

theorem desktopSwapRelative_permuted (h : DesktopGood s) (delta : Int) :
    DesktopPermuted s (desktopSwapRelative s delta).1 := by
  obtain ⟨s', r, hfocused, hgood, hsame, -⟩ := desktopFocusedClientIndex_spec h
  have hfirst := hsame.permuted hgood
  unfold desktopSwapRelative
  dsimp only
  rw [hfocused]
  cases r with
  | none => exact hfirst
  | some focused =>
      dsimp only
      split
      · exact hfirst
      · split
        · exact hfirst
        · exact hfirst.trans (desktopSwapClientIndices_spec hgood _ _)

theorem desktopSwapDirectional_permuted (h : DesktopGood s) (layout : DesktopLayout)
    (dx dy fallbackDelta : Int) :
    DesktopPermuted s (desktopSwapDirectional s layout dx dy fallbackDelta).1 := by
  obtain ⟨s', r, hfocused, hgood, hsame, -⟩ := desktopFocusedClientIndex_spec h
  have hfirst := hsame.permuted hgood
  unfold desktopSwapDirectional
  rw [hfocused]
  cases r with
  | none => exact hfirst
  | some focused =>
      dsimp only
      split
      · exact hfirst.trans (desktopSwapClientIndices_spec hgood _ _)
      · exact hfirst.trans (desktopSwapRelative_permuted hgood fallbackDelta)

theorem desktopSwapMWindowDispatch_permuted (h : DesktopGood s) (target : Int → Int → Option Int) :
    DesktopPermuted s (desktopSwapMWindowDispatch s target).1 := by
  obtain ⟨s', r, htarget, hgood, hsame⟩ :=
    desktopMWindowTarget_spec h (desktopClientCountOnWorkspace s s.activeWorkspace) target
  have hfirst := hsame.permuted hgood
  unfold desktopSwapMWindowDispatch
  dsimp only
  rw [htarget]
  cases r with
  | none => exact hfirst
  | some pair =>
      dsimp only
      split
      · exact hfirst
      · have hswap := desktopSwapClientIndices_spec hgood pair.1 pair.2
        obtain ⟨t, r, hfocused, hgood', hsame', -⟩ := desktopFocusedClientIndex_spec hswap.good
        have hlast := hsame'.permuted hgood'
        rw [hfocused]
        exact hfirst.trans (hswap.trans hlast)

theorem desktopSwapWithMaster_permuted (h : DesktopGood s) :
    DesktopPermuted s (desktopSwapWithMaster s).1 := by
  obtain ⟨s', r, hfocused, hgood, hsame, -⟩ := desktopFocusedClientIndex_spec h
  have hfirst := hsame.permuted hgood
  unfold desktopSwapWithMaster
  rw [hfocused]
  dsimp only
  split
  · exact hfirst.trans (desktopSwapClientIndices_spec hgood _ _)
  · exact hfirst

theorem desktopMoveWindowRelative_moved (h : DesktopGood s) (delta : Int) :
    DesktopMoved s (desktopMoveWindowRelative s delta).1 := by
  obtain ⟨s', r, hfocused, hgood, hsame, -⟩ := desktopFocusedClientIndex_spec h
  have hfirst := hsame.moved hgood
  unfold desktopMoveWindowRelative
  dsimp only
  rw [hfocused]
  cases r with
  | none => exact hfirst
  | some focused =>
      dsimp only
      split
      · exact hfirst
      · split
        · exact hfirst
        · exact .of_same hsame (desktopMoveClientIndexInScope_spec hgood _ _) hgood

theorem desktopMoveWindowToMaster_moved (h : DesktopGood s) :
    DesktopMoved s (desktopMoveWindowToMaster s).1 := by
  obtain ⟨s', r, hfocused, hgood, hsame, -⟩ := desktopFocusedClientIndex_spec h
  have hfirst := hsame.moved hgood
  unfold desktopMoveWindowToMaster
  rw [hfocused]
  dsimp only
  split
  · exact .of_same hsame (desktopMoveClientIndexInScope_spec hgood _ _) hgood
  · exact hfirst

end Swapping

/-! ## Marking -/

section Marking

variable {s : Desktop}

theorem desktopSetActivePin_reaches (h : DesktopGood s) (desired : Option Bool) :
    DesktopReaches s (desktopSetActivePin s desired).1 := by
  obtain ⟨s', r, hfocused, hgood, hsame, -⟩ := desktopFocusedClientIndex_spec h
  have hreach : DesktopReaches s s' := ⟨hgood, hsame.next⟩
  unfold desktopSetActivePin
  rw [hfocused]
  cases r with
  | none => exact hreach
  | some idx => exact hreach.trans (hgood.reaches_modify idx fun _ => rfl)

theorem desktopMarkClientUrgent_reaches (h : DesktopGood s) (idx : Nat) (desired : Bool) :
    DesktopReaches s (desktopMarkClientUrgent s idx desired).1 := by
  unfold desktopMarkClientUrgent
  split
  · exact h.reaches_modify idx fun _ => rfl
  · exact .refl h

theorem desktopMarkUrgentDispatch_reaches (h : DesktopGood s) (query : Option DesktopQuery)
    (desired : Bool → Option Bool) : DesktopReaches s (desktopMarkUrgentDispatch s query desired).1 := by
  have hfound : ∃ s' r, desktopTargetIndex s query = (s', r) ∧ DesktopReaches s s' := by
    cases query with
    | none =>
        obtain ⟨s', r, hfocused, hgood, hsame, -⟩ := desktopFocusedClientIndex_spec h
        exact ⟨s', r, hfocused, hgood, hsame.next⟩
    | some query =>
        obtain ⟨r, hfind⟩ := desktopFindClientByFocusQuery_eq h query
        exact ⟨s, r, hfind, .refl h⟩
  obtain ⟨s', r, hfound, hreach⟩ := hfound
  unfold desktopMarkUrgentDispatch
  rw [hfound]
  dsimp only
  split
  · exact hreach
  · exact hreach.trans (desktopMarkClientUrgent_reaches hreach.good _ _)

end Marking

/-! ## Runs -/

/-- What is done with the clients. -/
inductive DesktopOp
  | spawn (title appId : Option CStr) (terminalBacked : Bool) (rules : List DesktopRule)
  | focusRelative (delta : Int)
  | focusWindow (query : DesktopQuery)
  | focusMaster
  | focusMWindow (target : Int → Int → Option Int)
  | focusDirection (layout : DesktopLayout) (dx dy fallbackDelta : Int)
  | focusAt (layout : DesktopLayout) (x y : Int)
  | focusCurrentOrLast
  | focusUrgentOrLast
  | focusFollow (idx : Nat)
  | swapRelative (delta : Int)
  | swapDirection (layout : DesktopLayout) (dx dy fallbackDelta : Int)
  | swapMWindow (target : Int → Int → Option Int)
  | swapWithMaster
  | moveRelative (delta : Int)
  | moveToMaster
  | pin (desired : Option Bool)
  | markUrgent (query : Option DesktopQuery) (desired : Bool → Option Bool)
  | switchWorkspace (workspace : Int)
  | toggleSpecial (name : Option CStr)
  | moveToSpecial (idx : Nat) (name : Option CStr) (follow : Bool)
  | moveToWorkspace (idx : Nat) (workspace : Int) (follow : Bool)
  | close

/-- The desktop after it. -/
def desktopStep (s : Desktop) : DesktopOp → Desktop
  | .spawn title appId terminalBacked rules => (desktopSpawnClient s title appId terminalBacked rules).1
  | .focusRelative delta => (desktopFocusRelative s delta).1
  | .focusWindow query => (desktopFocusWindowQuery s query).1
  | .focusMaster => (desktopFocusMasterClient s).1
  | .focusMWindow target => (desktopFocusMWindowDispatch s target).1
  | .focusDirection layout dx dy fallbackDelta => (desktopFocusDirectional s layout dx dy fallbackDelta).1
  | .focusAt layout x y => (desktopFocusClientAt s layout x y).1
  | .focusCurrentOrLast => (desktopFocusCurrentOrLast s).1
  | .focusUrgentOrLast => (desktopFocusUrgentOrLast s).1
  | .focusFollow idx => (desktopFocusClientIndexFollow s idx).1
  | .swapRelative delta => (desktopSwapRelative s delta).1
  | .swapDirection layout dx dy fallbackDelta => (desktopSwapDirectional s layout dx dy fallbackDelta).1
  | .swapMWindow target => (desktopSwapMWindowDispatch s target).1
  | .swapWithMaster => (desktopSwapWithMaster s).1
  | .moveRelative delta => (desktopMoveWindowRelative s delta).1
  | .moveToMaster => (desktopMoveWindowToMaster s).1
  | .pin desired => (desktopSetActivePin s desired).1
  | .markUrgent query desired => (desktopMarkUrgentDispatch s query desired).1
  | .switchWorkspace workspace => (guiDesktopSwitchWorkspace s workspace).1
  | .toggleSpecial name => (desktopToggleSpecialWorkspace s name).1
  | .moveToSpecial idx name follow => (desktopMoveClientToSpecialIndex s idx name follow).1
  | .moveToWorkspace idx workspace follow => (desktopMoveClientToWorkspaceIndex s idx workspace follow).1
  | .close => (guiDesktopCloseActiveClient s).1

/-- The swaps. -/
def DesktopOp.isSwap : DesktopOp → Bool
  | .swapRelative _ | .swapDirection .. | .swapMWindow _ | .swapWithMaster => true
  | _ => false

/-- The moves of a window. -/
def DesktopOp.isMove : DesktopOp → Bool
  | .moveRelative _ | .moveToMaster => true
  | _ => false

/-- The spawns. -/
def DesktopOp.isSpawn : DesktopOp → Bool
  | .spawn .. => true
  | _ => false

/-- The desktop after a run. -/
def desktopRun (ops : List DesktopOp) : Desktop := ops.foldl desktopStep desktopInit

section Runs

variable {s : Desktop} {op : DesktopOp}

theorem desktopStep_swap (h : DesktopGood s) (hop : op.isSwap = true) :
    DesktopPermuted s (desktopStep s op) := by
  cases op with
  | swapRelative delta => exact desktopSwapRelative_permuted h delta
  | swapDirection layout dx dy delta => exact desktopSwapDirectional_permuted h layout dx dy delta
  | swapMWindow target => exact desktopSwapMWindowDispatch_permuted h target
  | swapWithMaster => exact desktopSwapWithMaster_permuted h
  | _ => cases hop

theorem desktopStep_move (h : DesktopGood s) (hop : op.isMove = true) :
    DesktopMoved s (desktopStep s op) := by
  cases op with
  | moveRelative delta => exact desktopMoveWindowRelative_moved h delta
  | moveToMaster => exact desktopMoveWindowToMaster_moved h
  | _ => cases hop

theorem desktopStep_reaches (h : DesktopGood s) (hop : op.isSpawn = false) :
    DesktopReaches s (desktopStep s op) := by
  cases op with
  | spawn => cases hop
  | focusRelative delta => exact desktopFocusRelative_reaches h delta
  | focusWindow query => exact desktopFocusWindowQuery_reaches h query
  | focusMaster => exact desktopFocusMasterClient_reaches h
  | focusMWindow target => exact desktopFocusMWindowDispatch_reaches h target
  | focusDirection layout dx dy delta => exact desktopFocusDirectional_reaches h layout dx dy delta
  | focusAt layout x y => exact desktopFocusClientAt_reaches h layout x y
  | focusCurrentOrLast => exact desktopFocusCurrentOrLast_reaches h
  | focusUrgentOrLast => exact desktopFocusUrgentOrLast_reaches h
  | focusFollow idx => exact desktopFocusClientIndexFollow_reaches h idx
  | swapRelative | swapDirection | swapMWindow | swapWithMaster =>
      exact (desktopStep_swap h rfl).toDesktopReaches
  | moveRelative | moveToMaster => exact (desktopStep_move h rfl).toDesktopReaches
  | pin desired => exact desktopSetActivePin_reaches h desired
  | markUrgent query desired => exact desktopMarkUrgentDispatch_reaches h query desired
  | switchWorkspace workspace => exact guiDesktopSwitchWorkspace_reaches h workspace
  | toggleSpecial name => exact desktopToggleSpecialWorkspace_reaches h name
  | moveToSpecial idx name follow => exact desktopMoveClientToSpecialIndex_reaches h idx name follow
  | moveToWorkspace idx workspace follow =>
      exact desktopMoveClientToWorkspaceIndex_reaches h idx workspace follow
  | close => exact guiDesktopCloseActiveClient_reaches h

theorem desktopInit_good : DesktopGood desktopInit where
  size := rfl
  distinct := by
    refine List.pairwise_of_forall_mem_list fun a ha b _ hv => ?_
    rw [List.eq_of_mem_replicate ha] at hv
    cases hv
  ids c hc hv := by
    rw [List.eq_of_mem_replicate hc] at hv
    cases hv
  log id hid := by cases hid
  history := rfl
  position c hc hv := by
    rw [List.eq_of_mem_replicate hc] at hv
    cases hv
  next := by decide
  head h := absurd rfl h
  active := by decide

theorem desktopRun_good (ops : List DesktopOp) (h : ops.countP DesktopOp.isSpawn < 2 ^ 31 - 1) :
    DesktopGood (desktopRun ops) ∧ (desktopRun ops).nextClientId ≤ ops.countP DesktopOp.isSpawn + 1 := by
  induction ops using List.reverseRecOn with
  | nil => exact ⟨desktopInit_good, by decide⟩
  | append_singleton ops op ih =>
      have hcount : (ops ++ [op]).countP DesktopOp.isSpawn =
          ops.countP DesktopOp.isSpawn + if op.isSpawn then 1 else 0 := by
        rw [List.countP_append, List.countP_singleton]
      have hrun : desktopRun (ops ++ [op]) = desktopStep (desktopRun ops) op := by
        rw [desktopRun, List.foldl_append]
        rfl
      rw [hcount] at h ⊢
      rw [hrun]
      obtain ⟨hgood, hnext⟩ := ih (by omega)
      cases hop : op.isSpawn with
      | false =>
          have hreach := desktopStep_reaches hgood hop
          rw [hreach.next]
          exact ⟨hreach.good, by simpa using hnext⟩
      | true =>
          cases op with
          | spawn title appId terminalBacked rules =>
              rw [hop, if_pos rfl] at h
              have hspawn := desktopSpawnClient_spec hgood (by omega) title appId terminalBacked rules
              refine ⟨hspawn.1, hspawn.2.trans ?_⟩
              rw [if_pos rfl]
              omega
          | _ => cases hop

/-- The history is the log of the focus without repetitions, the last focused first, its
clients are visible and know their places, and the focused one is at the front. -/
structure DesktopHistoryGood (s : Desktop) (history : List Int) : Prop where
  array : s.focusHistory = desktopHistory history
  nodup : history.Nodup
  logged : ∀ id, id ∈ history ↔ id ∈ s.focusLog
  latest : history.Pairwise fun x y => s.focusLog.idxOf x < s.focusLog.idxOf y
  visible : ∀ id ∈ history, ∃ c ∈ s.clients, c.visible = true ∧ c.id = id
  front : s.focusedClientId ≠ 0 → history.head? = some s.focusedClientId
  position : ∀ c ∈ s.clients, c.visible = true → c.focusHistoryId = historyPosition history c.id

/-- A client was found on the active workspace, or there is none. -/
def DesktopFocusFound (s : Desktop) : Prop :=
  match desktopFocusedClientIndex s with
  | (s', some idx) =>
      (s'.clients[idx]?).any (fun c => desktopClientOnWorkspace s' c s'.activeWorkspace) = true
  | (s', none) => ∀ c ∈ s'.clients, desktopClientOnWorkspace s' c s'.activeWorkspace = false

theorem DesktopGood.history_good (h : DesktopGood s) : DesktopHistoryGood s (recent s.focusLog) where
  array := h.history
  nodup := nodup_recent _
  logged _ := mem_recent
  latest := recent_sorted _
  visible id hid := h.log id (mem_recent.mp hid)
  front hfocused := (head?_recent _).trans (h.head hfocused)
  position := h.position

theorem DesktopGood.focus_found (h : DesktopGood s) : DesktopFocusFound s := by
  obtain ⟨s', r, hfocused, -, -, hsome, hnone⟩ := desktopFocusedClientIndex_spec h
  rw [DesktopFocusFound, hfocused]
  cases r with
  | some idx => exact hsome idx rfl
  | none => exact hnone rfl

/-- The clients, the history and the focus are in step after any run, and swaps and moves
permute the clients. -/
theorem desktopRun_clients (ops : List DesktopOp) (h : ops.countP DesktopOp.isSpawn < 2 ^ 31 - 1) :
    (((desktopRun ops).clients.filter (·.visible)).map (·.id)).Nodup ∧
      (∃ history, DesktopHistoryGood (desktopRun ops) history) ∧ DesktopFocusFound (desktopRun ops) ∧
      (∀ op, op.isSwap = true ∨ op.isMove = true →
        ((desktopStep (desktopRun ops) op).clients.map DesktopClient.core).Perm
          ((desktopRun ops).clients.map DesktopClient.core)) ∧
      ∀ op, op.isMove = true →
        (desktopStep (desktopRun ops) op).scope.filter
            (fun c => c.id ≠ (desktopStep (desktopRun ops) op).focusedClientId) =
          (desktopRun ops).scope.filter
            fun c => c.id ≠ (desktopStep (desktopRun ops) op).focusedClientId := by
  obtain ⟨hgood, -⟩ := desktopRun_good ops h
  refine ⟨distinctIds_iff.mp hgood.distinct, ⟨_, hgood.history_good⟩, hgood.focus_found, fun op hop => ?_,
    fun op hop => (desktopStep_move hgood hop).others⟩
  obtain hop | hop := hop
  · exact (desktopStep_swap hgood hop).perm
  · exact (desktopStep_move hgood hop).perm

/-- Two windows that change places. -/
def swappedWindows : List DesktopOp := [.spawn none none true [], .spawn none none false [], .swapRelative 1]

theorem desktopRun_clients_swapped :
    swappedWindows.countP DesktopOp.isSpawn = 2 ∧
      ((desktopRun swappedWindows).clients.map (·.id)).take 2 = [2, 1] ∧
      (((desktopRun swappedWindows).clients.filter (·.visible)).map (·.id)).Nodup ∧
      DesktopFocusFound (desktopRun swappedWindows) := by
  have hrun := desktopRun_clients swappedWindows (by decide)
  exact ⟨rfl, by decide, hrun.1, hrun.2.2.1⟩

end Runs

end Orizon
