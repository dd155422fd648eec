import Mathlib.Data.List.Nodup
import Mathlib.Data.List.Perm.Subperm
import Orizon.Desktop.Actions
import Orizon.Lib.Recent

/-!
# Orizon.Desktop.Focus

The clients, the focus and its history stay in step, whatever is done with the clients.

Under the invariant `DesktopKept` compacting the history does nothing
(`desktopFocusHistoryCompact_eq`) and touching an id moves it to the front
(`desktopFocusHistoryTouch_eq`).  The invariant depends on the clients only through their
ids, visibility and places in the history, in any order, so swaps and moves keep it
(`DesktopKept.congr`).
-/

namespace Orizon

/-! ## Looking up ids -/

section Ids

variable {clients : List DesktopClient} {c : DesktopClient} {id : Int} {i : Nat}

/-- No two visible clients have the same id. -/
def DistinctIds (clients : List DesktopClient) : Prop :=
  clients.Pairwise fun a b => a.visible = true → b.visible = true → a.id ≠ b.id

theorem distinctIds_iff : DistinctIds clients ↔ ((clients.filter (·.visible)).map (·.id)).Nodup := by
  rw [DistinctIds, List.Nodup, List.pairwise_map, List.pairwise_filter]

theorem DistinctIds.index_eq (h : DistinctIds clients) {j : Nat} {b c : DesktopClient}
    (hb : clients[i]? = some b)
    (hc : clients[j]? = some c) (hbv : b.visible = true) (hcv : c.visible = true) (hid : b.id = c.id) :
    i = j := by
  obtain ⟨hi, rfl⟩ := List.getElem?_eq_some_iff.mp hb
  obtain ⟨hj, rfl⟩ := List.getElem?_eq_some_iff.mp hc
  have hpairs := List.pairwise_iff_getElem.mp h
  by_contra hne
  obtain hlt | hlt := Nat.lt_or_gt_of_ne hne
  · exact hpairs i j hi hj hlt hbv hcv hid
  · exact hpairs j i hj hi hlt hcv hbv hid.symm

theorem desktopClientIndexById_some (h : desktopClientIndexById clients id = some i) :
    0 < id ∧ ∃ c, clients[i]? = some c ∧ c.visible = true ∧ c.id = id := by
  unfold desktopClientIndexById at h
  split at h
  · cases h
  next hpos =>
    obtain ⟨hi, hfound, -⟩ := List.findIdx?_eq_some_iff_getElem.mp h
    obtain ⟨hv, hid⟩ := Bool.and_eq_true_iff.mp hfound
    exact ⟨by omega, clients[i], List.getElem?_eq_getElem hi, hv, of_decide_eq_true hid⟩

theorem desktopClientIndexById_none (h : desktopClientIndexById clients id = none) (hpos : 0 < id) :
    ∀ c ∈ clients, c.visible = true → c.id ≠ id := by
  intro c hc hv hid
  rw [desktopClientIndexById, if_neg (by omega)] at h
  have hfound := List.findIdx?_eq_none_iff.mp h c hc
  simp [hv, hid] at hfound

theorem desktopClientIndexById_eq (h : DistinctIds clients) (hc : clients[i]? = some c)
    (hv : c.visible = true)
    (hpos : 0 < c.id) : desktopClientIndexById clients c.id = some i := by
  cases hfind : desktopClientIndexById clients c.id with
  | none => exact absurd rfl (desktopClientIndexById_none hfind hpos c (List.mem_of_getElem? hc) hv)
  | some j =>
      obtain ⟨-, b, hb, hbv, hid⟩ := desktopClientIndexById_some hfind
      rw [h.index_eq hb hc hbv hv hid]

@[simp] theorem desktopClientIndexById_zero : desktopClientIndexById clients 0 = none := rfl

theorem modify_desktopClientIndexById (h : DistinctIds clients)
    (hi : desktopClientIndexById clients id = some i)
    (f : DesktopClient → DesktopClient) :
    clients.modify i f = clients.map fun c => if c.visible = true ∧ c.id = id then f c else c := by
  obtain ⟨-, b, hb, hbv, rfl⟩ := desktopClientIndexById_some hi
  refine List.ext_getElem? fun j => ?_
  rw [List.getElem?_modify, List.getElem?_map]
  cases hc : clients[j]? with
  | none => simp
  | some c =>
      by_cases hij : i = j
      · subst hij
        rw [hb] at hc
        obtain rfl := Option.some.inj hc
        simp [hbv]
      · have hother : ¬ (c.visible = true ∧ c.id = b.id) := fun hsame =>
          hij (h.index_eq hb hc hbv hsame.1 hsame.2.symm)
        simp [hij, hother]

end Ids

/-! ## The history -/

section History

variable {clients : List DesktopClient} {l kept : List Int} {x : Int} {n : Nat}

/-- The place of an id in the history, -1 if it has none. -/
def historyPosition (l : List Int) (x : Int) : Int :=
  match l.idxOf? x with
  | none => -1
  | some i => i

/-- A client with its place in the history. -/
def DesktopClient.filed (l : List Int) (c : DesktopClient) : DesktopClient :=
  if c.visible then { c with focusHistoryId := historyPosition l c.id } else c

/-- A client with its place in a part of the history that begins at `n`. -/
def DesktopClient.filedFrom (l : List Int) (n : Nat) (c : DesktopClient) : DesktopClient :=
  match l.idxOf? c.id with
  | none => c
  | some i => if c.visible then { c with focusHistoryId := (n + i : Nat) } else c

theorem DesktopClient.filedFrom_visible (l : List Int) (n : Nat) (c : DesktopClient) :
    (c.filedFrom l n).visible = c.visible ∧ (c.filedFrom l n).id = c.id := by
  unfold DesktopClient.filedFrom
  split
  · exact ⟨rfl, rfl⟩
  · split <;> exact ⟨rfl, rfl⟩

theorem DistinctIds.map {f : DesktopClient → DesktopClient} (h : DistinctIds clients)
    (hf : ∀ c, (f c).visible = c.visible ∧ (f c).id = c.id) : DistinctIds (clients.map f) := by
  refine List.pairwise_map.mpr (h.imp fun {a b} hab ha hb => ?_)
  rw [(hf a).1] at ha
  rw [(hf b).1] at hb
  rw [(hf a).2, (hf b).2]
  exact hab ha hb

theorem desktopRefreshEntry_eq (h : DistinctIds clients) (hpos : ∀ c ∈ clients, c.visible = true → 0 < c.id) :
    desktopRefreshEntry clients (x, n) = clients.map (DesktopClient.filedFrom [x] n) := by
  unfold desktopRefreshEntry
  cases hfind : desktopClientIndexById clients x with
  | none =>
      have hsame : ∀ c ∈ clients, DesktopClient.filedFrom [x] n c = c := by
        intro c hc
        unfold DesktopClient.filedFrom
        split
        · rfl
        next i hi =>
          have hid : c.id = x := by
            have hmem := List.isSome_idxOf?.mp (Option.isSome_of_eq_some hi)
            exact List.mem_singleton.mp hmem
          split
          next hv =>
            have hcpos := hpos c hc hv
            exact absurd hid (desktopClientIndexById_none hfind (by omega) c hc hv)
          · rfl
      exact ((List.map_congr_left hsame).trans (List.map_id' clients)).symm
  | some idx =>
      dsimp only
      rw [modify_desktopClientIndexById h hfind]
      refine List.map_congr_left fun c _ => ?_
      by_cases hid : c.id = x
      · simp [DesktopClient.filedFrom, hid]
      · have hne : ¬ x = c.id := fun heq => hid heq.symm
        simp [DesktopClient.filedFrom, List.idxOf?_cons, hid, hne]

theorem DesktopClient.filedFrom_cons (hx : x ∉ l) (c : DesktopClient) :
    (c.filedFrom [x] n).filedFrom l (n + 1) = c.filedFrom (x :: l) n := by
  by_cases hid : x = c.id
  · subst hid
    have hnone : l.idxOf? c.id = none := List.idxOf?_eq_none_iff.mpr hx
    cases hv : c.visible <;> simp [DesktopClient.filedFrom, List.idxOf?_cons, hnone, hv]
  · have hcons : (x :: l).idxOf? c.id = (l.idxOf? c.id).map (· + 1) := by simp [List.idxOf?_cons, hid]
    have hsingle : c.filedFrom [x] n = c := by simp [DesktopClient.filedFrom, List.idxOf?_cons, hid]
    rw [hsingle]
    unfold DesktopClient.filedFrom
    rw [hcons]
    cases l.idxOf? c.id with
    | none => rfl
    | some i => simp [Nat.add_assoc, Nat.add_comm 1 i]

theorem desktopRefreshEntry_foldl (h : DistinctIds clients)
    (hpos : ∀ c ∈ clients, c.visible = true → 0 < c.id)
    (hl : l.Nodup) (n : Nat) :
    (l.zipIdx n).foldl desktopRefreshEntry clients = clients.map (DesktopClient.filedFrom l n) := by
  induction l generalizing clients n with
  | nil =>
      have hsame : ∀ c ∈ clients, DesktopClient.filedFrom [] n c = c := fun c _ => rfl
      exact ((List.map_congr_left hsame).trans (List.map_id' clients)).symm
  | cons x l ih =>
      obtain ⟨hx, hl⟩ := List.nodup_cons.mp hl
      have hpos' : ∀ c ∈ clients.map (DesktopClient.filedFrom [x] n), c.visible = true → 0 < c.id := by
        intro c hc hv
        obtain ⟨b, hb, rfl⟩ := List.mem_map.mp hc
        obtain ⟨hbv, hbid⟩ := b.filedFrom_visible [x] n
        rw [hbid]
        exact hpos b hb (hbv ▸ hv)
      rw [List.zipIdx_cons, List.foldl_cons, desktopRefreshEntry_eq h hpos,
        ih (h.map (DesktopClient.filedFrom_visible [x] n)) hpos' hl, List.map_map]
      exact List.map_congr_left fun c _ => DesktopClient.filedFrom_cons hx c

theorem desktopRefreshEntry_zeros (clients : List DesktopClient) (k n : Nat) :
    ((List.replicate k (0 : Int)).zipIdx n).foldl desktopRefreshEntry clients = clients := by
  induction k generalizing n with
  | zero => rfl
  | succ k ih => exact ih (n + 1)

theorem desktopRefreshFocusHistoryIds_eq {s : Desktop} (h : DistinctIds s.clients)
    (hpos : ∀ c ∈ s.clients, c.visible = true → 0 < c.id) (hl : l.Nodup)
    (hhistory : s.focusHistory = desktopHistory l) :
    desktopRefreshFocusHistoryIds s = { s with clients := s.clients.map (DesktopClient.filed l) } := by
  have hcleared : ∀ c : DesktopClient,
      (if c.visible then { c with focusHistoryId := -1 } else c).visible = c.visible ∧
        (if c.visible then { c with focusHistoryId := -1 } else c).id = c.id := by
    intro c
    split <;> exact ⟨rfl, rfl⟩
  have hpos' : ∀ c ∈ s.clients.map fun c => if c.visible then { c with focusHistoryId := -1 } else c,
      c.visible = true → 0 < c.id := by
    intro c hc hv
    obtain ⟨b, hb, rfl⟩ := List.mem_map.mp hc
    rw [(hcleared b).2]
    exact hpos b hb ((hcleared b).1 ▸ hv)
  unfold desktopRefreshFocusHistoryIds
  dsimp only
  rw [hhistory, desktopHistory, List.zipIdx_append, List.foldl_append, desktopRefreshEntry_zeros,
    desktopRefreshEntry_foldl (h.map hcleared) hpos' hl, List.map_map]
  congr 1
  refine List.map_congr_left fun c _ => ?_
  cases hv : c.visible with
  | false => cases hi : l.idxOf? c.id <;> simp [DesktopClient.filedFrom, DesktopClient.filed, hv, hi]
  | true =>
      cases hi : l.idxOf? c.id <;>
        simp [DesktopClient.filedFrom, DesktopClient.filed, historyPosition, hv, hi]

/-! ### Compacting -/

/-- Ids of visible clients that come for the first time are all kept. -/
theorem desktopHistoryKeep_foldl (h : (kept ++ l).Nodup)
    (hl : ∀ x ∈ l, 0 < x ∧ desktopClientIndexById clients x ≠ none) :
    l.foldl (desktopHistoryKeep clients) kept = kept ++ l := by
  induction l generalizing kept with
  | nil => simp
  | cons x l ih =>
      obtain ⟨hpos, hfound⟩ := hl x List.mem_cons_self
      have hnew : x ∉ kept := fun hmem => (List.disjoint_of_nodup_append h) hmem List.mem_cons_self
      have hkeep : desktopHistoryKeep clients kept x = kept ++ [x] := by
        rw [desktopHistoryKeep, if_neg]
        simp [hfound, hnew, hpos]
      rw [List.foldl_cons, hkeep, ih (by simpa using h) fun y hy => hl y (List.mem_cons_of_mem x hy)]
      simp

theorem desktopHistoryKeep_zeros (clients : List DesktopClient) (kept : List Int) (k : Nat) :
    (List.replicate k (0 : Int)).foldl (desktopHistoryKeep clients) kept = kept := by
  induction k with
  | zero => rfl
  | succ k ih => exact ih

/-- All of them are kept behind the one that is touched, as long as there is room. -/
theorem desktopHistoryTouch_foldl {id : Int} (h : (kept ++ l.filter (· ≠ id)).Nodup)
    (hl : ∀ x ∈ l, 0 < x ∧ desktopClientIndexById clients x ≠ none)
    (hlen : (kept ++ l.filter (· ≠ id)).length ≤ desktopMaxClients) :
    l.foldl (desktopHistoryTouch clients id) kept = kept ++ l.filter (· ≠ id) := by
  induction l generalizing kept with
  | nil => simp
  | cons x l ih =>
      have hrest := fun y hy => hl y (List.mem_cons_of_mem x hy)
      by_cases hx : x = id
      · have hskip : desktopHistoryTouch clients id kept x = kept := by simp [desktopHistoryTouch, hx]
        have hfilter : (x :: l).filter (· ≠ id) = l.filter (· ≠ id) := by simp [hx]
        rw [hfilter] at h hlen ⊢
        rw [List.foldl_cons, hskip, ih h hrest hlen]
      · have hfilter : (x :: l).filter (· ≠ id) = x :: l.filter (· ≠ id) := by simp [hx]
        rw [hfilter] at h hlen ⊢
        obtain ⟨hpos, hfound⟩ := hl x List.mem_cons_self
        have hnew : x ∉ kept := fun hmem => (List.disjoint_of_nodup_append h) hmem List.mem_cons_self
        have hroom : kept.length < desktopMaxClients := by
          rw [List.length_append, List.length_cons] at hlen
          omega
        have htouch : desktopHistoryTouch clients id kept x = kept ++ [x] := by
          rw [desktopHistoryTouch, if_pos ⟨hroom, hx⟩, desktopHistoryKeep, if_neg]
          simp [hfound, hnew, hpos]
        rw [List.foldl_cons, htouch, ih (by simpa using h) hrest (by simpa using hlen)]
        simp

theorem desktopHistoryTouch_zeros (clients : List DesktopClient) (id : Int) (kept : List Int) (k : Nat) :
    (List.replicate k (0 : Int)).foldl (desktopHistoryTouch clients id) kept = kept := by
  induction k with
  | zero => rfl
  | succ k ih =>
      have hskip : desktopHistoryTouch clients id kept 0 = kept := by
        unfold desktopHistoryTouch
        split <;> rfl
      rw [List.replicate_succ, List.foldl_cons, hskip, ih]

end History

/-! ## The invariant -/

/-- The part of a client that the history depends on. -/
def DesktopClient.key (c : DesktopClient) : Bool × Int × Int := (c.visible, c.id, c.focusHistoryId)

/-- The clients and the history are in step. -/
structure DesktopKept (s : Desktop) : Prop where
  size : s.clients.length = desktopMaxClients
  distinct : DistinctIds s.clients
  ids : ∀ c ∈ s.clients, c.visible = true → 0 < c.id ∧ c.id < s.nextClientId
  log : ∀ id ∈ s.focusLog, ∃ c ∈ s.clients, c.visible = true ∧ c.id = id
  history : s.focusHistory = desktopHistory (recent s.focusLog)
  position : ∀ c ∈ s.clients, c.visible = true → c.focusHistoryId = historyPosition (recent s.focusLog) c.id
  next : 0 < s.nextClientId

/-- And the focus is at the front of it. -/
structure DesktopGood (s : Desktop) : Prop extends DesktopKept s where
  head : s.focusedClientId ≠ 0 → s.focusLog.head? = some s.focusedClientId
  active : 1 ≤ s.activeWorkspace ∧ s.activeWorkspace ≤ desktopMaxWorkspaces

section Kept

variable {s s' : Desktop} {c : DesktopClient} {id : Int} {idx : Nat}

theorem DesktopKept.congr (h : DesktopKept s)
    (hkeys : (s'.clients.map DesktopClient.key).Perm (s.clients.map DesktopClient.key))
    (hnext : s'.nextClientId = s.nextClientId) (hhistory : s'.focusHistory = s.focusHistory)
    (hlog : s'.focusLog = s.focusLog) : DesktopKept s' := by
  have hback : ∀ c ∈ s'.clients, ∃ b ∈ s.clients, b.key = c.key := fun c hc =>
    List.mem_map.mp (hkeys.mem_iff.mp (List.mem_map_of_mem hc))
  have hforth : ∀ b ∈ s.clients, ∃ c ∈ s'.clients, c.key = b.key := fun b hb =>
    List.mem_map.mp (hkeys.mem_iff.mpr (List.mem_map_of_mem hb))
  have hid : ∀ {b c : DesktopClient}, b.key = c.key →
      b.visible = c.visible ∧ b.id = c.id ∧ b.focusHistoryId = c.focusHistoryId := by
    intro b c hkey
    obtain ⟨hv, hrest⟩ := Prod.mk.inj hkey
    exact ⟨hv, Prod.mk.inj hrest⟩
  refine ⟨?_, ?_, ?_, ?_, ?_, ?_, hnext ▸ h.next⟩
  · rw [← h.size]
    simpa using hkeys.length_eq
  · have hids : ∀ clients : List DesktopClient, (clients.filter (·.visible)).map (·.id) =
        ((clients.map DesktopClient.key).filter (·.1)).map (·.2.1) := by
      intro clients
      rw [List.filter_map, List.map_map]
      rfl
    have hdistinct := distinctIds_iff.mp h.distinct
    rw [hids] at hdistinct
    rw [distinctIds_iff, hids]
    exact (((hkeys.filter _).map _).nodup_iff).mpr hdistinct
  · intro c hc hv
    obtain ⟨b, hb, hkey⟩ := hback c hc
    obtain ⟨hbv, hbid, -⟩ := hid hkey
    rw [hnext, ← hbid]
    exact h.ids b hb (hbv.trans hv)
  · intro id hmem
    obtain ⟨b, hb, hv, rfl⟩ := h.log id (hlog ▸ hmem)
    obtain ⟨c, hc, hkey⟩ := hforth b hb
    obtain ⟨hcv, hcid, -⟩ := hid hkey
    exact ⟨c, hc, hcv.trans hv, hcid⟩
  · rw [hhistory, hlog, h.history]
  · intro c hc hv
    obtain ⟨b, hb, hkey⟩ := hback c hc
    obtain ⟨hbv, hbid, hbpos⟩ := hid hkey
    rw [hlog, ← hbid, ← hbpos]
    exact h.position b hb (hbv.trans hv)

theorem DesktopKept.found (h : DesktopKept s) {x : Int} (hx : x ∈ recent s.focusLog) :
    0 < x ∧ desktopClientIndexById s.clients x ≠ none := by
  obtain ⟨c, hc, hv, rfl⟩ := h.log x (mem_recent.mp hx)
  have hpos := (h.ids c hc hv).1
  exact ⟨hpos, fun hnone => desktopClientIndexById_none hnone hpos c hc hv rfl⟩

theorem DesktopKept.length_le (h : DesktopKept s) {l : List Int} (hl : l.Nodup)
    (hfound : ∀ x ∈ l, ∃ c ∈ s.clients, c.visible = true ∧ c.id = x) : l.length ≤ desktopMaxClients := by
  have hsub : l ⊆ s.clients.map (·.id) := by
    intro x hx
    obtain ⟨c, hc, -, rfl⟩ := hfound x hx
    exact List.mem_map_of_mem hc
  calc l.length ≤ (s.clients.map (·.id)).length := (List.subperm_of_subset hl hsub).length_le
    _ = desktopMaxClients := by rw [List.length_map, h.size]

theorem DesktopKept.map_filed (h : DesktopKept s) :
    s.clients.map (DesktopClient.filed (recent s.focusLog)) = s.clients := by
  have hsame : ∀ c ∈ s.clients, c.filed (recent s.focusLog) = c := by
    intro c hc
    unfold DesktopClient.filed
    split
    next hv => rw [← h.position c hc hv]
    · rfl
  exact (List.map_congr_left hsame).trans (List.map_id' s.clients)

theorem DesktopKept.refresh (h : DesktopKept s) {l : List Int} (hl : l.Nodup) :
    desktopRefreshFocusHistoryIds { s with focusHistory := desktopHistory l } =
      { s with focusHistory := desktopHistory l, clients := s.clients.map (DesktopClient.filed l) } :=
  @desktopRefreshFocusHistoryIds_eq l { s with focusHistory := desktopHistory l } h.distinct
    (fun c hc hv => (h.ids c hc hv).1) hl rfl

theorem desktopFocusHistoryCompact_eq (h : DesktopKept s) : desktopFocusHistoryCompact s = s := by
  have hkeep : s.focusHistory.foldl (desktopHistoryKeep s.clients) [] = recent s.focusLog := by
    rw [h.history, desktopHistory, List.foldl_append, desktopHistoryKeep_zeros,
      desktopHistoryKeep_foldl (by simpa using nodup_recent s.focusLog) fun x hx => h.found hx]
    rfl
  rw [desktopFocusHistoryCompact, hkeep, h.refresh (nodup_recent _), h.map_filed, ← h.history]

theorem desktopFocusHistoryTouch_eq (h : DesktopKept s)
    (hidx : desktopClientIndexById s.clients id = some idx) :
    desktopFocusHistoryTouch s id =
      { s with
        focusHistory := desktopHistory (toFront id (recent s.focusLog))
        clients := s.clients.map (DesktopClient.filed (toFront id (recent s.focusLog))) } := by
  obtain ⟨-, c, hc, hv, hid⟩ := desktopClientIndexById_some hidx
  have hnodup : (toFront id (recent s.focusLog)).Nodup := nodup_toFront (nodup_recent _)
  have hlen : (toFront id (recent s.focusLog)).length ≤ desktopMaxClients := by
    refine h.length_le hnodup fun x hx => ?_
    obtain rfl | hx := mem_toFront.mp hx
    · exact ⟨c, List.mem_of_getElem? hc, hv, hid⟩
    · exact h.log x (mem_recent.mp hx)
  have htouch : s.focusHistory.foldl (desktopHistoryTouch s.clients id) [id] =
      toFront id (recent s.focusLog) := by
    rw [h.history, desktopHistory, List.foldl_append, desktopHistoryTouch_zeros]
    exact desktopHistoryTouch_foldl hnodup (fun x hx => h.found hx) hlen
  rw [desktopFocusHistoryTouch, hidx]
  dsimp only
  rw [desktopFocusHistoryCompact_eq h, htouch, h.refresh hnodup]

end Kept

/-! ## Setting the focus -/

/-- A client without what focusing changes. -/
def DesktopClient.core (c : DesktopClient) : DesktopClient :=
  { c with urgent := false, focusHistoryId := 0, focusGeneration := 0 }

/-- Nothing but the focus has changed. -/
structure DesktopSame (s s' : Desktop) : Prop where
  core : s'.clients.map DesktopClient.core = s.clients.map DesktopClient.core
  active : s'.activeWorkspace = s.activeWorkspace
  specialVisible : s'.specialVisible = s.specialVisible
  specialName : s'.specialName = s.specialName
  next : s'.nextClientId = s.nextClientId

theorem DesktopSame.refl (s : Desktop) : DesktopSame s s := ⟨rfl, rfl, rfl, rfl, rfl⟩

section Setting

variable {s s' : Desktop} {c : DesktopClient} {id : Int} {idx : Nat}

theorem desktopWorkspaceRecordFocusIndex_eq (s : Desktop) (idx : Nat) :
    ∃ workspaces last, desktopWorkspaceRecordFocusIndex s idx =
      { s with workspaces, specialLastFocusedClientId := last } := by
  unfold desktopWorkspaceRecordFocusIndex
  split
  · exact ⟨s.workspaces, s.specialLastFocusedClientId, rfl⟩
  next c _ =>
    split
    · exact ⟨s.workspaces, s.specialLastFocusedClientId, rfl⟩
    · split
      · exact ⟨s.workspaces, _, rfl⟩
      · dsimp only
        generalize (if c.pinned = true then s.activeWorkspace else c.workspace) = workspace
        split
        · exact ⟨s.workspaces, s.specialLastFocusedClientId, rfl⟩
        · exact ⟨_, s.specialLastFocusedClientId, rfl⟩

theorem desktopFocusedClient_core (s : Desktop) (c : DesktopClient) :
    (desktopFocusedClient s c).1.core = c.core ∧ (desktopFocusedClient s c).1.key = c.key := by
  unfold desktopFocusedClient
  dsimp only
  split <;> exact ⟨rfl, rfl⟩

theorem getElem?_put (clients : List DesktopClient) (idx j : Nat) (c : DesktopClient) :
    (clients.modify idx fun _ => c)[j]? = if idx = j then (clients[j]?).map fun _ => c else clients[j]? := by
  rw [List.getElem?_modify]
  cases clients[j]? <;> split <;> rfl

theorem map_modify_eq {β : Type*} {f : DesktopClient → β} {clients : List DesktopClient} {b : DesktopClient}
    (hc : clients[idx]? = some c) (hf : f b = f c) :
    (clients.modify idx fun _ => b).map f = clients.map f := by
  refine List.ext_getElem? fun j => ?_
  rw [List.getElem?_map, List.getElem?_map, List.getElem?_modify]
  by_cases hij : idx = j
  · subst hij
    simp [hc, hf]
  · simp [hij]

/-- The id that is focused when `desktop_set_focused_client_index` is given an index. -/
def Desktop.focusId (s : Desktop) (idx : Option Nat) : Int :=
  ((idx.bind fun idx => (s.clients[idx]?).filter (·.visible)).map DesktopClient.id).getD 0

theorem DesktopClient.filed_visible (l : List Int) (c : DesktopClient) :
    (c.filed l).visible = c.visible ∧ (c.filed l).id = c.id := by
  unfold DesktopClient.filed
  split <;> exact ⟨rfl, rfl⟩

theorem DesktopClient.filed_core (l : List Int) (c : DesktopClient) : (c.filed l).core = c.core := by
  unfold DesktopClient.filed
  split <;> rfl

theorem DesktopClient.filed_position (l : List Int) (c : DesktopClient) (h : c.visible = true) :
    (c.filed l).focusHistoryId = historyPosition l c.id := by
  rw [DesktopClient.filed, if_pos h]

theorem DesktopKept.focus (h : DesktopKept s) (hc : c ∈ s.clients) (hv : c.visible = true) :
    DesktopKept
      { s with
        focusHistory := desktopHistory (toFront c.id (recent s.focusLog))
        clients := s.clients.map (DesktopClient.filed (toFront c.id (recent s.focusLog)))
        focusLog := c.id :: s.focusLog } := by
  refine ⟨?_, h.distinct.map (DesktopClient.filed_visible _), ?_, ?_, rfl, ?_, h.next⟩
  · rw [List.length_map, h.size]
  · intro c' hc' hv'
    obtain ⟨b, hb, rfl⟩ := List.mem_map.mp hc'
    obtain ⟨hbv, hbid⟩ := b.filed_visible (toFront c.id (recent s.focusLog))
    rw [hbid]
    exact h.ids b hb (hbv ▸ hv')
  · intro x hx
    have hmap : ∀ b ∈ s.clients, b.visible = true → ∃ c' ∈ s.clients.map
        (DesktopClient.filed (toFront c.id (recent s.focusLog))), c'.visible = true ∧ c'.id = b.id := by
      intro b hb hbv
      obtain ⟨hfv, hfid⟩ := b.filed_visible (toFront c.id (recent s.focusLog))
      exact ⟨_, List.mem_map_of_mem hb, hfv.trans hbv, hfid⟩
    obtain rfl | hx := List.mem_cons.mp hx
    · exact hmap c hc hv
    · obtain ⟨b, hb, hbv, rfl⟩ := h.log x hx
      exact hmap b hb hbv
  · intro c' hc' hv'
    obtain ⟨b, hb, rfl⟩ := List.mem_map.mp hc'
    obtain ⟨hbv, hbid⟩ := b.filed_visible (toFront c.id (recent s.focusLog))
    rw [b.filed_position _ (hbv ▸ hv'), hbid]
    rfl

/-- A desktop whose focus was set. -/
structure DesktopFocused (s s' : Desktop) (id : Int) : Prop where
  good : DesktopGood s'
  same : DesktopSame s s'
  focused : s'.focusedClientId = id

theorem desktopSetFocusedClientIndex_spec (h : DesktopGood s) (idx : Option Nat) :
    DesktopFocused s (desktopSetFocusedClientIndex s idx) (s.focusId idx) := by
  unfold desktopSetFocusedClientIndex Desktop.focusId
  cases hidx : idx.bind fun idx => (s.clients[idx]?).filter (·.visible) with
  | none =>
      have hnone : (idx.bind fun idx => ((s.clients[idx]?).filter (·.visible)).map fun c => (idx, c)) =
          none := by
        cases idx with
        | none => rfl
        | some idx => exact Option.map_eq_none_iff.mpr hidx
      have hkept : DesktopKept { s with focusedClientId := 0 } :=
        h.toDesktopKept.congr (List.Perm.refl _) rfl rfl rfl
      rw [hnone]
      dsimp only
      rw [desktopFocusHistoryCompact_eq hkept]
      exact ⟨⟨hkept, fun h0 => absurd rfl h0, h.active⟩, ⟨rfl, rfl, rfl, rfl, rfl⟩, rfl⟩
  | some c =>
      obtain ⟨i, rfl, hc⟩ := Option.bind_eq_some_iff.mp hidx
      have hsome : ((some i).bind fun idx => ((s.clients[idx]?).filter (·.visible)).map fun c => (idx, c)) =
          some (i, c) := by
        rw [Option.bind_some, hc]
        rfl
      obtain ⟨hat, hv⟩ := Option.filter_eq_some_iff.mp hc
      obtain ⟨hcore, hkey⟩ := desktopFocusedClient_core s c
      rw [hsome]
      dsimp only
      generalize desktopFocusedClient s c = r at hcore hkey
      obtain ⟨b, serial⟩ := r
      dsimp only at hcore hkey ⊢
      generalize ht : ({ s.modify i fun _ => b with
        focusedClientId := c.id, focusSerial := serial } : Desktop) = t
      have hkeys : t.clients.map DesktopClient.key = s.clients.map DesktopClient.key := by
        rw [← ht]
        exact map_modify_eq hat hkey
      have hcores : t.clients.map DesktopClient.core = s.clients.map DesktopClient.core := by
        rw [← ht]
        exact map_modify_eq hat hcore
      have hkept : DesktopKept t :=
        h.toDesktopKept.congr (List.Perm.of_eq hkeys) (by rw [← ht]; rfl) (by rw [← ht]; rfl)
          (by rw [← ht]; rfl)
      obtain ⟨hbv, hrest⟩ := Prod.mk.inj hkey
      obtain ⟨hbid, -⟩ := Prod.mk.inj hrest
      have hb : t.clients[i]? = some b := by
        rw [← ht]
        simp [Desktop.modify, hat]
      have hbmem := List.mem_of_getElem? hb
      have hfind : desktopClientIndexById t.clients c.id = some i := by
        rw [← hbid]
        exact desktopClientIndexById_eq hkept.distinct hb (hbv.trans hv)
          (hkept.ids b hbmem (hbv.trans hv)).1
      obtain ⟨workspaces, last, hrecord⟩ := desktopWorkspaceRecordFocusIndex_eq
        (desktopFocusHistoryTouch t c.id) i
      have hfocus := hkept.focus hbmem (hbv.trans hv)
      rw [hbid] at hfocus
      rw [hrecord, desktopFocusHistoryTouch_eq hkept hfind]
      have hfiled :
          (t.clients.map (DesktopClient.filed (toFront c.id (recent t.focusLog)))).map DesktopClient.core =
            s.clients.map DesktopClient.core := by
        rw [List.map_map, ← hcores]
        exact List.map_congr_left fun b _ => b.filed_core _
      subst ht
      exact ⟨⟨hfocus.congr (List.Perm.refl _) rfl rfl rfl, fun _ => rfl, h.active⟩,
        ⟨hfiled, rfl, rfl, rfl, rfl⟩, rfl⟩

end Setting

/-! ## Where the focus is -/

section Focused

variable {s s' : Desktop} {c : DesktopClient} {idx : Nat}

theorem DesktopSame.onWorkspace (h : DesktopSame s s') (c : DesktopClient) (workspace : Int) :
    desktopClientOnWorkspace s' c workspace = desktopClientOnWorkspace s c.core workspace := by
  unfold desktopClientOnWorkspace desktopClientSpecialVisible
  rw [h.active, h.specialVisible, h.specialName]
  rfl

theorem indexWhere_some {p : DesktopClient → Bool} {id : Int} (h : s.indexWhere p id = some idx) :
    desktopClientIndexById s.clients id = some idx ∧ (s.clients[idx]?).any p = true :=
  Option.filter_eq_some_iff.mp h

theorem desktopLastFocusedIndexOnWorkspaceScope_spec (h : DesktopKept s) {workspace : Int}
    (hworkspace : 1 ≤ workspace ∧ workspace ≤ desktopMaxWorkspaces) (localOnly : Bool) :
    ∃ r, desktopLastFocusedIndexOnWorkspaceScope s workspace localOnly = (s, r) ∧
      (∀ idx, r = some idx → (s.clients[idx]?).any (desktopClientInScope s workspace localOnly) = true) ∧
      (r = none → ∀ c ∈ s.clients, desktopClientInScope s workspace localOnly c = false) := by
  unfold desktopLastFocusedIndexOnWorkspaceScope
  rw [if_neg (by omega)]
  dsimp only
  rw [desktopFocusHistoryCompact_eq h]
  split
  next idx hremembered =>
    exact ⟨some idx, rfl, fun i hi => Option.some.inj hi ▸ (indexWhere_some hremembered).2,
      fun hn => by cases hn⟩
  · split
    next idx hhistory =>
      obtain ⟨id, -, hid⟩ := List.exists_of_findSome?_eq_some hhistory
      exact ⟨some idx, rfl, fun i hi => Option.some.inj hi ▸ (indexWhere_some hid).2, fun hn => by cases hn⟩
    · refine ⟨_, rfl, fun idx hidx => ?_, fun hnone c hc => ?_⟩
      · obtain ⟨hlt, hscope, -⟩ := List.findIdx?_eq_some_iff_getElem.mp hidx
        rw [List.getElem?_eq_getElem hlt]
        exact hscope
      · exact List.findIdx?_eq_none_iff.mp hnone c hc

theorem onWorkspace_of_local {workspace : Int} (h : desktopClientLocalToWorkspace c workspace = true) :
    desktopClientOnWorkspace s c workspace = true := by
  unfold desktopClientLocalToWorkspace at h
  unfold desktopClientOnWorkspace
  simp_all

theorem visible_of_onWorkspace {workspace : Int} (h : desktopClientOnWorkspace s c workspace = true) :
    c.visible = true := by
  by_contra hv
  rw [desktopClientOnWorkspace, if_pos hv] at h
  cases h

theorem DesktopSame.getElem? (h : DesktopSame s s') (hc : s.clients[idx]? = some c) :
    ∃ c', s'.clients[idx]? = some c' ∧ c'.core = c.core := by
  have hcore : (s'.clients.map DesktopClient.core)[idx]? = some c.core := by
    rw [h.core, List.getElem?_map, hc]
    rfl
  rw [List.getElem?_map] at hcore
  exact Option.map_eq_some_iff.mp hcore

theorem DesktopSame.any_onWorkspace (h : DesktopSame s s') (workspace : Int)
    (hon : (s.clients[idx]?).any (fun c => desktopClientOnWorkspace s c workspace) = true) :
    (s'.clients[idx]?).any (fun c => desktopClientOnWorkspace s' c workspace) = true := by
  obtain ⟨c, hc, hon⟩ := (Option.any_eq_true ..).mp hon
  obtain ⟨c', hc', hcore⟩ := h.getElem? hc
  rw [hc', Option.any_some, h.onWorkspace, hcore]
  exact hon

theorem DesktopSame.not_onWorkspace (h : DesktopSame s s') (workspace : Int)
    (hon : ∀ c ∈ s.clients, desktopClientOnWorkspace s c workspace = false) :
    ∀ c ∈ s'.clients, desktopClientOnWorkspace s' c workspace = false := by
  intro c hc
  have hcore := List.mem_map_of_mem (f := DesktopClient.core) hc
  rw [h.core] at hcore
  obtain ⟨b, hb, heq⟩ := List.mem_map.mp hcore
  rw [h.onWorkspace, ← heq]
  exact hon b hb

theorem DesktopFocused.found {workspace : Int} (h : DesktopFocused s s' (s.focusId (some idx)))
    (hon : (s.clients[idx]?).any (fun c => desktopClientOnWorkspace s c workspace) = true) :
    desktopClientIndexById s'.clients s'.focusedClientId = some idx := by
  obtain ⟨c, hc, hon⟩ := (Option.any_eq_true ..).mp hon
  have hv := visible_of_onWorkspace hon
  have hid : s.focusId (some idx) = c.id := by simp [Desktop.focusId, Option.filter, hc, hv]
  obtain ⟨c', hc', hcore⟩ := h.same.getElem? hc
  have hv' : c'.core.visible = true := hcore ▸ hv
  have hcoreId : c'.core.id = c.core.id := hcore ▸ rfl
  have hid' : c'.id = c.id := hcoreId
  have hpos := (h.good.ids c' (List.mem_of_getElem? hc') hv').1
  rw [h.focused, hid, ← hid']
  exact desktopClientIndexById_eq h.good.distinct hc' hv' hpos

theorem desktopRestoreFocusForWorkspace_spec (h : DesktopGood s) {workspace : Int}
    (hworkspace : 1 ≤ workspace ∧ workspace ≤ desktopMaxWorkspaces) :
    ∃ s' r, desktopRestoreFocusForWorkspace s workspace = (s', r) ∧ DesktopGood s' ∧ DesktopSame s s' ∧
      (r = true → ∃ idx, desktopClientIndexById s'.clients s'.focusedClientId = some idx ∧
        (s'.clients[idx]?).any (fun c => desktopClientOnWorkspace s' c workspace) = true) ∧
      (r = false → ∀ c ∈ s'.clients, desktopClientOnWorkspace s' c workspace = false) := by
  have hfocus : ∀ idx, (s.clients[idx]?).any (fun c => desktopClientOnWorkspace s c workspace) = true →
      ∃ i, desktopClientIndexById (desktopSetFocusedClientIndex s (some idx)).clients
          (desktopSetFocusedClientIndex s (some idx)).focusedClientId = some i ∧
        ((desktopSetFocusedClientIndex s (some idx)).clients[i]?).any (fun c =>
          desktopClientOnWorkspace (desktopSetFocusedClientIndex s (some idx)) c workspace) = true := by
    intro idx hon
    have hset := desktopSetFocusedClientIndex_spec h (some idx)
    exact ⟨idx, hset.found hon, hset.same.any_onWorkspace workspace hon⟩
  obtain ⟨r, hlocal, hsome, -⟩ := desktopLastFocusedIndexOnWorkspaceScope_spec h.toDesktopKept hworkspace true
  unfold desktopRestoreFocusForWorkspace
  rw [hlocal]
  cases r with
  | some idx =>
      have hset := desktopSetFocusedClientIndex_spec h (some idx)
      have hon : (s.clients[idx]?).any (fun c => desktopClientOnWorkspace s c workspace) = true := by
        obtain ⟨c, hc, hscope⟩ := (Option.any_eq_true ..).mp (hsome idx rfl)
        rw [hc]
        exact onWorkspace_of_local hscope
      exact ⟨_, true, rfl, hset.good, hset.same, fun _ => hfocus idx hon, fun hf => by cases hf⟩
  | none =>
      obtain ⟨r, hall, hsome, hnone⟩ :=
        desktopLastFocusedIndexOnWorkspaceScope_spec h.toDesktopKept hworkspace false
      have hset := desktopSetFocusedClientIndex_spec h r
      dsimp only
      rw [hall]
      refine ⟨_, _, rfl, hset.good, hset.same, fun hr => ?_, fun hr => ?_⟩
      · obtain ⟨idx, rfl⟩ := Option.isSome_iff_exists.mp hr
        exact hfocus idx (hsome idx rfl)
      · have hr : r = none := Option.isNone_iff_eq_none.mp (Option.isSome_eq_false_iff.mp hr)
        exact hset.same.not_onWorkspace workspace (hnone hr)

/-- `desktop_focused_client_index` gives a client on the active workspace if there is one. -/
theorem desktopFocusedClientIndex_spec (h : DesktopGood s) :
    ∃ s' r, desktopFocusedClientIndex s = (s', r) ∧ DesktopGood s' ∧ DesktopSame s s' ∧
      (∀ idx, r = some idx →
        (s'.clients[idx]?).any (fun c => desktopClientOnWorkspace s' c s'.activeWorkspace) = true) ∧
      (r = none → ∀ c ∈ s'.clients, desktopClientOnWorkspace s' c s'.activeWorkspace = false) := by
  unfold desktopFocusedClientIndex
  split
  next idx hidx =>
    exact ⟨s, some idx, rfl, h, DesktopSame.refl s, fun i hi => Option.some.inj hi ▸ (indexWhere_some hidx).2,
      fun hn => by cases hn⟩
  · obtain ⟨s', r, hrestore, hgood, hsame, htrue, hfalse⟩ := desktopRestoreFocusForWorkspace_spec h h.active
    rw [hrestore]
    cases r with
    | true =>
        obtain ⟨idx, hidx, hon⟩ := htrue rfl
        refine ⟨s', _, rfl, hgood, hsame, fun i hi => ?_, fun hn => ?_⟩
        · rw [hidx] at hi
          rw [← Option.some.inj hi, hsame.active]
          exact hon
        · rw [hidx] at hn
          cases hn
    | false =>
        refine ⟨s', none, rfl, hgood, hsame, fun i hi => (nomatch hi), fun _ => ?_⟩
        rw [hsame.active]
        exact hfalse rfl

end Focused

/-! ## Steps -/

/-- The desktop is in step, and no id was given. -/
structure DesktopReaches (s s' : Desktop) : Prop where
  good : DesktopGood s'
  next : s'.nextClientId = s.nextClientId

section Steps

variable {s s' t : Desktop}

theorem DesktopReaches.refl (h : DesktopGood s) : DesktopReaches s s := ⟨h, rfl⟩

theorem DesktopReaches.trans (h : DesktopReaches s s') (h' : DesktopReaches s' t) : DesktopReaches s t :=
  ⟨h'.good, h'.next.trans h.next⟩

theorem DesktopGood.reaches_set (h : DesktopGood s) (idx : Option Nat) :
    DesktopReaches s (desktopSetFocusedClientIndex s idx) := by
  have hset := desktopSetFocusedClientIndex_spec h idx
  exact ⟨hset.good, hset.same.next⟩

theorem DesktopGood.reaches_focused (h : DesktopGood s) :
    DesktopReaches s (desktopFocusedClientIndex s).1 := by
  obtain ⟨s', r, hfocused, hgood, hsame, -⟩ := desktopFocusedClientIndex_spec h
  rw [hfocused]
  exact ⟨hgood, hsame.next⟩

theorem DesktopGood.reaches_modify (h : DesktopGood s) (idx : Nat) {f : DesktopClient → DesktopClient}
    (hf : ∀ c, (f c).key = c.key) : DesktopReaches s (s.modify idx f) := by
  have hkeys : (s.modify idx f).clients.map DesktopClient.key = s.clients.map DesktopClient.key := by
    refine List.ext_getElem? fun j => ?_
    rw [List.getElem?_map, List.getElem?_map, Desktop.modify, List.getElem?_modify]
    cases s.clients[j]? with
    | none => rfl
    | some c => by_cases hij : idx = j <;> simp [hij, hf]
  exact ⟨⟨h.toDesktopKept.congr (List.Perm.of_eq hkeys) rfl rfl rfl, h.head, h.active⟩, rfl⟩

theorem desktopUpdateSpecialHiddenStates_key (s : Desktop) :
    (desktopUpdateSpecialHiddenStates s).clients.map DesktopClient.key = s.clients.map DesktopClient.key := by
  unfold desktopUpdateSpecialHiddenStates
  rw [List.map_map]
  refine List.map_congr_left fun c _ => ?_
  dsimp only [Function.comp]
  split <;> rfl

end Steps

end Orizon
