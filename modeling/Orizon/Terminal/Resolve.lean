import Orizon.Terminal.Pipeline
import Orizon.Lib.Lexical
import Mathlib.Data.List.DropRight

/-!
# Orizon.Terminal.Resolve

`resolve_path` computes lexical normal forms: what the components of a path lead to from the
root (`walk`), written with a slash before each name.

Every path in between is no longer than the one that is read, so a path that fits its buffer
is always resolved.
-/

namespace Orizon

/-! ## Normal forms -/

/-- What a component does. -/
def pathMove (component : CStr) : Move CStr :=
  if component = [] ∨ component = cstr "." then .stay
  else if component = cstr ".." then .up
  else .down component

/-- The components of a path. -/
def pathMoves (path : CStr) : List (Move CStr) := (path.splitOn slash).map pathMove

/-- The path of a place. -/
def renderPath (place : List CStr) : CStr := if place = [] then [slash] else place.flatMap (slash :: ·)

/-- The normal form of a path from the root. -/
def normalPath (path : CStr) : CStr := renderPath (walk [] (pathMoves path))

/-! ## Lengths -/

section Normal

variable {place components : List CStr} {component path rest : CStr} {size : Nat}

/-- The bytes of names, each with its slash. -/
def namesLength (names : List CStr) : Nat := (names.map fun name => name.length + 1).sum

@[simp] theorem namesLength_nil : namesLength [] = 0 := rfl

@[simp] theorem namesLength_cons : namesLength (component :: components) =
    component.length + 1 + namesLength components := by
  simp [namesLength]

theorem namesLength_append : namesLength (place ++ components) = namesLength place + namesLength components := by
  simp [namesLength]

theorem length_renderPath (h : place ≠ []) : (renderPath place).length = namesLength place := by
  rw [renderPath, if_neg h, List.length_flatMap, namesLength]
  simp

theorem namesLength_splitOn (path : CStr) : namesLength (path.splitOn slash) = path.length + 1 := by
  induction path with
  | nil => rfl
  | cons c path ih =>
      rw [List.splitOn_cons_eq_if_modifyHead]
      split
      · rw [namesLength_cons, ih, List.length_nil, List.length_cons]
        omega
      · cases hsplit : path.splitOn slash with
        | nil => exact absurd hsplit (List.splitOn_ne_nil slash path)
        | cons first rest =>
            rw [hsplit, namesLength_cons] at ih
            rw [List.modifyHead_cons, namesLength_cons, List.length_cons, List.length_cons]
            omega

/-! ## One component -/

/-- A name in a path. -/
def IsName (component : CStr) : Prop := component ≠ [] ∧ slash ∉ component

theorem renderPath_append (h : place ≠ []) : renderPath (place ++ [component]) = renderPath place ++
    slash :: component := by
  simp [renderPath, h]

theorem pathPopLoop_eq {pre name : CStr} (hname : slash ∉ name) {k : Nat} (hk : k ≤ name.length) :
    pathPopLoop (pre ++ slash :: name) (pre.length + 1 + k) = pre.length + 1 := by
  induction k with
  | zero =>
      rw [Nat.add_zero, pathPopLoop, if_neg]
      simp
  | succ k ih =>
      have hchar : (pre ++ slash :: name)[pre.length + 1 + k]? = name[k]? := by
        rw [List.getElem?_append_right (by omega)]
        simp [Nat.add_assoc, Nat.add_comm 1 k]
      have hne : name[k]? ≠ some slash := fun h => hname (List.mem_of_getElem? h)
      rw [← Nat.add_assoc, pathPopLoop, if_pos ⟨by omega, by rw [hchar]; exact hne⟩]
      exact ih (by omega)

theorem pathPopComponent_renderPath (hplace : ∀ name ∈ place, IsName name) :
    pathPopComponent (renderPath place) = renderPath place.dropLast := by
  induction place using List.reverseRecOn with
  | nil => rfl
  | append_singleton place name =>
      have hname := hplace name (by simp)
      have hloop : ∀ pre : CStr, pathPopLoop (pre ++ slash :: name) (pre ++ slash :: name).length = pre.length + 1 := by
        intro pre
        have heq : pathPopLoop (pre ++ slash :: name) (pre.length + 1 + name.length) = pre.length + 1 :=
          pathPopLoop_eq hname.2 le_rfl
        rwa [Nat.add_assoc, Nat.add_comm 1, ← List.length_cons (a := slash), ← List.length_append] at heq
      rw [List.dropLast_concat]
      by_cases h : place = []
      · have hone : renderPath ([] ++ [name]) = [] ++ slash :: name := by simp [renderPath]
        rw [h, hone, pathPopComponent, hloop, if_pos (.inr (by simp))]
        rfl
      · have hlen := length_renderPath h
        have hpos : 0 < namesLength place := by
          obtain ⟨first, rest, rfl⟩ := List.exists_cons_of_ne_nil h
          rw [namesLength_cons]
          omega
        rw [renderPath_append h, pathPopComponent, hloop, if_neg, Nat.add_sub_cancel, List.take_left]
        rw [not_or, List.length_append, List.length_cons]
        omega

theorem isName_apply (hplace : ∀ name ∈ place, IsName name) (hcomponent : slash ∉ component) :
    ∀ name ∈ (pathMove component).apply place, IsName name := by
  unfold pathMove
  split_ifs with hstay hup
  · exact hplace
  · exact fun name h => hplace name (List.dropLast_subset _ h)
  · intro name h
    obtain h | h := List.mem_append.mp h
    · exact hplace name h
    · rw [List.mem_singleton.mp h]
      exact ⟨fun hnil => hstay (.inl hnil), hcomponent⟩

theorem pathAppendComponent_name (hplace : ∀ name ∈ place, IsName name) (hname : pathMove component = .down component)
    (hroom : namesLength place + component.length + 1 < size) :
    pathAppendComponent (renderPath place) size component = some (renderPath (place ++ [component])) := by
  unfold pathMove at hname
  split_ifs at hname with hstay hup
  rw [pathAppendComponent, if_neg hstay, if_neg hup]
  by_cases h : place = []
  · subst h
    have hlen : (renderPath []).length = 1 := rfl
    rw [namesLength_nil] at hroom
    have hroot : (if (renderPath []).length > 1 then renderPath [] ++ [slash] else renderPath []) = renderPath [] :=
      if_neg (by omega)
    rw [if_neg (by omega), hroot]
    dsimp only
    rw [if_neg (by omega)]
    simp [renderPath]
  · have hlen := length_renderPath h
    have hlong : namesLength place > 1 := by
      obtain ⟨first, rest, rfl⟩ := List.exists_cons_of_ne_nil h
      have hfirst := List.length_pos_iff.mpr (hplace first (by simp)).1
      rw [namesLength_cons]
      omega
    have hmore : (renderPath place ++ [slash]).length = namesLength place + 1 := by rw [List.length_append, hlen]; rfl
    have hbelow : (if (renderPath place).length > 1 then renderPath place ++ [slash] else renderPath place) =
        renderPath place ++ [slash] := if_pos (by omega)
    rw [if_neg (by omega), hbelow]
    dsimp only
    rw [if_neg (by omega), renderPath_append h]
    simp

theorem pathAppendComponent_renderPath (hplace : ∀ name ∈ place, IsName name)
    (hroom : namesLength place + component.length + 1 < size) :
    pathAppendComponent (renderPath place) size component = some (renderPath ((pathMove component).apply place)) := by
  have hmove := pathMove.eq_1 component
  split_ifs at hmove with hstay hup
  · rw [pathAppendComponent, if_pos hstay, hmove]
    rfl
  · rw [pathAppendComponent, if_neg hstay, if_pos hup, pathPopComponent_renderPath hplace, hmove]
    rfl
  · rw [pathAppendComponent_name hplace hmove hroom, hmove]
    rfl

theorem namesLength_apply_le : namesLength ((pathMove component).apply place) ≤
    namesLength place + component.length + 1 := by
  unfold pathMove
  split_ifs
  · exact (Nat.le_add_right _ _).trans (Nat.le_succ _)
  · have hle : namesLength place.dropLast ≤ namesLength place := by
      induction place using List.reverseRecOn with
      | nil => exact le_rfl
      | append_singleton place name =>
          rw [List.dropLast_concat, namesLength_append]
          exact Nat.le_add_right _ _
    exact hle.trans ((Nat.le_add_right _ _).trans (Nat.le_succ _))
  · rw [Move.apply, namesLength_append, namesLength_cons, namesLength_nil]
    omega

/-! ## Resolving -/

theorem resolveComponents_renderPath (hplace : ∀ name ∈ place, IsName name) (hcomponents : ∀ c ∈ components, slash ∉ c)
    (hroom : namesLength place + namesLength components < size) :
    resolveComponents size (renderPath place) components =
      some (renderPath (walk place (components.map pathMove))) := by
  induction components generalizing place with
  | nil => rfl
  | cons component components ih =>
      have hnext := @namesLength_apply_le place component
      rw [namesLength_cons] at hroom
      rw [resolveComponents, pathAppendComponent_renderPath hplace (by omega), List.map_cons, walk_cons]
      exact ih (isName_apply hplace (hcomponents _ (by simp))) (fun c hc => hcomponents c (by simp [hc])) (by omega)

theorem slash_not_mem_splitOn (path : CStr) : ∀ c ∈ path.splitOn slash, slash ∉ c := by
  induction path with
  | nil => simp
  | cons x path ih =>
      rw [List.splitOn_cons_eq_if_modifyHead]
      obtain ⟨first, rest, hsplit⟩ := List.exists_cons_of_ne_nil (List.splitOn_ne_nil slash path)
      rw [hsplit] at ih ⊢
      rw [List.forall_mem_cons] at ih
      split_ifs with hx
      · rw [List.forall_mem_cons, List.forall_mem_cons]
        exact ⟨List.not_mem_nil, ih⟩
      · rw [List.modifyHead_cons, List.forall_mem_cons]
        refine ⟨?_, ih.2⟩
        rw [List.mem_cons, not_or]
        exact ⟨fun heq => hx (by simp [heq]), ih.1⟩

theorem resolveComponents_absolute (h : path.head? = some slash) (hlen : path.length < size) :
    resolveComponents size [slash] (path.splitOn slash) = some (normalPath path) := by
  cases path with
  | nil => simp at h
  | cons c path =>
      obtain rfl : c = slash := by simpa using h
      have hsplit : (slash :: path).splitOn slash = [] :: path.splitOn slash := List.splitOn_append_cons_self [] path
      have hroom := namesLength_splitOn path
      have hstart : [slash] = renderPath [] := rfl
      rw [List.length_cons] at hlen
      rw [normalPath, pathMoves, hsplit, List.map_cons, walk_cons, hstart, resolveComponents,
        pathAppendComponent_renderPath (by simp) (by simp only [namesLength_nil, List.length_nil]; omega)]
      refine resolveComponents_renderPath ?_ (slash_not_mem_splitOn path) ?_
      · exact isName_apply (by simp) (by simp)
      · have hempty : (pathMove []).apply ([] : List CStr) = [] := rfl
        rw [hempty, namesLength_nil]
        omega

end Normal

/-! ## Arguments -/

/-- The argument without the spaces around it. -/
def trimmedArg (arg : CStr) : CStr := ((termSkipSpaces arg).reverse.dropWhile isSpace).reverse

/-- The argument behind the current directory. -/
def joinedPath (cwd arg : CStr) : CStr :=
  if arg.head? = some slash then arg else if cwd = [slash] then slash :: arg else cwd ++ slash :: arg

/-- The normal form of an argument relative to a directory: the walk starts where the
directory is, or at the root for an absolute path. -/
def lexicalPath (cwd arg : CStr) : CStr :=
  renderPath (walk (if arg.head? = some slash then [] else walk [] (pathMoves cwd)) (pathMoves arg))

section Argument

variable {cwd arg path : CStr}

theorem head?_renderPath (place : List CStr) : (renderPath place).head? = some slash := by
  cases place with
  | nil => rfl
  | cons name place => simp [renderPath]

theorem pathMoves_join (path arg : CStr) : pathMoves (path ++ slash :: arg) = pathMoves path ++ pathMoves arg := by
  rw [pathMoves, List.splitOn_append_cons_self, List.map_append]
  rfl

theorem head?_joinedPath (h : cwd.head? = some slash) (arg : CStr) : (joinedPath cwd arg).head? = some slash := by
  unfold joinedPath
  split_ifs with harg hroot
  · exact harg
  · rfl
  · rw [List.head?_append, h]
    rfl

/-- The normal form of a join is the normal form relative to the directory. -/
theorem normalPath_joinedPath (cwd arg : CStr) : normalPath (joinedPath cwd arg) = lexicalPath cwd arg := by
  have hroot : ∀ arg, pathMoves (slash :: arg) = .stay :: pathMoves arg := fun arg => pathMoves_join [] arg
  unfold joinedPath lexicalPath normalPath
  split_ifs with harg hcwd
  · rfl
  · rw [hroot, walk_cons, hcwd]
    rfl
  · rw [pathMoves_join, walk_append]

theorem resolveComponents_take (h : path.head? = some slash) :
    resolveComponents maxPath [slash] ((path.take (maxPath - 1)).splitOn slash) =
      some (normalPath (path.take (maxPath - 1))) := by
  refine resolveComponents_absolute ?_ ?_
  · rw [List.head?_take, if_neg (by decide), h]
  · rw [List.length_take, maxPath]
    omega

theorem length_normalPath_take (h : path.head? = some slash) : (normalPath (path.take (maxPath - 1))).length <
    maxPath :=
  length_resolveComponents (by decide) _ (by decide) (resolveComponents_take h)

/-- `resolve_path`: an argument that is empty or too long is refused, the join of any other one
is cut and resolved. -/
theorem resolvePath_eq (h : cwd.head? = some slash) (input : CStr) :
    resolvePath cwd input maxPath =
      if trimmedArg input = [] ∨ (trimmedArg input).length ≥ maxPath then none
      else some (normalPath ((joinedPath cwd (trimmedArg input)).take (maxPath - 1))) := by
  have hraw : ∀ arg, (if arg.head? = some slash then strCpy maxPath arg
      else if cwd ≠ [] ∧ cwd ≠ [slash] then strCpy maxPath (cwd ++ slash :: arg)
      else strCpy maxPath (slash :: arg)).val = (joinedPath cwd arg).take (maxPath - 1) := by
    intro arg
    have hne : cwd ≠ [] := fun hnil => by simp [hnil] at h
    by_cases hcwd : cwd = [slash]
    · simp only [joinedPath, hcwd, ne_eq, not_true_eq_false, and_false, if_false, if_true]
      split_ifs <;> rfl
    · simp only [joinedPath, hne, hcwd, ne_eq, not_false_eq_true, and_self, if_true, if_false]
      split_ifs <;> rfl
  rw [resolvePath]
  dsimp only
  rw [← trimmedArg, hraw, resolveComponents_take (head?_joinedPath h _)]
  have hsize : ¬ maxPath < 2 := by decide
  simp only [hsize, false_or, List.length_eq_zero_iff]

end Argument

/-! ## Canonical paths -/

/-- A component that is the name of something. -/
def CanonicalName (name : CStr) : Prop := slash ∉ name ∧ pathMove name = .down name

/-- An absolute path of names, that fits its buffer. -/
def CanonicalPath (path : CStr) : Prop :=
  ∃ place, (∀ name ∈ place, CanonicalName name) ∧ path = renderPath place ∧ path.length < maxPath

/-- An argument that does not fit is refused, and any other one is refused or resolved to its
normal form, which is canonical and resolved to itself. -/
structure ResolvesLexically (cwd arg : CStr) : Prop where
  normal : ∀ path, resolvePath cwd arg maxPath = some path →
    path = lexicalPath cwd (trimmedArg arg) ∧ CanonicalPath path ∧
      ∀ cwd', CanonicalPath cwd' → resolvePath cwd' path maxPath = some path
  fits : maxPath ≤ (joinedPath cwd (trimmedArg arg)).length → resolvePath cwd arg maxPath = none

/-- The path ends in a space. -/
def EndsInSpace (path : CStr) : Prop := path.getLast?.any isSpace = true

instance (path : CStr) : Decidable (EndsInSpace path) := inferInstanceAs (Decidable (_ = true))

section Canonical

variable {cwd arg path : CStr} {place components : List CStr}

theorem CanonicalPath.absolute (h : CanonicalPath path) : path.head? = some slash := by
  obtain ⟨place, -, rfl, -⟩ := h
  exact head?_renderPath place

theorem canonicalPath_root : CanonicalPath [slash] := ⟨[], by simp, rfl, by decide⟩

theorem CanonicalName.moves {name : CStr} (h : CanonicalName name) : pathMoves name = [.down name] := by
  rw [pathMoves, List.splitOn_eq_singleton h.1, List.map_singleton, h.2]

theorem canonical_walk (hplace : ∀ name ∈ place, CanonicalName name) (hcomponents : ∀ c ∈ components, slash ∉ c) :
    ∀ name ∈ walk place (components.map pathMove), CanonicalName name := by
  induction components generalizing place with
  | nil => exact hplace
  | cons component components ih =>
      rw [List.map_cons, walk_cons]
      refine ih (fun name hname => ?_) fun c hc => hcomponents c (by simp [hc])
      have hmove := pathMove.eq_1 component
      split_ifs at hmove with hstay hup
      · exact hplace name (by simpa [hmove, Move.apply] using hname)
      · exact hplace name (List.dropLast_subset _ (by simpa [hmove, Move.apply] using hname))
      · rw [hmove, Move.apply, List.mem_append, List.mem_singleton] at hname
        obtain hname | rfl := hname
        · exact hplace name hname
        · exact ⟨hcomponents name (by simp), hmove⟩

theorem canonical_normalPath (path : CStr) : ∃ place, (∀ name ∈ place, CanonicalName name) ∧
    normalPath path = renderPath place :=
  ⟨_, canonical_walk (by simp) (slash_not_mem_splitOn path), rfl⟩

theorem walk_renderPath (hplace : ∀ name ∈ place, CanonicalName name) : walk [] (pathMoves (renderPath place)) =
    place := by
  induction place using List.reverseRecOn with
  | nil => decide
  | append_singleton place name ih =>
      have hname := hplace name (by simp)
      by_cases h : place = []
      · have hone : renderPath ([] ++ [name]) = [] ++ slash :: name := by simp [renderPath]
        rw [h, hone, pathMoves_join, hname.moves]
        rfl
      · rw [renderPath_append h, pathMoves_join, walk_append, ih fun c hc => hplace c (by simp [hc]), hname.moves]
        rfl

theorem normalPath_renderPath (hplace : ∀ name ∈ place, CanonicalName name) :
    normalPath (renderPath place) = renderPath place := by
  rw [normalPath, walk_renderPath hplace]

theorem length_normalPath_le (h : path.head? = some slash) : (normalPath path).length ≤ path.length := by
  have hpos : 0 < path.length := by
    cases path with
    | nil => simp at h
    | cons c path => exact Nat.succ_pos _
  have hlt := @length_resolveComponents (path.length + 1) (by omega) _ _ _ (by simpa using hpos)
    (resolveComponents_absolute h (Nat.lt_succ_self _))
  omega

/-! ## What resolves to itself -/

theorem termSkipSpaces_absolute (h : path.head? = some slash) : termSkipSpaces path = path := by
  cases path with
  | nil => rfl
  | cons c path =>
      obtain rfl : c = slash := by simpa using h
      rfl

theorem trimmedArg_absolute (h : path.head? = some slash) (hend : ¬ EndsInSpace path) : trimmedArg path = path := by
  rw [trimmedArg, termSkipSpaces_absolute h]
  refine List.rdropWhile_eq_self_iff.mpr fun hne hspace => hend ?_
  rw [EndsInSpace, List.getLast?_eq_some_getLast hne]
  exact hspace

theorem length_trimmedArg_lt (h : path.head? = some slash) (hend : EndsInSpace path) :
    (trimmedArg path).length < path.length ∧ (trimmedArg path).head? = some slash := by
  obtain ⟨c, hlast, hspace⟩ := (Option.any_eq_true isSpace _).mp hend
  obtain ⟨init, rfl⟩ := List.getLast?_eq_some_iff.mp hlast
  have hcut : trimmedArg (init ++ [c]) = init.rdropWhile isSpace := by
    rw [trimmedArg, termSkipSpaces_absolute h]
    exact List.rdropWhile_concat_pos isSpace init c hspace
  cases init with
  | nil =>
      obtain rfl : c = slash := by simpa using h
      simp [isSpace, slash, cchar] at hspace
  | cons d init =>
      obtain rfl : d = slash := by simpa using h
      rw [hcut]
      obtain ⟨rest, hrest⟩ := List.rdropWhile_prefix isSpace (l := slash :: init)
      have hne : (slash :: init).rdropWhile isSpace ≠ [] := fun hnil =>
        absurd (List.rdropWhile_eq_nil_iff.mp hnil slash (by simp)) (by decide)
      refine ⟨?_, ?_⟩
      · have hlen := congrArg List.length hrest
        simp only [List.length_append, List.length_cons] at hlen ⊢
        omega
      · obtain ⟨e, tail, htail⟩ := List.exists_cons_of_ne_nil hne
        rw [htail, List.cons_append] at hrest
        rw [htail, (List.cons.inj hrest).1]
        rfl

theorem joinedPath_absolute (h : arg.head? = some slash) : joinedPath cwd arg = arg := if_pos h

/-- A canonical path resolves to itself just if it does not end in a space. -/
theorem resolvePath_canonical_iff (h : CanonicalPath path) (hcwd : CanonicalPath cwd) :
    resolvePath cwd path maxPath = some path ↔ ¬ EndsInSpace path := by
  have habs := h.absolute
  obtain ⟨place, hplace, hpath, hlen⟩ := h
  rw [resolvePath_eq hcwd.absolute]
  constructor
  · intro hsame hend
    obtain ⟨hshort, htrim⟩ := length_trimmedArg_lt habs hend
    split_ifs at hsame
    rw [joinedPath_absolute htrim, List.take_of_length_le (by omega)] at hsame
    have hle := length_normalPath_le htrim
    rw [Option.some.inj hsame] at hle
    omega
  · intro hend
    have hne : path ≠ [] := fun hnil => by simp [hnil] at habs
    rw [trimmedArg_absolute habs hend, if_neg (by simp [hne, hlen]), joinedPath_absolute habs,
      List.take_of_length_le (by omega), hpath, normalPath_renderPath hplace]

/-- An argument is resolved as it should be just if it is refused at once, or its join fits and
what it names does not end in a space. -/
theorem resolvesLexically_iff (h : CanonicalPath cwd) (arg : CStr) :
    ResolvesLexically cwd arg ↔ trimmedArg arg = [] ∨ maxPath ≤ (trimmedArg arg).length ∨
      ((joinedPath cwd (trimmedArg arg)).length < maxPath ∧ ¬ EndsInSpace (lexicalPath cwd (trimmedArg arg))) := by
  have heq := resolvePath_eq h.absolute arg
  by_cases hrefused : trimmedArg arg = [] ∨ (trimmedArg arg).length ≥ maxPath
  · rw [if_pos hrefused] at heq
    have hleft : ResolvesLexically cwd arg := ⟨fun path hpath => absurd hpath (by simp [heq]), fun _ => heq⟩
    exact ⟨fun _ => hrefused.imp_right .inl, fun _ => hleft⟩
  rw [if_neg hrefused] at heq
  rw [not_or] at hrefused
  have habs := head?_joinedPath h.absolute (trimmedArg arg)
  have hcut := length_normalPath_take habs
  constructor
  · intro hres
    have hfits : (joinedPath cwd (trimmedArg arg)).length < maxPath := by
      by_contra hlong
      rw [hres.fits (not_lt.mp hlong)] at heq
      cases heq
    obtain ⟨hnormal, hcanonical, hfixed⟩ := hres.normal _ heq
    refine .inr (.inr ⟨hfits, ?_⟩)
    rw [← hnormal]
    exact (resolvePath_canonical_iff hcanonical h).mp (hfixed cwd h)
  · rintro (hnil | hlong | ⟨hfits, hend⟩)
    · exact absurd hnil hrefused.1
    · exact absurd hlong hrefused.2
    · rw [List.take_of_length_le (by omega)] at heq hcut
      rw [normalPath_joinedPath] at heq hcut
      refine ⟨fun path hpath => ?_, fun hlong => absurd hfits (by omega)⟩
      obtain rfl : lexicalPath cwd (trimmedArg arg) = path := by rw [heq] at hpath; exact Option.some.inj hpath
      obtain ⟨place, hplace, hrender⟩ := canonical_normalPath (joinedPath cwd (trimmedArg arg))
      rw [normalPath_joinedPath] at hrender
      have hcanonical : CanonicalPath (lexicalPath cwd (trimmedArg arg)) := ⟨place, hplace, hrender, hcut⟩
      exact ⟨rfl, hcanonical, fun cwd' hcwd' => (resolvePath_canonical_iff hcanonical hcwd').mpr hend⟩

/-- The argument "a/../b" in the root directory is resolved as it should be. -/
theorem resolvesLexically_root : ResolvesLexically [slash] (cstr "a/../b") :=
  (resolvesLexically_iff canonicalPath_root (cstr "a/../b")).mpr (.inr (.inr (by decide)))

/-- The argument "a /" names "/a ", which is resolved to "/a". -/
theorem not_resolvesLexically : ¬ ∀ cwd arg, CanonicalPath cwd → ResolvesLexically cwd arg := by
  intro h
  have hres := (h [slash] (cstr "a /") canonicalPath_root).normal (cstr "/a ") (by decide)
  have hfixed := hres.2.2 [slash] canonicalPath_root
  exact absurd hfixed (by decide)

end Canonical

end Orizon
