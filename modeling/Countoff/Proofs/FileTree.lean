import Countoff.FileTree
import Countoff.Proofs.Path

/-!
# What operations on a file tree keep

No operation removes anything. Making directories only adds some (`Grown`), whether or not it comes
to the directory that was wanted, so a write that fails leaves every file as it was and makes no new
one (`file_iff_of_write_error`). A write that succeeds has grown the tree and then put one file into
it, at the route that the path leads to (`store_cases`); the way to that route leads through
directories, which a file put elsewhere leaves in place, so the path still leads there and the file
is read back (`readFile_of_write_ok`). A write is refused for a NUL only if there is one in its path
(`write_ne_nulInPath`).
-/

namespace Countoff

namespace FileTree

/-! ## Looking up -/

theorem lookup_filter_ne {nodes : List (Route × Node)} {route other : Route} (h : other ≠ route) :
    (nodes.filter fun node => node.1 ≠ route).lookup other = nodes.lookup other := by
  induction nodes with
  | nil => rfl
  | cons node nodes ih =>
    by_cases hnode : node.1 = route
    · have hother : (other == node.1) = false := by simp [hnode, h]
      rw [List.filter_cons_of_neg (by simp [hnode]), ih, List.lookup_cons, hother]
    · rw [List.filter_cons_of_pos (by simp [hnode]), List.lookup_cons, List.lookup_cons, ih]

/-- Putting a node changes what its own route leads to, and no other. -/
theorem at?_put {route : Route} (h : route ≠ []) (tree : FileTree) (node : Node) (other : Route) :
    (tree.put route node).at? other = if other = route then some node else tree.at? other := by
  cases other with
  | nil =>
    rw [if_neg (Ne.symm h)]
    rfl
  | cons name other =>
    show List.lookup (name :: other) ((route, node) :: _) = _
    rw [List.lookup_cons]
    by_cases heq : name :: other = route
    · simp [heq]
    · have hbeq : (name :: other == route) = false := by simp [heq]
      rw [if_neg heq, hbeq]
      exact lookup_filter_ne heq

/-! ## Where paths lead -/

/-- What it takes for a segment to be followed to a route. -/
theorem step_eq_ok {tree : FileTree} {here route : Route} {segment : List Char} :
    tree.step here segment = .ok route ↔
      if Path.isIdle segment then route = here
      else if segment = ['.', '.'] then route = here.dropLast
      else bytes segment ≤ maxName ∧ route = here ++ [String.ofList segment] ∧
        tree.at? route = some .directory := by
  simp only [step]
  split
  · simp [eq_comm]
  split
  · simp [eq_comm]
  split
  · simp only [reduceCtorEq, false_iff, not_and]
    omega
  cases hat : tree.at? (here ++ [String.ofList segment]) with
  | none =>
    simp only [reduceCtorEq, false_iff, not_and]
    rintro - rfl
    simp [hat]
  | some node =>
    cases node with
    | file content =>
      simp only [reduceCtorEq, false_iff, not_and]
      rintro - rfl
      simp [hat]
    | directory =>
      simp only [Except.ok.injEq]
      constructor
      · rintro rfl
        exact ⟨by omega, rfl, hat⟩
      · rintro ⟨-, rfl, -⟩
        rfl

/-- A path leads somewhere if its text is within the limits and the names before its last lead
through directories. -/
theorem goal_eq_ok {tree : FileTree} {path : List Char} {goal : Goal} :
    tree.goal path = .ok goal ↔
      '\x00' ∉ path ∧ path ≠ [] ∧ bytes path < maxPath ∧
        ∃ here, tree.descend (names path).dropLast = .ok here ∧ goalIn here path = goal := by
  simp only [FileTree.goal]
  split
  · simp [*]
  split
  · simp [*]
  split
  · simp [Nat.not_lt.mpr ‹_›]
  have hbytes : bytes path < maxPath := Nat.not_le.mp ‹_›
  cases hdescend : tree.descend (names path).dropLast with
  | error problem => simp [Except.map]
  | ok here => simp [Except.map, *]

theorem route_ne_nil {tree : FileTree} {path : List Char} {route : Route} {name : List Char}
    {slash : Bool} (h : tree.goal path = .ok (.named route name slash)) : route ≠ [] := by
  obtain ⟨-, -, -, here, -, hgoal⟩ := goal_eq_ok.mp h
  simp only [goalIn] at hgoal
  split at hgoal
  · cases hgoal
  split at hgoal
  · cases hgoal
  split at hgoal
  · cases hgoal
  cases hgoal
  simp

/-- The route that a path leads to, whether or not anything stands there. -/
def route? (tree : FileTree) (path : List Char) : Option Route :=
  match tree.goal path with
  | .ok (.reached route) | .ok (.named route _ _) => some route
  | .error _ => none

theorem route?_of_named {tree : FileTree} {path : List Char} {route : Route} {name : List Char}
    {slash : Bool} (h : tree.goal path = .ok (.named route name slash)) :
    tree.route? path = some route := by
  rw [route?, h]

/-- Every directory of one tree is a directory of another. -/
def KeepsDirectories (earlier later : FileTree) : Prop :=
  ∀ route, earlier.at? route = some .directory → later.at? route = some .directory

namespace KeepsDirectories

variable {earlier later : FileTree}

theorem step (h : KeepsDirectories earlier later) {here route : Route} {segment : List Char}
    (hstep : earlier.step here segment = .ok route) : later.step here segment = .ok route := by
  rw [step_eq_ok] at hstep ⊢
  split
  · rwa [if_pos ‹_›] at hstep
  rw [if_neg ‹_›] at hstep
  split
  · rwa [if_pos ‹_›] at hstep
  rw [if_neg ‹_›] at hstep
  obtain ⟨hlength, hroute, hat⟩ := hstep
  exact ⟨hlength, hroute, h route hat⟩

theorem foldlM_step (h : KeepsDirectories earlier later) {segments : List (List Char)}
    {here route : Route} (hfold : segments.foldlM earlier.step here = .ok route) :
    segments.foldlM later.step here = .ok route := by
  induction segments generalizing here with
  | nil => exact hfold
  | cons segment segments ih =>
    rw [List.foldlM_cons] at hfold ⊢
    cases hstep : earlier.step here segment with
    | error problem =>
      rw [hstep] at hfold
      cases hfold
    | ok next =>
      rw [hstep] at hfold
      rw [h.step hstep]
      exact ih hfold

theorem goal (h : KeepsDirectories earlier later) {path : List Char} {goal : Goal}
    (hgoal : earlier.goal path = .ok goal) : later.goal path = .ok goal := by
  obtain ⟨hnul, hne, hbytes, here, hdescend, hhere⟩ := goal_eq_ok.mp hgoal
  exact goal_eq_ok.mpr ⟨hnul, hne, hbytes, here, h.foldlM_step hdescend, hhere⟩

theorem route? (h : KeepsDirectories earlier later) {path : List Char} {route : Route}
    (hroute : earlier.route? path = some route) : later.route? path = some route := by
  unfold FileTree.route? at hroute ⊢
  cases hgoal : earlier.goal path with
  | error problem =>
    rw [hgoal] at hroute
    cases hroute
  | ok goal =>
    rw [hgoal] at hroute
    rw [h.goal hgoal]
    exact hroute

/-- A file stands in no directory's way, unless it is put onto one. -/
theorem put_file (tree : FileTree) {route : Route} (hne : route ≠ [])
    (h : tree.at? route ≠ some .directory) (content : ByteArray) :
    KeepsDirectories tree (tree.put route (.file content)) := by
  intro other hother
  rw [at?_put hne, if_neg]
  · exact hother
  · rintro rfl
    exact h hother

end KeepsDirectories

/-! ## Making directories -/

/-- Where there was nothing, a directory was made on the way to another: it is where a path leads
that consists of first segments of the path of the other. -/
def MadeFor (above : List Char) (earlier later : FileTree) (route : Route) : Prop :=
  earlier.at? route = none ∧ later.at? route = some .directory ∧
    ∃ path, Path.segments path <+: Path.segments above ∧ later.route? path = some route

/-- One tree grows into another if nothing changes but that directories are made on the way to
another. -/
def Grown (above : List Char) (earlier later : FileTree) : Prop :=
  ∀ route, later.at? route = earlier.at? route ∨ MadeFor above earlier later route

namespace Grown

variable {above : List Char}

theorem refl (tree : FileTree) : Grown above tree tree :=
  fun _ => .inl rfl

variable {earlier later : FileTree}

theorem keepsDirectories (h : Grown above earlier later) : KeepsDirectories earlier later := by
  intro route hroute
  rcases h route with hsame | ⟨hnone, -⟩
  · rw [hsame, hroute]
  · rw [hroute] at hnone
    cases hnone

theorem trans {a b c : FileTree} (hab : Grown above a b) (hbc : Grown above b c) :
    Grown above a c := by
  intro route
  rcases hab route with hsame | ⟨hnone, hmade, path, hfront, hroute⟩
  · rw [MadeFor, ← hsame]
    exact hbc route
  · -- what was made is kept, and the path to it leads there still
    have hkept := hbc.keepsDirectories
    exact .inr ⟨hnone, hkept route hmade, path, hfront, hkept.route? hroute⟩

theorem file_iff (h : Grown above earlier later) (route : Route) (content : ByteArray) :
    later.at? route = some (.file content) ↔ earlier.at? route = some (.file content) := by
  rcases h route with hsame | ⟨hnone, hmade, -⟩
  · rw [hsame]
  · simp [hnone, hmade]

end Grown

/-- A directory is made where a path leads and there was nothing. -/
theorem makeDirectory_eq_ok {tree later : FileTree} {path : List Char}
    (h : tree.makeDirectory path = .ok later) :
    ∃ route name slash, tree.goal path = .ok (.named route name slash) ∧
      tree.at? route = none ∧ later = tree.put route .directory := by
  unfold makeDirectory at h
  cases hgoal : tree.goal path with
  | error problem =>
    rw [hgoal] at h
    cases h
  | ok goal =>
    rw [hgoal] at h
    cases goal with
    | reached route => cases h
    | named route name slash =>
      simp only at h
      split at h
      · cases h
      split at h
      · cases h
      cases h
      exact ⟨route, name, slash, rfl, Option.not_isSome_iff_eq_none.mp ‹_›, rfl⟩

theorem makeDirectory_grown {tree later : FileTree} {above path : List Char}
    (hfront : Path.segments path <+: Path.segments above)
    (h : tree.makeDirectory path = .ok later) : Grown above tree later := by
  obtain ⟨route, name, slash, hgoal, hnone, rfl⟩ := makeDirectory_eq_ok h
  have hne := route_ne_nil hgoal
  have hkept : KeepsDirectories tree (tree.put route .directory) := by
    intro other hother
    rw [at?_put hne]
    split
    · rfl
    · exact hother
  intro other
  rw [MadeFor, at?_put hne]
  by_cases hother : other = route
  · subst hother
    rw [if_pos rfl]
    exact .inr ⟨hnone, rfl, path, hfront, hkept.route? (route?_of_named hgoal)⟩
  · rw [if_neg hother]
    exact .inl rfl

/-- Nothing is made at the path of no directory, and nothing at that of the topmost one. -/
theorem provide_trivial {path : List Char} (h : path = [] ∨ path = ['/']) (tree : FileTree) :
    (provide path tree).2 = tree := by
  rcases h with rfl | rfl <;> rfl

/-- The directories above a path are provided by making directories on the way, and by nothing
else. -/
theorem provideParent_grown (path : List Char) (tree : FileTree) :
    Grown ((Path.parent? path).getD []) tree (Path.provideParent provide path tree).2 := by
  let above := (Path.parent? path).getD []
  -- the paths that are tried are made of first segments, but for two where nothing is made
  let tried (path : List Char) : Prop :=
    path = [] ∨ path = ['/'] ∨ Path.segments path <+: Path.segments above
  have hparent {path parent : List Char} (hpath : tried path)
      (h : Path.parent? path = some parent) : tried parent := by
    rcases hpath with rfl | rfl | hpath
    · cases h
    · cases h
    rcases Path.segments_parent? h with hnil | hslash | hfront
    · exact .inl hnil
    · exact .inr (.inl hslash)
    · exact .inr (.inr (hfront.trans hpath))
  have hstep {path : List Char} (hpath : tried path) (tree : FileTree) :
      Grown above tree (provide path tree).2 := by
    rcases hpath with hnil | hslash | hfront
    · rw [provide_trivial (.inl hnil)]
      exact .refl tree
    · rw [provide_trivial (.inr hslash)]
      exact .refl tree
    · unfold provide
      cases h : tree.makeDirectory path with
      | error problem => exact .refl tree
      | ok later => exact makeDirectory_grown hfront h
  exact Path.provideAll_related Grown.refl Grown.trans hparent hstep _
    (.inr (.inr (List.prefix_refl _))) tree

/-! ## Writing and reading back -/

theorem writeFile_eq_ok {tree later : FileTree} {path : List Char} {content : ByteArray}
    (h : tree.writeFile path content = .ok later) :
    ∃ route name, tree.goal path = .ok (.named route name false) ∧ bytes name ≤ maxName ∧
      tree.at? route ≠ some .directory ∧ later = tree.put route (.file content) := by
  unfold writeFile at h
  cases hgoal : tree.goal path with
  | error problem =>
    rw [hgoal] at h
    cases h
  | ok goal =>
    rw [hgoal] at h
    cases goal with
    | reached route => cases h
    | named route name slash =>
      simp only at h
      split at h
      · cases h
      split at h
      · cases h
      split at h
      · cases h
      have hslash : slash = false := Bool.eq_false_iff.mpr ‹_›
      subst hslash
      cases h
      exact ⟨route, name, rfl, by omega, ‹_›, rfl⟩

/-- A write grows the tree and then either fails or puts a file into it. -/
theorem store_cases (path : List Char) (content : ByteArray) (tree : FileTree) :
    ∃ grown, Grown ((Path.parent? path).getD []) tree grown ∧
      ((∃ problem, store path content tree = (.error problem, grown)) ∨
        ∃ later, grown.writeFile path content = .ok later ∧
          store path content tree = (.ok (), later)) := by
  have hgrown := provideParent_grown path tree
  simp only [store, bind, StateT.bind]
  rcases hprovide : Path.provideParent provide path tree with ⟨outcome, grown⟩
  rw [hprovide] at hgrown
  refine ⟨grown, hgrown, ?_⟩
  cases outcome with
  | error problem => exact .inl ⟨problem, rfl⟩
  | ok _ =>
    cases hwrite : grown.writeFile path content with
    | error problem => exact .inl ⟨problem, by simp only [hwrite]⟩
    | ok later => exact .inr ⟨later, rfl, by simp only [hwrite]⟩

/-- A write that fails changes no file and makes none. -/
theorem file_iff_of_write_error {path text : String} {tree later : FileTree}
    {problem : StorageProblem} (h : write path text tree = (.error problem, later))
    (route : Route) (content : ByteArray) :
    later.at? route = some (.file content) ↔ tree.at? route = some (.file content) := by
  rw [write] at h
  obtain ⟨grown, hgrown, ⟨_, hwrite⟩ | ⟨_, _, hwrite⟩⟩ :=
    store_cases path.toList text.toUTF8 tree
  · rw [h] at hwrite
    cases hwrite
    exact hgrown.file_iff route content
  · rw [h] at hwrite
    cases hwrite

/-- What was written to a path is read from it. -/
theorem readFile_of_write_ok {path text : String} {tree later : FileTree}
    (h : write path text tree = (.ok (), later)) :
    later.readFile path.toList = .ok text.toUTF8 := by
  rw [write] at h
  obtain ⟨grown, -, ⟨problem, hwrite⟩ | ⟨later', hfile, hwrite⟩⟩ :=
    store_cases path.toList text.toUTF8 tree
  · rw [h] at hwrite
    cases hwrite
  · rw [h] at hwrite
    cases hwrite
    obtain ⟨route, name, hgoal, hname, hat, rfl⟩ := writeFile_eq_ok hfile
    have hne := route_ne_nil hgoal
    have hkept := KeepsDirectories.put_file grown hne hat text.toUTF8
    simp only [readFile, hkept.goal hgoal, at?_put hne, if_true, if_neg (Nat.not_lt.mpr hname)]
    rfl

/-! ## Paths without a NUL -/

theorem step_ne_nulInPath (tree : FileTree) (here : Route) (segment : List Char) :
    tree.step here segment ≠ .error .nulInPath := by
  simp only [step]
  split
  · simp
  split
  · simp
  split
  · simp
  split
  · simp
  · simp
  · simp

theorem foldlM_step_ne_nulInPath (tree : FileTree) (segments : List (List Char)) (here : Route) :
    segments.foldlM tree.step here ≠ .error .nulInPath := by
  induction segments generalizing here with
  | nil => simp [pure, Except.pure]
  | cons segment segments ih =>
    rw [List.foldlM_cons]
    have hstep := tree.step_ne_nulInPath here segment
    cases h : tree.step here segment with
    | error problem =>
      rw [h] at hstep
      exact hstep
    | ok next => exact ih next

section Nul

variable {path : List Char} (h : '\x00' ∉ path) (tree : FileTree)
include h

theorem goal_ne_nulInPath : tree.goal path ≠ .error .nulInPath := by
  rw [FileTree.goal, if_neg h]
  split
  · simp
  split
  · simp
  have hdescend := tree.foldlM_step_ne_nulInPath (names path).dropLast []
  rw [descend]
  cases hfold : (names path).dropLast.foldlM tree.step [] with
  | error problem =>
    rw [hfold] at hdescend
    simpa [Except.map] using hdescend
  | ok here => simp [Except.map]

theorem makeDirectory_ne_nulInPath : tree.makeDirectory path ≠ .error .nulInPath := by
  have hgoal := goal_ne_nulInPath h tree
  unfold makeDirectory
  split
  · next problem hproblem =>
    rw [hproblem] at hgoal
    simpa using hgoal
  · simp
  split
  · simp
  split
  · simp
  · simp

theorem writeFile_ne_nulInPath (content : ByteArray) :
    tree.writeFile path content ≠ .error .nulInPath := by
  have hgoal := goal_ne_nulInPath h tree
  unfold writeFile
  split
  · next problem hproblem =>
    rw [hproblem] at hgoal
    simpa using hgoal
  · simp
  split
  · simp
  split
  · simp
  split
  · simp
  · simp

theorem provide_ne_nulInPath : (provide path tree).1 ≠ .error .nulInPath := by
  have hmake := makeDirectory_ne_nulInPath h tree
  unfold provide
  cases hmade : tree.makeDirectory path with
  | ok later => simp
  | error problem =>
    rw [hmade] at hmake
    dsimp only
    split
    · simp
    · simpa using hmake

theorem provideParent_ne_nulInPath :
    (Path.provideParent provide path tree).1 ≠ .error .nulInPath := by
  let allowed (answer : Except StorageProblem Unit) : Prop := answer ≠ .error .nulInPath
  let tried (path : List Char) : Prop := '\x00' ∉ path
  have hmissing : allowed (.error .missing) := by simp [allowed]
  have hparent {path above : List Char} (hpath : tried path)
      (habove : Path.parent? path = some above) : tried above :=
    Path.not_mem_parent? (by decide) habove hpath
  have hstep {path : List Char} (hpath : tried path) (tree : FileTree) :
      allowed (provide path tree).1 :=
    provide_ne_nulInPath hpath tree
  have habove : tried ((Path.parent? path).getD []) := by
    cases hpath : Path.parent? path with
    | none => exact List.not_mem_nil
    | some above => exact hparent h hpath
  exact Path.provideAll_answers nofun hmissing hparent hstep _ habove tree

theorem store_ne_nulInPath (content : ByteArray) :
    (store path content tree).1 ≠ .error .nulInPath := by
  have hprovide := provideParent_ne_nulInPath h tree
  simp only [store, bind, StateT.bind]
  generalize Path.provideParent provide path tree = provided at hprovide
  obtain ⟨answer, grown⟩ := provided
  cases answer with
  | error problem => exact hprovide
  | ok _ =>
    have hwrite := writeFile_ne_nulInPath h grown content
    cases hwritten : grown.writeFile path content with
    | error problem =>
      rw [hwritten] at hwrite
      simpa [hwritten] using hwrite
    | ok later => simp [hwritten]

end Nul

/-- A write is refused for a NUL only if there is one in its path. -/
theorem write_ne_nulInPath {path : String} (h : '\x00' ∉ path.toList) (text : String)
    (tree : FileTree) : (write path text tree).1 ≠ .error .nulInPath :=
  store_ne_nulInPath h tree text.toUTF8

end FileTree

end Countoff
