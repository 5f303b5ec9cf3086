import Countoff.Proofs.FileTree

/-!
# Histories of a file tree

Any number of files are written into a tree, one after the other, along any paths and with any
content. What one write does, done or not, is stated for every tree (`store_of_ok`,
`store_of_error`): beyond the file that it was asked for, it can only make directories on the way.
A path that has led somewhere leads there ever after, so it can be told from the tree at the end
which write was the last to reach a file, and the file holds what that write gave it
(`storeAll_accounts`).
-/

namespace Countoff.FileTree

def file? (tree : FileTree) (route : Route) : Option ByteArray :=
  match tree.at? route with
  | some (.file content) => some content
  | _ => none

theorem Grown.file?_eq {above : List Char} {earlier later : FileTree}
    (h : Grown above earlier later) (route : Route) : later.file? route = earlier.file? route := by
  unfold file?
  rcases h route with hsame | ⟨hnone, hmade, -⟩
  · rw [hsame]
  · rw [hnone, hmade]

/-! ## One write -/

section Store

variable {path : List Char} {content : ByteArray} {tree later : FileTree}

/-- A write that is done has put its content where its path leads, which was not a directory. -/
theorem store_of_ok (h : store path content tree = (.ok (), later)) :
    ∃ route, later.route? path = some route ∧ later.at? route = some (.file content) ∧
      tree.at? route ≠ some .directory ∧ ∀ other, other ≠ route →
        later.at? other = tree.at? other ∨ MadeFor ((Path.parent? path).getD []) tree later other := by
  obtain ⟨grown, hgrown, ⟨problem, hstore⟩ | ⟨later', hfile, hstore⟩⟩ :=
    store_cases path content tree
  · rw [h] at hstore
    cases hstore
  rw [h] at hstore
  cases hstore
  obtain ⟨route, name, hgoal, -, hat, rfl⟩ := writeFile_eq_ok hfile
  have hne := route_ne_nil hgoal
  have hkept := KeepsDirectories.put_file grown hne hat content
  refine ⟨route, hkept.route? (route?_of_named hgoal), ?_, ?_, fun other hother => ?_⟩
  · rw [at?_put hne, if_pos rfl]
  · exact fun hdirectory => hat (hgrown.keepsDirectories route hdirectory)
  · rw [MadeFor, at?_put hne, if_neg hother]
    -- a directory on the way was made before the file was put into the tree
    rcases hgrown other with hsame | ⟨hnone, hmade, parent, hfront, hroute⟩
    · exact .inl hsame
    · exact .inr ⟨hnone, hmade, parent, hfront, hkept.route? hroute⟩

theorem store_of_error {problem : StorageProblem}
    (h : store path content tree = (.error problem, later)) :
    Grown ((Path.parent? path).getD []) tree later := by
  obtain ⟨grown, hgrown, ⟨_, hstore⟩ | ⟨_, _, hstore⟩⟩ := store_cases path content tree
  · rw [h] at hstore
    cases hstore
    exact hgrown
  · rw [h] at hstore
    cases hstore

theorem keepsDirectories_of_store {answer : Except StorageProblem Unit}
    (h : store path content tree = (answer, later)) : KeepsDirectories tree later := by
  cases answer with
  | error problem => exact (store_of_error h).keepsDirectories
  | ok _ =>
    obtain ⟨route, -, -, hat, hothers⟩ := store_of_ok h
    intro other hother
    have hne : other ≠ route := by
      rintro rfl
      exact hat hother
    rcases hothers other hne with hsame | ⟨hnone, -⟩
    · rw [hsame, hother]
    · rw [hother] at hnone
      cases hnone

/-- What a write gives to the file at a route, if it is done and its path leads there. -/
def contentFor? (tree : FileTree) (route : Route) (path : List Char) (content : ByteArray) :
    Except StorageProblem Unit → Option ByteArray
  | .ok () => if tree.route? path = some route then some content else none
  | .error _ => none

/-- A file holds what the write gave it, or else what it held before. -/
theorem file?_of_store {answer : Except StorageProblem Unit}
    (h : store path content tree = (answer, later)) (route : Route) :
    later.file? route = (later.contentFor? route path content answer).or (tree.file? route) := by
  cases answer with
  | error problem => exact (store_of_error h).file?_eq route
  | ok _ =>
    obtain ⟨goal, hgoal, hat, -, hothers⟩ := store_of_ok h
    rw [contentFor?, hgoal]
    by_cases hroute : route = goal
    · subst hroute
      rw [if_pos rfl, file?, hat]
      rfl
    · rw [if_neg (fun heq => hroute (Option.some.inj heq).symm), Option.none_or, file?, file?]
      rcases hothers route hroute with hsame | ⟨hnone, hmade, -⟩
      · rw [hsame]
      · rw [hnone, hmade]

end Store

/-! ## Whole histories -/

/-- A file that is to be written, as a whole. -/
structure Write where
  path : List Char
  content : ByteArray

def storeAll (writes : List Write) : StateM FileTree (List (Except StorageProblem Unit)) :=
  writes.mapM fun write => store write.path write.content

/-- What the writes that were done have given to the file at a route, in order. -/
def contentsFor (tree : FileTree) (route : Route) (writes : List Write)
    (answers : List (Except StorageProblem Unit)) : List ByteArray :=
  (writes.zip answers).filterMap fun (write, answer) =>
    tree.contentFor? route write.path write.content answer

/-- The first of several writes leaves the tree that the others are done in. -/
theorem storeAll_cons {write : Write} {writes : List Write} {tree later : FileTree}
    {answers : List (Except StorageProblem Unit)}
    (h : storeAll (write :: writes) tree = (answers, later)) :
    ∃ answer between rest, store write.path write.content tree = (answer, between) ∧
      storeAll writes between = (rest, later) ∧ answers = answer :: rest := by
  have hsteps : storeAll (write :: writes) tree =
      let (answer, between) := store write.path write.content tree
      let (rest, last) := storeAll writes between
      (answer :: rest, last) := by
    simp only [storeAll, List.mapM_cons]
    rfl
  rw [hsteps] at h
  rcases hstore : store write.path write.content tree with ⟨answer, between⟩
  rcases hrest : storeAll writes between with ⟨rest, last⟩
  simp only [hstore, hrest] at h
  cases h
  exact ⟨answer, between, rest, rfl, hrest, rfl⟩

theorem keepsDirectories_of_storeAll {writes : List Write} {tree later : FileTree}
    {answers : List (Except StorageProblem Unit)} (h : storeAll writes tree = (answers, later)) :
    KeepsDirectories tree later := by
  induction writes generalizing tree answers with
  | nil =>
    cases h
    exact fun _ hroute => hroute
  | cons write writes ih =>
    obtain ⟨answer, between, rest, hstore, hrest, rfl⟩ := storeAll_cons h
    exact fun route hroute => ih hrest route (keepsDirectories_of_store hstore route hroute)

/-- What is given to a file can be told from any later tree. -/
theorem contentFor?_later {earlier later : FileTree} (h : KeepsDirectories earlier later)
    {path : List Char} {content : ByteArray} {tree : FileTree}
    {answer : Except StorageProblem Unit} (hstore : store path content tree = (answer, earlier))
    (route : Route) :
    later.contentFor? route path content answer = earlier.contentFor? route path content answer := by
  cases answer with
  | error problem => rfl
  | ok _ =>
    obtain ⟨goal, hgoal, -⟩ := store_of_ok hstore
    rw [contentFor?, contentFor?, hgoal, h.route? hgoal]

/-- A file holds what the last write that was done has given it. The induction is on the writes:
the first of them gives what the file holds for the others to change. -/
theorem file?_of_storeAll {writes : List Write} {tree later : FileTree}
    {answers : List (Except StorageProblem Unit)} (h : storeAll writes tree = (answers, later))
    (route : Route) : answers.length = writes.length ∧
      later.file? route = (later.contentsFor route writes answers).getLast?.or (tree.file? route) := by
  induction writes generalizing tree answers with
  | nil =>
    cases h
    exact ⟨rfl, rfl⟩
  | cons write writes ih =>
    obtain ⟨answer, between, rest, hstore, hrest, rfl⟩ := storeAll_cons h
    obtain ⟨hlength, hfile⟩ := ih hrest
    refine ⟨congrArg (· + 1) hlength, ?_⟩
    have hsame := contentFor?_later (keepsDirectories_of_storeAll hrest) hstore route
    rw [hfile, file?_of_store hstore]
    simp only [contentsFor, List.zip_cons_cons, List.filterMap_cons, hsame]
    cases between.contentFor? route write.path write.content answer with
    | none => rfl
    | some content =>
      rw [List.getLast?_cons]
      cases ((writes.zip rest).filterMap _).getLast? <;> rfl

/-- What holds once files have been written: of the tree, and of whatever is written next. -/
structure Account (initial : FileTree) (writes : List Write)
    (answers : List (Except StorageProblem Unit)) (tree : FileTree) : Prop where
  answered : answers.length = writes.length
  /-- A file holds what the last write that was done has given it, or else what it held before. -/
  contents : ∀ route,
    tree.file? route = (tree.contentsFor route writes answers).getLast?.or (initial.file? route)
  /-- A path that led somewhere still leads there. -/
  lasting : ∀ path route, initial.route? path = some route → tree.route? path = some route
  /-- A write that is done puts its content where its path leads. It takes the place of no
  directory, and changes nothing else but that it makes directories on the way. -/
  done : ∀ path content later, store path content tree = (.ok (), later) →
    ∃ route, later.route? path = some route ∧ later.at? route = some (.file content) ∧
      tree.at? route ≠ some .directory ∧ ∀ other, other ≠ route →
        later.at? other = tree.at? other ∨ MadeFor ((Path.parent? path).getD []) tree later other
  /-- A write that fails changes nothing but that it makes directories on the way. -/
  failed : ∀ path content problem later, store path content tree = (.error problem, later) →
    ∀ route, later.at? route = tree.at? route ∨
      MadeFor ((Path.parent? path).getD []) tree later route

/-- **Histories of a file tree.** Whatever has been written into a tree, along whatever paths, the
accounts are in order. -/
theorem storeAll_accounts (initial : FileTree) (writes : List Write) :
    let (answers, tree) := storeAll writes initial
    Account initial writes answers tree := by
  rcases h : storeAll writes initial with ⟨answers, tree⟩
  exact {
    answered := (file?_of_storeAll h []).1
    contents := fun route => (file?_of_storeAll h route).2
    lasting := fun _ _ hroute => (keepsDirectories_of_storeAll h).route? hroute
    done := fun _ _ _ hstore => store_of_ok hstore
    failed := fun _ _ _ _ hstore => store_of_error hstore }

end Countoff.FileTree
