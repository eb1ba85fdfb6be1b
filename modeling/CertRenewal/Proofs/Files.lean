import CertRenewal.Store.Directory

/-!
What is read from a tree of files after it was changed, and what a document is
after it was replaced. An operation on a path depends on the path itself and on
shorter ones, so files side by side do not get into each other's way.
-/

namespace CertRenewal

namespace FileTree

variable {tree next : FileTree} {path other : Path}

theorem lookup_filter (entries : List (Path × FileEntry)) (gone other : Path) :
    (entries.filter fun entry => entry.1 ≠ gone).lookup other =
      if other = gone then none else entries.lookup other := by
  induction entries with
  | nil => simp
  | cons entry rest induction =>
      obtain ⟨path, held⟩ := entry
      by_cases itself : path = gone
      · subst itself
        have removed : ((path, held) :: rest).filter (fun entry => entry.1 ≠ path) =
            rest.filter fun entry => entry.1 ≠ path := by simp
        rw [removed, induction]
        by_cases same : other = path
        · simp [same]
        · simp [same, List.lookup_cons, beq_eq_false_iff_ne.mpr same]
      · have remains : ((path, held) :: rest).filter (fun entry => entry.1 ≠ gone) =
            (path, held) :: rest.filter fun entry => entry.1 ≠ gone := by simp [itself]
        rw [remains]
        by_cases same : other = path
        · subst same
          simp [itself]
        · simp only [List.lookup_cons, beq_eq_false_iff_ne.mpr same, induction]

theorem get_erase (gone : Path) (named : other ≠ []) :
    (tree.erase gone).get? other = if other = gone then none else tree.get? other := by
  cases other with
  | nil => exact absurd rfl named
  | cons name names => exact lookup_filter tree.entries gone (name :: names)

theorem get_put (entry : FileEntry) (named : other ≠ []) :
    (tree.put path entry).get? other = if other = path then some entry else tree.get? other := by
  have erased := @get_erase tree other path named
  cases other with
  | nil => exact absurd rfl named
  | cons name names =>
      by_cases same : name :: names = path
      · simp [get?, put, same]
      · have apart : (name :: names == path) = false := beq_eq_false_iff_ne.mpr same
        rw [if_neg same] at erased ⊢
        simp only [get?, put, List.lookup_cons, apart] at erased ⊢
        exact erased

/-- What stands in the way to a path lies before it. -/
theorem obstacle_from_congr (before : Path) (names : List String)
    (same : ∀ other : Path, other.length < before.length + names.length →
      next.get? other = tree.get? other) :
    next.obstacleFrom before names = tree.obstacleFrom before names := by
  induction names generalizing before with
  | nil => rfl
  | cons name rest induction =>
      cases rest with
      | nil => rfl
      | cons second names =>
          have here : next.get? (before ++ [name]) = tree.get? (before ++ [name]) := by
            apply same
            simp only [List.length_append, List.length_cons, List.length_nil]
            omega
          have there := induction (before ++ [name]) fun other shorter => by
            apply same
            simp only [List.length_append, List.length_cons, List.length_nil] at shorter ⊢
            omega
          simp only [obstacleFrom, here, there]

theorem obstacle_congr
    (same : ∀ other : Path, other.length < path.length → next.get? other = tree.get? other) :
    next.obstacle path = tree.obstacle path := by
  apply obstacle_from_congr
  simpa using same

theorem obstacle_from_beside (before names : Path) (last other : String) :
    tree.obstacleFrom before (names ++ [last]) = tree.obstacleFrom before (names ++ [other]) := by
  induction names generalizing before with
  | nil => rfl
  | cons name rest induction =>
      have further := induction (before ++ [name])
      cases rest with
      | nil => rfl
      | cons second rest =>
          simp only [List.cons_append, obstacleFrom] at further ⊢
          rw [further]

/-- The way to two files of one directory is the same. -/
theorem obstacle_beside (directory : Path) (last other : String) :
    tree.obstacle (directory ++ [last]) = tree.obstacle (directory ++ [other]) :=
  obstacle_from_beside [] directory last other

/-- Reading a file depends on its path and on shorter ones. -/
theorem read_congr (same : ∀ other : Path, other.length < path.length →
      next.get? other = tree.get? other) (itself : next.get? path = tree.get? path) :
    next.read path = tree.read path := by
  simp only [read, obstacle_congr same, itself]

theorem get_shorter (entry : FileEntry) (shorter : other.length < path.length) :
    (tree.put path entry).get? other = tree.get? other := by
  cases other with
  | nil => rfl
  | cons name names =>
      rw [get_put entry (by simp), if_neg]
      rintro rfl
      exact Nat.lt_irrefl _ shorter

theorem read_put_elsewhere (entry : FileEntry) (named : other ≠ []) (different : other ≠ path)
    (asLong : other.length ≤ path.length) : (tree.put path entry).read other = tree.read other := by
  apply read_congr
  · intro shorter less
    exact get_shorter entry (Nat.lt_of_lt_of_le less asLong)
  · rw [get_put entry named, if_neg different]

theorem read_erase_elsewhere (named : other ≠ []) (different : other ≠ path)
    (asLong : other.length ≤ path.length) : (tree.erase path).read other = tree.read other := by
  apply read_congr
  · intro shorter less
    cases shorter with
    | nil => rfl
    | cons name names =>
        rw [get_erase path (by simp), if_neg]
        rintro rfl
        exact Nat.lt_irrefl _ (Nat.lt_of_lt_of_le less asLong)
  · rw [get_erase path named, if_neg different]

theorem read_put_itself (named : path ≠ []) (content : Bytes)
    (clear : tree.obstacle path = none) :
    (tree.put path (.file content)).read path = .ok content := by
  have same : (tree.put path (.file content)).obstacle path = tree.obstacle path :=
    obstacle_congr fun other shorter => get_shorter _ shorter
  simp [read, same, clear, get_put _ named]

theorem clear_of_read {content : Bytes} (found : tree.read path = .ok content) :
    tree.obstacle path = none := by
  unfold read at found
  split at found
  · cases found
  · assumption

theorem write_cases {content : Bytes} (written : tree.write path content = .ok next) :
    tree.obstacle path = none ∧ next = tree.put path (.file content) := by
  unfold write at written
  split at written
  · cases written
  · rename_i clear
    split at written
    · cases written
    · exact ⟨clear, (Except.ok.inj written).symm⟩

theorem rename_cases {source target : Path} (renamed : tree.rename source target = .ok next) :
    ∃ content, tree.read source = .ok content ∧ tree.obstacle target = none ∧
      next = (tree.erase source).put target (.file content) := by
  unfold rename at renamed
  cases found : tree.read source with
  | error fault =>
      rw [found] at renamed
      cases renamed
  | ok content =>
      rw [found] at renamed
      simp only [bind, Except.bind] at renamed
      split at renamed
      · cases renamed
      · rename_i clear
        split at renamed
        · cases renamed
        · exact ⟨content, rfl, clear, (Except.ok.inj renamed).symm⟩

/-- The first step of a way that is clear and goes on is into a directory. -/
theorem onward_of_clear {before : Path} {name : String} {names : List String}
    (clear : tree.obstacleFrom before (name :: names) = none) (further : names ≠ []) :
    tree.get? (before ++ [name]) = some .directory ∧
      tree.obstacleFrom (before ++ [name]) names = none := by
  cases names with
  | nil => exact absurd rfl further
  | cons second names =>
      simp only [obstacleFrom] at clear
      split at clear
      · cases clear
      · cases clear
      · exact ⟨‹_›, clear⟩

theorem ensure_from_clear (before : Path) (names : List String) (last : String)
    (clear : tree.obstacleFrom before (names ++ [last]) = none) :
    tree.ensureFrom before names = .ok tree := by
  induction names generalizing before with
  | nil => rfl
  | cons name rest induction =>
      obtain ⟨here, further⟩ := onward_of_clear clear (by simp)
      have stays : tree.ensureDirectory (before ++ [name]) = .ok tree := by
        simp [ensureDirectory, here]
      simp only [ensureFrom, stays, bind, Except.bind]
      exact induction _ further

theorem directory_of_clear (before : Path) (init : List String) (final last : String)
    (clear : tree.obstacleFrom before (init ++ [final] ++ [last]) = none) :
    tree.obstacleFrom before (init ++ [final]) = none ∧
      tree.get? (before ++ (init ++ [final])) = some .directory := by
  induction init generalizing before with
  | nil => exact ⟨rfl, (onward_of_clear clear (by simp)).1⟩
  | cons name rest induction =>
      obtain ⟨here, further⟩ := onward_of_clear clear (by simp)
      obtain ⟨free, there⟩ := induction _ further
      rw [List.append_assoc] at there
      refine ⟨?_, there⟩
      cases rest <;> simp [obstacleFrom, here] at free ⊢
      exact free

theorem make_directories_grown {grown : FileTree} (named : path ≠ [])
    (ensured : tree.ensureFrom [] path.dropLast = .ok grown) :
    tree.makeDirectories path = grown.ensureDirectory path := by
  cases path with
  | nil => exact absurd rfl named
  | cons name names =>
      unfold makeDirectories
      rw [ensured]
      rfl

theorem make_directories_clear (last : String) (clear : tree.obstacle (path ++ [last]) = none) :
    tree.makeDirectories path = .ok tree := by
  rcases List.eq_nil_or_concat path with rfl | ⟨init, final, rfl⟩
  · rfl
  · rw [List.concat_eq_append] at clear ⊢
    obtain ⟨free, there⟩ := directory_of_clear [] init final last clear
    have ensured := ensure_from_clear [] init final free
    have stays : tree.ensureDirectory (init ++ [final]) = .ok tree := by
      simp [ensureDirectory, show tree.get? (init ++ [final]) = some .directory from there]
    rw [make_directories_grown (by simp) (by rw [List.dropLast_concat]; exact ensured)]
    exact stays

/-- Every directory on the way to a path is there, and the path itself is one. -/
def Reaches (tree : FileTree) (path : Path) : Prop :=
  ∀ part, part <+: path → tree.get? part = some .directory

/-- No file stands on the way to a path, nor in its place. -/
def Passable (tree : FileTree) (path : Path) : Prop :=
  ∀ part, part <+: path → ∀ content, tree.get? part ≠ some (.file content)

theorem not_within (path : Path) (last : String) : ¬ path ++ [last] <+: path := by
  intro within
  have short := within.length_le
  rw [List.length_append, List.length_singleton] at short
  omega

theorem Reaches.root (tree : FileTree) : tree.Reaches [] := by
  intro part within
  rw [List.prefix_nil.mp within]
  rfl

theorem obstacle_from_reached (before names : Path) (last : String)
    (reached : tree.Reaches (before ++ names)) :
    tree.obstacleFrom before (names ++ [last]) = none := by
  induction names generalizing before with
  | nil => rfl
  | cons name rest induction =>
      have step : before ++ name :: rest = before ++ [name] ++ rest := List.append_cons ..
      have here := reached (before ++ [name]) (step ▸ List.prefix_append _ _)
      have there := induction (before ++ [name]) (step ▸ reached)
      obtain ⟨next, more, onward⟩ :=
        List.exists_cons_of_ne_nil
          (List.append_ne_nil_of_right_ne_nil rest (List.cons_ne_nil last []))
      rw [onward] at there
      rw [List.cons_append, onward]
      simp only [obstacleFrom, here, there]

theorem Reaches.clear (reached : tree.Reaches path) (last : String) :
    tree.obstacle (path ++ [last]) = none :=
  obstacle_from_reached [] path last reached

theorem Reaches.congr {next : FileTree} (reached : tree.Reaches path)
    (same : ∀ part, part <+: path → next.get? part = tree.get? part) : next.Reaches path :=
  fun part within => (same part within).trans (reached part within)

theorem Reaches.put (reached : tree.Reaches path) (name : String) (entry : FileEntry) :
    (tree.put (path ++ [name]) entry).Reaches path := by
  refine reached.congr fun part within => get_shorter entry ?_
  have short := within.length_le
  rw [List.length_append, List.length_singleton]
  omega

theorem Reaches.erase (reached : tree.Reaches path) (name : String) :
    (tree.erase (path ++ [name])).Reaches path := by
  refine reached.congr fun part within => ?_
  cases part with
  | nil => rfl
  | cons first rest =>
      rw [get_erase _ (by simp), if_neg]
      intro same
      exact not_within path name (same ▸ within)

theorem Reaches.passable (reached : tree.Reaches path) : tree.Passable path := by
  intro part within content
  rw [reached part within]
  simp

/-- A directory grows into a tree that holds everything else as it was. -/
theorem ensure_directory_passable {name : String} (reached : tree.Reaches path)
    (free : ∀ content, tree.get? (path ++ [name]) ≠ some (.file content)) :
    ∃ grown, tree.ensureDirectory (path ++ [name]) = .ok grown ∧
      grown.Reaches (path ++ [name]) ∧
      ∀ other, other ≠ path ++ [name] → grown.get? other = tree.get? other := by
  cases there : tree.get? (path ++ [name]) with
  | none =>
      refine ⟨tree.put (path ++ [name]) .directory, ?_, ?_, ?_⟩
      · simp [ensureDirectory, makeDirectory, there, reached.clear name]
      · intro part within
        rcases List.prefix_concat_iff.mp within with rfl | before
        · rw [get_put _ (by simp), if_pos rfl]
        · rw [get_shorter]
          · exact reached part before
          · have short := before.length_le
            rw [List.length_append, List.length_singleton]
            omega
      · intro other different
        cases other with
        | nil => rfl
        | cons first rest => rw [get_put _ (by simp), if_neg different]
  | some entry =>
      cases entry with
      | file content => exact absurd there (free content)
      | directory =>
          refine ⟨tree, by simp [ensureDirectory, there], ?_, fun _ _ => rfl⟩
          intro part within
          rcases List.prefix_concat_iff.mp within with rfl | before
          · exact there
          · exact reached part before

/-- A directory that could be made can be entered from above, and everything else is as
it was. -/
theorem ensure_directory_reached {name : String} {grown : FileTree} (reached : tree.Reaches path)
    (ensured : tree.ensureDirectory (path ++ [name]) = .ok grown) :
    grown.Reaches (path ++ [name]) ∧
      ∀ other, other ≠ path ++ [name] → grown.get? other = tree.get? other := by
  have free (content : Bytes) : tree.get? (path ++ [name]) ≠ some (.file content) := by
    intro file
    simp [ensureDirectory, makeDirectory, file, reached.clear name] at ensured
  obtain ⟨made, same, arrived, others⟩ := ensure_directory_passable reached free
  obtain rfl := Except.ok.inj (same.symm.trans ensured)
  exact ⟨arrived, others⟩

theorem ensure_from_reached (before names : Path) {grown : FileTree}
    (reached : tree.Reaches before) (ensured : tree.ensureFrom before names = .ok grown) :
    grown.Reaches (before ++ names) ∧
      ∀ other, ¬ other <+: before ++ names → grown.get? other = tree.get? other := by
  induction names generalizing tree before with
  | nil =>
      obtain rfl := Except.ok.inj ensured
      rw [List.append_nil]
      exact ⟨reached, fun _ _ => rfl⟩
  | cons name rest induction =>
      have step : before ++ name :: rest = before ++ [name] ++ rest := List.append_cons ..
      cases made : tree.ensureDirectory (before ++ [name]) with
      | error fault => simp [ensureFrom, made, bind, Except.bind] at ensured
      | ok way =>
          simp only [ensureFrom, made, bind, Except.bind] at ensured
          obtain ⟨entered, same⟩ := ensure_directory_reached reached made
          obtain ⟨arrived, others⟩ := induction (before ++ [name]) entered ensured
          rw [step]
          refine ⟨arrived, fun other outside => ?_⟩
          rw [others other outside, same other]
          rintro rfl
          exact outside (List.prefix_append _ _)

theorem make_directories_reached {grown : FileTree} (made : tree.makeDirectories path = .ok grown) :
    grown.Reaches path ∧ ∀ other, ¬ other <+: path → grown.get? other = tree.get? other := by
  rcases List.eq_nil_or_concat path with rfl | ⟨init, final, rfl⟩
  · obtain rfl := Except.ok.inj made
    exact ⟨.root _, fun _ _ => rfl⟩
  · rw [List.concat_eq_append] at made ⊢
    cases ensured : tree.ensureFrom [] init with
    | error fault =>
        have failed : ∃ other, tree.makeDirectories (init ++ [final]) = .error other := by
          obtain ⟨first, rest, split⟩ := List.exists_cons_of_ne_nil
            (List.append_ne_nil_of_right_ne_nil init (List.cons_ne_nil final []))
          have way : (first :: rest).dropLast = init := by rw [← split, List.dropLast_concat]
          rw [split]
          simp only [makeDirectories, way, ensured]
          cases fault <;> exact ⟨_, rfl⟩
        obtain ⟨other, failed⟩ := failed
        cases failed.symm.trans made
    | ok way =>
        rw [make_directories_grown (by simp) (by rw [List.dropLast_concat]; exact ensured)] at made
        obtain ⟨reached, same⟩ := ensure_from_reached [] init (.root tree) ensured
        obtain ⟨arrived, others⟩ := ensure_directory_reached reached made
        refine ⟨arrived, fun other outside => ?_⟩
        rw [others, same]
        · exact fun within => outside (within.trans (List.prefix_append _ _))
        · rintro rfl
          exact outside (List.prefix_refl _)

theorem ensure_from_passable (before names : Path) (reached : tree.Reaches before)
    (passable : tree.Passable (before ++ names)) :
    ∃ grown, tree.ensureFrom before names = .ok grown := by
  induction names generalizing tree before with
  | nil => exact ⟨tree, rfl⟩
  | cons name rest induction =>
      have step : before ++ name :: rest = before ++ [name] ++ rest := List.append_cons ..
      rw [step] at passable
      obtain ⟨way, ensured, entered, same⟩ := ensure_directory_passable reached
        (passable (before ++ [name]) (List.prefix_append _ _))
      have still : way.Passable (before ++ [name] ++ rest) := by
        intro part within content
        by_cases itself : part = before ++ [name]
        · rw [itself, entered _ (List.prefix_refl _)]
          simp
        · rw [same part itself]
          exact passable part within content
      obtain ⟨grown, further⟩ := induction (before ++ [name]) entered still
      refine ⟨grown, ?_⟩
      simp only [ensureFrom, ensured, bind, Except.bind]
      exact further

theorem make_directories_passable (passable : tree.Passable path) :
    ∃ grown, tree.makeDirectories path = .ok grown ∧ grown.Reaches path ∧
      ∀ other, ¬ other <+: path → grown.get? other = tree.get? other := by
  rcases List.eq_nil_or_concat path with rfl | ⟨init, final, rfl⟩
  · exact ⟨tree, rfl, .root tree, fun _ _ => rfl⟩
  · rw [List.concat_eq_append] at passable ⊢
    obtain ⟨way, ensured⟩ := ensure_from_passable [] init (.root tree)
      fun part within => passable part (within.trans (List.prefix_append _ _))
    obtain ⟨reached, same⟩ := ensure_from_reached [] init (.root tree) ensured
    have free (content : Bytes) : way.get? (init ++ [final]) ≠ some (.file content) := by
      rw [same]
      · exact passable _ (List.prefix_refl _) content
      · exact not_within init final
    obtain ⟨grown, last, -⟩ := ensure_directory_passable reached free
    have made : tree.makeDirectories (init ++ [final]) = .ok grown := by
      rw [make_directories_grown (by simp) (by rw [List.dropLast_concat]; exact ensured)]
      exact last
    exact ⟨grown, made, make_directories_reached made⟩

theorem write_free {content : Bytes} (clear : tree.obstacle path = none)
    (free : tree.get? path ≠ some .directory) :
    tree.write path content = .ok (tree.put path (.file content)) := by
  unfold write
  simp only [clear]

theorem rename_free {source target : Path} {content : Bytes}
    (read : tree.read source = .ok content) (clear : tree.obstacle target = none)
    (free : tree.get? target ≠ some .directory) :
    tree.rename source target = .ok ((tree.erase source).put target (.file content)) := by
  unfold rename
  simp only [read, bind, Except.bind, clear]

theorem remove_absent (absent : tree.get? path = none) : tree.remove path = tree := by
  unfold remove read
  rw [absent]
  cases tree.obstacle path <;> rfl

theorem remove_file {content : Bytes} (clear : tree.obstacle path = none)
    (there : tree.get? path = some (.file content)) : tree.remove path = tree.erase path := by
  unfold remove read
  simp only [clear, there]

theorem get_removed (named : path ≠ []) (clear : tree.obstacle path = none)
    (regular : tree.get? path ≠ some .directory) :
    (tree.remove path).get? path = none ∧
      ∀ other, other ≠ path → (tree.remove path).get? other = tree.get? other := by
  cases there : tree.get? path with
  | none =>
      rw [remove_absent there]
      exact ⟨there, fun _ _ => rfl⟩
  | some entry =>
      cases entry with
      | directory => exact absurd there regular
      | file content =>
          rw [remove_file clear there]
          refine ⟨by rw [get_erase path named, if_pos rfl], fun other different => ?_⟩
          cases other with
          | nil => rfl
          | cons name names => rw [get_erase path (by simp), if_neg different]

end FileTree

namespace DirectoryStore

variable {tree : FileTree} {directory draft path other : Path} {last : String} {content : Bytes}

/-- What replacing a document comes to when the directory can be entered. -/
inductive Replaced (tree : FileTree) (draft path : Path) (content : Bytes) :
    Except FileFault Unit × FileTree → Prop
  | unwritten (fault : FileFault) : Replaced tree draft path content (.error fault, tree)
  | unnamed (fault : FileFault) :
      Replaced tree draft path content (.error fault, tree.put draft (.file content))
  | renamed (clear : tree.obstacle path = none) : Replaced tree draft path content
      (.ok (), ((tree.put draft (.file content)).erase draft).put path (.file content))

theorem replace_cases (clear : tree.obstacle (directory ++ [last]) = none) (named : draft ≠ [])
    (beside : draft.length = path.length) :
    Replaced tree draft path content (replace tree directory draft path content) := by
  unfold replace
  rw [FileTree.make_directories_clear last clear]
  cases written : tree.write draft content with
  | error fault =>
      simp only [written]
      exact .unwritten fault
  | ok drafted =>
      obtain ⟨free, rfl⟩ := FileTree.write_cases written
      cases renamed : (tree.put draft (.file content)).rename draft path with
      | error fault =>
          simp only [written, renamed]
          exact .unnamed fault
      | ok next =>
          obtain ⟨read, found, way, rfl⟩ := FileTree.rename_cases renamed
          rw [FileTree.read_put_itself named content free, Except.ok.injEq] at found
          subst found
          simp only [written, renamed]
          refine .renamed ?_
          rw [← way]
          refine (FileTree.obstacle_congr fun other shorter => ?_).symm
          exact FileTree.get_shorter _ (by omega)

theorem Replaced.elsewhere {result : Except FileFault Unit × FileTree}
    (replaced : Replaced tree draft path content result) (named : other ≠ [])
    (notDraft : other ≠ draft) (notPath : other ≠ path) (beside : draft.length = path.length)
    (besideOther : other.length = path.length) : result.2.read other = tree.read other := by
  have drafted := @FileTree.read_put_elsewhere tree draft other (.file content) named notDraft
    (by omega)
  cases replaced with
  | unwritten fault => rfl
  | unnamed fault => exact drafted
  | renamed clear =>
      rw [FileTree.read_put_elsewhere _ named notPath (by omega),
        FileTree.read_erase_elsewhere named notDraft (by omega), drafted]

theorem Replaced.refused {result : Except FileFault Unit × FileTree} {fault : FileFault}
    (replaced : Replaced tree draft path content result) (failed : result.1 = .error fault)
    (named : path ≠ []) (different : path ≠ draft) (beside : draft.length = path.length) :
    result.2.read path = tree.read path := by
  cases replaced with
  | unwritten fault => rfl
  | unnamed fault => exact FileTree.read_put_elsewhere _ named different (by omega)
  | renamed clear => cases failed

theorem Replaced.saved {result : Except FileFault Unit × FileTree}
    (replaced : Replaced tree draft path content result) (saved : result.1 = .ok ())
    (named : path ≠ []) (beside : draft.length = path.length) :
    result.2.read path = .ok content := by
  cases replaced with
  | unwritten fault => cases saved
  | unnamed fault => cases saved
  | renamed clear =>
      refine FileTree.read_put_itself named content ?_
      rw [← clear]
      refine FileTree.obstacle_congr fun other shorter => ?_
      cases other with
      | nil => rfl
      | cons name names =>
          rw [FileTree.get_erase draft (by simp), if_neg, FileTree.get_shorter _ (by omega)]
          intro same
          rw [same] at shorter
          omega

variable {store : DirectoryStore}

theorem keys_elsewhere (store : DirectoryStore) :
    store.keysPath ≠ [] ∧ store.keysPath ≠ store.certificateDraftPath ∧
      store.keysPath ≠ store.certificatePath ∧ store.certificatePath ≠ [] ∧
      store.certificatePath ≠ store.certificateDraftPath ∧ store.certificateDraftPath ≠ [] := by
  simp [keysPath, certificatePath, certificateDraftPath]

/-- Keys that can be read are the ones in the file. -/
theorem keys_found (found : store.keys.1.isSome = true) :
    store.keys.2 = store ∧ store.tree.obstacle store.keysPath = none := by
  unfold keys at found ⊢
  cases read : store.readText store.keysPath with
  | none => simp [read] at found
  | some content =>
      simp only [read] at found ⊢
      cases understood : readKeys content with
      | none => simp [understood] at found
      | some keys =>
          refine ⟨rfl, ?_⟩
          unfold readText at read
          cases there : store.tree.read store.keysPath with
          | error fault => simp [there] at read
          | ok content => exact FileTree.clear_of_read there

theorem store_replaced (certificate : Certificate) (features : Option Features)
    (found : store.keys.1.isSome = true) :
    Replaced store.tree store.certificateDraftPath store.certificatePath
      (CertificateDocument.ofCertificate certificate features).toBytes
      (replace store.tree store.directory store.certificateDraftPath store.certificatePath
        (CertificateDocument.ofCertificate certificate features).toBytes) :=
  replace_cases (keys_found found).2 store.keys_elsewhere.2.2.2.2.2
    (by simp [certificatePath, certificateDraftPath])

/-- Storing a certificate leaves keys that can be read as they are. -/
theorem store_same_keys (certificate : Certificate) (features : Option Features)
    (found : store.keys.1.isSome = true) :
    (store.store certificate features).2.keys.1 = store.keys.1 := by
  obtain ⟨named, notDraft, notPath, -⟩ := store.keys_elsewhere
  have same := (store_replaced certificate features found).elsewhere named notDraft notPath
    (by simp [certificatePath, certificateDraftPath]) (by simp [certificatePath, keysPath])
  have text : (store.store certificate features).2.readText store.keysPath =
      store.readText store.keysPath := by
    unfold readText
    rw [← same]
    rfl
  have path : (store.store certificate features).2.keysPath = store.keysPath := rfl
  unfold keys
  rw [path, text]
  cases store.readText store.keysPath with
  | none => rfl
  | some content => cases understood : readKeys content <;> simp only [understood]

theorem store_refused {certificate : Certificate} {features : Option Features} {fault : FileFault}
    (found : store.keys.1.isSome = true)
    (failed : (store.store certificate features).1 = .error fault) :
    (store.store certificate features).2.certificateDocument = store.certificateDocument := by
  obtain ⟨-, -, -, named, different, -⟩ := store.keys_elsewhere
  have same := (store_replaced certificate features found).refused failed named different
    (by simp [certificatePath, certificateDraftPath])
  have text : (store.store certificate features).2.readText store.certificatePath =
      store.readText store.certificatePath := by
    unfold readText
    rw [← same]
    rfl
  have path : (store.store certificate features).2.certificatePath = store.certificatePath := rfl
  unfold certificateDocument
  rw [path, text]

section

variable {draft name : String}

/-- A document is replaced when nothing stands in the way. -/
theorem replace_passable (content : Bytes) (passable : tree.Passable directory)
    (different : draft ≠ name) (draftFree : tree.get? (directory ++ [draft]) ≠ some .directory)
    (nameFree : tree.get? (directory ++ [name]) ≠ some .directory) :
    ∃ renamed, replace tree directory (directory ++ [draft]) (directory ++ [name]) content =
        (.ok (), renamed) ∧ renamed.Reaches directory ∧
      ∀ other, renamed.get? (directory ++ [other]) = if other = name then some (.file content)
        else if other = draft then none else tree.get? (directory ++ [other]) := by
  obtain ⟨grown, made, reached, same⟩ := FileTree.make_directories_passable passable
  rw [← same _ (FileTree.not_within directory draft)] at draftFree
  rw [← same _ (FileTree.not_within directory name)] at nameFree
  have path (other : String) : directory ++ [other] ≠ [] := by simp
  have apart {one other : String} : directory ++ [one] = directory ++ [other] ↔ one = other := by
    simp
  let drafted := grown.put (directory ++ [draft]) (.file content)
  let renamed := (drafted.erase (directory ++ [draft])).put (directory ++ [name]) (.file content)
  have gets (other : String) : renamed.get? (directory ++ [other]) =
      if other = name then some (.file content)
      else if other = draft then none else grown.get? (directory ++ [other]) := by
    simp only [renamed, drafted, FileTree.get_put _ (path other),
      FileTree.get_erase _ (path other), apart]
    split
    · rfl
    · split <;> rfl
  have written : grown.write (directory ++ [draft]) content = .ok drafted :=
    FileTree.write_free (reached.clear draft) draftFree
  have way : drafted.Reaches directory := reached.put draft _
  have read : drafted.read (directory ++ [draft]) = .ok content :=
    FileTree.read_put_itself (path draft) content (reached.clear draft)
  have free : drafted.get? (directory ++ [name]) ≠ some .directory := by
    rw [FileTree.get_put _ (path name), if_neg (fun same => different (apart.mp same).symm)]
    exact nameFree
  have named := FileTree.rename_free read (way.clear name) free
  refine ⟨renamed, ?_, (way.erase draft).put name _, fun other => ?_⟩
  · unfold replace
    simp only [made, written, named]
    rfl
  · rw [gets, same _ (FileTree.not_within directory other)]

/-- Once its directory is there, a document is replaced in it. -/
theorem replace_made {grown : FileTree} (made : tree.makeDirectories directory = .ok grown)
    (content : Bytes) :
    Replaced grown (directory ++ [draft]) (directory ++ [name]) content
      (replace tree directory (directory ++ [draft]) (directory ++ [name]) content) := by
  have reached := (FileTree.make_directories_reached made).1
  have again : replace tree directory (directory ++ [draft]) (directory ++ [name]) content =
      replace grown directory (directory ++ [draft]) (directory ++ [name]) content := by
    simp only [replace, made, FileTree.make_directories_clear draft (reached.clear draft)]
  rw [again]
  exact replace_cases (reached.clear draft) (by simp) (by simp)

/-- What was replaced well is read back. -/
theorem replace_saved
    (saved : (replace tree directory (directory ++ [draft]) (directory ++ [name]) content).1 =
      .ok ()) :
    (replace tree directory (directory ++ [draft]) (directory ++ [name]) content).2.read
      (directory ++ [name]) = .ok content := by
  cases made : tree.makeDirectories directory with
  | error fault => simp [replace, made] at saved
  | ok grown => exact (replace_made made content).saved saved (by simp) (by simp)

end

end DirectoryStore

end CertRenewal
