import Mathlib.Data.List.Basic
import TestImpact.Analysis.Repository
import TestImpact.Proofs.LineArithmetic
import TestImpact.Proofs.LiveTargets
import TestImpact.Proofs.Pool

/-! Analysis of a repository, with its history or without it. Of the queries to git two decide which
way is taken: whether the root is in a work tree, and which files changed. The others are absorbed:
without a merge base the base itself is compared with, and a file whose diff cannot be had is left
out. What is told of a file depends on its own diff and its own source only; but a diff whose line
numbers go past the last one ends the whole run. -/

namespace TestImpact

namespace Git

/-- Git answers that the root is in a work tree. -/
def InWorkTree (git : Git) : Prop :=
  ∃ text, git.textOf workTreeQuery = .ok text ∧ Text.trim text = "true"

theorem inWorkTree_iff (git : Git) : git.InWorkTree ↔ git.isWorkTree.value = true := by
  rw [isWorkTree, Asked.value_bind, ask]
  cases answer : git.textOf workTreeQuery with
  | ok text =>
    refine ⟨?_, fun told => ⟨text, answer, beq_iff_eq.1 told⟩⟩
    rintro ⟨other, same, told⟩
    rw [answer] at same
    cases same
    exact beq_iff_eq.2 told
  | error e =>
    refine iff_of_false ?_ Bool.false_ne_true
    rintro ⟨text, same, -⟩
    rw [answer] at same
    cases same

/-- The revision to compare with for a base: the merge base that git tells, else the base itself. -/
def revisionFor (git : Git) (base : String) : String :=
  match git.textOf (mergeBaseQuery base) with
  | .ok text => if (Text.trim text).isEmpty then base else Text.trim text
  | .error _ => base

theorem revisionFor_eq (git : Git) (base : String) :
    git.revisionFor base = (git.mergeBase base).value.toOption.getD base := by
  rw [revisionFor, mergeBase, Asked.value_bind, ask]
  cases git.textOf (mergeBaseQuery base) with
  | error e => rfl
  | ok text =>
    dsimp only [Asked.value_pure]
    by_cases none : (Text.trim text).isEmpty
    · rw [if_pos none, if_pos none]
      rfl
    · rw [if_neg none, if_neg none]
      rfl

/-- The revision that the present state is compared with. -/
def comparedRevision (git : Git) (config : Config) : String :=
  git.revisionFor (config.baseRef.getD git.baseBranch.value)

/-- No history can be used: git does not say that the root is in a work tree, or it does not tell
which files changed since the revision to compare with. -/
def NeedsFallback (git : Git) (config : Config) : Prop :=
  ¬ git.InWorkTree ∨
    ∃ e, git.textOf (changedFilesQuery (git.comparedRevision config)) = .error e

/-- The paths that git lists as changed; empty ones say nothing. -/
def listedPaths (git : Git) (config : Config) : List String :=
  match git.textOf (changedFilesQuery (git.comparedRevision config)) with
  | .ok text => nulSeparated text
  | .error _ => []

end Git

/-! ## The way that is taken -/

theorem value_baseRevision (git : Git) (config : Config) :
    (baseRevision git config).value =
      if git.isWorkTree.value then .ok (git.comparedRevision config)
      else .error (.notWorkTree config.root) := by
  have settled (base : String) :
      (match (git.mergeBase base).value with
        | .ok revision => (pure (.ok revision) : Asked (Except HistoryError String))
        | .error _ => pure (.ok base)).value = .ok (git.revisionFor base) := by
    rw [Git.revisionFor_eq]
    cases (git.mergeBase base).value with
    | ok revision => rfl
    | error e => rfl
  rw [baseRevision, Asked.value_bind, Git.comparedRevision]
  cases git.isWorkTree.value with
  | false => rfl
  | true =>
    cases config.baseRef with
    | some base => exact settled base
    | none => exact settled git.baseBranch.value

/-- What git tells of the changes of one file. -/
def Git.diffSince (git : Git) (config : Config) (path : String) : Except HistoryError String :=
  git.textOf (Git.fileDiffQuery (git.comparedRevision config) path)

theorem value_repositoryDiffs_of_history {git : Git} {config : Config}
    (history : ¬ git.NeedsFallback config) (filter : FileFilter) :
    (repositoryDiffs git config filter).value =
      .ok (((git.listedPaths config).filter filter.accepts).filterMap fun path =>
        (git.diffSince config path).toOption.map fun diff => (path, diff)) := by
  obtain ⟨inside, told⟩ := not_or.1 history
  rw [Git.inWorkTree_iff, Classical.not_not] at inside
  rw [repositoryDiffs, Asked.value_bind, value_baseRevision, if_pos inside]
  dsimp only
  rw [Asked.value_bind, Git.changedFiles, Asked.value_bind, Git.listedPaths]
  cases answer : git.textOf (Git.changedFilesQuery (git.comparedRevision config)) with
  | error e => exact absurd ⟨e, answer⟩ told
  | ok text =>
    simp only [Git.ask, answer, Asked.value_pure, Except.map, Pool.runOrdered_eq_map,
      List.filterMap_map]
    rfl

theorem value_repositoryDiffs_of_needsFallback {git : Git} {config : Config}
    (needed : git.NeedsFallback config) (filter : FileFilter) :
    ∃ e, (repositoryDiffs git config filter).value = .error e := by
  rw [repositoryDiffs, Asked.value_bind, value_baseRevision]
  by_cases inside : git.isWorkTree.value
  · rw [if_pos inside]
    rcases needed with outside | ⟨e, answer⟩
    · exact absurd (git.inWorkTree_iff.2 inside) outside
    · refine ⟨e, ?_⟩
      dsimp only
      rw [Asked.value_bind, Git.changedFiles, Asked.value_bind]
      simp only [Git.ask, answer, Asked.value_pure, Except.map]
  · rw [if_neg inside]
    exact ⟨_, rfl⟩

/-! ## The analysis -/

/-- Git tells the diff of a listed file that is worth targets, and a line number in it is past the last
one. -/
def Git.TellsOverflow (git : Git) (config : Config) : Prop :=
  ∃ path ∈ (git.listedPaths config).filter (FileFilter.ofPatterns config.exclude).accepts,
    ∃ diff, git.diffSince config path = .ok diff ∧ Diff.FileDiff.parse diff = .error .overflow

theorem readDiff?_eq_none_iff {diff : String} :
    readDiff? diff = none ↔ Diff.FileDiff.parse diff = .error .overflow := by
  unfold readDiff?
  rcases Diff.FileDiff.parse diff with (_ | _) | file
  · exact iff_of_false nofun nofun
  · exact iff_of_true rfl rfl
  · exact iff_of_false nofun nofun

/-- The change of a file whose diff git tells: that of this diff and the present source. -/
def changeSince? (g : Grammar) (git : Git) (fs : FileSystem) (config : Config) (path : String) :
    Option FileChange :=
  (git.diffSince config path).toOption.bind fun diff =>
    analyzeFile g path diff (fs.readText (Path.join config.root path)).toOption

/-- The changes of the listed files that are worth targets and whose diff git tells, in the order of
the list. -/
def changesSince (g : Grammar) (git : Git) (fs : FileSystem) (config : Config) : List FileChange :=
  ((git.listedPaths config).filter (FileFilter.ofPatterns config.exclude).accepts).filterMap
    (changeSince? g git fs config)

theorem value_analyzeRepository_of_history {git : Git} {config : Config}
    (history : ¬ git.NeedsFallback config) (g : Grammar) (fs : FileSystem) :
    (git.TellsOverflow config → (analyzeRepository g git fs config).value = none) ∧
      (¬ git.TellsOverflow config → (analyzeRepository g git fs config).value =
        some (.ok (.ofFiles (changesSince g git fs config) false))) := by
  rw [analyzeRepository, Asked.value_bind, value_repositoryDiffs_of_history history]
  dsimp only [Asked.value_pure]
  rw [Pool.runOrdered_eq_map, List.mapM_map]
  constructor
  · rintro ⟨path, listed, diff, told, beyond⟩
    have member : (path, diff) ∈ ((git.listedPaths config).filter
        (FileFilter.ofPatterns config.exclude).accepts).filterMap fun path =>
          (git.diffSince config path).toOption.map fun diff => (path, diff) := by
      refine List.mem_filterMap.2 ⟨path, listed, ?_⟩
      rw [told]
      rfl
    refine congrArg (Option.map _) (Pool.mapM_eq_none member ?_)
    exact congrArg (Option.map _) (readDiff?_eq_none_iff.2 beyond)
  · intro none_over
    rw [Pool.mapM_of_isSome, List.filterMap_filterMap, Option.map_some, changesSince]
    · have same (path : String) : changeSince? g git fs config path =
          ((git.diffSince config path).toOption.map fun diff => (path, diff)).bind
            fun told => analyzeFile g told.1 told.2
              (fs.readText (Path.join config.root told.1)).toOption := by
        rw [changeSince?, Option.bind_map]
        rfl
      rw [List.filterMap_congr fun path _ => same path]
      rfl
    · intro told member
      obtain ⟨path, listed, same⟩ := List.mem_filterMap.1 member
      obtain ⟨diff, found, rfl⟩ := Option.map_eq_some_iff.1 same
      rw [← Option.ne_none_iff_isSome]
      intro missing
      cases answer : git.diffSince config path with
      | error e =>
        rw [answer] at found
        cases found
      | ok text =>
        rw [answer] at found
        cases found
        exact none_over ⟨path, listed, _, answer,
          readDiff?_eq_none_iff.1 (Option.map_eq_none_iff.1 missing)⟩

theorem value_analyzeRepository_of_needsFallback {git : Git} {config : Config}
    (needed : git.NeedsFallback config) (g : Grammar) (fs : FileSystem) :
    (analyzeRepository g git fs config).value =
      some ((analyzeWithoutHistory g fs config.root (.ofPatterns config.exclude) config.workers).map
        fun files => .ofFiles files true) := by
  obtain ⟨e, failed⟩ :=
    value_repositoryDiffs_of_needsFallback needed (FileFilter.ofPatterns config.exclude)
  rw [analyzeRepository, Asked.value_bind, failed]
  rfl

theorem analyzeWithoutHistory_workers (g : Grammar) (fs : FileSystem) (root : String)
    (filter : FileFilter) (workers other : Nat) :
    analyzeWithoutHistory g fs root filter other =
      analyzeWithoutHistory g fs root filter workers := by
  rw [analyzeWithoutHistory, analyzeWithoutHistory]
  dsimp only
  rw [Pool.runOrdered_eq_map, Pool.runOrdered_eq_map]

/-- How many workers there are is not told. -/
theorem value_analyzeRepository_workers (g : Grammar) (git : Git) (fs : FileSystem)
    (config : Config) (workers : Nat) :
    (analyzeRepository g git fs { config with workers }).value =
      (analyzeRepository g git fs config).value := by
  by_cases needed : git.NeedsFallback config
  · have same : git.NeedsFallback { config with workers } := needed
    rw [value_analyzeRepository_of_needsFallback needed,
      value_analyzeRepository_of_needsFallback same,
      analyzeWithoutHistory_workers g fs config.root _ config.workers workers]
  · have same : ¬ git.NeedsFallback { config with workers } := needed
    obtain ⟨beyond, fits⟩ := value_analyzeRepository_of_history needed g fs
    obtain ⟨over_same, fits_same⟩ := value_analyzeRepository_of_history same g fs
    by_cases overflow : git.TellsOverflow config
    · rw [beyond overflow, over_same overflow]
    · rw [fits overflow, fits_same overflow]
      rfl

/-! ## One file and the others -/

/-- Two states of a repository that differ in one file at most: in what git tells of its changes, and
in its present source. -/
structure DifferIn (path : String) (config : Config) (git other : Git)
    (fs otherFs : FileSystem) : Prop where
  answers : ∀ query, query ≠ Git.fileDiffQuery (git.comparedRevision config) path →
    other.run query = git.run query
  sources : ∀ file, file ≠ path →
    otherFs.readText (Path.join config.root file) = fs.readText (Path.join config.root file)

namespace DifferIn

variable {path : String} {config : Config} {git other : Git} {fs otherFs : FileSystem}

theorem textOf_eq (differ : DifferIn path config git other fs otherFs) {query : List String}
    (elsewhere : query ≠ Git.fileDiffQuery (git.comparedRevision config) path) :
    other.textOf query = git.textOf query := by
  rw [Git.textOf, Git.textOf, differ.answers query elsewhere]

/-- Only the query for the diff of the file begins like that query. -/
theorem textOf_eq_of_head (differ : DifferIn path config git other fs otherFs) {first : String}
    {rest : List String} (elsewhere : first ≠ "diff") :
    other.textOf (first :: rest) = git.textOf (first :: rest) := by
  refine differ.textOf_eq fun same => elsewhere ?_
  exact (List.cons.inj same).1

theorem inWorkTree_iff (differ : DifferIn path config git other fs otherFs) :
    other.InWorkTree ↔ git.InWorkTree := by
  rw [Git.InWorkTree, Git.InWorkTree, Git.workTreeQuery, differ.textOf_eq_of_head (by decide)]

theorem comparedRevision_eq (differ : DifferIn path config git other fs otherFs) :
    other.comparedRevision config = git.comparedRevision config := by
  have head : other.textOf Git.remoteHeadQuery = git.textOf Git.remoteHeadQuery :=
    differ.textOf_eq_of_head (by decide)
  have main : other.textOf Git.mainBranchQuery = git.textOf Git.mainBranchQuery :=
    differ.textOf_eq_of_head (by decide)
  have base : other.baseBranch.value = git.baseBranch.value := by
    simp only [Git.baseBranch, Asked.value_bind, Git.ask, head, main]
  rw [Git.comparedRevision, Git.comparedRevision, base, Git.revisionFor, Git.revisionFor,
    Git.mergeBaseQuery, differ.textOf_eq_of_head (by decide)]

theorem textOf_changedFiles_eq (differ : DifferIn path config git other fs otherFs) :
    other.textOf (Git.changedFilesQuery (other.comparedRevision config)) =
      git.textOf (Git.changedFilesQuery (git.comparedRevision config)) := by
  rw [differ.comparedRevision_eq]
  refine differ.textOf_eq fun same => ?_
  have options : "--name-only" = "--no-color" := (List.cons.inj (List.cons.inj same).2).1
  exact absurd options (by decide)

theorem needsFallback_iff (differ : DifferIn path config git other fs otherFs) :
    other.NeedsFallback config ↔ git.NeedsFallback config := by
  rw [Git.NeedsFallback, Git.NeedsFallback, differ.inWorkTree_iff, differ.textOf_changedFiles_eq]

theorem changeSince?_eq (differ : DifferIn path config git other fs otherFs) (g : Grammar)
    {file : String} (elsewhere : file ≠ path) :
    changeSince? g other otherFs config file = changeSince? g git fs config file := by
  have answer : other.diffSince config file = git.diffSince config file := by
    rw [Git.diffSince, Git.diffSince, differ.comparedRevision_eq]
    refine differ.textOf_eq fun same => elsewhere ?_
    simpa only [Git.fileDiffQuery, List.cons.injEq, and_true, true_and] using same
  rw [changeSince?, changeSince?, answer, differ.sources file elsewhere]

/-- What is told of the other files does not change. -/
theorem changesSince_eq (differ : DifferIn path config git other fs otherFs) (g : Grammar) :
    (changesSince g other otherFs config).filter (·.file != path) =
      (changesSince g git fs config).filter (·.file != path) := by
  have listed : other.listedPaths config = git.listedPaths config := by
    rw [Git.listedPaths, Git.listedPaths, differ.textOf_changedFiles_eq]
  have none_here (git : Git) (fs : FileSystem) :
      (changeSince? g git fs config path).filter (·.file != path) = none := by
    rw [changeSince?, Option.filter_eq_none_iff]
    intro change told
    obtain ⟨diff, -, analyzed⟩ := Option.bind_eq_some_iff.1 told
    obtain ⟨d, -, rfl⟩ := analyzeFile_eq_some_iff.1 analyzed
    simp [changeOf]
  rw [changesSince, changesSince, listed, List.filter_filterMap, List.filter_filterMap]
  refine List.filterMap_congr fun file _ => ?_
  by_cases here : file = path
  · rw [here, none_here, none_here]
  · rw [differ.changeSince?_eq g here]

end DifferIn

/-- **The analysis of a repository fails only where nothing can be analyzed, or where a diff ends the
run.** Without a work tree or without a list of changed files it takes all files below the root, and is
an error only where the root is no directory. Otherwise it is no error: for each listed file that is
worth targets and whose diff git tells there is one change, in the order of the list, told by its diff
and its present source, unless a line number in one of these diffs is past the last one; then there is
no answer. What git answers and what there is to read for one file changes nothing else for the
others, and the number of workers changes nothing at all. -/
theorem analysis_degrades_unless_overflow (g : Grammar) (git : Git) (fs : FileSystem)
    (config : Config) :
    let result := (analyzeRepository g git fs config).value
    (git.NeedsFallback config →
      (fs.isDirectory config.root = false →
        result = some (.error (.rootNotDirectory config.root))) ∧
      (fs.isDirectory config.root = true → ∃ files, result = some (.ok (.ofFiles files true)))) ∧
    (¬ git.NeedsFallback config →
      (git.TellsOverflow config → result = none) ∧
      (¬ git.TellsOverflow config →
        result = some (.ok (.ofFiles (changesSince g git fs config) false))) ∧
      ∀ path other otherFs, DifferIn path config git other fs otherFs →
        ¬ other.TellsOverflow config →
        ∃ files,
          (analyzeRepository g other otherFs config).value = some (.ok (.ofFiles files false)) ∧
          files.filter (·.file != path) =
            (changesSince g git fs config).filter (·.file != path)) ∧
    ∀ workers, (analyzeRepository g git fs { config with workers }).value = result := by
  intro result
  refine ⟨fun needed => ?_, fun history => ?_, ?_⟩
  · have fallback : result = _ := value_analyzeRepository_of_needsFallback needed g fs
    rw [analyzeWithoutHistory] at fallback
    refine ⟨fun missing => ?_, fun there => ?_⟩
    · rw [fallback, missing]
      rfl
    · rw [fallback, if_pos there]
      exact ⟨_, rfl⟩
  · obtain ⟨beyond, fits⟩ := value_analyzeRepository_of_history history g fs
    refine ⟨beyond, fits, fun path other otherFs differ fits_there => ?_⟩
    have history_there := mt differ.needsFallback_iff.1 history
    exact ⟨_, (value_analyzeRepository_of_history history_there g otherFs).2 fits_there,
      differ.changesSince_eq g⟩
  · intro workers
    exact value_analyzeRepository_workers g git fs config workers

/-- Git that answers some queries with a text and fails at all others. -/
def Git.answering (answers : List (List String × String)) : Git where
  run query :=
    match answers.lookup query with
    | some text => .ok ⟨0, Text.encode text, []⟩
    | none => .ok ⟨128, [], []⟩

theorem Git.not_needsFallback {git : Git} {config : Config} (inside : git.isWorkTree.value = true)
    (told : (git.textOf (changedFilesQuery (git.comparedRevision config))).toOption.isSome = true) :
    ¬ git.NeedsFallback config := by
  rintro (outside | ⟨e, failed⟩)
  · exact outside (git.inWorkTree_iff.2 inside)
  · rw [failed] at told
    cases told

/-- Looks for a diff of a listed file whose line numbers go past the last one. -/
def Git.tellsOverflow (git : Git) (config : Config) : Bool :=
  ((git.listedPaths config).filter (FileFilter.ofPatterns config.exclude).accepts).any fun path =>
    ((git.diffSince config path).toOption.map readDiff?) == some none

theorem Git.tellsOverflow_iff {git : Git} {config : Config} :
    git.tellsOverflow config = true ↔ git.TellsOverflow config := by
  rw [tellsOverflow, List.any_eq_true, TellsOverflow]
  refine exists_congr fun path => and_congr_right fun _ => ?_
  cases git.diffSince config path with
  | error e => simp [Except.toOption]
  | ok diff => simp [Except.toOption, readDiff?_eq_none_iff]

/-- Without a merge base and without the diff of one file, three files are left, one of which has a
diff that cannot be read. When git tells nothing of this one either, the others stay as they are. A git
that does not start leaves the files below the root. -/
theorem analysis_degrades_unless_overflow_without_diff :
    let g : Grammar := ⟨fun _ _ _ => none⟩
    let config := { Config.withRoot "/r" 4 with baseRef := some "main" }
    let listing := [(Git.workTreeQuery, "true\n"),
      (Git.changedFilesQuery "main", "a.js\x00b.js\x00notes.md\x00c.js\x00"),
      (Git.fileDiffQuery "main" "c.js", "@@ -1 +1 @@\n-x\n+y\n")]
    let git := Git.answering ((Git.fileDiffQuery "main" "b.js", "@@ -1") :: listing)
    let other := Git.answering listing
    let stopped : Git := ⟨fun _ => .error "No such file or directory (os error 2)"⟩
    let bare : FileSystem := ⟨.empty, []⟩
    let rooted : FileSystem := ⟨.directory [("r", .empty)], []⟩
    ¬ git.NeedsFallback config ∧ ¬ git.TellsOverflow config ∧
      DifferIn "b.js" config git other bare bare ∧ ¬ other.TellsOverflow config ∧
      (changesSince g git bare config).map (·.file) = ["b.js", "c.js"] ∧
      (analyzeRepository g git bare config).value =
        some (.ok (.ofFiles (changesSince g git bare config) false)) ∧
      (∃ files, (analyzeRepository g other bare config).value = some (.ok (.ofFiles files false)) ∧
        files.filter (·.file != "b.js") =
          (changesSince g git bare config).filter (·.file != "b.js")) ∧
      stopped.NeedsFallback config ∧
      (analyzeRepository g stopped bare config).value = some (.error (.rootNotDirectory "/r")) ∧
      ∃ files, (analyzeRepository g stopped rooted config).value =
        some (.ok (.ofFiles files true)) := by
  intro g config listing git other stopped bare rooted
  have against : git.comparedRevision config = "main" := by decide +kernel
  have history : ¬ git.NeedsFallback config :=
    Git.not_needsFallback (by decide +kernel) (by decide +kernel)
  have fits : ¬ git.TellsOverflow config := mt Git.tellsOverflow_iff.2 (by decide +kernel)
  have fits_there : ¬ other.TellsOverflow config := mt Git.tellsOverflow_iff.2 (by decide +kernel)
  have differ : DifferIn "b.js" config git other bare bare := by
    refine ⟨fun query elsewhere => ?_, fun _ _ => rfl⟩
    rw [against] at elsewhere
    simp only [git, other, Git.answering, List.lookup_cons, beq_eq_false_iff_ne.2 elsewhere]
  have needed : stopped.NeedsFallback config := by
    refine .inl ?_
    rintro ⟨text, answer, -⟩
    cases answer
  have degrades := analysis_degrades_unless_overflow g
  obtain ⟨-, told, alone⟩ := (degrades git bare config).2.1 history
  refine ⟨history, fits, differ, fits_there, by decide +kernel, told fits,
    alone "b.js" other bare differ fits_there, needed, ?_, ?_⟩
  · exact ((degrades stopped bare config).1 needed).1 (by decide +kernel)
  · exact ((degrades stopped rooted config).1 needed).2 (by decide +kernel)

/-- One hunk past the last line number leaves no answer for any file, though git has told all that the
analysis asks for. -/
theorem no_answer_behind_last_number :
    let config := { Config.withRoot "/r" 4 with baseRef := some "main" }
    let git := Git.answering [(Git.workTreeQuery, "true\n"),
      (Git.changedFilesQuery "main", "a.js\x00c.js\x00"),
      (Git.fileDiffQuery "main" "a.js", Diff.hunkBehindLast),
      (Git.fileDiffQuery "main" "c.js", "@@ -1 +1 @@\n-x\n+y\n")]
    ¬ git.NeedsFallback config ∧ git.diffSince config "c.js" = .ok "@@ -1 +1 @@\n-x\n+y\n" ∧
      (∀ g fs, (analyzeRepository g git fs config).value = none) ∧
      ¬ ∀ g git fs config, ¬ git.NeedsFallback config →
        ∃ files, (analyzeRepository g git fs config).value = some (.ok (.ofFiles files false)) := by
  intro config git
  have history : ¬ git.NeedsFallback config :=
    Git.not_needsFallback (by decide +kernel) (by decide +kernel)
  have beyond : git.TellsOverflow config := Git.tellsOverflow_iff.1 (by decide +kernel)
  have no_answer (g : Grammar) (fs : FileSystem) : (analyzeRepository g git fs config).value = none :=
    (value_analyzeRepository_of_history history g fs).1 beyond
  refine ⟨history, by decide +kernel, no_answer, fun answered => ?_⟩
  obtain ⟨files, told⟩ := answered ⟨fun _ _ _ => none⟩ git ⟨.empty, []⟩ config history
  rw [no_answer] at told
  cases told

end TestImpact
