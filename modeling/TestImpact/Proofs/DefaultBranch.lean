import Mathlib.Data.List.DropRight
import TestImpact.Proofs.RepositoryAnalysis

/-! Which revision the changes of a repository are told against when none is configured. All queries
for changes name one revision, that of the branch which the remote's head points to. Of the name of this
branch only the part behind its last slash is read, so another branch may stand in for it. -/

namespace TestImpact

/-! ## The end of a text -/

namespace Text

variable {p : Char → Bool}

theorem dropEndWhile_append_of_all {s tail : List Char} (all : ∀ c ∈ tail, p c = true) :
    dropEndWhile p (s ++ tail) = dropEndWhile p s := by
  rw [dropEndWhile, List.reverse_append, List.dropWhile_append_of_pos, ← dropEndWhile]
  exact fun c mem => all c (List.mem_reverse.1 mem)

/-- Nothing is taken off in front of a character that stays. -/
theorem dropEndWhile_append_cons {c : Char} (stays : p c = false) (front back : List Char) :
    dropEndWhile p (front ++ c :: back) = front ++ c :: dropEndWhile p back := by
  induction back using List.reverseRecOn with
  | nil =>
    rw [dropEndWhile_concat, if_neg (Bool.not_eq_true _ ▸ stays)]
    rfl
  | append_singleton back d ih =>
    rw [← List.cons_append, ← List.append_assoc, dropEndWhile_concat, dropEndWhile_concat]
    by_cases taken : p d = true
    · rw [if_pos taken, if_pos taken, ih]
    · rw [if_neg taken, if_neg taken, List.append_assoc, List.cons_append]

theorem dropEndWhile_eq_self_iff {s : List Char} :
    dropEndWhile p s = s ↔ ∀ c, s.getLast? = some c → p c = false := by
  refine ⟨fun kept c last => ?_, dropEndWhile_of_getLast?⟩
  obtain ⟨front, rfl⟩ := List.getLast?_eq_some_iff.1 last
  have stays := List.rdropWhile_eq_self_iff.1 kept (List.concat_ne_nil c front)
  simpa using stays

end Text

/-- What asks nothing more adds no query. -/
theorem Asked.queries_bind_of_quiet {α β : Type} (a : Asked α) {f : α → Asked β}
    (quiet : ∀ value, (f value).queries = []) : (a >>= f).queries = a.queries := by
  rw [queries_bind, List.append_right_eq_self.2 (quiet a.value)]

namespace Git

/-! ## The name of a branch -/

/-- The part of a name behind its last slash, or the name itself if it has none. -/
def IsLastPart (name part : String) : Prop :=
  '/' ∉ part.toList ∧ (name = part ∨ ∃ front, name = front ++ "/" ++ part)

/-- What is read of the name of a branch: of the name without the white space at its end, the last
part. -/
def ReadAs (branch short : String) : Prop :=
  ∃ kept blanks, branch = kept ++ blanks ∧ Text.isAllBlank blanks = true ∧
    (∀ c, kept.toList.getLast? = some c → Text.isBlank c = false) ∧ IsLastPart kept short

/-- The part of a branch name that is read. -/
def shortName (branch : String) : String :=
  lastPart (String.ofList (Text.dropEndWhile Text.isBlank branch.toList))

theorem lastPart_of_noSlash {name : String} (noSlash : '/' ∉ name.toList) : lastPart name = name := by
  rw [lastPart, Text.splitAt_of_notMem noSlash]
  exact String.ofList_toList

theorem noSlash_lastPart (text : String) : '/' ∉ (lastPart text).toList := by
  rw [lastPart, String.toList_ofList]
  cases last : (Text.splitAt '/' text.toList).getLast? with
  | none => exact List.not_mem_nil
  | some part => exact Text.notMem_of_mem_splitAt (List.mem_of_getLast? last)

theorem lastPart_append_slash (front back : List Char) :
    lastPart (String.ofList (front ++ '/' :: back)) = lastPart (String.ofList back) := by
  simp only [lastPart, String.toList_ofList]
  rw [Text.splitAt_append_cons, List.getLast?_append_of_ne_nil _ (Text.splitAt_ne_nil '/' back)]

theorem isLastPart_lastPart (name : String) : IsLastPart name (lastPart name) := by
  refine ⟨noSlash_lastPart name, ?_⟩
  by_cases slash : '/' ∈ name.toList
  · obtain ⟨back, front, split, noSlash⟩ :=
      List.eq_append_cons_of_mem (List.mem_reverse.2 slash)
    have whole : name.toList = front.reverse ++ '/' :: back.reverse := by
      rw [← List.reverse_reverse name.toList, split]
      simp
    have last : lastPart name = String.ofList back.reverse := by
      rw [← String.ofList_toList (s := name), whole, lastPart_append_slash, lastPart_of_noSlash]
      rw [String.toList_ofList]
      exact mt List.mem_reverse.1 noSlash
    refine .inr ⟨String.ofList front.reverse, String.toList_inj.1 ?_⟩
    rw [last, whole]
    simp
  · exact .inl (lastPart_of_noSlash slash).symm

theorem readAs_shortName (branch : String) : ReadAs branch (shortName branch) := by
  refine ⟨_, String.ofList (branch.toList.rtakeWhile Text.isBlank), String.toList_inj.1 ?_, ?_, ?_,
    isLastPart_lastPart _⟩
  · rw [String.toList_append, String.toList_ofList, String.toList_ofList]
    exact List.rdropWhile_append_rtakeWhile.symm
  · rw [Text.isAllBlank, String.toList_ofList]
    exact List.all_eq_true.2 fun c mem => List.mem_rtakeWhile_imp mem
  · rw [String.toList_ofList, ← Text.dropEndWhile_eq_self_iff]
    exact List.rdropWhile_idempotent Text.isBlank branch.toList

/-- A name is read as a whole exactly if it has no slash and does not end with white space. -/
theorem shortName_eq_self_iff {branch : String} :
    shortName branch = branch ↔
      '/' ∉ branch.toList ∧ ∀ c, branch.toList.getLast? = some c → Text.isBlank c = false := by
  rw [← Text.dropEndWhile_eq_self_iff]
  constructor
  · intro whole
    have noSlash : '/' ∉ branch.toList := whole ▸ noSlash_lastPart _
    refine ⟨noSlash, ?_⟩
    have shorter : Text.dropEndWhile Text.isBlank branch.toList <+: branch.toList :=
      List.rdropWhile_prefix Text.isBlank branch.toList
    rw [shortName, lastPart_of_noSlash] at whole
    · rw [← String.toList_ofList (l := Text.dropEndWhile Text.isBlank branch.toList), whole]
    · rw [String.toList_ofList]
      exact fun slash => noSlash (shorter.subset slash)
  · rintro ⟨noSlash, kept⟩
    rw [shortName, kept, String.ofList_toList, lastPart_of_noSlash noSlash]

/-- The remote's head is answered with a line that ends with the name of the branch. -/
theorem lastPart_remoteHead {branch ending : String} (blank : Text.isAllBlank ending = true) :
    lastPart (Text.trim ("refs/remotes/origin/" ++ branch ++ ending)) = shortName branch := by
  have line : ("refs/remotes/origin/" ++ branch ++ ending).toList =
      'r' :: "efs/remotes/origin".toList ++ '/' :: branch.toList ++ ending.toList := by
    simp
  have ends : ∀ c ∈ ending.toList, Text.isBlank c = true := List.all_eq_true.1 blank
  rw [Text.trim, Text.trimChars, Text.trimStart, line, List.cons_append, List.cons_append,
    List.dropWhile_cons, if_neg (by decide), ← List.cons_append, ← List.cons_append,
    Text.dropEndWhile_append_of_all ends, Text.dropEndWhile_append_cons (by decide),
    lastPart_append_slash, shortName]

section

variable {git : Git} {branch ending : String} (blank : Text.isAllBlank ending = true)
  (head : git.textOf remoteHeadQuery = .ok ("refs/remotes/origin/" ++ branch ++ ending))

include blank head

/-- A head whose branch has no name left is as good as none. -/
theorem value_baseBranch_of_head :
    git.baseBranch.value = shortName branch ∧ shortName branch ≠ "" ∨
      (git.baseBranch.value = "main" ∨ git.baseBranch.value = "master") ∧ shortName branch = "" := by
  rw [baseBranch, Asked.value_bind, ask, head]
  dsimp only [Except.toOption, Option.getD]
  rw [lastPart_remoteHead blank]
  by_cases unnamed : shortName branch = ""
  · rw [if_pos (String.isEmpty_iff.2 unnamed), Asked.value_bind]
    refine .inr ⟨?_, unnamed⟩
    cases (git.ask mainBranchQuery).value with
    | ok _ => exact .inl rfl
    | error _ => exact .inr rfl
  · rw [if_neg (mt String.isEmpty_iff.1 unnamed)]
    exact .inl ⟨rfl, unnamed⟩

theorem value_baseBranch_eq_branch_iff (some_char : branch ≠ "") :
    git.baseBranch.value = branch ↔ shortName branch = branch := by
  rcases value_baseBranch_of_head blank head with ⟨base, -⟩ | ⟨default, unnamed⟩
  · rw [base]
  · refine iff_of_false (fun same => ?_) fun whole => some_char (whole.symm.trans unnamed)
    rw [same] at default
    rcases default with rfl | rfl
    · exact absurd unnamed (by decide)
    · exact absurd unnamed (by decide)

end

/-! ## The queries -/

section

variable {git : Git} {config : Config}

theorem queries_isWorkTree : git.isWorkTree.queries = [workTreeQuery] := by
  refine Asked.queries_bind_of_quiet _ ?_
  rintro (_ | _) <;> rfl

theorem queries_mergeBase (base : String) : (git.mergeBase base).queries = [mergeBaseQuery base] := by
  refine Asked.queries_bind_of_quiet _ ?_
  rintro (_ | _) <;> rfl

theorem queries_changedFiles (revision : String) :
    (git.changedFiles revision).queries = [changedFilesQuery revision] := rfl

/-- The queries that lead to the revision: whether there is a work tree, the branch unless it is
configured, and the merge base. -/
theorem queries_baseRevision (inside : git.InWorkTree) :
    (baseRevision git config).queries =
      workTreeQuery :: ((if config.baseRef = none then git.baseBranch.queries else []) ++
        [mergeBaseQuery (config.baseRef.getD git.baseBranch.value)]) := by
  rw [Git.inWorkTree_iff] at inside
  rw [baseRevision, Asked.queries_bind, queries_isWorkTree, inside, Bool.not_true,
    if_neg Bool.false_ne_true, List.singleton_append]
  -- Whether there is a merge base or not, nothing is asked behind it.
  cases config.baseRef with
  | some base =>
    dsimp only
    rw [Asked.queries_bind, Asked.queries_pure, Asked.value_pure, Asked.queries_bind_of_quiet,
      queries_mergeBase]
    · rfl
    · rintro (_ | _) <;> rfl
  | none =>
    dsimp only
    rw [Asked.queries_bind, Asked.queries_bind_of_quiet, queries_mergeBase]
    · rfl
    · rintro (_ | _) <;> rfl

theorem mem_queries_baseBranch {query : List String} (mem : query ∈ git.baseBranch.queries) :
    query = remoteHeadQuery ∨ query = mainBranchQuery := by
  rw [baseBranch, Asked.queries_bind, List.mem_append] at mem
  rcases mem with first | later
  · exact .inl (List.mem_singleton.1 first)
  · dsimp only at later
    split at later
    · rw [Asked.queries_bind_of_quiet] at later
      · exact .inr (List.mem_singleton.1 later)
      · rintro (_ | _) <;> rfl
    · cases later

/-- The queries for changes come last: that for the changed files, and one for the diff of each listed
file that is worth targets. -/
theorem queries_analyzeRepository (inside : git.InWorkTree) (g : Grammar) (fs : FileSystem) :
    (analyzeRepository g git fs config).queries =
      (baseRevision git config).queries ++
        changedFilesQuery (git.comparedRevision config) ::
          ((git.listedPaths config).filter (FileFilter.ofPatterns config.exclude).accepts).map
            (fileDiffQuery (git.comparedRevision config)) := by
  have only_diffs : (analyzeRepository g git fs config).queries =
      (repositoryDiffs git config (FileFilter.ofPatterns config.exclude)).queries := by
    refine Asked.queries_bind_of_quiet _ ?_
    rintro (_ | _) <;> rfl
  have revision := value_baseRevision git config
  rw [if_pos (git.inWorkTree_iff.1 inside)] at revision
  rw [only_diffs, repositoryDiffs, Asked.queries_bind, revision]
  dsimp only
  rw [Asked.queries_bind, queries_changedFiles, List.singleton_append]
  refine congrArg (fun last => _ ++ _ :: last) ?_
  rw [changedFiles, Asked.value_bind, listedPaths]
  cases answer : git.textOf (changedFilesQuery (git.comparedRevision config)) with
  | error e =>
    simp only [ask, answer, Asked.value_pure, Except.map]
    rfl
  | ok text =>
    simp only [ask, answer, Asked.value_pure, Except.map, Pool.runOrdered_eq_map, List.flatMap_map]
    exact List.map_eq_flatMap.symm

end

/-! ## The revision -/

/-- Changes are asked for against one revision: which files changed since then, and what changed in
single files since then. -/
structure DiffsAgainst (revision : String) (queries : List (List String)) : Prop where
  changedFiles : changedFilesQuery revision ∈ queries
  all : ∀ query ∈ queries, query.head? = some "diff" →
    query = changedFilesQuery revision ∨ ∃ path, query = fileDiffQuery revision path

theorem DiffsAgainst.unique {revision other : String} {queries : List (List String)}
    (against : DiffsAgainst revision queries) (against_other : DiffsAgainst other queries) :
    revision = other := by
  rcases against_other.all _ against.changedFiles rfl with same | ⟨path, same⟩
  · simpa [changedFilesQuery] using same
  · simp [changedFilesQuery, fileDiffQuery] at same

/-- Until the revision is there, nothing is asked about changes. -/
theorem head?_ne_diff {git : Git} {config : Config} (inside : git.InWorkTree) {query : List String}
    (mem : query ∈ (baseRevision git config).queries) : query.head? ≠ some "diff" := by
  rw [queries_baseRevision inside, List.mem_cons, List.mem_append, List.mem_singleton] at mem
  rcases mem with rfl | named | rfl
  · decide
  · split at named
    · rcases mem_queries_baseBranch named with rfl | rfl <;> decide
    · cases named
  · simp [mergeBaseQuery]

theorem diffsAgainst_comparedRevision {git : Git} (inside : git.InWorkTree) (g : Grammar)
    (fs : FileSystem) (config : Config) :
    DiffsAgainst (git.comparedRevision config) (analyzeRepository g git fs config).queries := by
  rw [queries_analyzeRepository inside]
  refine ⟨List.mem_append_right _ List.mem_cons_self, fun query mem diffs => ?_⟩
  rcases List.mem_append.1 mem with before | changes
  · exact absurd diffs (head?_ne_diff inside before)
  · rcases List.mem_cons.1 changes with rfl | single
    · exact .inl rfl
    · obtain ⟨path, -, rfl⟩ := List.mem_map.1 single
      exact .inr ⟨path, rfl⟩

theorem diffsAgainst_iff {git : Git} (inside : git.InWorkTree) (g : Grammar) (fs : FileSystem)
    (config : Config) {revision : String} :
    DiffsAgainst revision (analyzeRepository g git fs config).queries ↔
      revision = git.comparedRevision config := by
  constructor
  · exact fun against => against.unique (diffsAgainst_comparedRevision inside g fs config)
  · rintro rfl
    exact diffsAgainst_comparedRevision inside g fs config

end Git

/-- **Without a configured base the changes are told against the branch of the remote's head as far as
its name is read as a whole.** All queries for changes name the revision of one base: the merge base with
it that git tells, else the base itself. The base is the branch exactly if its name has no slash and does
not end with white space. Else it is the part of the name behind the last slash, without this white
space, or `main` or `master` where nothing is left. -/
theorem diffsAgainst_default_branch_iff (g : Grammar) {git : Git} (fs : FileSystem) {config : Config}
    (inside : git.InWorkTree) (unset : config.baseRef = none) {branch ending : String}
    (some_char : branch ≠ "") (blank : Text.isAllBlank ending = true)
    (head : git.textOf Git.remoteHeadQuery = .ok ("refs/remotes/origin/" ++ branch ++ ending)) :
    let base := git.baseBranch.value
    (∀ revision, Git.DiffsAgainst revision (analyzeRepository g git fs config).queries ↔
      revision = git.revisionFor base) ∧
    (base = branch ↔
      '/' ∉ branch.toList ∧ ∀ c, branch.toList.getLast? = some c → Text.isBlank c = false) ∧
    (base ≠ "" ∧ Git.ReadAs branch base ∨
      (base = "main" ∨ base = "master") ∧ Git.ReadAs branch "") := by
  intro base
  refine ⟨fun revision => ?_, ?_, ?_⟩
  · rw [Git.diffsAgainst_iff inside, Git.comparedRevision, unset]
    rfl
  · rw [← Git.shortName_eq_self_iff]
    exact Git.value_baseBranch_eq_branch_iff blank head some_char
  · have read := Git.readAs_shortName branch
    rcases Git.value_baseBranch_of_head blank head with ⟨short, named⟩ | ⟨default, unnamed⟩
    · rw [← short] at read named
      exact .inl ⟨named, read⟩
    · rw [unnamed] at read
      exact .inr ⟨default, read⟩

/-- Git of a repository whose remote has a default branch, which it knows a merge base with. -/
def gitWithDefault (branch : String) : Git :=
  Git.answering [(Git.workTreeQuery, "true\n"),
    (Git.remoteHeadQuery, "refs/remotes/origin/" ++ branch ++ "\n"),
    (Git.mergeBaseQuery branch, "4b825dc\n"),
    (Git.changedFilesQuery "4b825dc", "src/a.js\x00")]

theorem diffsAgainst_default_branch_iff_dev :
    let git := gitWithDefault "dev"
    let config := Config.withRoot "/r" 2
    git.InWorkTree ∧ config.baseRef = none ∧ "dev" ≠ "" ∧ Text.isAllBlank "\n" = true ∧
      git.textOf Git.remoteHeadQuery = .ok ("refs/remotes/origin/" ++ "dev" ++ "\n") ∧
      git.baseBranch.value = "dev" ∧ ∀ g fs,
        Git.DiffsAgainst "4b825dc" (analyzeRepository g git fs config).queries := by
  intro git config
  have inside : git.InWorkTree := (Git.inWorkTree_iff git).2 (by decide +kernel)
  have head : git.textOf Git.remoteHeadQuery = .ok ("refs/remotes/origin/" ++ "dev" ++ "\n") := by
    decide +kernel
  have unset : config.baseRef = none := rfl
  have named : "dev" ≠ "" := by decide
  have blank : Text.isAllBlank "\n" = true := by decide
  have told (g : Grammar) (fs : FileSystem) :=
    diffsAgainst_default_branch_iff g fs inside unset named blank head
  have whole : git.baseBranch.value = "dev" := by
    refine (told ⟨fun _ _ _ => none⟩ ⟨.empty, []⟩).2.1.2 ⟨by decide, fun c last => ?_⟩
    obtain rfl : 'v' = c := Option.some.inj last
    decide
  refine ⟨inside, unset, named, blank, head, whole, fun g fs => ?_⟩
  rw [(told g fs).1, whole]
  decide +kernel

/-- Of a default branch with a slash in its name only the last part is asked for, which need not name a
branch at all. -/
theorem slashed_branch_not_compared :
    let git := gitWithDefault "release/2.0"
    let config := Config.withRoot "/r" 2
    git.InWorkTree ∧
      git.textOf Git.remoteHeadQuery = .ok "refs/remotes/origin/release/2.0\n" ∧
      git.revisionFor "release/2.0" = "4b825dc" ∧ ∀ g fs,
        Git.DiffsAgainst "2.0" (analyzeRepository g git fs config).queries ∧
        ¬ Git.DiffsAgainst "4b825dc" (analyzeRepository g git fs config).queries := by
  intro git config
  have inside : git.InWorkTree := (Git.inWorkTree_iff git).2 (by decide +kernel)
  have compared : git.comparedRevision config = "2.0" := by decide +kernel
  refine ⟨inside, by decide +kernel, by decide +kernel, fun g fs => ?_⟩
  rw [Git.diffsAgainst_iff inside, Git.diffsAgainst_iff inside, compared]
  decide

end TestImpact
