import TestImpact.Text.Blank
import TestImpact.Text.Bytes
import TestImpact.Text.Search

/-! What is asked of git about the repository at a root, and how its answers are read. Every query
is a list of arguments; the queries that were made are kept beside the answer. -/

namespace TestImpact

/-- How a run of git ended, and what it wrote. -/
structure GitOutput where
  code : Nat
  stdout : List UInt8
  stderr : List UInt8

/-- Answers queries about one repository, or tells why git cannot be started. -/
structure Git where
  run : List String → Except String GitOutput

inductive HistoryError where
  | notStarted (reason : String)
  | failed (query : List String) (complaint : String)
  | noMergeBase (base : String)
  | notWorkTree (root : String)
  deriving DecidableEq

def HistoryError.reason : HistoryError → String
  | notStarted reason => "cannot run git: " ++ reason
  | failed query complaint => "git " ++ " ".intercalate query ++ " failed: " ++ complaint
  | noMergeBase base => "no merge base with " ++ base
  | notWorkTree root => root ++ " is not a git work tree"

def HistoryError.message (e : HistoryError) : String :=
  "source control unavailable: " ++ e.reason

/-! ## Asking -/

/-- A value with the queries that were made for it, in their order. -/
structure Asked (α : Type) where
  value : α
  queries : List (List String)

namespace Asked

instance : Monad Asked where
  pure value := ⟨value, []⟩
  bind a f := ⟨(f a.value).value, a.queries ++ (f a.value).queries⟩

theorem value_pure {α : Type} (a : α) : (pure a : Asked α).value = a := rfl

theorem value_bind {α β : Type} (a : Asked α) (f : α → Asked β) :
    (a >>= f).value = (f a.value).value := rfl

theorem queries_pure {α : Type} (a : α) : (pure a : Asked α).queries = [] := rfl

theorem queries_bind {α β : Type} (a : Asked α) (f : α → Asked β) :
    (a >>= f).queries = a.queries ++ (f a.value).queries := rfl

end Asked

namespace Git

/-- The text that git writes for a query, if the query succeeds. -/
def textOf (git : Git) (query : List String) : Except HistoryError String :=
  match git.run query with
  | .error reason => .error (.notStarted reason)
  | .ok out =>
    if out.code = 0 then .ok (Text.decodeLossy out.stdout)
    else .error (.failed query (Text.trim (Text.decodeLossy out.stderr)))

def ask (git : Git) (query : List String) : Asked (Except HistoryError String) :=
  ⟨git.textOf query, [query]⟩

/-! ## Queries -/

def workTreeQuery : List String := ["rev-parse", "--is-inside-work-tree"]

def remoteHeadQuery : List String := ["symbolic-ref", "refs/remotes/origin/HEAD"]

def mainBranchQuery : List String := ["show-ref", "--verify", "--quiet", "refs/heads/main"]

def mergeBaseQuery (base : String) : List String := ["merge-base", base, "HEAD"]

/-- Asks for the names of files that were added, modified, renamed or copied since a revision, each
followed by a NUL. -/
def changedFilesQuery (revision : String) : List String :=
  ["diff", "--name-only", "-z", "--diff-filter=AMRC", revision]

def fileDiffQuery (revision path : String) : List String :=
  ["diff", "--no-color", "--no-ext-diff", revision, "--", path]

/-! ## Answers -/

def isWorkTree (git : Git) : Asked Bool := do
  match ← git.ask workTreeQuery with
  | .ok text => return Text.trim text == "true"
  | .error _ => return false

/-- What follows the last slash of a text. -/
def lastPart (text : String) : String :=
  String.ofList (((Text.splitAt '/' text.toList).getLast?).getD [])

/-- The branch that changes are compared with: where the head of the remote points to, else `main`
if there is such a branch, else `master`. -/
def baseBranch (git : Git) : Asked String := do
  let head ← git.ask remoteHeadQuery
  let named := lastPart (Text.trim (head.toOption.getD ""))
  if named.isEmpty then
    match ← git.ask mainBranchQuery with
    | .ok _ => return "main"
    | .error _ => return "master"
  else return named

/-- The revision at which the present state parted from a base. -/
def mergeBase (git : Git) (base : String) : Asked (Except HistoryError String) := do
  match ← git.ask (mergeBaseQuery base) with
  | .error e => return .error e
  | .ok text =>
    let revision := Text.trim text
    return if revision.isEmpty then .error (.noMergeBase base) else .ok revision

/-- The pieces of a text between NULs that are not empty. -/
def nulSeparated (text : String) : List String :=
  ((Text.splitAt '\x00' text.toList).filter fun piece => !piece.isEmpty).map String.ofList

def changedFiles (git : Git) (revision : String) : Asked (Except HistoryError (List String)) := do
  return (← git.ask (changedFilesQuery revision)).map nulSeparated

def fileDiff (git : Git) (revision path : String) : Asked (Except HistoryError String) :=
  git.ask (fileDiffQuery revision path)

end Git

end TestImpact
