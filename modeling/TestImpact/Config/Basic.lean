import TestImpact.Path

/-! The configuration of a run: its defaults at a root, and the settings of a layer put on top. -/

namespace TestImpact

structure Config where
  root : String
  outputDir : String
  /-- The revision to compare with; found out from the repository if not given. -/
  baseRef : Option String
  /-- Where pages are served, for whoever opens them. -/
  uiBaseUrl : Option String
  apiBaseUrl : Option String
  workers : Nat
  /-- How many milliseconds a tier may take. -/
  tierTimeout : Option Nat
  /-- Patterns of files that are never analyzed. -/
  exclude : List String
  deriving DecidableEq

structure Settings where
  outputDir : Option String := none
  baseRef : Option String := none
  uiBaseUrl : Option String := none
  apiBaseUrl : Option String := none
  workers : Option Nat := none
  tierTimeout : Option Nat := none
  exclude : List String := []
  deriving DecidableEq

namespace Config

/-- Where results go below the root. -/
def defaultOutputDir : String := ".changescope"

/-- The defaults at a root for a number of workers. -/
def withRoot (root : String) (workers : Nat) : Config :=
  { root, outputDir := Path.join root defaultOutputDir, baseRef := none, uiBaseUrl := none
    apiBaseUrl := none, workers, tierTimeout := none, exclude := [] }

/-- The configuration with a layer on top: what the layer sets counts, an output directory is seen
from the root, there is at least one worker, and patterns add up. -/
def apply (c : Config) (s : Settings) : Config :=
  { c with
    outputDir := (s.outputDir.map (Path.join c.root)).getD c.outputDir
    baseRef := s.baseRef <|> c.baseRef
    uiBaseUrl := s.uiBaseUrl <|> c.uiBaseUrl
    apiBaseUrl := s.apiBaseUrl <|> c.apiBaseUrl
    workers := (s.workers.map (max 1)).getD c.workers
    tierTimeout := s.tierTimeout <|> c.tierTimeout
    exclude := c.exclude ++ s.exclude }

/-- A layer that sets nothing changes nothing. -/
theorem apply_empty (c : Config) : c.apply {} = c := by
  cases c
  simp [apply]

theorem apply_root (c : Config) (s : Settings) : (c.apply s).root = c.root := rfl

end Config

end TestImpact
