import TestImpact.Source.Declaration

/-! Where syntax trees come from: a grammar for each language, given from outside. A source may have
no tree. -/

namespace TestImpact

/-- Gives the syntax tree of a source that stands under a path. -/
structure Grammar where
  tree? : (path source : String) → Language → Option Syntax.Node

/-- Why a source has no declarations. -/
inductive ParseError where
  | unsupported (file : String)
  | noTree (file : String) (language : Language)

namespace ParseError

def message : ParseError → String
  | unsupported file => "cannot parse " ++ file ++ ": unsupported language"
  | noTree file language =>
    "cannot parse " ++ file ++ ": " ++ language.label ++ " parser produced no tree"

end ParseError

def Grammar.declarations (g : Grammar) (file source : String) :
    Except ParseError (List Declaration) :=
  match Language.ofPath? file with
  | none => .error (.unsupported file)
  | some language =>
    match g.tree? file source language with
    | some root => .ok (TestImpact.declarations language source root)
    | none => .error (.noTree file language)

end TestImpact
