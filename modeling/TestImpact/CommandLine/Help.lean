import TestImpact.CommandLine.Arguments

/-! The help that the program prints: what a command is for, how it is called, and a line for
everything that it takes. -/

namespace TestImpact.CommandLine

def programName : String := "changescope"

def version : String := "0.1.0"

def versionText : String := programName ++ " " ++ version ++ "\n"

/-- A line of help: what is typed, and what it says. -/
structure HelpLine where
  left : String
  right : String

/-- Lines with their right sides below each other. -/
def alignedLines (ls : List HelpLine) : List String :=
  let width := (ls.map fun l => l.left.length).foldl max 0
  ls.map fun l => "  " ++ l.left ++ "".pushn ' ' (width + 2 - l.left.length) ++ l.right

def valueName (name : String) : String := "<" ++ Text.toUpperAscii name ++ ">"

def optionLine (o : OptionSpec) : HelpLine :=
  let usual := (o.usual.map fun value => "[default: " ++ value ++ "]").getD ""
  { left := "    --" ++ o.name ++ " " ++ valueName o.name
    right := if o.help.isEmpty then usual
      else if usual.isEmpty then o.help
      else o.help ++ " " ++ usual }

def verboseLine : HelpLine :=
  ⟨"-v, --verbose...", "More log output on stderr (-v, -vv, -vvv)"⟩

def jsonLogsLine : HelpLine := ⟨"    --json-logs", "Log as JSON lines"⟩

def helpFlagLine : HelpLine := ⟨"-h, --help", "Print help"⟩

def versionFlagLine : HelpLine := ⟨"-V, --version", "Print version"⟩

/-- Options in the order of help: by their places among the options of a command, where the flags of
the program have places of their own; options with one place are sorted by name. -/
def sortedOptions (options : List OptionSpec) : List HelpLine :=
  let own := options.zipIdx.map fun (o, place) => (place, o.name, optionLine o)
  let common := [(0, "v0", verboseLine), (1, "json-logs", jsonLogsLine)]
  let before (a b : Nat × String × HelpLine) : Bool :=
    a.1 < b.1 || (a.1 == b.1 && decide (a.2.1 ≤ b.2.1))
  ((own ++ common).mergeSort before).map fun (_, _, line) => line

def joinParts (parts : List (List String)) : String :=
  "\n\n".intercalate (parts.map fun ls => "\n".intercalate ls) ++ "\n"

def aboutHelp : String := "Print this message or the help of the given subcommand(s)"

def programHelp : String :=
  let commands := commandSpecs.map (fun s => HelpLine.mk s.name s.about) ++ [⟨"help", aboutHelp⟩]
  joinParts [
    ["Map a diff to changed declarations and test targets, and resolve drifted endpoints."],
    ["Usage: " ++ programName ++ " [OPTIONS] <COMMAND>"],
    "Commands:" :: alignedLines commands,
    "Options:" :: alignedLines [verboseLine, jsonLogsLine, helpFlagLine, versionFlagLine]]

def commandHelp (s : CommandSpec) : String :=
  let places := s.positionals.map fun p => valueName p.name
  let arguments :=
    if places.isEmpty then []
    else ["Arguments:" :: alignedLines (places.map fun place => ⟨place, ""⟩)]
  joinParts ([[s.about],
    ["Usage: " ++ " ".intercalate ([programName, s.name, "[OPTIONS]"] ++ places)]] ++ arguments ++
    ["Options:" :: alignedLines (sortedOptions s.options ++ [helpFlagLine])])

def helpHelp : String :=
  joinParts [[aboutHelp], ["Usage: " ++ programName ++ " help [COMMAND]..."],
    ["Arguments:", "  [COMMAND]...  Print help for the subcommand(s)"]]

end TestImpact.CommandLine
