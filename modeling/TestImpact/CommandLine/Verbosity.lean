/-! How much is logged. -/

namespace TestImpact

/-- The filter for messages when more of them are asked for a number of times. -/
def logFilter (verbosity : Nat) : String :=
  let level :=
    match verbosity with
    | 0 => "warn"
    | 1 => "info"
    | 2 => "debug"
    | _ => "trace"
  "changescope=" ++ level

end TestImpact
