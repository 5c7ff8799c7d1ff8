import TestImpact.Proofs.PositionalScan

/-! Line arithmetic in words of 32 bits. The scan takes two kinds of sums: it counts its cursor up
behind every line that the new file has, and it ends a hunk at its start plus the number of its
lines, a number that is a word there too. A sum that is no word halts the scan, so whatever a scan
records that was not halted is the sum in the natural numbers. -/

namespace TestImpact.Diff

/-- A hunk that goes on behind the last number. -/
def hunkBehindLast : String := "@@ -1 +4294967295 @@\n+a\n+b\n"

example : FileDiff.parse hunkBehindLast = .error .overflow := by decide +kernel

end TestImpact.Diff
