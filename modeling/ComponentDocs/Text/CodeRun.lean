/-!
# Runs of code points

A property of characters is stored as a list of runs of code points.  Letters that alternate
between upper and lower case form one run with step two.  The tables that use these runs start at
U+0080; the ASCII part of each property is written out as a rule beside its table, so that a fact
about ASCII text never has to look at a table.
-/

namespace ComponentDocs.Text

/-- The code points `first`, `first + step`, ... that do not exceed `last`. -/
structure CodeRun where
  first : Nat
  last : Nat
  step : Nat

namespace CodeRun

def contains (run : CodeRun) (code : Nat) : Bool :=
  run.first ≤ code && code ≤ run.last && (code - run.first) % run.step == 0

end CodeRun

/-- Membership in the union of the runs. -/
def inRuns (runs : List CodeRun) (c : Char) : Bool :=
  runs.any fun run => run.contains c.toNat

/-- A character below U+0080. -/
def isAscii (c : Char) : Bool :=
  c.toNat < 0x80

end ComponentDocs.Text
