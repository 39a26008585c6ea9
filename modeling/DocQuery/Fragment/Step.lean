import DocQuery.Fragment.Basic

/-!
# Building fragments step by step

The operations on fragments as data. A fragment that is appended is built from steps of its own,
to any depth; it may also be absent.
-/

namespace DocQuery.Fragment

/-- One operation on a fragment. -/
inductive Step where
  | literal (text : String)
  | value (v : Json)
  | collection (name : String)
  /-- Appends the fragment that other steps build. -/
  | append (steps : List Step)
  /-- Appends a fragment that is not there. -/
  | absent
  deriving Inhabited, Repr

mutual

/-- The fragment after one more step. -/
def Step.apply (f : Fragment) : Step → Fragment
  | .literal text => f.literal text
  | .value v => f.value v
  | .collection name => f.collection name
  | .append steps => f.appendOption (some (run {} steps))
  | .absent => f.appendOption none

/-- The fragment after more steps. -/
def run (f : Fragment) : List Step → Fragment
  | [] => f
  | step :: rest => run (step.apply f) rest

end

/-- The fragment that steps build from nothing. -/
def ofSteps (steps : List Step) : Fragment :=
  run {} steps

end DocQuery.Fragment
