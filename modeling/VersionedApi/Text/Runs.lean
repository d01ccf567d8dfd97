/-!
# Runs of code points

A Unicode property is a set of code points that falls into a few hundred runs,
and a simple case mapping is the same displacement over whole runs.  Both are
kept as data: a run names its first and last code point and the distance
between neighbours, which is two where capital and small letters alternate.
-/

namespace VersionedApi.Text

/-- The code points `first`, `first + step`, … up to `last`. -/
structure Run where
  first : Nat
  last : Nat
  step : Nat
  deriving Repr, DecidableEq

namespace Run

def contains (run : Run) (point : Nat) : Bool :=
  run.first ≤ point && point ≤ run.last && (point - run.first) % run.step == 0

/-- A member of a run lies between its ends. -/
theorem bounds_of_contains {run : Run} {point : Nat}
    (member : run.contains point = true) :
    run.first ≤ point ∧ point ≤ run.last := by
  simp only [contains, Bool.and_eq_true, decide_eq_true_eq] at member
  exact ⟨member.1.1, member.1.2⟩

end Run

/-- A run whose members are all displaced by the same distance. -/
structure Shift where
  first : Nat
  last : Nat
  step : Nat
  distance : Int
  deriving Repr, DecidableEq

namespace Shift

def run (shift : Shift) : Run :=
  ⟨shift.first, shift.last, shift.step⟩

def apply (shift : Shift) (point : Nat) : Nat :=
  (point + shift.distance).toNat

end Shift

def Run.anyContains (runs : List Run) (point : Nat) : Bool :=
  runs.any (·.contains point)

def Shift.find? (shifts : List Shift) (point : Nat) : Option Nat :=
  (shifts.find? (·.run.contains point)).map (·.apply point)

end VersionedApi.Text
