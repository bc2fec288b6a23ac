/-!
# Ranges of code points — how a Unicode property is stored and looked up

A property of characters is stored as a list of closed ranges in ascending order, and a mapping of
characters as a list of runs that all move by the same distance. Because the lists ascend, a look-up
stops at the first entry above the code point it looks for.
-/

set_option autoImplicit false

namespace SampleTypes

/-- Whether `n` lies in one of the ascending closed ranges. -/
def inRanges : List (Nat × Nat) → Nat → Bool
  | [], _ => false
  | (first, last) :: rest, n =>
    if n < first then false else if n ≤ last then true else inRanges rest n

/-- Whether `n` is one of `first, first + step, …, last` for one of the ascending spans. -/
def inSpans : List (Nat × Nat × Nat) → Nat → Bool
  | [], _ => false
  | (first, last, step) :: rest, n =>
    if n < first then false
    else if n ≤ last then (n - first) % step == 0
    else inSpans rest n

/-- The entry of an ascending association list under `n`. -/
def lookupAscending {α : Type} : List (Nat × α) → Nat → Option α
  | [], _ => none
  | (key, value) :: rest, n =>
    if n < key then none else if n = key then some value else lookupAscending rest n

/-- The code points `first, first + step, …, last`, which move to `target, target + step, …`. -/
structure CaseRun where
  /-- The least code point of the run. -/
  first : Nat
  /-- The greatest code point of the run. -/
  last : Nat
  /-- The distance between two neighbours, `1` or `2`. -/
  step : Nat
  /-- Where the least code point moves to. -/
  target : Nat
deriving Repr, DecidableEq

/-- Where `n` moves to under ascending runs; a code point outside all runs stays. -/
def CaseRun.apply : List CaseRun → Nat → Nat
  | [], n => n
  | run :: rest, n =>
    if n < run.first then n
    else if n ≤ run.last then
      if (n - run.first) % run.step = 0 then run.target + (n - run.first) else apply rest n
    else apply rest n

end SampleTypes
