import Volley.Scalar

/-!
# Latency statistics

Least, greatest and mean latency and four percentiles. A percentile interpolates linearly between
the two neighbours of its place in the sorted list. The mean adds blocks of eight in parallel and
splits lists of more than 128 in two, which is plain addition where addition is exact. If one
latency is undefined all statistics are.

## Main definitions

- `Latency`: the seven statistics.
- `Latency.pairwiseSum`, `Latency.percentile`.
- `Latency.ofList`: the statistics of a list; all zero for the empty one.
-/

namespace Volley

/-- Statistics of latencies in milliseconds. -/
structure Latency (τ : Type) where
  min : τ
  max : τ
  avg : τ
  p50 : τ
  p90 : τ
  p95 : τ
  p99 : τ

namespace Latency

variable {τ : Type} [Scalar τ]

def constant (x : τ) : Latency τ :=
  { min := x, max := x, avg := x, p50 := x, p90 := x, p95 := x, p99 := x }

def plainSum (start : τ) (xs : List τ) : τ :=
  xs.foldl (· + ·) start

/-- Adds whole blocks of eight to eight running sums, then the sums in pairs, then what is left
over. -/
def blockSum (r0 r1 r2 r3 r4 r5 r6 r7 : τ) : List τ → τ
  | x0 :: x1 :: x2 :: x3 :: x4 :: x5 :: x6 :: x7 :: rest =>
    blockSum (r0 + x0) (r1 + x1) (r2 + x2) (r3 + x3) (r4 + x4) (r5 + x5) (r6 + x6) (r7 + x7) rest
  | rest => plainSum (((r0 + r1) + (r2 + r3)) + ((r4 + r5) + (r6 + r7))) rest

def shortSum : List τ → τ
  | x0 :: x1 :: x2 :: x3 :: x4 :: x5 :: x6 :: x7 :: rest => blockSum x0 x1 x2 x3 x4 x5 x6 x7 rest
  | rest => plainSum 0 rest

/-- Where a list of more than 128 numbers is split: at a multiple of eight close to the middle. -/
def splitPoint (n : Nat) : Nat :=
  n / 2 - n / 2 % 8

def pairwiseSum (xs : List τ) : τ :=
  if 128 < xs.length then
    -- Both halves are shorter than the list, as the split point lies inside it.
    pairwiseSum (xs.take (splitPoint xs.length)) + pairwiseSum (xs.drop (splitPoint xs.length))
  else shortSum xs
termination_by xs.length
decreasing_by
  all_goals
    simp only [List.length_take, List.length_drop, splitPoint]
    omega

def mean (xs : List τ) : τ :=
  (0 + pairwiseSum xs) / Scalar.ofNat xs.length

/-- The item at a place of a list; zero beyond its end. -/
def item (xs : List τ) (i : Nat) : τ :=
  (xs[i]?).getD 0

/-- A point between two numbers, reckoned from the nearer end. -/
def between (lo hi fraction : τ) : τ :=
  let gap := hi - lo
  if Scalar.ratio 1 2 ≤ fraction then hi - gap * (Scalar.ofNat 1 - fraction)
  else lo + gap * fraction

/-- The percentile of a sorted list: its place among the `n` items is `(n - 1) · percent / 100`. -/
def percentile (sorted : List τ) (percent : Nat) : τ :=
  let last := sorted.length - 1
  let place : τ := Scalar.ofNat last * Scalar.ratio percent 100
  if Scalar.ofNat last ≤ place then
    -- There is no neighbour after the last place.
    between (item sorted last) (item sorted last) (place + Scalar.ofNat 1)
  else
    let below := Scalar.floor place
    between (item sorted below) (item sorted (below + 1)) (place - Scalar.ofNat below)

/-- The least of a list of numbers; of equal ones the last. -/
def least (first : τ) (rest : List τ) : τ :=
  rest.foldl (fun best x => if best < x then best else x) first

/-- The greatest of a list of numbers; of equal ones the last. -/
def greatest (first : τ) (rest : List τ) : τ :=
  rest.foldl (fun best x => if x < best then best else x) first

def ofList (xs : List τ) : Latency τ :=
  match xs.find? Scalar.isUndefined, xs with
  -- One undefined latency makes the whole list undefined.
  | some x, _ => constant x
  | none, [] => constant 0
  | none, first :: rest =>
    let sorted := xs.mergeSort fun x y => decide (x ≤ y)
    { min := least first rest, max := greatest first rest, avg := mean xs,
      p50 := percentile sorted 50, p90 := percentile sorted 90, p95 := percentile sorted 95,
      p99 := percentile sorted 99 }

end Latency

end Volley
