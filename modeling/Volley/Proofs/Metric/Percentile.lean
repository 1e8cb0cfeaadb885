import Mathlib.Algebra.Order.BigOperators.Group.List
import Mathlib.Data.Rat.Floor
import Mathlib.Tactic.Linarith
import Mathlib.Tactic.Ring
import Volley.Metric.Latency
import Volley.Scalar.Rational

/-!
# Order among statistics

Over exact numbers the statistics of latencies are functions of the sorted list: least, greatest and
percentiles are its values at certain places, linear between whole ones, and the mean is the sum
divided by the length. The value at a place grows with the place, so the statistics are in order. As
only the sorted list counts, they do not depend on the order of the latencies, and they move along
when all latencies are moved.

## Main definitions

- `Latency.valueAt`: the value of a sorted list at a place.
- `Latency.ofSorted`: the statistics of a sorted list.
- `Latency.LiesAt`: a value between the neighbours of a place.
- `Latency.Coherent`: statistics that fit together and fit a list.

## Main results

- `valueAt_mono`: the value at a place grows with the place.
- `ofList_eq`: the statistics are those of the sorted list.
- `ofList_coherent`: the statistics are coherent.
-/

namespace Volley

namespace Latency

/-! ### Sums -/

theorem plainSum_eq (start : Rat) (xs : List Rat) : plainSum start xs = start + xs.sum := by
  unfold plainSum
  induction xs generalizing start with
  | nil => simp
  | cons x rest ih => rw [List.foldl_cons, ih, List.sum_cons, add_assoc]

/-- Whole blocks are added to the running sums, whose order does not matter. -/
theorem blockSum_eq (r0 r1 r2 r3 r4 r5 r6 r7 : Rat) (xs : List Rat) :
    blockSum r0 r1 r2 r3 r4 r5 r6 r7 xs = r0 + r1 + r2 + r3 + r4 + r5 + r6 + r7 + xs.sum := by
  fun_induction blockSum with
  | case1 r0 r1 r2 r3 r4 r5 r6 r7 x0 x1 x2 x3 x4 x5 x6 x7 rest ih =>
    rw [ih]
    simp only [List.sum_cons]
    ring
  | case2 r0 r1 r2 r3 r4 r5 r6 r7 rest =>
    rw [plainSum_eq]
    ring

/-- Eight running sums or one, the sum is the same. -/
theorem shortSum_eq (xs : List Rat) : shortSum xs = xs.sum := by
  unfold shortSum
  split
  · rw [blockSum_eq]
    simp only [List.sum_cons]
    ring
  · rw [plainSum_eq, zero_add]

theorem pairwiseSum_eq (xs : List Rat) : pairwiseSum xs = xs.sum := by
  fun_induction pairwiseSum with
  | case1 xs long front back => rw [front, back, List.sum_take_add_sum_drop]
  | case2 xs short => exact shortSum_eq xs

theorem ofNat_eq (n : Nat) : (Scalar.ofNat n : Rat) = n := by
  change ((n : Int) : Rat) / ((1 : Int) : Rat) = n
  simp

theorem mean_eq (xs : List Rat) : mean xs = xs.sum / xs.length := by
  rw [mean, pairwiseSum_eq, ofNat_eq, zero_add]

/-! ### Least and greatest -/

/-- Of two items one is kept that is as good as both; the one that is left is as good as all. -/
theorem best_of_foldl (good : Rat → Rat → Prop) (refl : ∀ a, good a a)
    (trans : ∀ {a b c}, good a b → good b c → good a c) {keep : Rat → Rat → Rat}
    (one : ∀ a b, keep a b = a ∨ keep a b = b) (both : ∀ a b, good (keep a b) a ∧ good (keep a b) b)
    (first : Rat) (rest : List Rat) :
    rest.foldl keep first ∈ first :: rest ∧
      ∀ x ∈ first :: rest, good (rest.foldl keep first) x := by
  induction rest generalizing first with
  | nil => simp [refl]
  | cons second rest ih =>
    obtain ⟨member, best⟩ := ih (keep first second)
    rw [List.foldl_cons]
    constructor
    · rcases List.mem_cons.mp member with kept | later
      · rw [kept]
        rcases one first second with here | here <;> simp [here]
      · exact .tail _ (.tail _ later)
    · have kept := best _ (.head _)
      rintro x (_ | ⟨_, _ | ⟨_, later⟩⟩)
      · exact trans kept (both _ _).1
      · exact trans kept (both _ _).2
      · exact best x (.tail _ later)

theorem least_spec (first : Rat) (rest : List Rat) :
    least first rest ∈ first :: rest ∧ ∀ x ∈ first :: rest, least first rest ≤ x := by
  apply best_of_foldl (· ≤ ·) le_refl le_trans
  · intro a b
    split <;> simp
  · intro a b
    split <;> constructor <;> linarith

theorem greatest_spec (first : Rat) (rest : List Rat) :
    greatest first rest ∈ first :: rest ∧ ∀ x ∈ first :: rest, x ≤ greatest first rest := by
  apply best_of_foldl (· ≥ ·) le_refl fun large larger => larger.trans large
  · intro a b
    split <;> simp
  · intro a b
    split <;> constructor <;> linarith

/-! ### The values of a sorted list -/

/-- The value of a list at a place: an item at a whole place, and between two of them in
proportion. -/
def valueAt (s : List Rat) (place : Rat) : Rat :=
  item s ⌊place⌋₊ + (item s (⌊place⌋₊ + 1) - item s ⌊place⌋₊) * (place - ⌊place⌋₊)

/-- The place of a percentile in a list. -/
def placeOf (s : List Rat) (percent : Nat) : Rat :=
  ((s.length : Rat) - 1) * percent / 100

section Values

variable {s : List Rat} {x y : Rat}

theorem item_eq {i : Nat} (inside : i < s.length) : item s i = s[i] := by
  simp [item, inside]

theorem item_mono (ascending : s.Pairwise (· ≤ ·)) {i j : Nat} (le : i ≤ j)
    (inside : j < s.length) : item s i ≤ item s j := by
  rcases Nat.lt_or_eq_of_le le with less | rfl
  · rw [item_eq inside, item_eq (less.trans inside)]
    exact List.pairwise_iff_getElem.mp ascending i j _ inside less
  · exact le_rfl

theorem valueAt_natCast (s : List Rat) (i : Nat) : valueAt s i = item s i := by
  simp [valueAt]

theorem floor_lt_length {s : List Rat} (nonneg : 0 ≤ x) (inside : x ≤ (s.length : Rat) - 1) :
    ⌊x⌋₊ < s.length := by
  have below := Nat.floor_le nonneg
  exact_mod_cast (show (⌊x⌋₊ : Rat) < s.length by linarith)

/-- A place that is not whole has an item on either side. -/
theorem floor_succ_lt_length (inside : x ≤ (s.length : Rat) - 1)
    (apart : (⌊x⌋₊ : Rat) < x) : ⌊x⌋₊ + 1 < s.length := by
  exact_mod_cast (show (⌊x⌋₊ : Rat) + 1 < s.length by linarith)

theorem item_floor_le (ascending : s.Pairwise (· ≤ ·)) (nonneg : 0 ≤ x)
    (inside : x ≤ (s.length : Rat) - 1) : item s ⌊x⌋₊ ≤ valueAt s x := by
  -- At a whole place the value is the item itself; past it something is added that is not
  -- negative.
  rcases (Nat.floor_le nonneg).eq_or_lt with whole | apart
  · rw [← whole, Nat.floor_natCast, valueAt_natCast]
  · have step := item_mono ascending (Nat.le_succ ⌊x⌋₊) (floor_succ_lt_length inside apart)
    have part := mul_nonneg (sub_nonneg.mpr step) (sub_nonneg.mpr apart.le)
    unfold valueAt
    linarith

theorem valueAt_le_item (ascending : s.Pairwise (· ≤ ·)) (nonneg : 0 ≤ x)
    (inside : x ≤ (s.length : Rat) - 1) {j : Nat} (beyond : x ≤ j) (known : j < s.length) :
    valueAt s x ≤ item s j := by
  rcases (Nat.floor_le nonneg).eq_or_lt with whole | apart
  · -- At a whole place there need not be an item above.
    rw [← whole, valueAt_natCast]
    exact item_mono ascending (by exact_mod_cast whole ▸ beyond) known
  · have next := floor_succ_lt_length inside apart
    have step := item_mono ascending (Nat.le_succ ⌊x⌋₊) next
    have less : x - ⌊x⌋₊ ≤ 1 := by linarith [Nat.lt_floor_add_one x]
    have part := mul_le_of_le_one_right (sub_nonneg.mpr step) less
    have on : item s (⌊x⌋₊ + 1) ≤ item s j :=
      item_mono ascending (by exact_mod_cast (apart.trans_le beyond)) known
    unfold valueAt
    linarith

/-- The value at a place grows with the place. -/
theorem valueAt_mono (ascending : s.Pairwise (· ≤ ·)) (nonneg : 0 ≤ x) (le : x ≤ y)
    (inside : y ≤ (s.length : Rat) - 1) : valueAt s x ≤ valueAt s y := by
  have nonneg' := nonneg.trans le
  have inside' := le.trans inside
  rcases (Nat.floor_mono le).eq_or_lt with same | later
  · -- On one stretch the value grows in proportion.
    rcases (Nat.floor_le nonneg').eq_or_lt with whole | apart
    · have equal : x = y := le_antisymm le (by rw [← whole, ← same]; exact Nat.floor_le nonneg)
      rw [equal]
    · have step := item_mono ascending (Nat.le_succ ⌊y⌋₊) (floor_succ_lt_length inside apart)
      have part := mul_le_mul_of_nonneg_left (sub_le_sub_right le (⌊y⌋₊ : Rat))
        (sub_nonneg.mpr step)
      unfold valueAt
      rw [same]
      linarith
  · -- From one stretch to a later one there is an item between.
    have between : x ≤ (⌊y⌋₊ : Nat) := (Nat.lt_floor_add_one x).le.trans (by exact_mod_cast later)
    exact (valueAt_le_item ascending nonneg inside' between
      (floor_lt_length nonneg' inside)).trans (item_floor_le ascending nonneg' inside)

theorem length_pos (some_ : s ≠ []) : (0 : Rat) ≤ (s.length : Rat) - 1 := by
  have one : (1 : Rat) ≤ s.length := by exact_mod_cast List.length_pos_iff.mpr some_
  linarith

theorem placeOf_nonneg (some_ : s ≠ []) (percent : Nat) : 0 ≤ placeOf s percent := by
  have last := length_pos some_
  unfold placeOf
  positivity

theorem placeOf_mono (some_ : s ≠ []) {p q : Nat} (le : p ≤ q) : placeOf s p ≤ placeOf s q := by
  have last := length_pos some_
  have le : (p : Rat) ≤ q := by exact_mod_cast le
  unfold placeOf
  gcongr

theorem placeOf_le (some_ : s ≠ []) {percent : Nat} (le : percent ≤ 100) :
    placeOf s percent ≤ (s.length : Rat) - 1 := by
  have whole := placeOf_mono some_ le
  have last : placeOf s 100 = (s.length : Rat) - 1 := by
    unfold placeOf
    push_cast
    ring
  rwa [last] at whole

/-- Reckoning from the nearer end gives the same point. -/
theorem between_eq (lo hi fraction : Rat) : between lo hi fraction = lo + (hi - lo) * fraction := by
  unfold between
  dsimp only
  split
  · rw [ofNat_eq]
    push_cast
    ring
  · rfl

theorem percentile_eq (some_ : s ≠ []) {percent : Nat} (le : percent ≤ 100) :
    percentile s percent = valueAt s (placeOf s percent) := by
  have last : ((s.length - 1 : Nat) : Rat) = (s.length : Rat) - 1 := by
    rw [Nat.cast_sub (List.length_pos_iff.mpr some_), Nat.cast_one]
  have place : Scalar.ofNat (s.length - 1) * Scalar.ratio percent 100 = placeOf s percent := by
    change _ * (((percent : Int) : Rat) / ((100 : Int) : Rat)) = _
    rw [ofNat_eq, last, placeOf]
    push_cast
    ring
  unfold percentile
  dsimp only
  rw [place]
  simp only [ofNat_eq, last]
  split
  next end_ =>
    -- The last place is the greatest that a percentile has.
    have whole : placeOf s percent = (s.length - 1 : Nat) :=
      (le_antisymm (placeOf_le some_ le) end_).trans last.symm
    rw [between_eq, whole, valueAt_natCast]
    ring
  next =>
    rw [between_eq]
    rfl

end Values

/-! ### The statistics of a sorted list -/

/-- The statistics of a sorted list. -/
def ofSorted (s : List Rat) : Latency Rat :=
  { min := valueAt s 0, max := valueAt s ((s.length : Rat) - 1), avg := s.sum / s.length,
    p50 := valueAt s (placeOf s 50), p90 := valueAt s (placeOf s 90),
    p95 := valueAt s (placeOf s 95), p99 := valueAt s (placeOf s 99) }

section Sorted

variable {xs s : List Rat}

theorem valueAt_zero (some_ : s ≠ []) : valueAt s 0 = s.head some_ := by
  have first := valueAt_natCast s 0
  rw [Nat.cast_zero] at first
  rw [first, item_eq (List.length_pos_iff.mpr some_), List.head_eq_getElem]

theorem valueAt_last (some_ : s ≠ []) : valueAt s ((s.length : Rat) - 1) = s.getLast some_ := by
  have inside := List.length_pos_iff.mpr some_
  have last := valueAt_natCast s (s.length - 1)
  rw [Nat.cast_sub inside, Nat.cast_one] at last
  rw [last, item_eq (by omega), List.getLast_eq_getElem]

theorem head_le (ascending : s.Pairwise (· ≤ ·)) (some_ : s ≠ []) : ∀ x ∈ s, s.head some_ ≤ x := by
  cases s with
  | nil => exact absurd rfl some_
  | cons first rest =>
    rintro x (_ | ⟨_, later⟩)
    · exact le_rfl
    · exact (List.pairwise_cons.mp ascending).1 x later

theorem le_getLast (ascending : s.Pairwise (· ≤ ·)) (some_ : s ≠ []) :
    ∀ x ∈ s, x ≤ s.getLast some_ := by
  intro x member
  -- Without its last item an ascending list has nothing above that item.
  rw [← List.dropLast_append_getLast some_] at ascending member
  rcases List.mem_append.mp member with before | last
  · exact (List.pairwise_append.mp ascending).2.2 x before _ (.head _)
  · exact (List.mem_singleton.mp last).le

theorem pairwise_mergeSort (xs : List Rat) :
    (xs.mergeSort fun x y => decide (x ≤ y)).Pairwise (· ≤ ·) := by
  have trans (a b c : Rat) (less : decide (a ≤ b) = true) (more : decide (b ≤ c) = true) :
      decide (a ≤ c) = true :=
    decide_eq_true ((of_decide_eq_true less).trans (of_decide_eq_true more))
  have total (a b : Rat) : (decide (a ≤ b) || decide (b ≤ a)) = true := by
    simpa using le_total a b
  simpa using List.pairwise_mergeSort trans total xs

/-- The statistics of a list are those of the sorted list. -/
theorem ofList_eq (same : s.Perm xs) (ascending : s.Pairwise (· ≤ ·)) (some_ : s ≠ []) :
    ofList xs = ofSorted s := by
  -- Rational numbers are all defined, so the shortcut for undefined ones is not taken.
  have defined : xs.find? Scalar.isUndefined = none := by simp [Scalar.isUndefined]
  have sorted : xs.mergeSort (fun x y => decide (x ≤ y)) = s :=
    List.Perm.eq_of_pairwise (fun _ _ _ _ => le_antisymm) (pairwise_mergeSort xs) ascending
      ((List.mergeSort_perm xs _).trans same.symm)
  unfold ofList
  rw [defined]
  cases xs with
  | nil => exact absurd (List.perm_nil.mp same) some_
  | cons first rest =>
    dsimp only
    rw [sorted]
    obtain ⟨least_, below⟩ := least_spec first rest
    obtain ⟨greatest_, above⟩ := greatest_spec first rest
    -- The ends of the sorted list are as good as all items, and they are items.
    have min : least first rest = valueAt s 0 := by
      rw [valueAt_zero some_]
      exact le_antisymm (below _ (same.subset (List.head_mem some_)))
        (head_le ascending some_ _ (same.symm.subset least_))
    have max : greatest first rest = valueAt s ((s.length : Rat) - 1) := by
      rw [valueAt_last some_]
      exact le_antisymm (le_getLast ascending some_ _ (same.symm.subset greatest_))
        (above _ (same.subset (List.getLast_mem some_)))
    rw [min, max, mean_eq, ← same.sum_eq, ← same.length_eq, percentile_eq some_ (by decide),
      percentile_eq some_ (by decide), percentile_eq some_ (by decide),
      percentile_eq some_ (by decide)]
    rfl

end Sorted

/-! ### Coherence -/

/-- A value lies at a place of a sorted list: it is the item there, if the place is whole, and else
it stands between the neighbours of the place in proportion. -/
structure LiesAt (s : List Rat) (place value : Rat) : Prop where
  whole : ∀ i : Nat, place = i → s[i]? = some value
  between : ∀ i : Nat, i < place → place < i + 1 → ∃ below above, s[i]? = some below ∧
    s[i + 1]? = some above ∧ below ≤ value ∧ value ≤ above ∧
    value = below + (above - below) * (place - i)

/-- Statistics that fit together, and fit a list of latencies. -/
structure Coherent (xs : List Rat) (l : Latency Rat) : Prop where
  ascending : l.min ≤ l.p50 ∧ l.p50 ≤ l.p90 ∧ l.p90 ≤ l.p95 ∧ l.p95 ≤ l.p99 ∧ l.p99 ≤ l.max
  least : l.min ∈ xs ∧ ∀ x ∈ xs, l.min ≤ x
  greatest : l.max ∈ xs ∧ ∀ x ∈ xs, x ≤ l.max
  avg : l.avg = xs.sum / xs.length ∧ l.min ≤ l.avg ∧ l.avg ≤ l.max
  percentiles : ∀ s, s.Perm xs → s.Pairwise (· ≤ ·) →
    LiesAt s (((s.length : Rat) - 1) * 50 / 100) l.p50 ∧
    LiesAt s (((s.length : Rat) - 1) * 90 / 100) l.p90 ∧
    LiesAt s (((s.length : Rat) - 1) * 95 / 100) l.p95 ∧
    LiesAt s (((s.length : Rat) - 1) * 99 / 100) l.p99

/-- The statistics of latencies that all take longer by the same time. -/
def shift (l : Latency Rat) (c : Rat) : Latency Rat :=
  { min := l.min + c, max := l.max + c, avg := l.avg + c, p50 := l.p50 + c, p90 := l.p90 + c,
    p95 := l.p95 + c, p99 := l.p99 + c }

section Coherent

variable {xs s : List Rat} {x : Rat}

theorem getElem?_eq_item {i : Nat} (inside : i < s.length) : s[i]? = some (item s i) := by
  rw [item_eq inside, List.getElem?_eq_getElem inside]

theorem liesAt_valueAt (ascending : s.Pairwise (· ≤ ·)) (nonneg : 0 ≤ x)
    (inside : x ≤ (s.length : Rat) - 1) : LiesAt s x (valueAt s x) where
  whole := by
    rintro i rfl
    rw [valueAt_natCast]
    exact getElem?_eq_item (by simpa using floor_lt_length nonneg inside)
  between := by
    intro i below above
    have stretch : ⌊x⌋₊ = i := (Nat.floor_eq_iff nonneg).mpr ⟨below.le, above⟩
    have next : i + 1 < s.length := stretch ▸ floor_succ_lt_length inside (stretch ▸ below)
    refine ⟨item s i, item s (i + 1), getElem?_eq_item (by omega), getElem?_eq_item next,
      stretch ▸ item_floor_le ascending nonneg inside, ?_, ?_⟩
    · exact valueAt_le_item ascending nonneg inside (by exact_mod_cast above.le) next
    · rw [valueAt, stretch]

theorem liesAt_placeOf (ascending : s.Pairwise (· ≤ ·)) (some_ : s ≠ []) {percent : Nat}
    (le : percent ≤ 100) :
    LiesAt s (((s.length : Rat) - 1) * percent / 100) (valueAt s (placeOf s percent)) :=
  liesAt_valueAt ascending (placeOf_nonneg some_ percent) (placeOf_le some_ le)

theorem placeOf_zero (s : List Rat) : placeOf s 0 = 0 := by
  simp [placeOf]

/-- Greater percentiles are no less. -/
theorem valueAt_placeOf_mono (ascending : s.Pairwise (· ≤ ·)) (some_ : s ≠ []) {p q : Nat}
    (le : p ≤ q) (most : q ≤ 100) : valueAt s (placeOf s p) ≤ valueAt s (placeOf s q) :=
  valueAt_mono ascending (placeOf_nonneg some_ p) (placeOf_mono some_ le) (placeOf_le some_ most)

/-- The mean lies between bounds of all items. -/
theorem mean_bounds (some_ : xs ≠ []) {lo hi : Rat} (below : ∀ x ∈ xs, lo ≤ x)
    (above : ∀ x ∈ xs, x ≤ hi) : lo ≤ xs.sum / xs.length ∧ xs.sum / xs.length ≤ hi := by
  have many : (0 : Rat) < xs.length := by exact_mod_cast List.length_pos_iff.mpr some_
  have lower := List.card_nsmul_le_sum xs lo below
  have upper := List.sum_le_card_nsmul xs hi above
  rw [nsmul_eq_mul] at lower upper
  rw [le_div_iff₀ many, div_le_iff₀ many]
  constructor <;> linarith

theorem exists_sorted (some_ : xs ≠ []) :
    ∃ s : List Rat, s.Perm xs ∧ s.Pairwise (· ≤ ·) ∧ s ≠ [] := by
  have same := List.mergeSort_perm xs fun x y => decide (x ≤ y)
  refine ⟨_, same, pairwise_mergeSort xs, fun nothing => some_ ?_⟩
  rw [nothing] at same
  exact List.nil_perm.mp same

theorem coherent_ofList (some_ : xs ≠ []) : Coherent xs (ofList xs) := by
  obtain ⟨s, same, ascending, items⟩ := exists_sorted some_
  have least : (ofSorted s).min ∈ xs ∧ ∀ x ∈ xs, (ofSorted s).min ≤ x := by
    rw [ofSorted, valueAt_zero items]
    exact ⟨same.subset (List.head_mem items), fun x member =>
      head_le ascending items x (same.symm.subset member)⟩
  have greatest : (ofSorted s).max ∈ xs ∧ ∀ x ∈ xs, x ≤ (ofSorted s).max := by
    rw [ofSorted, valueAt_last items]
    exact ⟨same.subset (List.getLast_mem items), fun x member =>
      le_getLast ascending items x (same.symm.subset member)⟩
  have avg : (ofSorted s).avg = xs.sum / xs.length := by
    rw [ofSorted, same.sum_eq, same.length_eq]
  rw [ofList_eq same ascending items]
  refine ⟨⟨?_, ?_, ?_, ?_, ?_⟩, least, greatest, ⟨avg, ?_⟩, ?_⟩
  · have first := valueAt_placeOf_mono ascending items (Nat.zero_le 50) (by decide)
    rwa [placeOf_zero] at first
  · exact valueAt_placeOf_mono ascending items (by decide) (by decide)
  · exact valueAt_placeOf_mono ascending items (by decide) (by decide)
  · exact valueAt_placeOf_mono ascending items (by decide) (by decide)
  · exact valueAt_mono ascending (placeOf_nonneg items 99) (placeOf_le items (by decide)) le_rfl
  · rw [avg]
    exact mean_bounds some_ least.2 greatest.2
  · -- Any other list that is sorted is the same.
    intro s' same' ascending'
    obtain rfl : s' = s := List.Perm.eq_of_pairwise (fun _ _ _ _ => le_antisymm) ascending'
      ascending (same'.trans same.symm)
    exact ⟨liesAt_placeOf ascending items (by decide), liesAt_placeOf ascending items (by decide),
      liesAt_placeOf ascending items (by decide), liesAt_placeOf ascending items (by decide)⟩

/-- Equal latencies leave the statistics no choice. -/
theorem Coherent.eq_constant {l : Latency Rat} (coherent : Coherent xs l)
    (equal : ∀ y ∈ xs, y = x) : l = constant x := by
  have least := equal _ coherent.least.1
  have greatest := equal _ coherent.greatest.1
  obtain ⟨p50, p90, p95, p99, max⟩ := coherent.ascending
  obtain ⟨-, lower, upper⟩ := coherent.avg
  obtain ⟨min_, max_, avg, _, _, _, _⟩ := l
  -- All that is between the least and the greatest is equal to both.
  simp only [constant, mk.injEq] at *
  refine ⟨?_, ?_, ?_, ?_, ?_, ?_, ?_⟩ <;> linarith

theorem ofList_perm {ys : List Rat} (some_ : xs ≠ []) (same : ys.Perm xs) :
    ofList ys = ofList xs := by
  obtain ⟨s, sorted, ascending, items⟩ := exists_sorted some_
  rw [ofList_eq sorted ascending items, ofList_eq (sorted.trans same.symm) ascending items]

theorem item_map_add {i : Nat} (inside : i < s.length) (c : Rat) :
    item (s.map (· + c)) i = item s i + c := by
  simp [item, inside]

theorem valueAt_map_add (nonneg : 0 ≤ x) (inside : x ≤ (s.length : Rat) - 1) (c : Rat) :
    valueAt (s.map (· + c)) x = valueAt s x + c := by
  have here := floor_lt_length nonneg inside
  rcases (Nat.floor_le nonneg).eq_or_lt with whole | apart
  · rw [← whole, valueAt_natCast, valueAt_natCast, item_map_add here]
  · -- Both neighbours are moved, and the gap between them stays.
    unfold valueAt
    rw [item_map_add here, item_map_add (floor_succ_lt_length inside apart)]
    ring

theorem placeOf_map (f : Rat → Rat) (s : List Rat) (percent : Nat) :
    placeOf (s.map f) percent = placeOf s percent := by
  rw [placeOf, placeOf, List.length_map]

theorem ofSorted_map_add (some_ : s ≠ []) (c : Rat) :
    ofSorted (s.map (· + c)) = (ofSorted s).shift c := by
  have many : (s.length : Rat) ≠ 0 := by exact_mod_cast (List.length_pos_iff.mpr some_).ne'
  have last := length_pos some_
  have moved {percent : Nat} (le : percent ≤ 100) :
      valueAt (s.map (· + c)) (placeOf s percent) = valueAt s (placeOf s percent) + c :=
    valueAt_map_add (placeOf_nonneg some_ percent) (placeOf_le some_ le) c
  -- Every latency is moved, so the sum is moved once for each.
  have sum : (s.map (· + c)).sum = s.sum + s.length * c := by
    rw [List.sum_map_add, List.map_const', List.sum_replicate, nsmul_eq_mul, List.map_id']
  simp only [ofSorted, shift, placeOf_map, List.length_map, mk.injEq]
  refine ⟨valueAt_map_add le_rfl last c, valueAt_map_add last le_rfl c, ?_, moved (by decide),
    moved (by decide), moved (by decide), moved (by decide)⟩
  rw [sum]
  field_simp

theorem ofList_map_add (some_ : xs ≠ []) (c : Rat) :
    ofList (xs.map (· + c)) = (ofList xs).shift c := by
  obtain ⟨s, sorted, ascending, items⟩ := exists_sorted some_
  have ascending' : (s.map (· + c)).Pairwise (· ≤ ·) :=
    -- Moving all keeps the order.
    List.pairwise_map.mpr (ascending.imp fun le => by simpa using le)
  rw [ofList_eq sorted ascending items, ofList_eq (sorted.map _) ascending' (by simpa using items),
    ofSorted_map_add items]

/-- The statistics of latencies are coherent: they are in order, they fit the list, they move along
with it, and the order of the list does not matter. Of equal latencies they are all the same. -/
theorem ofList_coherent (xs : List Rat) (some_ : xs ≠ []) :
    Coherent xs (ofList xs) ∧ (∀ x, (∀ y ∈ xs, y = x) → ofList xs = constant x) ∧
      (∀ c, ofList (xs.map (· + c)) = (ofList xs).shift c) ∧
      ∀ ys, ys.Perm xs → ofList ys = ofList xs :=
  ⟨coherent_ofList some_, fun _ => (coherent_ofList some_).eq_constant, ofList_map_add some_,
    fun _ => ofList_perm some_⟩

end Coherent

/-! ### Four latencies -/

namespace Four

def latencies : List Rat := [30, 10, 20, 10]

def sorted : List Rat := [10, 10, 20, 30]

/-- The median of four latencies stands half way between the second and the third. -/
theorem ofList_coherent_four : latencies ≠ [] ∧ Coherent latencies (ofList latencies) ∧
    (ofList latencies).p50 = 15 ∧ (ofList sorted).p50 = 15 := by
  have some_ : latencies ≠ [] := by decide
  obtain ⟨coherent, -, -, anyOrder⟩ := ofList_coherent latencies some_
  have same : sorted.Perm latencies := by decide
  obtain ⟨median, -⟩ := coherent.percentiles sorted same (by decide)
  have four : (sorted.length : Rat) = 4 := rfl
  obtain ⟨below, above, ⟨⟩, ⟨⟩, -, -, half⟩ :=
    median.between 1 (by norm_num [four]) (by norm_num [four])
  have middle : (ofList latencies).p50 = 15 := by
    rw [half, four]
    norm_num
  exact ⟨some_, coherent, middle, by rw [anyOrder sorted same, middle]⟩

end Four

end Latency

end Volley
