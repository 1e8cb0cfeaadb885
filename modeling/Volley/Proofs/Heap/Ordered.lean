import Mathlib.Data.List.Induction
import Mathlib.Data.List.Perm.Basic
import Volley.Heap

/-!
# Heaps in order

The operations of a heap keep its items and their order: no item comes before one that is above it,
and the first places are taken. So nothing comes before the top of a heap, whatever was pushed and
popped.

## Main definitions

- `Heap.Ranking`: what is asked of an order.
- `Heap.Ordered`: no item comes before one above it.
- `Heap.Filled`: the items take the first places.
- `Heap.Sound`: both together.

## Main results

- `not_before_top`: no item comes before the top.
- `Sound.push`, `Sound.popWhile`: no item is lost or made, and heaps stay in order.
- `Sound.mem_popWhile_of_top`, `Sound.not_of_top_popWhile`: items are taken off the top as long as
  they satisfy the condition, and no longer.
-/

namespace Volley

namespace Heap

open List (Perm)
open scoped List

variable {α : Type}

/-- What is asked of an order: two items may be level, and being level or earlier is transitive. -/
structure Ranking (before : α → α → Bool) : Prop where
  irrefl : ∀ x, before x x = false
  asymm : ∀ x y, before x y = true → before y x = false
  trans : ∀ x y z, before y x = false → before z y = false → before z x = false

/-- No item comes before one that is above it. -/
def Ordered (before : α → α → Bool) : Heap α → Prop
  | empty => True
  | node x left right =>
    (∀ y ∈ left.items ++ right.items, before y x = false) ∧ left.Ordered before ∧
      right.Ordered before

/-- Whether there is an item in the place at the end of a way. -/
def occupied : List Bool → Heap α → Bool
  | _, empty => false
  | [], node _ _ _ => true
  | turn :: turns, node _ left right => if turn then right.occupied turns else left.occupied turns

/-- The items take the first places. -/
def Filled (h : Heap α) : Prop :=
  ∀ place, 1 ≤ place → (h.occupied (way place) = true ↔ place ≤ h.size)

/-- A place on the right is taken after the one on the left of it. -/
def LeftFirst (h : Heap α) : Prop :=
  ∀ turns, h.occupied (turns ++ [true]) = true → h.occupied (turns ++ [false]) = true

/-! ### Ways -/

theorem way_one : way 1 = [] := by
  rw [way, if_pos (Nat.le_refl 1)]

theorem way_left {place : Nat} (positive : 1 ≤ place) : way (2 * place) = way place ++ [false] := by
  rw [way, if_neg (by omega)]
  simp

theorem way_right {place : Nat} (positive : 1 ≤ place) :
    way (2 * place + 1) = way place ++ [true] := by
  rw [way, if_neg (by omega)]
  have half : (2 * place + 1) / 2 = place := by omega
  have odd : (2 * place + 1) % 2 = 1 := by omega
  simp [half, odd]

/-- Every way leads to a place. -/
theorem exists_way (turns : List Bool) : ∃ place, 1 ≤ place ∧ way place = turns := by
  induction turns using List.reverseRecOn with
  | nil => exact ⟨1, Nat.le_refl 1, way_one⟩
  | append_singleton turns turn ih =>
    obtain ⟨place, positive, rfl⟩ := ih
    cases turn with
    | false => exact ⟨2 * place, by omega, way_left positive⟩
    | true => exact ⟨2 * place + 1, by omega, way_right positive⟩

/-- Every place but the first is below another one, on its left or on its right. -/
theorem way_cases {place : Nat} (positive : 1 ≤ place) : place = 1 ∨
    ∃ parent, 1 ≤ parent ∧ parent < place ∧
      (place = 2 * parent ∧ way place = way parent ++ [false] ∨
        place = 2 * parent + 1 ∧ way place = way parent ++ [true]) := by
  by_cases one : place = 1
  · exact .inl one
  · have half : 1 ≤ place / 2 := by omega
    refine .inr ⟨place / 2, half, by omega, ?_⟩
    rcases Nat.mod_two_eq_zero_or_one place with even | odd
    · have same : place = 2 * (place / 2) := by omega
      exact .inl ⟨same, by rw [← way_left half, ← same]⟩
    · have same : place = 2 * (place / 2) + 1 := by omega
      exact .inr ⟨same, by rw [← way_right half, ← same]⟩

/-- Two places do not have the same way. -/
theorem way_injective {place other : Nat} (positive : 1 ≤ place) (positive' : 1 ≤ other)
    (same : way place = way other) : place = other := by
  induction place using Nat.strongRecOn generalizing other with
  | ind place ih =>
    rcases way_cases positive with rfl | ⟨parent, one, less, here⟩
    · rcases way_cases positive' with rfl | ⟨parent', -, -, there⟩
      · rfl
      · rw [way_one] at same
        rcases there with ⟨-, turns⟩ | ⟨-, turns⟩ <;> simp [turns] at same
    · rcases way_cases positive' with rfl | ⟨parent', one', -, there⟩
      · rw [way_one] at same
        rcases here with ⟨-, turns⟩ | ⟨-, turns⟩ <;> simp [turns] at same
      · -- Both ways end with the same turn, and what comes before it leads to the same parent.
        rcases here with ⟨rfl, turns⟩ | ⟨rfl, turns⟩ <;>
          rcases there with ⟨rfl, turns'⟩ | ⟨rfl, turns'⟩ <;>
          rw [turns, turns'] at same
        · rw [ih parent less one one' (List.append_inj_left' same rfl)]
        · simp at same
        · simp at same
        · rw [ih parent less one one' (List.append_inj_left' same rfl)]

/-! ### Places -/

theorem Filled.leftFirst {h : Heap α} (filled : h.Filled) : h.LeftFirst := by
  intro turns taken
  obtain ⟨place, positive, rfl⟩ := exists_way turns
  -- In numbers: if the place on the right is among the first, so is the one before it.
  rw [← way_right positive, filled _ (by omega)] at taken
  rw [← way_left positive, filled _ (by omega)]
  omega

theorem Filled.free {h : Heap α} (filled : h.Filled) {place : Nat} (beyond : h.size < place) :
    h.occupied (way place) = false := by
  have taken := filled place (by omega)
  cases occupied : h.occupied (way place) with
  | false => rfl
  | true =>
    have below := taken.mp occupied
    omega

/-- Nothing is below the last place. -/
theorem Filled.lowest {h : Heap α} (filled : h.Filled) (some_ : 1 ≤ h.size) (turn : Bool) :
    h.occupied (way h.size ++ [turn]) = false := by
  cases turn with
  | false =>
    rw [← way_left some_]
    exact filled.free (by omega)
  | true =>
    rw [← way_right some_]
    exact filled.free (by omega)

theorem filled_empty : (empty : Heap α).Filled := by
  intro place positive
  simp [occupied, size]
  omega

theorem LeftFirst.children {x : α} {left right : Heap α} (first : (node x left right).LeftFirst) :
    left.LeftFirst ∧ right.LeftFirst :=
  ⟨fun turns => first (false :: turns), fun turns => first (true :: turns)⟩

theorem LeftFirst.right_empty {x : α} {right : Heap α}
    (first : (node x empty right).LeftFirst) : right = empty := by
  cases right with
  | empty => rfl
  | node y left' right' => simpa [occupied] using first []

theorem occupied_withTop (x : α) (turns : List Bool) (h : Heap α) :
    (h.withTop x).occupied turns = h.occupied turns := by
  cases h with
  | empty => rfl
  | node y left right => cases turns <;> rfl

/-- Whichever of two items goes up, what is below takes the same places. -/
theorem occupied_exchange (before : α → α → Bool) (x y : α) (below : Heap α × Bool)
    (turns : List Bool) :
    (exchange before x y below).2.1.occupied turns = below.1.occupied turns := by
  obtain ⟨below, risen⟩ := below
  by_cases rises : (risen && before x y) = true
  · simp [exchange, rises, occupied_withTop]
  · simp [exchange, rises]

/-- A new item takes the free place at the end of its way, and no other. -/
theorem occupied_insert (before : α → α → Bool) (x : α) (turns : List Bool) (h : Heap α)
    (free : h.occupied turns = false)
    (reached : ∀ head last, turns = head ++ [last] → h.occupied head = true) (other : List Bool) :
    (insert before x turns h).1.occupied other = true ↔
      h.occupied other = true ∨ other = turns := by
  induction turns generalizing h other with
  | nil =>
    cases h with
    | empty => cases other <;> simp [insert, occupied]
    | node y left right => simp [occupied] at free
  | cons turn turns ih =>
    cases h with
    | empty =>
      -- The way has a place above its end, which is taken.
      obtain ⟨head, last, same⟩ : ∃ head last, turn :: turns = head ++ [last] :=
        ⟨(turn :: turns).dropLast, (turn :: turns).getLast (by simp),
          (List.dropLast_append_getLast (by simp)).symm⟩
      have taken := reached head last same
      simp [occupied] at taken
    | node y left right =>
      -- What is said of the way in the whole tree holds of its rest in the half that it turns to.
      have reached' (half : Heap α) (here : ∀ way, half.occupied way =
          (node y left right).occupied (turn :: way)) (head : List Bool) (last : Bool)
          (same : turns = head ++ [last]) : half.occupied head = true := by
        rw [here]
        exact reached (turn :: head) last (by rw [same]; rfl)
      cases turn with
      | false =>
        have smaller := ih left free (reached' left fun _ => rfl)
        cases other with
        | nil => simp [insert, occupied]
        | cons turn' others =>
          cases turn' <;> simp [insert, occupied, occupied_exchange, smaller]
      | true =>
        have smaller := ih right free (reached' right fun _ => rfl)
        cases other with
        | nil => simp [insert, occupied]
        | cons turn' others =>
          cases turn' <;> simp [insert, occupied, occupied_exchange, smaller]

theorem occupied_map (f : α → α) (turns : List Bool) (h : Heap α) :
    (h.map f).occupied turns = h.occupied turns := by
  induction h generalizing turns with
  | empty => rfl
  | node x left right ih ih' =>
    cases turns with
    | nil => rfl
    | cons turn turns => simp [map, occupied, ih, ih']

/-! ### Order -/

namespace Ordered

variable {before : α → α → Bool}

theorem not_before_top (ranking : Ranking before) {h : Heap α} (ordered : h.Ordered before)
    {top y : α} (at_top : h.top? = some top) (member : y ∈ h.items) : before y top = false := by
  cases h with
  | empty => cases at_top
  | node x left right =>
    obtain rfl : x = top := Option.some.inj at_top
    rcases List.mem_cons.mp member with rfl | below
    · exact ranking.irrefl _
    · exact ordered.1 y below

end Ordered

/-- What is known of a tree that an item came into: the item is in the tree besides the old ones, it
is at the top just if it rose there, and some old item is level or earlier if it did not. -/
structure Received (before : α → α → Bool) (x : α) (old : List α) (result : Heap α × Bool) :
    Prop where
  perm : result.1.items ~ x :: old
  ordered : result.1.Ordered before
  risen : result.2 = true → result.1.top? = some x
  stayed : result.2 = false → ∃ y ∈ old, before x y = false

/-- Of an item that comes from below and one above it, the earlier goes up. -/
theorem exchange_cases {before : α → α → Bool} (ranking : Ranking before) {x y : α}
    {below : Heap α × Bool} {old : List α} (received : Received before x old below)
    (early : ∀ z ∈ old, before z y = false) :
    (exchange before x y below = (x, below.1.withTop y, true) ∧ before x y = true ∧
      below.1.top? = some x) ∨
    (exchange before x y below = (y, below.1, false) ∧ before x y = false) := by
  obtain ⟨below, risen⟩ := below
  cases risen with
  | true =>
    cases earlier : before x y with
    | true => exact .inl ⟨by simp [exchange, earlier], rfl, received.risen rfl⟩
    | false => exact .inr ⟨by simp [exchange, earlier], rfl⟩
  | false =>
    -- An item that stayed below is not earlier than one there, nor than the one above it.
    obtain ⟨z, member, later⟩ := received.stayed rfl
    exact .inr ⟨by simp [exchange], ranking.trans y z x (early z member) later⟩

/-- The tree with the earlier item above, what came into below it, and another tree beside. -/
theorem received_exchange {before : α → α → Bool} (ranking : Ranking before) {x y : α}
    {below : Heap α × Bool} {old : List α} (received : Received before x old below)
    (early : ∀ z ∈ old, before z y = false) {beside : Heap α} (ordered : beside.Ordered before)
    (early' : ∀ z ∈ beside.items, before z y = false) :
    Received before x (y :: (old ++ beside.items))
      (node (exchange before x y below).1 (exchange before x y below).2.1 beside,
        (exchange before x y below).2.2) := by
  obtain ⟨perm, ordered_below, -, -⟩ := id received
  rcases exchange_cases ranking received early with ⟨same, earlier, at_top⟩ | ⟨same, later⟩
  · rw [same]
    -- The item rises, and the one above takes its place, where all else is later.
    have above (z : α) (later : before z y = false) : before z x = false :=
      ranking.trans x y z (ranking.asymm x y earlier) later
    obtain ⟨below, risen⟩ := below
    cases below with
    | empty => cases at_top
    | node z left right =>
      obtain rfl : z = x := Option.some.inj at_top
      have rest : left.items ++ right.items ~ old := (List.perm_cons z).mp perm
      refine ⟨?_, ⟨?_, ⟨?_, ordered_below.2⟩, ordered⟩, fun _ => rfl, nofun⟩
      · exact ((rest.append_right beside.items).cons y).cons z
      · intro w member
        rcases List.mem_append.mp member with member | member
        · rcases List.mem_cons.mp member with rfl | member
          · exact ranking.asymm _ _ earlier
          · exact above w (early w (rest.mem_iff.mp member))
        · exact above w (early' w member)
      · intro w member
        exact early w (rest.mem_iff.mp member)
  · rw [same]
    refine ⟨?_, ⟨?_, ordered_below, ordered⟩, nofun, fun _ => ⟨y, .head _, later⟩⟩
    · exact ((perm.append_right beside.items).cons y).trans (.swap x y _)
    · intro w member
      rcases List.mem_append.mp member with member | member
      · rcases List.mem_cons.mp (perm.mem_iff.mp member) with rfl | member
        · exact later
        · exact early w member
      · exact early' w member

theorem Received.mirror {before : α → α → Bool} {x top : α} {old : List α} {left right : Heap α}
    {risen : Bool} (received : Received before x old (node top left right, risen)) :
    Received before x old (node top right left, risen) := by
  obtain ⟨perm, ordered, at_top, stayed⟩ := received
  have swapped : right.items ++ left.items ~ left.items ++ right.items := List.perm_append_comm
  refine ⟨(swapped.cons top).trans perm, ⟨?_, ordered.2.2, ordered.2.1⟩, at_top, stayed⟩
  intro y member
  exact ordered.1 y (swapped.mem_iff.mp member)

theorem Received.of_perm {before : α → α → Bool} {x : α} {old old' : List α}
    {result : Heap α × Bool} (received : Received before x old result) (same : old ~ old') :
    Received before x old' result := by
  refine ⟨received.perm.trans (same.cons x), received.ordered, received.risen, ?_⟩
  intro stays
  obtain ⟨y, member, later⟩ := received.stayed stays
  exact ⟨y, same.mem_iff.mp member, later⟩

/-! ### Pushing -/

theorem received_insert {before : α → α → Bool} (ranking : Ranking before) (x : α)
    (turns : List Bool) (h : Heap α) (ordered : h.Ordered before) :
    Received before x h.items (insert before x turns h) := by
  induction h generalizing turns with
  | empty => exact ⟨.refl _, ⟨by simp [items], trivial, trivial⟩, fun _ => rfl, nofun⟩
  | node y left right ih ih' =>
    obtain ⟨early, ordered_left, ordered_right⟩ := ordered
    have early_left (z : α) (member : z ∈ left.items) := early z (List.mem_append_left _ member)
    have early_right (z : α) (member : z ∈ right.items) := early z (List.mem_append_right _ member)
    unfold insert
    split
    · -- The item came in on the right, so the tree is looked at from the other side.
      exact ((received_exchange ranking (ih' turns.tail ordered_right) early_right ordered_left
        early_left).mirror).of_perm (List.perm_append_comm.cons y)
    · exact received_exchange ranking (ih turns.tail ordered_left) early_left ordered_right
        early_right

/-! ### Popping -/

/-- Taking an item out leaves the others, in the places where they were. -/
theorem removeAt_spec (before : α → α → Bool) (turns : List Bool) (h : Heap α)
    (taken : h.occupied turns = true) (last : ∀ turn, h.occupied (turns ++ [turn]) = false) :
    ∃ x rest, removeAt turns h = some (x, rest) ∧ x :: rest.items ~ h.items ∧
      (h.Ordered before → rest.Ordered before) ∧
      (∀ other, rest.occupied other = true ↔ h.occupied other = true ∧ other ≠ turns) ∧
      (turns ≠ [] → rest.top? = h.top?) := by
  induction turns generalizing h with
  | nil =>
    cases h with
    | empty => simp [occupied] at taken
    | node x left right =>
      -- A place with nothing below it.
      obtain rfl : left = empty := by
        cases left with
        | empty => rfl
        | node y l r => simpa [occupied] using last false
      obtain rfl : right = empty := by
        cases right with
        | empty => rfl
        | node y l r => simpa [occupied] using last true
      refine ⟨x, empty, rfl, by simp [items], fun _ => trivial, ?_, by simp⟩
      intro other
      cases other with
      | nil => simp [occupied]
      | cons turn others => cases turn <;> simp [occupied]
  | cons turn turns ih =>
    cases h with
    | empty => simp [occupied] at taken
    | node y left right =>
      cases turn with
      | false =>
        obtain ⟨x, rest, removed, perm, ordered, places, -⟩ := ih left taken (last ·)
        refine ⟨x, node y rest right, by simp [removeAt, removed], ?_, ?_, ?_, fun _ => rfl⟩
        · exact (List.Perm.swap y x _).trans ((perm.append_right right.items).cons y)
        · rintro ⟨early, ordered_left, ordered_right⟩
          refine ⟨?_, ordered ordered_left, ordered_right⟩
          intro z member
          apply early z
          rcases List.mem_append.mp member with member | member
          · exact List.mem_append_left _ (perm.mem_iff.mp (.tail x member))
          · exact List.mem_append_right _ member
        · intro other
          cases other with
          | nil => simp [occupied]
          | cons turn' others => cases turn' <;> simp [occupied, places]
      | true =>
        obtain ⟨x, rest, removed, perm, ordered, places, -⟩ := ih right taken (last ·)
        refine ⟨x, node y left rest, by simp [removeAt, removed], ?_, ?_, ?_, fun _ => rfl⟩
        · refine (List.Perm.swap y x _).trans (Perm.cons y ?_)
          exact List.perm_middle.symm.trans (perm.append_left left.items)
        · rintro ⟨early, ordered_left, ordered_right⟩
          refine ⟨?_, ordered_left, ordered ordered_right⟩
          intro z member
          apply early z
          rcases List.mem_append.mp member with member | member
          · exact List.mem_append_left _ member
          · exact List.mem_append_right _ (perm.mem_iff.mp (.tail x member))
        · intro other
          cases other with
          | nil => simp [occupied]
          | cons turn' others => cases turn' <;> simp [occupied, places]

/-- The item goes down on the left if its child is the earlier one, or the only one. -/
theorem refill_left (before : α → α → Bool) (x top y : α) (l r right : Heap α)
    (earlier : ∀ z, right.top? = some z → before y z = true) :
    refill before x (node top (node y l r) right) =
      let raised := exchange before x y (refill before x (node y l r))
      (node raised.1 raised.2.1 right, raised.2.2) := by
  cases right with
  | empty => rw [refill]
  | node z l' r' => rw [refill, if_pos (earlier z rfl)]

/-- And on the right if the child there is earlier or level. -/
theorem refill_right (before : α → α → Bool) (x top y z : α) (l r l' r' : Heap α)
    (later : before y z = false) :
    refill before x (node top (node y l r) (node z l' r')) =
      let raised := exchange before x z (refill before x (node z l' r'))
      (node raised.1 (node y l r) raised.2.1, raised.2.2) := by
  rw [refill, if_neg (by simp [later])]

/-- An item comes in at the top, from which another was taken. -/
theorem received_refill {before : α → α → Bool} (ranking : Ranking before) (x top : α)
    {left right : Heap α} (first : (node top left right).LeftFirst)
    (ordered_left : left.Ordered before) (ordered_right : right.Ordered before) :
    Received before x (left.items ++ right.items) (refill before x (node top left right)) := by
  -- By induction on the tree; the item comes in below on the side of the earlier child.
  generalize whole : node top left right = h at first
  induction h generalizing top left right with
  | empty => cases whole
  | node item left right ih ih' =>
    obtain ⟨rfl, rfl, rfl⟩ := Heap.node.inj whole
    obtain ⟨first_left, first_right⟩ := first.children
    cases left with
    | empty =>
      obtain rfl := first.right_empty
      rw [refill]
      exact ⟨.refl _, ⟨by simp [items], trivial, trivial⟩, fun _ => rfl, nofun⟩
    | node y l r =>
      have early : ∀ w ∈ l.items ++ r.items, before w y = false := ordered_left.1
      by_cases earlier : ∀ z, right.top? = some z → before y z = true
      · -- Below the left child nothing is earlier than it, and so neither is anything on the
        -- right.
        rw [refill_left before x _ y l r right earlier]
        have below := ih y ordered_left.2.1 ordered_left.2.2 rfl first_left
        refine received_exchange ranking below early ordered_right ?_
        intro w member
        cases right with
        | empty => cases member
        | node z l' r' =>
          exact ranking.trans y z w (ranking.asymm y z (earlier z rfl))
            (ordered_right.not_before_top ranking rfl member)
      · obtain ⟨z, at_top, later⟩ : ∃ z, right.top? = some z ∧ before y z = false := by
          simpa using earlier
        cases right with
        | empty => cases at_top
        | node item' l' r' =>
          obtain rfl : item' = z := Option.some.inj at_top
          rw [refill_right before x _ y item' l r l' r' later]
          have below := ih' item' ordered_right.2.1 ordered_right.2.2 rfl first_right
          refine (received_exchange ranking below ordered_right.1 ordered_left ?_).mirror.of_perm ?_
          · intro w member
            exact ranking.trans item' y w later (ordered_left.not_before_top ranking rfl member)
          · exact @List.perm_append_comm _ (item' :: (l'.items ++ r'.items)) _

theorem occupied_refill (before : α → α → Bool) (x : α) {h : Heap α} (first : h.LeftFirst)
    (turns : List Bool) : (refill before x h).1.occupied turns = h.occupied turns := by
  induction h generalizing turns with
  | empty => rfl
  | node top left right ih ih' =>
    obtain ⟨first_left, first_right⟩ := first.children
    cases left with
    | empty =>
      rw [refill]
      cases turns <;> rfl
    | node y l r =>
      by_cases earlier : ∀ z, right.top? = some z → before y z = true
      · rw [refill_left before x top y l r right earlier]
        cases turns with
        | nil => rfl
        | cons turn turns => cases turn <;> simp [occupied, occupied_exchange, ih first_left]
      · obtain ⟨z, at_top, later⟩ : ∃ z, right.top? = some z ∧ before y z = false := by
          simpa using earlier
        cases right with
        | empty => cases at_top
        | node item l' r' =>
          obtain rfl : item = z := Option.some.inj at_top
          rw [refill_right before x top y item l r l' r' later]
          cases turns with
          | nil => rfl
          | cons turn turns => cases turn <;> simp [occupied, occupied_exchange, ih' first_right]

/-! ### Heaps in order -/

theorem size_eq (h : Heap α) : h.size = h.items.length := by
  induction h with
  | empty => rfl
  | node x left right ih ih' => simp [size, items, ih, ih']

/-- A heap in order: nothing comes before what is above it, and the first places are taken. -/
structure Sound (before : α → α → Bool) (h : Heap α) : Prop where
  ordered : h.Ordered before
  filled : h.Filled

theorem sound_empty (before : α → α → Bool) : (empty : Heap α).Sound before :=
  ⟨trivial, filled_empty⟩

theorem items_map (f : α → α) (h : Heap α) : (h.map f).items = h.items.map f := by
  induction h with
  | empty => rfl
  | node x left right ih ih' => simp [map, items, ih, ih']

theorem ordered_map {before : α → α → Bool} {f : α → α}
    (kept : ∀ x y, before (f x) (f y) = before x y) {h : Heap α} (ordered : h.Ordered before) :
    (h.map f).Ordered before := by
  induction h with
  | empty => trivial
  | node x left right ih ih' =>
    refine ⟨?_, ih ordered.2.1, ih' ordered.2.2⟩
    intro y member
    rw [items_map, items_map, ← List.map_append] at member
    obtain ⟨z, inside, rfl⟩ := List.mem_map.mp member
    rw [kept]
    exact ordered.1 z inside

namespace Sound

variable {before : α → α → Bool} {h : Heap α}

/-- What changes items without changing their order keeps a heap in order. -/
theorem map {f : α → α} (kept : ∀ x y, before (f x) (f y) = before x y) (sound : h.Sound before) :
    (h.map f).Sound before := by
  refine ⟨ordered_map kept sound.ordered, ?_⟩
  intro place positive
  rw [occupied_map, size_eq, items_map, List.length_map, ← size_eq]
  exact sound.filled place positive

theorem push (ranking : Ranking before) (sound : h.Sound before) (x : α) :
    (h.push before x).items ~ x :: h.items ∧ (h.push before x).Sound before := by
  have received := received_insert ranking x (way (h.size + 1)) h sound.ordered
  refine ⟨received.perm, received.ordered, ?_⟩
  -- The new item takes the place after the last one, which is free.
  have free : h.occupied (way (h.size + 1)) = false := sound.filled.free (by omega)
  have reached (head : List Bool) (last : Bool) (same : way (h.size + 1) = head ++ [last]) :
      h.occupied head = true := by
    have positive : 1 ≤ h.size + 1 := by omega
    rcases way_cases positive with one | ⟨parent, positive, less, here⟩
    · rw [one, way_one] at same
      simp at same
    · -- The place above has a lower number.
      have above : head = way parent := by
        rcases here with ⟨-, turns⟩ | ⟨-, turns⟩ <;>
          exact (List.append_inj_left' (same.symm.trans turns) rfl)
      rw [above, sound.filled parent positive]
      omega
  intro place positive
  have size : (h.push before x).size = h.size + 1 := by
    rw [size_eq, size_eq]
    exact received.perm.length_eq
  rw [size, Heap.push, occupied_insert before x _ h free reached, sound.filled place positive]
  constructor
  · rintro (old | same)
    · omega
    · exact Nat.le_of_eq (way_injective positive (by omega) same)
  · intro below
    by_cases new : place = h.size + 1
    · exact .inr (by rw [new])
    · exact .inl (by omega)

/-- Taking out the item in the last place leaves the others in order. -/
theorem removeLast (sound : h.Sound before) (some_ : 1 ≤ h.size) :
    ∃ last others, removeAt (way h.size) h = some (last, others) ∧ last :: others.items ~ h.items ∧
      others.Sound before ∧ (others ≠ empty → others.top? = h.top?) := by
  have taken : h.occupied (way h.size) = true := (sound.filled _ some_).mpr (Nat.le_refl _)
  obtain ⟨last, others, removed, perm, ordered, places, still⟩ :=
    removeAt_spec before (way h.size) h taken (sound.filled.lowest some_)
  have fewer : others.size + 1 = h.size := by
    rw [size_eq, size_eq]
    exact perm.length_eq
  refine ⟨last, others, removed, perm, ⟨ordered sound.ordered, ?_⟩, ?_⟩
  · intro place positive
    rw [places, sound.filled place positive]
    constructor
    · -- What is left are the places before the last.
      rintro ⟨below, other⟩
      have different : place ≠ h.size := fun same => other (by rw [same])
      omega
    · intro below
      refine ⟨by omega, ?_⟩
      intro same
      have last_ := way_injective positive some_ same
      omega
  · -- Some item is left, so the last place is not the top.
    intro left_over
    apply still
    intro nothing
    have one := way_injective some_ (Nat.le_refl 1) (nothing.trans way_one.symm)
    cases others with
    | empty => exact left_over rfl
    | node item l r =>
      simp only [size] at fewer
      omega

/-- Popping takes the top off, and nothing else. -/
theorem pop (ranking : Ranking before) (sound : h.Sound before) {x : α} {rest : Heap α}
    (popped : h.pop? before = some (x, rest)) :
    h.top? = some x ∧ x :: rest.items ~ h.items ∧ rest.Sound before := by
  cases at_top : h.top? with
  | none => simp [pop?, at_top] at popped
  | some top =>
    have items_top : h.items.head? = some top ∧ 1 ≤ h.size := by
      cases h with
      | empty => cases at_top
      | node item left right => exact ⟨at_top, by simp [size]⟩
    obtain ⟨items_top, some_⟩ := items_top
    obtain ⟨last, others, removed, perm, sound', still⟩ := sound.removeLast some_
    rw [pop?, at_top, removed] at popped
    obtain ⟨rfl, rfl⟩ := Prod.mk.inj (Option.some.inj popped)
    refine ⟨rfl, ?_⟩
    cases others with
    | empty =>
      -- It was the only item.
      have single : h.items = [last] := List.perm_singleton.mp perm.symm
      obtain rfl : last = top := by simpa [single] using items_top
      exact ⟨perm, sound_empty before⟩
    | node item l r =>
      -- What is left has the old top still, and the last item goes in there.
      obtain rfl : item = top := Option.some.inj ((still nofun).trans at_top)
      obtain ⟨⟨-, ordered_left, ordered_right⟩, filled⟩ := sound'
      have received := received_refill ranking last item filled.leftFirst ordered_left ordered_right
      refine ⟨(received.perm.cons item).trans ((Perm.swap last item _).trans perm),
        received.ordered, ?_⟩
      intro place positive
      rw [occupied_refill before last filled.leftFirst, filled place positive, size_eq, size_eq,
        received.perm.length_eq]
      rfl

/-- Whatever is popped satisfies the condition, and no item is lost or made. -/
theorem popWhile (ranking : Ranking before) (p : α → Bool) (sound : h.Sound before) :
    (h.popWhile before p).1 ++ (h.popWhile before p).2.items ~ h.items ∧
      (h.popWhile before p).2.Sound before ∧ ∀ x ∈ (h.popWhile before p).1, p x = true := by
  unfold Heap.popWhile
  generalize h.size = count
  induction count generalizing h with
  | zero => exact ⟨.refl _, sound, by simp [popWhileAtMost]⟩
  | succ count ih =>
    rw [popWhileAtMost]
    split
    next holds =>
      split
      next x rest popped =>
        -- Each item is popped off a heap in order, and the next off what it leaves.
        obtain ⟨at_top, perm, sound'⟩ := sound.pop ranking popped
        obtain ⟨perm', sound'', satisfy⟩ := ih sound'
        refine ⟨(perm'.cons x).trans perm, sound'', ?_⟩
        rw [at_top] at holds
        intro y member
        rcases List.mem_cons.mp member with rfl | member
        · exact holds
        · exact satisfy y member
      · exact ⟨.refl _, sound, by simp⟩
    · exact ⟨.refl _, sound, by simp⟩

/-- What is at the top can be popped. -/
theorem exists_pop (sound : h.Sound before) {x : α} (top : h.top? = some x) :
    ∃ rest, h.pop? before = some (x, rest) := by
  have some_ : 1 ≤ h.size := by
    cases h with
    | empty => cases top
    | node item left right => simp [size]
  obtain ⟨last, others, removed, -⟩ := sound.removeLast some_
  exact ⟨_, by rw [pop?, top, removed]⟩

/-- What is at the top is taken off first if it satisfies the condition. -/
theorem mem_popWhile_of_top (sound : h.Sound before) {p : α → Bool} {x : α}
    (top : h.top? = some x) (holds : p x = true) : x ∈ (h.popWhile before p).1 := by
  obtain ⟨rest, popped⟩ := sound.exists_pop top
  have size : ∃ count, h.size = count + 1 := by
    cases h with
    | empty => cases top
    | node item left right => exact ⟨_, rfl⟩
  obtain ⟨count, size⟩ := size
  rw [Heap.popWhile, size, popWhileAtMost, if_pos (by simp [top, holds]), popped]
  exact .head _

/-- What is left at the top does not satisfy the condition, if no more items could be taken off. -/
theorem not_of_top_popWhileAtMost (ranking : Ranking before) {p : α → Bool} (sound : h.Sound before)
    {count : Nat} (enough : h.size ≤ count) {x : α}
    (top : (popWhileAtMost before p count h).2.top? = some x) : p x = false := by
  induction count generalizing h with
  | zero =>
    cases h with
    | empty => cases top
    | node item left right => simp [size] at enough
  | succ count ih =>
    rw [popWhileAtMost] at top
    split at top
    next holds =>
      obtain ⟨y, at_top, -⟩ := (Option.any_eq_true _ _).mp holds
      obtain ⟨rest, popped⟩ := sound.exists_pop at_top
      obtain ⟨-, perm, sound'⟩ := sound.pop ranking popped
      have fewer : rest.size + 1 = h.size := by
        rw [size_eq, size_eq]
        exact perm.length_eq
      rw [popped] at top
      exact ih sound' (by omega) top
    next fails => simpa [top] using fails

theorem not_of_top_popWhile (ranking : Ranking before) {p : α → Bool} (sound : h.Sound before)
    {x : α} (top : (h.popWhile before p).2.top? = some x) : p x = false :=
  sound.not_of_top_popWhileAtMost ranking (Nat.le_refl _) top

end Sound

end Heap

end Volley
