/-!
# Heaps

A heap is a binary tree that keeps an early item at its top. Its places are numbered row by row: the
top has number one, and below place `n` are the places `2 n` and `2 n + 1`. The items take the first
places.

A new item takes the next place and rises while it comes before the item above it. When the top is
taken off, the last item is to stand in for it: from the top down to the lowest row the earlier of
two items moves up, and of two that are level the right one; then the last item takes the place that
became free, and rises. Where an order leaves some items incomparable, it is this that decides which
of them are taken off first.

## Main definitions

- `Heap`, with `Heap.items` and `Heap.size`.
- `Heap.push`, `Heap.top?`, `Heap.pop?`: one item.
- `Heap.popWhile`: takes items off the top as long as they satisfy a condition.
-/

namespace Volley

/-- A binary tree of items. -/
inductive Heap (α : Type) where
  | empty
  | node (item : α) (left right : Heap α)

namespace Heap

variable {α : Type}

def items : Heap α → List α
  | empty => []
  | node item left right => item :: (left.items ++ right.items)

def size : Heap α → Nat
  | empty => 0
  | node _ left right => left.size + right.size + 1

def top? : Heap α → Option α
  | empty => none
  | node item _ _ => some item

def withTop (x : α) : Heap α → Heap α
  | empty => empty
  | node _ left right => node x left right

def map (f : α → α) : Heap α → Heap α
  | empty => empty
  | node item left right => node (f item) (left.map f) (right.map f)

/-- The turns on the way from the top to a place: `true` to the right. -/
def way (place : Nat) : List Bool :=
  if place ≤ 1 then [] else way (place / 2) ++ [place % 2 == 1]
termination_by place

/-- An item that rose to the top of a tree goes on above the item over that tree, if it comes before
it. Gives the upper one of the two, the tree below, and whether the item rose. -/
def exchange (before : α → α → Bool) (x y : α) : Heap α × Bool → α × Heap α × Bool
  | (below, risen) => if risen && before x y then (x, below.withTop y, true) else (y, below, false)

/-- Puts an item into the place at the end of a way, and tells whether it rose to the top. -/
def insert (before : α → α → Bool) (x : α) : List Bool → Heap α → Heap α × Bool
  | _, empty => (node x empty empty, true)
  | turns, node y left right =>
    if turns.headD false then
      match exchange before x y (insert before x turns.tail right) with
      | (top, below, risen) => (node top left below, risen)
    else
      match exchange before x y (insert before x turns.tail left) with
      | (top, below, risen) => (node top below right, risen)

def push (before : α → α → Bool) (x : α) (h : Heap α) : Heap α :=
  (insert before x (way (h.size + 1)) h).1

/-- Takes out the item at the end of a way. Where the way leaves the tree it is not followed. -/
def removeAt : List Bool → Heap α → Option (α × Heap α)
  | _, empty => none
  | turns, node x left right =>
    -- The sides are looked at only when they are needed.
    let inLeft (_ : Unit) :=
      (removeAt turns.tail left).map fun (y, rest) => (y, node x rest right)
    let inRight (_ : Unit) :=
      (removeAt turns.tail right).map fun (y, rest) => (y, node x left rest)
    -- The second side is tried only where the places have gaps.
    match if turns.headD false then inRight () <|> inLeft () else inLeft () <|> inRight () with
    | some found => some found
    | none => some (x, empty)

/-- Fills the top, whose item was taken off, and tells whether the item that comes in is there. -/
def refill (before : α → α → Bool) (x : α) : Heap α → Heap α × Bool
  | empty => (empty, false)
  -- Without a left place nothing is below this one, so the item comes in here.
  | node _ empty right => (node x empty right, true)
  -- Only the left place is taken, so nothing has to be compared.
  | node _ (node y left right) empty =>
    match exchange before x y (refill before x (node y left right)) with
    | (top, below, risen) => (node top below empty, risen)
  | node _ (node y left right) (node z left' right') =>
    if before y z then
      match exchange before x y (refill before x (node y left right)) with
      | (top, below, risen) => (node top below (node z left' right'), risen)
    else
      match exchange before x z (refill before x (node z left' right')) with
      | (top, below, risen) => (node top (node y left right) below, risen)

def pop? (before : α → α → Bool) (h : Heap α) : Option (α × Heap α) :=
  match h.top?, removeAt (way h.size) h with
  | some top, some (last, rest) => some (top, (refill before last rest).1)
  | _, _ => none

/-- Takes items off the top as long as they satisfy a condition, at most so many. -/
def popWhileAtMost (before : α → α → Bool) (p : α → Bool) : (count : Nat) → Heap α →
    List α × Heap α
  | 0, h => ([], h)
  | count + 1, h =>
    if h.top?.any p then
      match h.pop? before with
      | some (x, rest) =>
        let (xs, last) := popWhileAtMost before p count rest
        (x :: xs, last)
      | none => ([], h)
    else ([], h)

/-- Takes items off the top as long as they satisfy a condition. -/
def popWhile (before : α → α → Bool) (p : α → Bool) (h : Heap α) : List α × Heap α :=
  popWhileAtMost before p h.size h

end Heap

end Volley
