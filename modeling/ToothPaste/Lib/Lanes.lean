import Mathlib.Data.List.Basic

/-!
# Two lanes and one reader

Items are issued one group after the other, each group to be put in one of two queues, the lanes,
which one reader empties from the front, in whatever order it likes. The reader keeps the order in
which the items were issued as long as a group is issued only while the lane it does not use is
empty.

* `Ordered`: the invariant, kept by `takeLeft`, `takeRight`, `putLeft`, `putRight` and `issue`.
* `Ordered.isPrefix_issued`: what was delivered comes first in what was issued.
-/

/-- What was delivered, what is in the two lanes, and what has yet to be put in a lane. -/
structure Lanes (β : Type*) where
  delivered : List β
  left : List β
  right : List β
  pending : List β

namespace Lanes

variable {β : Type*} {d l r q p issued : List β} {toLeft toLeft' : Bool}

/-- The lane that a group for the left or for the right lane does not use. -/
def other (lanes : Lanes β) (toLeft : Bool) : List β := if toLeft then lanes.right else lanes.left

/-- What was issued is delivered, in a lane or pending, in order, and the lane that the pending
items do not go to is empty. -/
structure Ordered (lanes : Lanes β) (toLeft : Bool) (issued : List β) : Prop where
  order : lanes.delivered ++ lanes.left ++ lanes.right ++ lanes.pending = issued
  empty : lanes.other toLeft = []

namespace Ordered

/-- The reader takes from the left lane. -/
theorem takeLeft (h : Ordered ⟨d, p ++ l, r, q⟩ toLeft issued) :
    Ordered ⟨d ++ p, l, r, q⟩ toLeft issued where
  order := by simpa using h.order
  empty := by
    cases toLeft with
    | true => exact h.empty
    | false => exact (List.append_eq_nil_iff.mp h.empty).2

/-- The reader takes from the right lane: what it takes is nothing, or the left lane is empty. -/
theorem takeRight (h : Ordered ⟨d, l, p ++ r, q⟩ toLeft issued) :
    Ordered ⟨d ++ p, l, r, q⟩ toLeft issued := by
  cases toLeft with
  | true =>
    obtain ⟨rfl, hr⟩ := List.append_eq_nil_iff.mp h.empty
    exact ⟨by simpa using h.order, hr⟩
  | false =>
    obtain rfl : l = [] := h.empty
    exact ⟨by simpa using h.order, rfl⟩

/-- Pending items are put in the left lane. -/
theorem putLeft (h : Ordered ⟨d, l, r, p ++ q⟩ true issued) :
    Ordered ⟨d, l ++ p, r, q⟩ true issued := by
  obtain rfl : r = [] := h.empty
  exact ⟨by simpa using h.order, rfl⟩

/-- Pending items are put in the right lane. -/
theorem putRight (h : Ordered ⟨d, l, r, p ++ q⟩ false issued) :
    Ordered ⟨d, l, r ++ p, q⟩ false issued :=
  ⟨by simpa using h.order, h.empty⟩

/-- A group is issued: nothing is pending, and the lane it does not use is empty. -/
theorem issue (h : Ordered ⟨d, l, r, []⟩ toLeft issued)
    (hempty : other ⟨d, l, r, p⟩ toLeft' = []) :
    Ordered ⟨d, l, r, p⟩ toLeft' (issued ++ p) :=
  ⟨by rw [← h.order, List.append_nil], hempty⟩

/-- What was delivered comes first in what was issued. -/
theorem isPrefix_issued {lanes : Lanes β} (h : lanes.Ordered toLeft issued) :
    lanes.delivered <+: issued :=
  ⟨lanes.left ++ lanes.right ++ lanes.pending, by simpa using h.order⟩

end Ordered

end Lanes
