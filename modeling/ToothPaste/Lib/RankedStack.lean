import Mathlib.Data.Fintype.Card

/-!
# Stacks that rise in rank

A stack, top first, in which every item ranks above all that it stands on. Such a stack holds no
item twice, and it is no higher than there are ranks. It stays such when the top is taken off, when
an item is put on one that ranks below it, and when the top is replaced by an item that ranks above
the one below.
-/

namespace RankedStack

variable {α β : Type*} [Preorder β] {rank : α → β} {x y : α} {stack : List α}

/-- Every item ranks above all that it stands on. -/
def Rises (rank : α → β) (stack : List α) : Prop :=
  stack.Pairwise fun above below => rank below < rank above

namespace Rises

theorem singleton (rank : α → β) (x : α) : Rises rank [x] :=
  List.pairwise_singleton _ x

theorem pop (h : Rises rank (x :: stack)) : Rises rank stack :=
  List.Pairwise.of_cons h

/-- The top is replaced by an item that ranks above the one below. -/
theorem replace (h : Rises rank (x :: stack)) (hbelow : ∀ z ∈ stack.head?, rank z < rank y) :
    Rises rank (y :: stack) := by
  refine List.pairwise_cons.mpr ⟨?_, h.pop⟩
  cases stack with
  | nil => simp
  | cons z stack =>
    have hz : rank z < rank y := hbelow z rfl
    intro w hw
    rcases List.mem_cons.mp hw with rfl | hw
    · exact hz
    -- what is further down ranks below the item that the top stands on
    · exact (List.rel_of_pairwise_cons h.pop hw).trans hz

/-- The top is replaced by an item of at least its rank. -/
theorem raise (h : Rises rank (x :: stack)) (hle : rank x ≤ rank y) : Rises rank (y :: stack) :=
  h.replace fun _ hz =>
    (List.rel_of_pairwise_cons h (List.mem_of_mem_head? hz)).trans_le hle

/-- An item is put on one that ranks below it. -/
theorem push (h : Rises rank (x :: stack)) (hlt : rank x < rank y) :
    Rises rank (y :: x :: stack) := by
  refine List.pairwise_cons.mpr ⟨fun z hz => ?_, h⟩
  rcases List.mem_cons.mp hz with rfl | hz
  · exact hlt
  · exact (List.rel_of_pairwise_cons h hz).trans hlt

theorem nodup (h : Rises rank stack) : stack.Nodup :=
  h.imp fun {_ _} hlt => by
    rintro rfl
    exact lt_irrefl _ hlt

/-- A stack is no higher than there are ranks. -/
theorem length_le_card [Fintype β] (h : Rises rank stack) : stack.length ≤ Fintype.card β := by
  have hranks : (stack.map rank).Nodup := by
    refine List.pairwise_map.mpr (h.imp fun {_ _} hlt heq => ?_)
    rw [heq] at hlt
    exact lt_irrefl _ hlt
  rw [← List.length_map (f := rank)]
  exact hranks.length_le_card

end Rises

end RankedStack
