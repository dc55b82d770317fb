import Mathlib.Data.List.Basic

/-!
# Lines over a stream

A writer puts lines into a first-in first-out stream, each followed by a separator, and a reader
takes them out again. Both move items in portions of any size, so that a line can be partly
written, partly under way and partly read. The reader keeps what it has taken out until it has a
whole line.

* `Holds`: what is on the way are these lines, in order. It is kept by `write`, `push` and `pull`.
* `Holds.takeLine`: the line that the reader takes is the first of them.
* `Holds.eq_nil`: where nothing is under way and the reader has no line, there are none.
-/

/-- A stream with its two ends. -/
structure LineStream (α : Type*) where
  /-- What the writer has yet to put in of the line it writes. -/
  outgoing : List α
  pipe : List α
  /-- What the reader has taken out and not returned yet. -/
  buffer : List α
  deriving DecidableEq

namespace LineStream

variable {α : Type*} [DecidableEq α] (sep : α) (st : LineStream α)

/-- Nothing is on the way. -/
def empty : LineStream α := ⟨[], [], []⟩

/-- The writer starts to write a line. -/
def write (line : List α) : LineStream α := { st with outgoing := line ++ [sep] }

/-- The writer puts the next `n` items in. -/
def push (n : ℕ) : LineStream α :=
  { st with outgoing := st.outgoing.drop n, pipe := st.pipe ++ st.outgoing.take n }

/-- The reader takes the next `n` items out. -/
def pull (n : ℕ) : LineStream α :=
  { st with pipe := st.pipe.drop n, buffer := st.buffer ++ st.pipe.take n }

/-- The reader returns the next line, without its separator. -/
def takeLine : Option (List α × LineStream α) :=
  if sep ∈ st.buffer then
    some (st.buffer.takeWhile (· ≠ sep),
      { st with buffer := (st.buffer.dropWhile (· ≠ sep)).tail })
  else none

variable {sep st} {line : List α} {lines : List (List α)}

/-- What is on the way are the lines, none of which has a separator in it. -/
structure Holds (sep : α) (st : LineStream α) (lines : List (List α)) : Prop where
  content : st.buffer ++ st.pipe ++ st.outgoing = lines.flatMap (· ++ [sep])
  whole : ∀ line ∈ lines, sep ∉ line

omit [DecidableEq α] in
theorem holds_empty : Holds sep (empty : LineStream α) [] := ⟨rfl, nofun⟩

omit [DecidableEq α] in
/-- A list is cut at its first separator in one way. -/
theorem eq_of_append_cons {before before' after after' : List α} (hbefore : sep ∉ before)
    (hbefore' : sep ∉ before') (h : before ++ sep :: after = before' ++ sep :: after') :
    before = before' ∧ after = after' := by
  induction before generalizing before' with
  | nil =>
    cases before' with
    | nil => exact ⟨rfl, (List.cons.inj h).2⟩
    | cons b before' =>
      obtain ⟨rfl, -⟩ := List.cons.inj h
      exact absurd List.mem_cons_self hbefore'
  | cons b before ih =>
    cases before' with
    | nil =>
      obtain ⟨rfl, -⟩ := List.cons.inj h
      exact absurd List.mem_cons_self hbefore
    | cons b' before' =>
      obtain ⟨rfl, hrest⟩ := List.cons.inj h
      obtain ⟨rfl, rfl⟩ := ih (fun hmem => hbefore (List.mem_cons_of_mem _ hmem))
        (fun hmem => hbefore' (List.mem_cons_of_mem _ hmem)) hrest
      exact ⟨rfl, rfl⟩

/-- The reader returns what it has up to the first separator. -/
theorem takeLine_of_buffer {before after : List α} (hbuffer : st.buffer = before ++ sep :: after)
    (hbefore : sep ∉ before) : st.takeLine sep = some (before, { st with buffer := after }) := by
  have hne : ∀ b ∈ before, decide (b ≠ sep) = true := fun b hb =>
    decide_eq_true fun heq => hbefore (heq ▸ hb)
  have hmem : sep ∈ st.buffer := by
    rw [hbuffer]
    simp
  rw [takeLine, if_pos hmem, hbuffer, List.takeWhile_append_of_pos hne,
    List.dropWhile_append_of_pos hne]
  simp

/-- The reader leaves the writer alone. -/
theorem outgoing_takeLine {st' : LineStream α} (htake : st.takeLine sep = some (line, st')) :
    st'.outgoing = st.outgoing := by
  rw [takeLine] at htake
  split_ifs at htake
  obtain ⟨-, rfl⟩ := Prod.mk.inj (Option.some.inj htake)
  rfl

namespace Holds

omit [DecidableEq α] in
theorem write (h : Holds sep st lines) (hout : st.outgoing = []) (hline : sep ∉ line) :
    Holds sep (st.write sep line) (lines ++ [line]) where
  content := by
    have hcontent := h.content
    rw [hout, List.append_nil] at hcontent
    simp [LineStream.write, ← hcontent]
  whole line' hline' := by
    rcases List.mem_append.mp hline' with hold | hnew
    · exact h.whole line' hold
    · rwa [List.mem_singleton.mp hnew]

omit [DecidableEq α] in
theorem push (h : Holds sep st lines) (n : ℕ) : Holds sep (st.push n) lines where
  content := by simpa [LineStream.push] using h.content
  whole := h.whole

omit [DecidableEq α] in
theorem pull (h : Holds sep st lines) (n : ℕ) : Holds sep (st.pull n) lines where
  content := by
    rw [← h.content, LineStream.pull, List.append_assoc st.buffer, List.take_append_drop]
  whole := h.whole

/-- The reader takes the first of the lines. -/
theorem takeLine (h : Holds sep st lines) {st' : LineStream α}
    (htake : st.takeLine sep = some (line, st')) :
    ∃ rest, lines = line :: rest ∧ Holds sep st' rest := by
  by_cases hmem : sep ∈ st.buffer
  · obtain ⟨before, after, hbuffer, hbefore⟩ := List.eq_append_cons_of_mem hmem
    rw [takeLine_of_buffer hbuffer hbefore] at htake
    obtain ⟨rfl, rfl⟩ := Prod.mk.inj (Option.some.inj htake)
    have hcontent := h.content
    rw [hbuffer] at hcontent
    cases lines with
    | nil => simp at hcontent
    | cons first rest =>
      simp only [List.append_assoc, List.cons_append, List.flatMap_cons, List.nil_append]
        at hcontent
      obtain ⟨rfl, hrest⟩ :=
        eq_of_append_cons hbefore (h.whole first List.mem_cons_self) hcontent
      exact ⟨rest, rfl, by simpa using hrest,
        fun line hline => h.whole line (List.mem_cons_of_mem _ hline)⟩
  · rw [LineStream.takeLine, if_neg hmem] at htake
    cases htake

/-- Where nothing is under way and the reader has no whole line, there are no lines. -/
theorem eq_nil (h : Holds sep st lines) (hout : st.outgoing = []) (hpipe : st.pipe = [])
    (htake : st.takeLine sep = none) : lines = [] := by
  have hcontent := h.content
  rw [hout, hpipe, List.append_nil, List.append_nil] at hcontent
  cases lines with
  | nil => rfl
  | cons first rest =>
    have hmem : sep ∈ st.buffer := by
      rw [hcontent]
      simp
    rw [LineStream.takeLine, if_pos hmem] at htake
    cases htake

end Holds

end LineStream
