import Mathlib.Data.List.Basic

/-!
# Guarded transition systems

A system is a set of initial states and a guarded, executable step function: `step s a` is
`some t` where action `a` is enabled in `s`, and `none` where it is not. Interleavings of several
parties are runs of one system whose actions name the party that moves.

* `System.ReachableVia cond`: the states reached by runs all of whose steps meet `cond`, a
  condition on the state before the step and on the action.
* `System.Reachable`: the states reached by any run.
* `System.startingAt`: the system from another start, to speak of what comes after a state.
* `System.withHistory`: the system with a history variable, a value computed from the steps
  taken so far that no step reads.
* `System.replay`: replay of a list of actions, for closed runs.
-/

namespace Transition

/-- A transition system with states `σ` and actions `α`. -/
structure System (σ α : Type*) where
  /-- The states a run may start in. -/
  Init : σ → Prop
  /-- The state after an action, or `none` where the action is not enabled. -/
  step : σ → α → Option σ

namespace System

variable {σ α η : Type*} {S : System σ α}

/-- States reached by runs whose every step meets `cond` in the state it is taken from. -/
inductive ReachableVia (S : System σ α) (cond : σ → α → Prop) : σ → Prop
  | init {s : σ} : S.Init s → ReachableVia S cond s
  | step {s t : σ} {a : α} :
      ReachableVia S cond s → cond s a → S.step s a = some t → ReachableVia S cond t

/-- States reached by any run. -/
def Reachable (S : System σ α) : σ → Prop :=
  S.ReachableVia fun _ _ => True

theorem Reachable.init {s : σ} (h : S.Init s) : S.Reachable s :=
  ReachableVia.init h

theorem Reachable.step {s t : σ} {a : α} (h : S.Reachable s) (hstep : S.step s a = some t) :
    S.Reachable t :=
  ReachableVia.step h trivial hstep

/-- A run that meets a condition meets every weaker one. -/
theorem ReachableVia.mono {cond cond' : σ → α → Prop} (hcond : ∀ s a, cond s a → cond' s a)
    {s : σ} (h : S.ReachableVia cond s) : S.ReachableVia cond' s := by
  induction h with
  | init h => exact .init h
  | step _ hc hst ih => exact .step ih (hcond _ _ hc) hst

/-- The system started in `s`: its reachable states are those reached from `s`. -/
def startingAt (S : System σ α) (s : σ) : System σ α := { S with Init := (· = s) }

/-! ## Invariants -/

/-- A predicate that holds initially and that every step meeting `cond` preserves holds in
every state reached by such steps. -/
theorem ReachableVia.invariant {cond : σ → α → Prop} {I : σ → Prop} {s : σ}
    (h : S.ReachableVia cond s) (hinit : ∀ s, S.Init s → I s)
    (hstep : ∀ s a t, I s → cond s a → S.step s a = some t → I t) : I s := by
  induction h with
  | init h => exact hinit _ h
  | step _ hc hst ih => exact hstep _ _ _ ih hc hst

/-- A predicate that holds initially and that every step preserves is an invariant. -/
theorem Reachable.invariant {I : σ → Prop} {s : σ} (h : S.Reachable s)
    (hinit : ∀ s, S.Init s → I s)
    (hstep : ∀ s a t, I s → S.step s a = some t → I t) : I s :=
  ReachableVia.invariant h hinit fun s a t hs _ hst => hstep s a t hs hst

/-! ## History variables -/

/-- `S` with a history variable that starts at `h₀` and is updated from each step: the state
before it, the action and the state after it. -/
def withHistory (S : System σ α) (h₀ : η) (upd : η → σ → α → σ → η) : System (σ × η) α where
  Init p := S.Init p.1 ∧ p.2 = h₀
  step p a := (S.step p.1 a).map fun t => (t, upd p.2 p.1 a t)

/-- A step of the system with history is a step of the system and an update of the history. -/
theorem withHistory_step_iff {h₀ : η} {upd : η → σ → α → σ → η} {p q : σ × η} {a : α} :
    (S.withHistory h₀ upd).step p a = some q ↔
      S.step p.1 a = some q.1 ∧ q.2 = upd p.2 p.1 a q.1 := by
  obtain ⟨t, h⟩ := q
  constructor
  · intro hq
    obtain ⟨t', ht', heq⟩ := Option.map_eq_some_iff.mp hq
    obtain ⟨rfl, rfl⟩ := Prod.mk.inj heq
    exact ⟨ht', rfl⟩
  · rintro ⟨hst, hh⟩
    exact Option.map_eq_some_iff.mpr ⟨t, hst, Prod.ext rfl hh.symm⟩

/-- The invariant rule for a system with history: the predicate is about the state and the
history, and a step of the system updates the history. -/
theorem ReachableVia.invariant_withHistory {h₀ : η} {upd : η → σ → α → σ → η}
    {cond : σ × η → α → Prop} {I : σ → η → Prop} {p : σ × η}
    (h : (S.withHistory h₀ upd).ReachableVia cond p) (hinit : ∀ s, S.Init s → I s h₀)
    (hstep : ∀ s x a t, I s x → cond (s, x) a → S.step s a = some t → I t (upd x s a t)) :
    I p.1 p.2 := by
  induction h with
  | init h => exact h.2 ▸ hinit _ h.1
  | step _ hc hst ih =>
    obtain ⟨hst, hx⟩ := withHistory_step_iff.mp hst
    exact hx ▸ hstep _ _ _ _ ih hc hst

/-- The states of the system with history are states of the system. -/
theorem Reachable.of_withHistory {h₀ : η} {upd : η → σ → α → σ → η} {p : σ × η}
    (h : (S.withHistory h₀ upd).Reachable p) : S.Reachable p.1 :=
  h.invariant_withHistory (I := fun s _ => S.Reachable s) (fun _ hs => .init hs)
    fun _ _ _ _ hs _ hstep => hs.step hstep

/-! ## Closed runs -/

/-- Replay `as` from `s`; `none` where some action on the way is not enabled or does not meet
`cond`. -/
def replay (S : System σ α) (cond : σ → α → Prop) [∀ s a, Decidable (cond s a)] (s : σ) :
    List α → Option σ
  | [] => some s
  | a :: as => if cond s a then (S.step s a).bind fun t => S.replay cond t as else none

/-- The end state of a replay from a reachable state is reachable. -/
theorem ReachableVia.of_replay {cond : σ → α → Prop} [∀ s a, Decidable (cond s a)] (as : List α)
    {s t : σ} (hs : S.ReachableVia cond s) (hrun : S.replay cond s as = some t) :
    S.ReachableVia cond t := by
  induction as generalizing s with
  | nil => cases hrun; exact hs
  | cons a as ih =>
    rw [replay] at hrun
    split_ifs at hrun with hc
    obtain ⟨u, hu, hrest⟩ := Option.bind_eq_some_iff.mp hrun
    exact ih (hs.step hc hu) hrest

/-- The same where the condition is on the actions alone, and is known of those in the list. -/
theorem ReachableVia.of_replay_forall {cond : α → Prop} (as : List α) (hall : ∀ a ∈ as, cond a)
    {s t : σ} (hs : S.ReachableVia (fun _ a => cond a) s)
    (hrun : S.replay (fun _ _ => True) s as = some t) :
    S.ReachableVia (fun _ a => cond a) t := by
  induction as generalizing s with
  | nil => cases hrun; exact hs
  | cons a as ih =>
    rw [replay, if_pos trivial] at hrun
    obtain ⟨u, hu, hrest⟩ := Option.bind_eq_some_iff.mp hrun
    exact ih (fun b hb => hall b (List.mem_cons_of_mem _ hb))
      (hs.step (hall a List.mem_cons_self) hu) hrest

end System

end Transition
