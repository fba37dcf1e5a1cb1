import BallchasingReplayPlayer.Lib.Machine

/-!
# Simulations Between Machines

A machine refines another one when each of its steps is a run of the other: of no step at
all, when the step is not visible there, of one step, or of several.

A `Simulation M N` carries what its proof needs: an invariant of `M`, a condition on its
steps, the abstraction of a state and the run a step stands for.

## Rules

- `legal_trace`, `exec_trace`: a run of `M` whose steps meet the condition is a run of `N`
- `along_trace`: what holds of the steps it stands for
- `comp`: two simulations, one after the other
-/

namespace Transition

universe u v w x y z

/-- A forward simulation of `M` by `N` along an abstraction of states. -/
structure Simulation {σ : Type u} {α : Type v} {τ : Type w} {β : Type x} (M : Machine σ α)
    (N : Machine τ β) where
  Inv : σ → Prop
  ok : σ → α → Prop
  abs : σ → τ
  emit : σ → α → List β
  keeps : ∀ s a, Inv s → M.enabled s a → ok s a → Inv (M.next s a)
  legal : ∀ s a, Inv s → M.enabled s a → ok s a → N.Legal (abs s) (emit s a)
  commutes : ∀ s a, Inv s → M.enabled s a → ok s a →
    N.exec (abs s) (emit s a) = abs (M.next s a)

namespace Simulation

variable {σ : Type u} {α : Type v} {τ : Type w} {β : Type x} {M : Machine σ α}
  {N : Machine τ β} (S : Simulation M N)

/-- The run of `N` that a run of `M` stands for. -/
def trace : σ → List α → List β
  | _, [] => []
  | s, a :: as => S.emit s a ++ trace (M.next s a) as

theorem trace_append (s : σ) (as bs : List α) :
    S.trace s (as ++ bs) = S.trace s as ++ S.trace (M.exec s as) bs := by
  induction as generalizing s with
  | nil => rfl
  | cons a as ih => rw [List.cons_append, trace, trace, ih, List.append_assoc, Machine.exec_cons]

variable {S} {s : σ} {as : List α}

theorem inv_exec (hs : S.Inv s) (hl : M.Legal s as) (hok : M.Along S.ok s as) :
    S.Inv (M.exec s as) :=
  Machine.Legal.invariant S.keeps hs hl hok

/-- **Refinement of states**: the run of `N` ends in the abstraction of where `M` ends. -/
theorem exec_trace (hs : S.Inv s) (hl : M.Legal s as) (hok : M.Along S.ok s as) :
    N.exec (S.abs s) (S.trace s as) = S.abs (M.exec s as) := by
  induction as generalizing s with
  | nil => rfl
  | cons a as ih =>
    rw [trace, Machine.exec_append, S.commutes s a hs hl.1 hok.1, Machine.exec_cons]
    exact ih (S.keeps s a hs hl.1 hok.1) hl.2 hok.2

/-- What the steps of `M` stand for step by step holds along the whole run of `N`. -/
theorem along_trace {Q : σ → α → Prop} {R : τ → β → Prop}
    (hstep : ∀ s a, S.Inv s → M.enabled s a → S.ok s a → Q s a →
      N.Along R (S.abs s) (S.emit s a))
    (hs : S.Inv s) (hl : M.Legal s as) (hok : M.Along S.ok s as) (hQ : M.Along Q s as) :
    N.Along R (S.abs s) (S.trace s as) := by
  induction as generalizing s with
  | nil => trivial
  | cons a as ih =>
    rw [trace, Machine.along_append, S.commutes s a hs hl.1 hok.1]
    exact ⟨hstep s a hs hl.1 hok.1 hQ.1,
      ih (S.keeps s a hs hl.1 hok.1) hl.2 hok.2 hQ.2⟩

/-- **Refinement of runs**: a legal run of `M` stands for a legal run of `N`. -/
theorem legal_trace (hs : S.Inv s) (hl : M.Legal s as) (hok : M.Along S.ok s as) :
    N.Legal (S.abs s) (S.trace s as) :=
  along_trace (fun s a hs he hok _ => S.legal s a hs he hok) hs hl hok hok

section Composition

variable {ρ : Type y} {γ : Type z} {O : Machine ρ γ}

/-- One simulation behind the other. A step of `M` has to stand for steps of `N` that meet
    the second condition. -/
def comp (S : Simulation M N) (T : Simulation N O) : Simulation M O where
  Inv s := S.Inv s ∧ T.Inv (S.abs s)
  ok s a := S.ok s a ∧ N.Along T.ok (S.abs s) (S.emit s a)
  abs s := T.abs (S.abs s)
  emit s a := T.trace (S.abs s) (S.emit s a)
  keeps s a hs he hok := by
    refine ⟨S.keeps s a hs.1 he hok.1, ?_⟩
    rw [← S.commutes s a hs.1 he hok.1]
    exact inv_exec hs.2 (S.legal s a hs.1 he hok.1) hok.2
  legal s a hs he hok := legal_trace hs.2 (S.legal s a hs.1 he hok.1) hok.2
  commutes s a hs he hok := by
    rw [exec_trace hs.2 (S.legal s a hs.1 he hok.1) hok.2, S.commutes s a hs.1 he hok.1]

end Composition

end Simulation

end Transition
