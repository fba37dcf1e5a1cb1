import Mathlib.Data.List.Basic

/-!
# Guarded Machines and Their Runs

A small library for systems whose parties take atomic steps in any order.

A `Machine` has a total next-state function and a guard that says in which
states an action can be taken. A run is a list of actions. Everything said about
runs goes through two combinators:

- `Along R s as` — every action of the run satisfies `R` in the state it is taken
  from. `Legal` is `Along` of the guard; a side condition on the steps of a run
  is `Along` of that condition.
- `Throughout P s as` — `P` holds in every state the run visits.

## Rules

- `exec_invariant`: a predicate kept by every step that satisfies `R` is kept by
  every run whose steps satisfy `R`.
- `throughout_iff_along`: when the steps that violate a condition are exactly the
  ones that break a property, a run keeps the property throughout iff every step
  of it meets the condition.
- `countP_add_le`: a rank that some actions lower bounds how often a run takes them.
-/

namespace Transition

universe u v

/-- A machine with states `σ` and actions `α`: `enabled s a` says that action `a`
    can be taken in state `s`, and `next s a` is the state it leads to. -/
structure Machine (σ : Type u) (α : Type v) where
  enabled : σ → α → Prop
  next : σ → α → σ

namespace Machine

variable {σ : Type u} {α : Type v} (M : Machine σ α)

/-! ## Runs -/

/-- The state a run ends in. -/
def exec (s : σ) (as : List α) : σ := as.foldl M.next s

/-- Every action of the run satisfies `R` in the state it is taken from. -/
def Along (R : σ → α → Prop) : σ → List α → Prop
  | _, [] => True
  | s, a :: as => R s a ∧ Along R (M.next s a) as

/-- The runs the machine can make: every action is enabled when it is taken. -/
def Legal (s : σ) (as : List α) : Prop := M.Along M.enabled s as

/-- `P` holds in every state the run visits, the first and the last included. -/
def Throughout (P : σ → Prop) : σ → List α → Prop
  | s, [] => P s
  | s, a :: as => P s ∧ Throughout P (M.next s a) as

instance decidableAlong (R : σ → α → Prop) [∀ s a, Decidable (R s a)] :
    ∀ s as, Decidable (M.Along R s as)
  | _, [] => inferInstanceAs (Decidable True)
  | s, a :: as =>
    have := decidableAlong R (M.next s a) as
    inferInstanceAs (Decidable (R s a ∧ M.Along R (M.next s a) as))

instance [∀ s a, Decidable (M.enabled s a)] (s : σ) (as : List α) : Decidable (M.Legal s as) :=
  inferInstanceAs (Decidable (M.Along M.enabled s as))

@[simp] theorem exec_nil (s : σ) : M.exec s [] = s := rfl

@[simp] theorem exec_cons (s : σ) (a : α) (as : List α) :
    M.exec s (a :: as) = M.exec (M.next s a) as := rfl

@[simp] theorem exec_append (s : σ) (as bs : List α) :
    M.exec s (as ++ bs) = M.exec (M.exec s as) bs := by
  simp [exec]

variable {M}

/-- A run is two runs one after the other iff its steps are the steps of both. -/
theorem along_append {R : σ → α → Prop} {s : σ} {as bs : List α} :
    M.Along R s (as ++ bs) ↔ M.Along R s as ∧ M.Along R (M.exec s as) bs := by
  induction as generalizing s with
  | nil => simp [Along]
  | cons a as ih => simp only [List.cons_append, Along, ih, exec_cons, and_assoc]

/-- Two conditions on the steps of a run are one condition on each step. -/
theorem Along.and {R Q : σ → α → Prop} {s : σ} {as : List α}
    (hR : M.Along R s as) (hQ : M.Along Q s as) :
    M.Along (fun s a => R s a ∧ Q s a) s as := by
  induction as generalizing s with
  | nil => trivial
  | cons a as ih => exact ⟨⟨hR.1, hQ.1⟩, ih hR.2 hQ.2⟩

/-- A condition that every step meets is met along every run. -/
theorem along_of_forall {R : σ → α → Prop} (h : ∀ s a, R s a) (s : σ) (as : List α) :
    M.Along R s as := by
  induction as generalizing s with
  | nil => trivial
  | cons a as ih => exact ⟨h s a, ih _⟩

/-- A condition that the actions of a run meet in every state is met along the run. -/
theorem along_of_mem {R : σ → α → Prop} {as : List α} (h : ∀ a ∈ as, ∀ s, R s a) (s : σ) :
    M.Along R s as := by
  induction as generalizing s with
  | nil => trivial
  | cons a as ih =>
    rw [List.forall_mem_cons] at h
    exact ⟨h.1 s, ih h.2 _⟩

/-- What holds throughout a run holds at its end. -/
theorem Throughout.last {P : σ → Prop} {s : σ} {as : List α} (h : M.Throughout P s as) :
    P (M.exec s as) := by
  induction as generalizing s with
  | nil => exact h
  | cons a as ih => exact ih h.2

/-! ## Invariants -/

/-- **Run rule**: a predicate that every step satisfying `R` keeps is kept by every
    run whose steps satisfy `R`. -/
theorem exec_invariant {I : σ → Prop} {R : σ → α → Prop}
    (hstep : ∀ s a, I s → R s a → I (M.next s a))
    {s : σ} {as : List α} (hs : I s) (hR : M.Along R s as) : I (M.exec s as) := by
  induction as generalizing s with
  | nil => exact hs
  | cons a as ih => exact ih (hstep s a hs hR.1) hR.2

/-- The run rule for legal runs under a side condition on the steps. -/
theorem Legal.invariant {I : σ → Prop} {ok : σ → α → Prop}
    (hstep : ∀ s a, I s → M.enabled s a → ok s a → I (M.next s a))
    {s : σ} {as : List α} (hs : I s) (hl : M.Legal s as) (hok : M.Along ok s as) :
    I (M.exec s as) :=
  exec_invariant (fun s a hI hR => hstep s a hI hR.1 hR.2) hs (Along.and hl hok)

/-- What an invariant says about the steps that keep it holds along every run of them. -/
theorem Legal.along {I : σ → Prop} {ok Q : σ → α → Prop}
    (hstep : ∀ s a, I s → M.enabled s a → ok s a → I (M.next s a))
    (hQ : ∀ s a, I s → M.enabled s a → ok s a → Q s a)
    {s : σ} {as : List α} (hs : I s) (hl : M.Legal s as) (hok : M.Along ok s as) :
    M.Along Q s as := by
  induction as generalizing s with
  | nil => trivial
  | cons a as ih => exact ⟨hQ s a hs hl.1 hok.1, ih (hstep s a hs hl.1 hok.1) hl.2 hok.2⟩

/-- What an invariant implies holds in every state of a run that keeps it. -/
theorem Legal.throughout {I P : σ → Prop} {ok : σ → α → Prop} (hP : ∀ s, I s → P s)
    (hstep : ∀ s a, I s → M.enabled s a → ok s a → I (M.next s a))
    {s : σ} {as : List α} (hs : I s) (hl : M.Legal s as) (hok : M.Along ok s as) :
    M.Throughout P s as := by
  induction as generalizing s with
  | nil => exact hP s hs
  | cons a as ih => exact ⟨hP s hs, ih (hstep s a hs hl.1 hok.1) hl.2 hok.2⟩

/-- **Exactness rule**: let `I` imply `P` and be kept by the steps that meet `ok`, and let
    every step that does not meet `ok` end in a state without `P`. Then a legal run has
    `P` in every state iff every step of it meets `ok`. -/
theorem throughout_iff_along {I P : σ → Prop} {ok : σ → α → Prop}
    (hP : ∀ s, I s → P s)
    (hkeep : ∀ s a, I s → M.enabled s a → ok s a → I (M.next s a))
    (hbreak : ∀ s a, I s → M.enabled s a → ¬ ok s a → ¬ P (M.next s a))
    {s : σ} {as : List α} (hs : I s) (hl : M.Legal s as) :
    M.Throughout P s as ↔ M.Along ok s as := by
  refine ⟨?_, fun hok => Legal.throughout hP hkeep hs hl hok⟩
  induction as generalizing s with
  | nil => exact fun _ => trivial
  | cons a as ih =>
    intro hall
    -- the state behind the first step is visited as well
    have hnext : P (M.next s a) := by
      cases as with
      | nil => exact hall.2
      | cons b bs => exact hall.2.1
    have hok : ok s a := by
      by_contra hbad
      exact hbreak s a hs hl.1 hbad hnext
    exact ⟨hok, ih (hkeep s a hs hl.1 hok) hl.2 hall.2⟩

/-! ## Ranking -/

/-- One more of the actions that are counted. -/
theorem countP_cons_toNat (counted : α → Bool) (a : α) (as : List α) :
    (a :: as).countP counted = as.countP counted + (counted a).toNat := by
  cases h : counted a with
  | true => rw [List.countP_cons_of_pos h, Bool.toNat_true]
  | false => simp [h]

/-- **Ranking rule**: if every step takes at least one off the rank for an action that is
    counted, and adds nothing for the others, a run counts no more than its first rank. -/
theorem Legal.countP_add_le {I : σ → Prop} {ok : σ → α → Prop} (rank : σ → ℕ)
    (counted : α → Bool)
    (hstep : ∀ s a, I s → M.enabled s a → ok s a → I (M.next s a))
    (hrank : ∀ s a, I s → M.enabled s a → ok s a →
      rank (M.next s a) + (counted a).toNat ≤ rank s)
    {s : σ} {as : List α} (hs : I s) (hl : M.Legal s as) (hok : M.Along ok s as) :
    as.countP counted + rank (M.exec s as) ≤ rank s := by
  induction as generalizing s with
  | nil => simp
  | cons a as ih =>
    have hfirst := hrank s a hs hl.1 hok.1
    have hrest := ih (hstep s a hs hl.1 hok.1) hl.2 hok.2
    rw [countP_cons_toNat, exec_cons]
    omega

end Machine

end Transition
