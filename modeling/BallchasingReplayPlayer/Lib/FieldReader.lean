import Mathlib.Data.List.Basic

/-!
# Readers of Fields

A small library for parsers of streams that arrive in pieces. Such a parser knows how many units it
needs for the field it is in. It absorbs what it gets, and when nothing is needed any more it
finishes the field and goes on to the next one, until an item is ready to be collected.

## Layers

1. `Reader`: the operations and their laws
2. `run`: the meaning of a stream, unit by unit
3. `Result.Agrees`: two readers that collect the same items

## Rules

- `run_append`: a stream in two pieces
- `run_beginning`: the first part of a stream
- `run_field`: a field, or the beginning of one, at once
- `runSettled_field`: field by field
- `Result.Agrees.andThen`: one part after the other
-/

namespace FieldReader

universe u v w x

/-- A reader with states `σ` of units `β`, which fails with `ε` and collects items `γ`. The laws
    hold in `valid` states. Finishing a field lowers the `rank` or leads to a field that needs
    something. -/
structure Reader (σ : Type u) (β : Type v) (ε : Type w) (γ : Type x) where
  valid : σ → Prop
  needed : σ → ℕ
  ready : σ → Bool
  absorb : σ → List β → Except ε σ
  finish : σ → Except ε σ
  collect : σ → γ × σ
  rank : σ → ℕ
  absorb_nil : ∀ {s}, valid s → absorb s [] = .ok s
  absorb_append : ∀ {s} (xs ys : List β), valid s → ready s = false →
    xs.length + ys.length ≤ needed s →
    absorb s (xs ++ ys) = absorb s xs >>= fun s' => absorb s' ys
  absorb_valid : ∀ {s s'} {xs : List β}, valid s → ready s = false → xs.length ≤ needed s →
    absorb s xs = .ok s' → valid s' ∧ ready s' = false ∧ needed s' = needed s - xs.length
  finish_valid : ∀ {s s'}, valid s → ready s = false → needed s = 0 → finish s = .ok s' →
    valid s' ∧ (¬ rank s' < rank s → ready s' = true ∨ needed s' ≠ 0)
  collect_valid : ∀ {s}, valid s → ready s = true →
    valid (collect s).2 ∧ ready (collect s).2 = false ∧ needed (collect s).2 ≠ 0

variable {σ : Type u} {β : Type v} {ε : Type w} {γ : Type x}

/-- What was collected on the way, and the state at the end or the error. -/
abbrev Result (σ : Type u) (ε : Type w) (γ : Type x) := List γ × Except ε σ

/-- What comes second is done only if what comes first has not failed. -/
def Result.andThen (r : Result σ ε γ) (f : σ → Result σ ε γ) : Result σ ε γ :=
  match r.2 with
  | .error _ => r
  | .ok s => (r.1 ++ (f s).1, (f s).2)

theorem Result.andThen_assoc (r : Result σ ε γ) (f g : σ → Result σ ε γ) :
    (r.andThen f).andThen g = r.andThen fun s => (f s).andThen g := by
  obtain ⟨items, _ | s⟩ := r
  · rfl
  · unfold andThen
    dsimp only
    obtain ⟨items', _ | s'⟩ := f s
    · rfl
    · simp only [List.append_assoc]

theorem Result.andThen_ok (r : Result σ ε γ) : (r.andThen fun s => ([], .ok s)) = r := by
  obtain ⟨items, _ | s⟩ := r
  · rfl
  · simp [andThen]

/-- What is made without collecting anything. -/
def Result.of (r : Except ε σ) : Result σ ε γ := ([], r)

theorem Result.andThen_of_ok (s : σ) (f : σ → Result σ ε γ) :
    (Result.of (.ok s)).andThen f = f s := by
  simp [andThen, of]

/-- Two ways to end: with states that belong together, or with the same error. -/
def Ends {τ : Type*} (P : σ → τ → Prop) : Except ε σ → Except ε τ → Prop
  | .ok s, .ok t => P s t
  | .error e, .error e' => e = e'
  | _, _ => False

/-- The same items, and ends that belong together. -/
structure Result.Agrees {τ : Type*} (P : σ → τ → Prop) (r : Result σ ε γ) (r' : Result τ ε γ) :
    Prop where
  items : r.1 = r'.1
  ends : Ends P r.2 r'.2

/-- **Simulation**: results agree if their parts do. -/
theorem Result.Agrees.andThen {τ : Type*} {P : σ → τ → Prop} {r : Result σ ε γ}
    {r' : Result τ ε γ} {f : σ → Result σ ε γ} {f' : τ → Result τ ε γ} (h : r.Agrees P r')
    (hf : ∀ s t, P s t → (f s).Agrees P (f' t)) : (r.andThen f).Agrees P (r'.andThen f') := by
  obtain ⟨items, e | s⟩ := r
  · obtain ⟨items', e' | t⟩ := r'
    · exact h
    · cases h.ends
  · obtain ⟨items', e' | t⟩ := r'
    · cases h.ends
    · have hrest := hf s t h.ends
      exact ⟨congr (congrArg _ h.items) hrest.items, hrest.ends⟩

namespace Reader

variable (R : Reader σ β ε γ)

/-- Nothing is ready, and something is needed. -/
structure Settled (s : σ) : Prop where
  valid : R.valid s
  ready : R.ready s = false
  needed : R.needed s ≠ 0

/-- Fields are finished as long as nothing is needed for them. -/
def settle (s : σ) : Except ε σ :=
  if R.ready s = false ∧ R.needed s = 0 then
    match R.finish s with
    | .error e => .error e
    | .ok s' => if R.rank s' < R.rank s then settle s' else .ok s'
  else .ok s
termination_by R.rank s

/-- An item that is ready is collected. -/
def emit : Except ε σ → Result σ ε γ
  | .error e => ([], .error e)
  | .ok s => if R.ready s then ([(R.collect s).1], .ok (R.collect s).2) else ([], .ok s)

/-- What a stream means, unit by unit. -/
def run : σ → List β → Result σ ε γ
  | s, [] => ([], .ok s)
  | s, b :: bs => (R.emit (R.absorb s [b] >>= R.settle)).andThen fun s' => run s' bs

theorem run_cons (s : σ) (b : β) (bs : List β) :
    R.run s (b :: bs) = (R.emit (R.absorb s [b] >>= R.settle)).andThen (R.run · bs) := rfl

/-- **In pieces**: a stream is its first piece and then the rest. -/
theorem run_append (s : σ) (xs ys : List β) :
    R.run s (xs ++ ys) = (R.run s xs).andThen (R.run · ys) := by
  induction xs generalizing s with
  | nil => simp [run, Result.andThen]
  | cons x xs ih =>
    rw [List.cons_append, run_cons, run_cons, Result.andThen_assoc]
    simp only [ih]

variable {R}

/-- The first part of a stream without an error has none either, and fewer items. -/
theorem run_beginning {s t : σ} {xs ys : List β} (h : (R.run s (xs ++ ys)).2 = .ok t) :
    (R.run s xs).1 <+: (R.run s (xs ++ ys)).1 ∧ ∃ s', (R.run s xs).2 = .ok s' := by
  rw [run_append] at h ⊢
  generalize R.run s xs = r at h ⊢
  obtain ⟨items, e | s'⟩ := r
  · cases h
  · exact ⟨List.prefix_append _ _, s', rfl⟩

/-- A state that needs something is settled already. -/
theorem settle_of_needed {s : σ} (h : R.needed s ≠ 0) : R.settle s = .ok s := by
  unfold settle
  rw [if_neg (fun hzero => h hzero.2)]

theorem settle_of_ready {s : σ} (h : R.ready s = true) : R.settle s = .ok s := by
  unfold settle
  rw [if_neg (fun hready => by simp [h] at hready)]

/-- When nothing is needed the field is finished. -/
theorem settle_of_zero {s : σ} (hvalid : R.valid s) (hready : R.ready s = false)
    (hzero : R.needed s = 0) : R.settle s = R.finish s >>= R.settle := by
  rw [settle, if_pos ⟨hready, hzero⟩]
  cases hfinish : R.finish s with
  | error e => rfl
  | ok s' =>
    obtain ⟨-, hstop⟩ := R.finish_valid hvalid hready hzero hfinish
    dsimp only
    split
    case isTrue => rfl
    case isFalse hrank =>
      rcases hstop hrank with hready' | hneeded
      · exact (settle_of_ready hready').symm
      · exact (settle_of_needed hneeded).symm

/-- Settling leads to an item or to a field that needs something. -/
theorem settle_valid {s s' : σ} (hvalid : R.valid s) (h : R.settle s = .ok s') :
    R.valid s' ∧ (R.ready s' = true ∨ R.needed s' ≠ 0) := by
  -- the rank goes down with every field that is finished
  induction hn : R.rank s using Nat.strongRecOn generalizing s with
  | ind n ih =>
    rw [settle] at h
    split at h
    case isTrue hzero =>
      cases hfinish : R.finish s with
      | error e =>
        rw [hfinish] at h
        cases h
      | ok t =>
        obtain ⟨ht, hstop⟩ := R.finish_valid hvalid hzero.1 hzero.2 hfinish
        rw [hfinish] at h
        dsimp only at h
        split at h
        case isTrue hrank => exact ih (R.rank t) (hn ▸ hrank) ht h rfl
        case isFalse hrank =>
          cases h
          exact ⟨ht, hstop hrank⟩
    case isFalse hzero =>
      cases h
      refine ⟨hvalid, ?_⟩
      cases hready : R.ready s' with
      | true => exact Or.inl rfl
      | false => exact Or.inr fun hneeded => hzero ⟨hready, hneeded⟩

/-- Behind what is collected the reader is settled. -/
theorem settled_emit {r : Except ε σ} {s : σ}
    (hr : ∀ t, r = .ok t → R.valid t ∧ (R.ready t = true ∨ R.needed t ≠ 0))
    (h : (R.emit r).2 = .ok s) : R.Settled s := by
  cases r with
  | error e => cases h
  | ok t =>
    obtain ⟨hvalid, hstop⟩ := hr t rfl
    unfold emit at h
    dsimp only at h
    split at h
    case isTrue hready =>
      cases h
      obtain ⟨hvalid', hready', hneeded⟩ := R.collect_valid hvalid hready
      exact ⟨hvalid', hready', hneeded⟩
    case isFalse hready =>
      cases h
      exact ⟨hvalid, by simpa using hready, hstop.resolve_left hready⟩

/-- Absorbing and settling lead to an item or to a field that needs something. -/
theorem absorb_settle_valid {s t : σ} {xs : List β} (hs : R.Settled s)
    (hlength : xs.length ≤ R.needed s) (h : (R.absorb s xs >>= R.settle) = .ok t) :
    R.valid t ∧ (R.ready t = true ∨ R.needed t ≠ 0) := by
  cases habsorb : R.absorb s xs with
  | error e =>
    rw [habsorb] at h
    cases h
  | ok s' =>
    rw [habsorb] at h
    exact settle_valid (R.absorb_valid hs.valid hs.ready hlength habsorb).1 h

theorem settled_field {s t : σ} {xs : List β} (hs : R.Settled s)
    (hlength : xs.length ≤ R.needed s)
    (h : (R.emit (R.absorb s xs >>= R.settle)).2 = .ok t) : R.Settled t :=
  settled_emit (fun _ => absorb_settle_valid hs hlength) h

/-- **A field at once**: units of one field mean together what they mean one by one. -/
theorem run_field {s : σ} {xs : List β} (hs : R.Settled s) (hlength : xs.length ≤ R.needed s) :
    R.run s xs = R.emit (R.absorb s xs >>= R.settle) := by
  induction xs generalizing s with
  | nil =>
    rw [R.absorb_nil hs.valid]
    change _ = R.emit (R.settle s)
    rw [settle_of_needed hs.needed]
    simp [run, emit, hs.ready]
  | cons b bs ih =>
    rw [List.length_cons] at hlength
    have hsplit := R.absorb_append [b] bs hs.valid hs.ready
      (by rw [List.length_singleton]; omega)
    rw [List.singleton_append] at hsplit
    rw [run_cons, hsplit]
    cases hb : R.absorb s [b] with
    | error e => rfl
    | ok s' =>
      obtain ⟨hvalid, hready, hneeded⟩ := R.absorb_valid hs.valid hs.ready
        (by rw [List.length_singleton]; omega) hb
      rw [List.length_singleton] at hneeded
      change (R.emit (R.settle s')).andThen _ = R.emit (R.absorb s' bs >>= R.settle)
      cases bs with
      | nil =>
        rw [R.absorb_nil hvalid]
        exact Result.andThen_ok _
      | cons c cs =>
        -- more is needed: nothing happens in between
        rw [List.length_cons] at hlength
        have hneeded' : R.needed s' ≠ 0 := by omega
        rw [settle_of_needed hneeded']
        have hemit : R.emit (.ok s') = ([], .ok s') := by simp [emit, hready]
        rw [hemit, ← ih ⟨hvalid, hready, hneeded'⟩ (by rw [List.length_cons]; omega)]
        simp [Result.andThen]

/-- Behind a stream the reader is settled. -/
theorem settled_run {s t : σ} {xs : List β} (hs : R.Settled s) (h : (R.run s xs).2 = .ok t) :
    R.Settled t := by
  induction xs generalizing s with
  | nil =>
    cases h
    exact hs
  | cons b bs ih =>
    rw [run_cons] at h
    unfold Result.andThen at h
    have hone : [b].length ≤ R.needed s := by
      have hneeded := hs.needed
      rw [List.length_singleton]
      omega
    cases hb : (R.emit (R.absorb s [b] >>= R.settle)).2 with
    | error e =>
      rw [hb] at h
      dsimp only at h
      rw [hb] at h
      cases h
    | ok s' =>
      rw [hb] at h
      exact ih (settled_field hs hone hb) h

variable (R) in
/-- A whole field. -/
def field (s : σ) (xs : List β) : Except ε σ := R.absorb s xs >>= R.finish

variable (R) in
/-- A stream behind a field that has just ended, or before one that nothing is needed for. -/
def runSettled (s : σ) (xs : List β) : Result σ ε γ :=
  (R.emit (R.settle s)).andThen (R.run · xs)

theorem runSettled_of_settled {s : σ} (hs : R.Settled s) (xs : List β) :
    R.runSettled s xs = R.run s xs := by
  have hemit : R.emit (.ok s) = ([], .ok s) := by simp [emit, hs.ready]
  unfold runSettled
  rw [settle_of_needed hs.needed, hemit]
  simp [Result.andThen]

theorem runSettled_of_ready {s : σ} (h : R.ready s = true) (xs : List β) :
    R.runSettled s xs =
      ((R.collect s).1 :: (R.run (R.collect s).2 xs).1, (R.run (R.collect s).2 xs).2) := by
  have hemit : R.emit (.ok s) = ([(R.collect s).1], .ok (R.collect s).2) := if_pos h
  unfold runSettled
  rw [settle_of_ready h, hemit]
  rfl

/-- **Field by field**: all the units of a field, then what is behind it. The field may be empty. -/
theorem runSettled_field {s : σ} {xs : List β} (hvalid : R.valid s) (hready : R.ready s = false)
    (hlength : xs.length = R.needed s) (ys : List β) :
    R.runSettled s (xs ++ ys) = (Result.of (R.field s xs)).andThen (R.runSettled · ys) := by
  have hle : xs.length ≤ R.needed s := Nat.le_of_eq hlength
  unfold field
  by_cases hneeded : R.needed s = 0
  · obtain rfl : xs = [] := List.eq_nil_of_length_eq_zero (hlength.trans hneeded)
    unfold runSettled
    rw [settle_of_zero hvalid hready hneeded, R.absorb_nil hvalid, List.nil_append]
    change _ = (Result.of (R.finish s)).andThen _
    cases R.finish s with
    | error e => rfl
    | ok s' => exact (Result.andThen_of_ok s' (R.runSettled · ys)).symm
  · have hs : R.Settled s := ⟨hvalid, hready, hneeded⟩
    rw [runSettled_of_settled hs, R.run_append, run_field hs hle]
    cases habsorb : R.absorb s xs with
    | error e => rfl
    | ok s' =>
      obtain ⟨hvalid', hready', hneeded'⟩ := R.absorb_valid hvalid hready hle habsorb
      have hsettle := settle_of_zero hvalid' hready' (by omega)
      change (R.emit (R.settle s')).andThen _ = (Result.of (R.finish s')).andThen _
      rw [hsettle]
      cases R.finish s' with
      | error e => rfl
      | ok s'' => exact (Result.andThen_of_ok s'' (R.runSettled · ys)).symm

/-- **The beginning of a field**: nothing is collected before the field is complete. -/
theorem runSettled_of_lt {s : σ} {xs : List β} (hvalid : R.valid s) (hready : R.ready s = false)
    (hlength : xs.length < R.needed s) : (R.runSettled s xs).1 = [] := by
  have hs : R.Settled s := ⟨hvalid, hready, by omega⟩
  have hle : xs.length ≤ R.needed s := Nat.le_of_lt hlength
  rw [runSettled_of_settled hs, run_field hs hle]
  cases habsorb : R.absorb s xs with
  | error e => rfl
  | ok s' =>
    obtain ⟨-, hready', hneeded⟩ := R.absorb_valid hvalid hready hle habsorb
    change (R.emit (R.settle s')).1 = []
    rw [settle_of_needed (by omega)]
    simp [emit, hready']

end Reader

end FieldReader
