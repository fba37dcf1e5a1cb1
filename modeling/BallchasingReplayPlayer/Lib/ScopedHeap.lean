import Mathlib.Data.List.Basic

/-!
# Cells Owned by a Scope

Manual memory and scope guards, for code that allocates a cell, reads it through its address
and leaves its release to a guard.

A `Heap` holds the live cells. Reading or releasing an address without a live cell has no
meaning in the program; here it is a fault, which the heap counts. `onExit` is a guard: its
cleanup runs when the scope is left, by a return or by an exception.

## Rules

`Lifts h code plain` says that on the heap `h` the code does what plain code does that knows of
no heap, and leaves the heap as it is.

- `Lifts.lift`, `Lifts.bind`, `Lifts.deref`: how code that only reads is lifted
- `run_scoped`: a cell that a guard releases is allocated once and released once, on every way
  out of the scope
-/

namespace ScopedHeap

/-! ## Heaps -/

/-- An address of the heap. Addresses of released cells are used again. -/
abbrev Address := ℕ

/-- Where a new cell goes: to an address that is not in use. -/
structure Allocator where
  pick : List Address → Address
  pick_free : ∀ live, pick live ∉ live

theorem foldr_max_lt (live : List ℕ) : ∀ p ∈ live, p < live.foldr max 0 + 1 := by
  induction live with
  | nil => intro p hp; cases hp
  | cons q live ih =>
    intro p hp
    rw [List.foldr_cons]
    rcases List.mem_cons.mp hp with rfl | hp
    · omega
    · have := ih p hp
      omega

/-- The address behind all that are in use. -/
def Allocator.behind : Allocator where
  pick live := live.foldr max 0 + 1
  pick_free live hmem := Nat.lt_irrefl _ (foldr_max_lt live _ hmem)

/-- The live cells, and how many cells were allocated and released. `faults` counts the accesses
    to addresses that are not in use. -/
@[ext]
structure Heap (α : Type) where
  cells : List (Address × α)
  nodup : (cells.map Prod.fst).Nodup
  allocated : ℕ
  released : ℕ
  faults : ℕ
  balance : allocated = released + cells.length

namespace Heap

variable {α : Type}

/-- No cell is live, and none was. -/
def empty (α : Type) : Heap α := ⟨[], List.nodup_nil, 0, 0, 0, rfl⟩

/-- The addresses in use. -/
def live (h : Heap α) : List Address := h.cells.map Prod.fst

/-- The content of a cell, if it is live. -/
def read (h : Heap α) (p : Address) : Option α :=
  (h.cells.find? fun cell => cell.1 = p).map Prod.snd

/-- An access to an address that is not in use. -/
def fault (h : Heap α) : Heap α := { h with faults := h.faults + 1 }

/-- A new cell. -/
def alloc (h : Heap α) (p : Address) (a : α) (hfree : p ∉ h.live) : Heap α where
  cells := (p, a) :: h.cells
  nodup := by
    rw [List.map_cons, List.nodup_cons]
    exact ⟨hfree, h.nodup⟩
  allocated := h.allocated + 1
  released := h.released
  faults := h.faults
  balance := by rw [h.balance, List.length_cons]; omega

/-- A cell is released. -/
def release (h : Heap α) (p : Address) : Heap α :=
  if hlive : p ∈ h.live then
    { cells := h.cells.eraseP fun cell => cell.1 = p
      nodup := h.nodup.sublist (List.eraseP_sublist.map Prod.fst)
      allocated := h.allocated
      released := h.released + 1
      faults := h.faults
      balance := by
        obtain ⟨cell, hcell, rfl⟩ := List.mem_map.mp hlive
        have hlength := List.length_eraseP_of_mem (p := fun c => c.1 = cell.1) hcell (by simp)
        have hpos := List.length_pos_of_mem hcell
        rw [h.balance, hlength]
        omega }
  else h.fault

@[simp] theorem read_alloc (h : Heap α) (p : Address) (a : α) (hfree : p ∉ h.live) :
    (h.alloc p a hfree).read p = some a := by
  simp [read, alloc]

/-- The heap behind a cell that was allocated and released: the other cells are as they were. -/
def passed (h : Heap α) : Heap α :=
  { h with
    allocated := h.allocated + 1
    released := h.released + 1
    balance := by rw [h.balance]; omega }

theorem release_alloc (h : Heap α) (p : Address) (a : α) (hfree : p ∉ h.live) :
    (h.alloc p a hfree).release p = h.passed := by
  have hlive : p ∈ (h.alloc p a hfree).live := List.mem_cons_self
  unfold release
  rw [dif_pos hlive]
  ext1
  · simp [alloc, passed]
  · rfl
  · rfl
  · rfl

end Heap

/-! ## Code -/

section

variable {ε σ α β γ : Type}

/-- Code on a state and a heap. An exception keeps both as they were there. -/
abbrev HeapM (ε σ α : Type) := EStateM ε (σ × Heap α)

/-- Code that knows of no heap. -/
def lift (x : EStateM ε σ β) : HeapM ε σ α β := fun s =>
  match x s.1 with
  | .ok b s' => .ok b (s', s.2)
  | .error c s' => .error c (s', s.2)

@[simp] theorem lift_pure (b : β) : lift (pure b) = (pure b : HeapM ε σ α β) := rfl

/-- `new`. -/
def new (allocator : Allocator) (a : α) : HeapM ε σ α Address := fun s =>
  let p := allocator.pick s.2.live
  .ok p (s.1, s.2.alloc p a (allocator.pick_free _))

/-- `*p`, and a fault if there is no such cell. -/
def deref (p : Address) : HeapM ε σ α (Option α) := fun s =>
  match s.2.read p with
  | some a => .ok (some a) s
  | none => .ok none (s.1, s.2.fault)

/-- `delete p`. -/
def delete (p : Address) (s : σ × Heap α) : σ × Heap α := (s.1, s.2.release p)

/-- A guard: `cleanup` runs when `body` is left, by a return or by an exception. -/
def onExit (cleanup : γ → γ) (body : EStateM ε γ β) : EStateM ε γ β := fun s =>
  match body s with
  | .ok b s' => .ok b (cleanup s')
  | .error c s' => .error c (cleanup s')

/-! ## Lifting -/

/-- On the heap `h`, the code does what plain code does, and leaves the heap as it is. -/
def Lifts (h : Heap α) (code : HeapM ε σ α β) (plain : EStateM ε σ β) : Prop :=
  ∀ s, code (s, h) = lift plain (s, h)

namespace Lifts

variable {h : Heap α} {plain : EStateM ε σ β}

theorem lift (h : Heap α) (x : EStateM ε σ β) : Lifts h (lift x) x := fun _ => rfl

theorem pure (h : Heap α) (b : β) : Lifts h (pure b : HeapM ε σ α β) (pure b) := fun _ => rfl

/-- One piece of code after the other. -/
theorem bind {code : HeapM ε σ α β} {f : β → HeapM ε σ α γ} {g : β → EStateM ε σ γ}
    (hcode : Lifts h code plain) (hf : ∀ b, Lifts h (f b) (g b)) :
    Lifts h (code >>= f) (plain >>= g) := by
  intro s
  change EStateM.bind code f (s, h) = ScopedHeap.lift (EStateM.bind plain g) (s, h)
  unfold EStateM.bind
  rw [hcode s]
  unfold ScopedHeap.lift
  cases hplain : plain s with
  | ok b s' => simpa [hplain, ScopedHeap.lift] using hf b s'
  | error c s' => simp [hplain]

/-- A live cell is read without a trace. -/
theorem deref {p : Address} {a : α} {f : Option α → HeapM ε σ α β} (hread : h.read p = some a)
    (hf : Lifts h (f (some a)) plain) : Lifts h (deref p >>= f) plain := by
  intro s
  change EStateM.bind (ScopedHeap.deref p) f (s, h) = _
  unfold EStateM.bind ScopedHeap.deref
  rw [hread]
  exact hf s

end Lifts

/-- **Scope rule**: a cell that is read in its scope only, and that a guard releases, does not
    outlive the scope, however it is left; and it is released once. -/
theorem run_scoped (allocator : Allocator) (a : α) {body : Address → HeapM ε σ α β}
    {plain : EStateM ε σ β} (s : σ) (h : Heap α)
    (hbody : ∀ p h', h'.read p = some a → Lifts h' (body p) plain) :
    (new allocator a >>= fun p => onExit (delete p) (body p)) (s, h) =
      lift plain (s, h.passed) := by
  have hfree := allocator.pick_free h.live
  have hlifts := hbody _ _ (h.read_alloc _ a hfree) s
  change EStateM.bind (new allocator a) _ (s, h) = _
  unfold EStateM.bind new onExit
  dsimp only
  rw [hlifts]
  unfold lift
  -- the guard runs behind a return and behind an exception
  cases plain s with
  | ok b s' => simp only [delete, Heap.release_alloc]
  | error c s' => simp only [delete, Heap.release_alloc]

end

end ScopedHeap
