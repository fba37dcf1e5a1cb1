import Mathlib.Data.Finset.Basic
import Mathlib.Data.Multiset.AddSub
import BallchasingReplayPlayer.Lib.Machine

/-!
# A Cache That Fetches What It Lacks

What a cache of fetched contents is for. A key that is stored is served from the cache; one
that is not is fetched, by one fetch at a time. Whatever is served or arrives is used once.

`none` is the content of a key that has none, whether it was never fetched or came empty.

## Rules

- `stored_exec`: what is stored stays
- `supplied_of_stored`: what is stored was there or has arrived
- `arrivals_le`: a content arrives once
-/

namespace FetchCache

open Transition

universe u v

/-- What is stored, the keys being fetched, and those waiting to be used. -/
@[ext] structure State (κ : Type u) (β : Type v) where
  stored : κ → Option β
  fetching : Finset κ
  pending : Multiset κ

/-- The steps of the cache. -/
inductive Event (κ : Type u) (β : Type v) where
  | hit (k : κ)
  | fetch (k : κ)
  | arrive (k : κ) (content : Option β)
  | fail (k : κ)
  | use (k : κ) (content : Option β)

variable {κ : Type u} {β : Type v} [DecidableEq κ]

/-- Only what is stored is served; only what is neither stored nor waiting is fetched. A use
    gets what is stored. -/
def machine (κ : Type u) (β : Type v) [DecidableEq κ] : Machine (State κ β) (Event κ β) where
  enabled s
    | .hit k => s.stored k ≠ none
    | .fetch k => s.stored k = none ∧ k ∉ s.fetching ∧ k ∉ s.pending
    | .arrive k _ => k ∈ s.fetching
    | .fail k => k ∈ s.fetching
    | .use k content => k ∈ s.pending ∧ s.stored k = content
  next s
    | .hit k => { s with pending := k ::ₘ s.pending }
    | .fetch k => { s with fetching := insert k s.fetching }
    | .arrive k content =>
      { stored := Function.update s.stored k content
        fetching := s.fetching.erase k
        pending := k ::ₘ s.pending }
    | .fail k => { s with fetching := s.fetching.erase k }
    | .use k _ => { s with pending := s.pending.erase k }

/-- Nothing is fetched that is stored already. -/
def FetchesMissing (s : State κ β) : Prop := ∀ k ∈ s.fetching, s.stored k = none

section Steps

variable {s : State κ β} {e : Event κ β}

/-- **Step lemma**: a fetch starts for a key without content, and ends when it gets one. -/
theorem FetchesMissing.next (h : FetchesMissing s) (he : (machine κ β).enabled s e) :
    FetchesMissing ((machine κ β).next s e) := by
  cases e with
  | hit k => exact h
  | fetch k =>
    intro k' hk'
    rcases Finset.mem_insert.mp hk' with rfl | hk'
    · exact he.1
    · exact h k' hk'
  | arrive k content =>
    intro k' hk'
    obtain ⟨hne, hk'⟩ := Finset.mem_erase.mp hk'
    exact (Function.update_of_ne hne ..).trans (h k' hk')
  | fail k => exact fun k' hk' => h k' (Finset.mem_of_mem_erase hk')
  | use k content => exact h

/-- A step leaves a stored content in its place. -/
theorem stored_next (h : FetchesMissing s) (he : (machine κ β).enabled s e) {k : κ} {content : β}
    (hk : s.stored k = some content) : ((machine κ β).next s e).stored k = some content := by
  cases e with
  | arrive k' content' =>
    have hne : k ≠ k' := by
      rintro rfl
      rw [h k he] at hk
      cases hk
    exact (Function.update_of_ne hne ..).trans hk
  | _ => exact hk

/-- A content that is stored behind a step was there or has arrived. -/
theorem stored_of_next {k : κ} {content : β}
    (hk : ((machine κ β).next s e).stored k = some content) :
    s.stored k = some content ∨ e = .arrive k (some content) := by
  cases e with
  | arrive k' content' =>
    have hupdate : Function.update s.stored k' content' k = some content := hk
    by_cases heq : k = k'
    · rw [heq, Function.update_self] at hupdate
      exact Or.inr (by rw [heq, hupdate])
    · rw [Function.update_of_ne heq] at hupdate
      exact Or.inl hupdate
  | _ => exact Or.inl hk

end Steps

/-! ## Runs -/

section Runs

variable {s : State κ β} {as : List (Event κ β)}

/-- **Nothing is lost**: a stored content stays to the end of every run. -/
theorem stored_exec (h : FetchesMissing s) (hl : (machine κ β).Legal s as) {k : κ} {content : β}
    (hk : s.stored k = some content) : ((machine κ β).exec s as).stored k = some content := by
  have hend := Machine.exec_invariant
    (I := fun s => FetchesMissing s ∧ s.stored k = some content)
    (fun s e hs he => ⟨hs.1.next he, stored_next hs.1 he hs.2⟩) ⟨h, hk⟩ hl
  exact hend.2

/-- **Only what was supplied is stored**: a content that is stored at the end of a run was there or
    has arrived. -/
theorem supplied_of_stored {k : κ} {content : β}
    (hk : ((machine κ β).exec s as).stored k = some content) :
    s.stored k = some content ∨ .arrive k (some content) ∈ as := by
  induction as generalizing s with
  | nil => exact Or.inl hk
  | cons e as ih =>
    rcases ih hk with hstored | harrive
    · rcases stored_of_next hstored with hstored | rfl
      · exact Or.inl hstored
      · exact Or.inr (List.mem_cons_self ..)
    · exact Or.inr (List.mem_cons_of_mem _ harrive)

/-- The event brings a content for the key. -/
def Event.brings (k : κ) : Event κ β → Bool
  | .arrive k' content => k' = k ∧ content.isSome
  | _ => false

/-- A content arrives only for a key that has none, and is stored from then on. -/
theorem brings_next (h : FetchesMissing s) {e : Event κ β} (he : (machine κ β).enabled s e)
    {k : κ} (hbrings : e.brings k = true) :
    s.stored k = none ∧ ((machine κ β).next s e).stored k ≠ none := by
  cases e with
  | arrive k' content =>
    obtain ⟨rfl, hsome⟩ : k' = k ∧ content.isSome = true := by simpa [Event.brings] using hbrings
    refine ⟨h _ he, ?_⟩
    show Function.update s.stored k' content k' ≠ none
    rw [Function.update_self]
    exact Option.isSome_iff_ne_none.mp hsome
  | _ => cases hbrings

/-- **Every content arrives once**: a run brings a key at most one content, and none if it has
    one already. -/
theorem arrivals_le (h : FetchesMissing s) (hl : (machine κ β).Legal s as) (k : κ) :
    as.countP (Event.brings k) + (if s.stored k = none then 0 else 1) ≤ 1 := by
  induction as generalizing s with
  | nil => split <;> simp
  | cons e as ih =>
    obtain ⟨he, hrest⟩ := hl
    have hbound := ih (h.next he) hrest
    rw [List.countP_cons]
    by_cases hbrings : e.brings k = true
    · obtain ⟨hnone, hsome⟩ := brings_next h he hbrings
      rw [if_neg hsome] at hbound
      rw [if_pos hnone, if_pos hbrings]
      omega
    · rw [if_neg hbrings]
      cases hstored : s.stored k with
      | none =>
        rw [if_pos rfl]
        omega
      | some content =>
        rw [stored_next h he hstored] at hbound
        simpa using hbound

end Runs

end FetchCache
