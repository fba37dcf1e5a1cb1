import BallchasingReplayPlayer.Plugin.Accounting

/-!
# How Requests Come to an End

A download ends with its completion callback, and a queued replay is played by the game thread.
While no request is made, these are the only steps that finish something, and there is a bounded
number of them.

## Main Results

- `pending_next`: every such step takes one off what is pending
- `requests_settle`: when nothing is left to do, every request has been played, has failed or
  threw
-/

namespace BallchasingReplayPlayer

open LexicalPath Transition

/-- The step finishes a download or a queued task. -/
def PluginEvent.finishes : PluginEvent → Bool
  | .completion _ _ _ | .runTask _ => true
  | _ => false

/-- The steps that are left: a download may have to be played when it is there. -/
def PluginState.pending (s : PluginState) : ℕ := 2 * s.inFlight.length + s.tasks.length

section

variable {sdk : BakkesMod} {s : PluginState} {e : PluginEvent}

/-- **Step lemma**: what finishes something takes at least one off what is pending, and only a
    request adds to it. -/
theorem pending_next (he : s.enabled e) (hquiet : e.isRequest = false) :
    (s.next sdk e).pending + e.finishes.toNat ≤ s.pending := by
  unfold PluginState.pending
  cases e with
  | request replayId token throws => cases hquiet
  | chunk i bytes =>
    obtain ⟨l₁, d, l₂, -, hsplit, hnext⟩ := next_chunk sdk s he bytes
    rw [hnext, hsplit]
    simp [PluginEvent.finishes]
  | progress i report => exact le_rfl
  | completion i code throws =>
    obtain ⟨l₁, d, l₂, -, hsplit, hnext⟩ := next_completion sdk s he code throws
    rw [hnext, hsplit]
    dsimp only
    split
    · simp only [PluginState.queued, PluginEvent.finishes, List.length_append, List.length_cons,
        List.length_nil, Bool.toNat_true]
      omega
    · simp only [PluginState.discarded, PluginEvent.finishes, List.length_append,
        List.length_cons, Bool.toNat_true]
      omega
  | runTask k =>
    obtain ⟨t₁, path, t₂, -, hsplit, hnext⟩ := next_runTask sdk s he
    rw [hnext, hsplit]
    simp only [PluginEvent.finishes, List.length_append, List.length_cons, Bool.toNat_true]
    omega
  | frame size => exact le_rfl

/-- **Run lemma**: while no request is made, no more is finished than was pending. -/
theorem countP_finishes_le {as : List PluginEvent} (hl : (pluginMachine sdk).Legal s as)
    (hquiet : ∀ e ∈ as, e.isRequest = false) :
    as.countP PluginEvent.finishes ≤ s.pending := by
  have hrequests : (pluginMachine sdk).Along (fun _ e => e.isRequest = false) s as :=
    Machine.along_of_mem (fun e he _ => hquiet e he) s
  have hrank := Machine.Legal.countP_add_le (M := pluginMachine sdk) (I := fun _ => True)
    PluginState.pending PluginEvent.finishes (fun _ _ _ _ _ => trivial)
    (fun _ _ _ he hrequest => pending_next he hrequest) trivial hl hrequests
  exact (Nat.le_add_right _ _).trans hrank

/-- As long as something is pending, something can be finished. -/
theorem idle_of_not_enabled
    (hidle : ∀ e : PluginEvent, e.finishes = true → ¬ (pluginMachine sdk).enabled s e) :
    s.inFlight = [] ∧ s.tasks = [] := by
  constructor
  · apply List.eq_nil_of_length_eq_zero
    have hnone := hidle (.completion 0 200 noThrow) rfl
    exact Nat.eq_zero_of_not_pos hnone
  · apply List.eq_nil_of_length_eq_zero
    have hnone := hidle (.runTask 0) rfl
    exact Nat.eq_zero_of_not_pos hnone

end

/-- **Every request comes to an end**: behind the last request of a run, no more steps finish
    something than two for each download in flight and one for each queued replay; and when none
    of them can be taken any more, every request for a file has been played, has failed, or
    threw. -/
theorem requests_settle (sdk : BakkesMod) (bringWindowToFront : Bool)
    (start : Path → Option Body) {as bs : List PluginEvent}
    (hl : (pluginMachine sdk).Legal (.loaded bringWindowToFront start) (as ++ bs))
    (hquiet : ∀ e ∈ bs, e.isRequest = false) :
    let s := (pluginMachine sdk).exec (.loaded bringWindowToFront start) as
    let t := (pluginMachine sdk).exec (.loaded bringWindowToFront start) (as ++ bs)
    bs.countP PluginEvent.finishes ≤ 2 * s.inFlight.length + s.tasks.length ∧
      ((∀ e : PluginEvent, e.finishes = true → ¬ (pluginMachine sdk).enabled t e) →
        ∀ path, t.playsOf path + t.failuresOf path +
          (PluginState.loaded bringWindowToFront start).lostAlong sdk path (as ++ bs) =
            requestsFor sdk path (as ++ bs)) := by
  intro s t
  obtain ⟨-, hbs⟩ := Machine.along_append.mp hl
  refine ⟨countP_finishes_le hbs hquiet, ?_⟩
  intro hidle path
  obtain ⟨hinFlight, htasks⟩ := idle_of_not_enabled hidle
  have htally : t.tallyOf path + _ = _ + requestsFor sdk path (as ++ bs) := tally_exec sdk path hl
  have hdone : t.tallyOf path = t.playsOf path + t.failuresOf path := by
    simp [PluginState.tallyOf, PluginState.queuedOf, PluginState.inFlightOf, hinFlight, htasks]
  rw [hdone] at htally
  exact htally.trans (Nat.zero_add _)

/-- Two downloads, one of which fails. -/
theorem requests_settle_twoDownloads :
    let asked := [.request "ab".toList "token".toList noThrow,
      .request "cd".toList "token".toList noThrow, .chunk 1 [1]]
    let rest := [.completion 0 404 noThrow, .chunk 0 [2], .completion 0 200 noThrow, .runTask 0]
    let s := (pluginMachine .simple).exec (.loaded true fun _ => none) asked
    let t := (pluginMachine .simple).exec (.loaded true fun _ => none) (asked ++ rest)
    rest.countP PluginEvent.finishes ≤ 2 * s.inFlight.length + s.tasks.length ∧
      ((∀ e : PluginEvent, e.finishes = true → ¬ (pluginMachine .simple).enabled t e) →
        ∀ path, t.playsOf path + t.failuresOf path +
          (PluginState.loaded true fun _ => none).lostAlong .simple path (asked ++ rest) =
            requestsFor .simple path (asked ++ rest)) :=
  requests_settle .simple true (fun _ => none) (by decide) (by decide)

end BallchasingReplayPlayer
