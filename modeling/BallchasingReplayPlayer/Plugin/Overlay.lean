import BallchasingReplayPlayer.Plugin.Download

/-!
# The Download Overlay

The drawables a run leaves registered, and the progress they draw.

A start registers one drawable, a completion unregisters all of them. So the number of
drawables follows the downloads in flight only while downloads do not overlap and every
announced download starts. The progress keeps a value as long as no report is `(0, 0)`.

## Main Results

- `overlayMatches_iff`: the runs in which a drawable is registered exactly during downloads
- `progressShown_iff`: the runs in which the progress stays in `[0, 1]` and every frame
  within its bounds
-/

namespace BallchasingReplayPlayer

open LexicalPath Transition

/-! ## Registered Drawables -/

/-- One drawable while a download is in flight, none otherwise. -/
def OverlayMatches (s : PluginState) : Prop :=
  s.drawables = if s.inFlight = [] then 0 else 1

/-- Every announced download starts, and only when no other is in flight. -/
def StartsAlone (sdk : BakkesMod) (s : PluginState) : PluginEvent → Prop
  | .request replayId _ throws =>
    s.outcome sdk replayId throws ≠ .startThrew ∧
      (s.outcome sdk replayId throws = .started → s.inFlight = [])
  | _ => True

instance (sdk : BakkesMod) (s : PluginState) : ∀ e, Decidable (StartsAlone sdk s e)
  | .request _ _ _ => inferInstanceAs (Decidable (_ ∧ (_ → _)))
  | .chunk _ _ | .progress _ _ | .completion _ _ _ | .runTask _ | .frame _ =>
    inferInstanceAs (Decidable True)

/-- The overlay matches, and at most one download is in flight. -/
structure SoleDownload (s : PluginState) : Prop where
  matching : OverlayMatches s
  sole : s.inFlight.length ≤ 1

section Drawables

variable {sdk : BakkesMod} {s : PluginState}

/-- A completion ends the only download and clears the only drawable. -/
theorem SoleDownload.completion (h : SoleDownload s) {i : ℕ} (hi : i < s.inFlight.length)
    (code : ℤ) (throws : Call → Bool) :
    SoleDownload (s.next sdk (.completion i code throws)) := by
  obtain ⟨l₁, d, l₂, -, hsplit, hnext⟩ := next_completion sdk s hi code throws
  have hlength := h.sole
  rw [hsplit, List.length_append, List.length_cons] at hlength
  -- the download was the only one
  have hnil : l₁ ++ l₂ = [] := by
    apply List.eq_nil_of_length_eq_zero
    rw [List.length_append]
    omega
  rw [hnext, hnil]
  dsimp only
  split <;> exact ⟨rfl, Nat.zero_le 1⟩

/-- **Step lemma**: sole starts keep the overlay in step with the download. -/
theorem SoleDownload.next (h : SoleDownload s) {e : PluginEvent} (he : s.enabled e)
    (hok : StartsAlone sdk s e) : SoleDownload (s.next sdk e) := by
  cases e with
  | request replayId token throws =>
    obtain ⟨hstarts, hfree⟩ := hok
    rw [next_request]
    cases houtcome : s.outcome sdk replayId throws with
    | testThrew => exact ⟨h.matching, h.sole⟩
    | cached => exact ⟨h.matching, h.sole⟩
    | startThrew => exact absurd houtcome hstarts
    | started =>
      -- nothing was in flight, so the overlay was hidden until now
      have hnone := hfree houtcome
      have hmatch := h.matching
      rw [OverlayMatches, if_pos hnone] at hmatch
      refine ⟨?_, ?_⟩
      · simp [OverlayMatches, PluginState.downloading, PluginState.ordered,
          PluginState.announced, PluginState.asked, hmatch]
      · simp [PluginState.downloading, PluginState.ordered, PluginState.announced,
          PluginState.asked, hnone]
  | chunk i bytes =>
    obtain ⟨l₁, d, l₂, -, hsplit, hnext⟩ := next_chunk sdk s he bytes
    have hmatch := h.matching
    have hsole := h.sole
    rw [OverlayMatches, hsplit] at hmatch
    rw [hsplit] at hsole
    rw [hnext]
    refine ⟨?_, by simpa using hsole⟩
    simpa [OverlayMatches] using hmatch
  | progress i report => exact ⟨h.matching, h.sole⟩
  | completion i code throws => exact h.completion he code throws
  | runTask k =>
    obtain ⟨t₁, path, t₂, -, -, hnext⟩ := next_runTask sdk s he
    rw [hnext]
    exact ⟨h.matching, h.sole⟩
  | frame size => exact ⟨h.matching, h.sole⟩

/-- A start that throws, or that overlaps a download, leaves a drawable too many. -/
theorem not_overlayMatches_next (h : OverlayMatches s) {e : PluginEvent}
    (hbad : ¬ StartsAlone sdk s e) : ¬ OverlayMatches (s.next sdk e) := by
  cases e with
  | request replayId token throws =>
    intro hnext
    rw [next_request] at hnext
    unfold OverlayMatches at h
    apply hbad
    cases houtcome : s.outcome sdk replayId throws with
    | testThrew => simp [StartsAlone, houtcome]
    | cached => simp [StartsAlone, houtcome]
    | startThrew =>
      -- one more drawable, and the same downloads
      have hmore : s.drawables + 1 = if s.inFlight = [] then 0 else 1 := by
        simp only [houtcome] at hnext
        split at hnext <;> exact hnext
      omega
    | started =>
      have hmore : s.drawables + 1 = 1 := by
        rw [houtcome] at hnext
        simpa [OverlayMatches, PluginState.downloading, PluginState.ordered,
          PluginState.announced, PluginState.asked] using hnext
      refine ⟨by simp [houtcome], fun _ => ?_⟩
      by_contra hbusy
      rw [if_neg hbusy] at h
      omega
  | _ => exact absurd trivial hbad

end Drawables

/-- **The overlay matches the downloads** in every state of a run iff no start of the run
    throws or overlaps another download. -/
theorem overlayMatches_iff (sdk : BakkesMod) (bringWindowToFront : Bool)
    (start : Path → Option Body) {as : List PluginEvent}
    (hl : (pluginMachine sdk).Legal (.loaded bringWindowToFront start) as) :
    (pluginMachine sdk).Throughout OverlayMatches (.loaded bringWindowToFront start) as ↔
      (pluginMachine sdk).Along (StartsAlone sdk) (.loaded bringWindowToFront start) as := by
  have hloaded : SoleDownload (.loaded bringWindowToFront start) :=
    ⟨by simp [OverlayMatches, PluginState.loaded], Nat.zero_le 1⟩
  apply Machine.throughout_iff_along (I := SoleDownload) _ _ _ hloaded hl
  · exact fun s h => h.matching
  · exact fun s e h he hok => h.next he hok
  · exact fun s e h _ hbad => not_overlayMatches_next h.matching hbad

theorem overlayMatches_one_after_the_other :
    (pluginMachine .simple).Throughout OverlayMatches (.loaded true fun _ => none)
      [.request "ab".toList "token".toList noThrow, .completion 0 404 noThrow,
        .request "cd".toList "token".toList noThrow, .completion 0 200 noThrow] :=
  (overlayMatches_iff .simple true (fun _ => none) (by decide)).mpr (by decide)

/-- Two overlapping downloads register two drawables. -/
theorem overlay_doubled :
    let run := [.request "ab".toList "token".toList noThrow,
      .request "cd".toList "token".toList noThrow]
    (pluginMachine .simple).Legal (.loaded true fun _ => none) run ∧
      ¬ OverlayMatches ((pluginMachine .simple).exec (.loaded true fun _ => none) run) :=
  ⟨by decide, by unfold OverlayMatches; decide⟩

/-! ## The Progress Shown -/

/-- The progress has a value in `[0, 1]`, and everything drawn is within its bounds. -/
structure ProgressShown (s : PluginState) : Prop where
  progress : InUnit s.downloadProgress
  frames : ∀ frame ∈ s.canvas, frame.2.WithinBounds frame.1

/-- No report says that nothing is known and nothing received. -/
def Reports (_ : PluginState) : PluginEvent → Prop
  | .progress _ report => ¬ (report.max = 0 ∧ report.current = 0)
  | _ => True

section Progress

variable {sdk : BakkesMod} {s : PluginState}

theorem inUnit_zero : InUnit (some 0) := ⟨0, rfl, le_rfl, zero_le_one⟩

/-- **Step lemma**: the progress shown stays within its bounds. -/
theorem ProgressShown.next (h : ProgressShown s) {e : PluginEvent} (he : s.enabled e)
    (hok : Reports s e) : ProgressShown (s.next sdk e) := by
  cases e with
  | request replayId token throws =>
    rw [next_request]
    cases s.outcome sdk replayId throws with
    | testThrew => exact ⟨h.progress, h.frames⟩
    | cached => exact ⟨h.progress, h.frames⟩
    | startThrew => dsimp only; split <;> exact ⟨inUnit_zero, h.frames⟩
    | started => exact ⟨inUnit_zero, h.frames⟩
  | chunk i bytes =>
    obtain ⟨l₁, d, l₂, -, -, hnext⟩ := next_chunk sdk s he bytes
    rw [hnext]
    exact ⟨h.progress, h.frames⟩
  | progress i report =>
    exact ⟨(progressFunction_inUnit_iff report h.progress).mpr hok, h.frames⟩
  | completion i code throws =>
    obtain ⟨l₁, d, l₂, -, -, hnext⟩ := next_completion sdk s he code throws
    rw [hnext]
    dsimp only
    split <;> exact ⟨h.progress, h.frames⟩
  | runTask k =>
    obtain ⟨t₁, path, t₂, -, -, hnext⟩ := next_runTask sdk s he
    rw [hnext]
    exact ⟨h.progress, h.frames⟩
  | frame size =>
    refine ⟨h.progress, List.forall_mem_append.mpr ⟨h.frames, ?_⟩⟩
    intro frame hframe
    obtain ⟨bar, hbar, rfl⟩ := List.mem_map.mp hframe
    exact drawDownloadProgress_bounds h.progress size bar (Option.mem_toList.mp hbar)

end Progress

/-- **The progress stays in `[0, 1]`, and every frame within its bounds**, iff no report of
    the run is `(0, 0)`. -/
theorem progressShown_iff (sdk : BakkesMod) (bringWindowToFront : Bool)
    (start : Path → Option Body) {as : List PluginEvent}
    (hl : (pluginMachine sdk).Legal (.loaded bringWindowToFront start) as) :
    (pluginMachine sdk).Throughout ProgressShown (.loaded bringWindowToFront start) as ↔
      (pluginMachine sdk).Along Reports (.loaded bringWindowToFront start) as := by
  have hloaded : ProgressShown (.loaded bringWindowToFront start) :=
    ⟨inUnit_zero, by simp [PluginState.loaded]⟩
  apply Machine.throughout_iff_along (I := ProgressShown) _ _ _ hloaded hl
  · exact fun s h => h
  · exact fun s e h he hok => h.next he hok
  · intro s e h _ hbad hnext
    cases e with
    | progress i report =>
      exact hbad ((progressFunction_inUnit_iff report h.progress).mp hnext.progress)
    | _ => exact hbad trivial

/-- A report without a size, then one of half the download, each followed by a frame. -/
theorem progressShown_unknown_then_half :
    (pluginMachine .simple).Throughout ProgressShown (.loaded true fun _ => none)
      [.request "ab".toList "token".toList noThrow, .progress 0 .firstByte, .frame .sample,
        .progress 0 .half, .frame .sample] :=
  (progressShown_iff .simple true (fun _ => none) (by decide)).mpr
    ⟨trivial, by simp [Reports, CurlProgress.firstByte], trivial,
      by simp [Reports, CurlProgress.half], trivial, trivial⟩

/-- The report libcurl makes before the first byte divides by zero. -/
theorem progress_undefined :
    let run := [.request "ab".toList "token".toList noThrow, .progress 0 .unknown]
    (pluginMachine .simple).Legal (.loaded true fun _ => none) run ∧
      ((pluginMachine .simple).exec (.loaded true fun _ => none) run).downloadProgress = none ∧
      ¬ (pluginMachine .simple).Throughout ProgressShown (.loaded true fun _ => none) run := by
  have hnone : ((pluginMachine .simple).exec (.loaded true fun _ => none)
      [.request "ab".toList "token".toList noThrow, .progress 0 .unknown]).downloadProgress =
      none := by
    show progressFunction .unknown (some 0) = none
    exact progressFunction_zero_zero rfl rfl _
  refine ⟨by decide, hnone, ?_⟩
  intro h
  obtain ⟨p, hp, -⟩ := h.2.2.progress
  cases hnone.symm.trans hp

end BallchasingReplayPlayer
