import Mathlib.Tactic.FieldSimp
import BallchasingReplayPlayer.Plugin.Download

/-!
# The Frames of a Run

A frame shows one progress three times: as the width of the filled part, as a number and as a
colour. Whatever the reports of the downloads are, the three agree. All of it is over exact
rationals, like the progress itself: rounding of the code's floats is not modelled.

## Layers

1. `abs_shown_sub_le`, `below_drawProgressBar` — one frame, and two of them
2. `FramesDrawn` — every frame is `DrawProgressBar` of one progress

## Main Result

- `frames_agree`: the text of every frame, and any two frames next to each other
-/

namespace BallchasingReplayPlayer

open FixedPoint LexicalPath Transition

/-! ## One Frame -/

/-- The text is at most half a tenth of a percent away from the filled part. -/
theorem abs_shown_sub_le (size : TextureSize) (hwidth : 0 < size.width) {p : ℚ} (h : 0 ≤ p) :
    |((tenths (p * 100)).natAbs : ℚ) / 10 -
      (drawProgressBar size p).filled.width / size.width * 100| ≤ 1 / 20 := by
  have hfilled : (drawProgressBar size p).filled.width / size.width * 100 = p * 100 := by
    unfold drawProgressBar
    dsimp only
    field_simp
  have hnonneg : 0 ≤ tenths (p * 100) := tenths_nonneg (mul_nonneg h (by norm_num))
  have hshown : ((tenths (p * 100)).natAbs : ℚ) = tenths (p * 100) := by
    rw [Nat.cast_natAbs, abs_of_nonneg hnonneg]
  rw [hfilled, hshown]
  exact abs_tenths_sub_le (p * 100)

/-- A greater progress is no redder and no less green. -/
theorem getPercentageColor_mono {p q : ℚ} (h : p ≤ q) (alpha : ℚ) :
    (getPercentageColor q alpha).R ≤ (getPercentageColor p alpha).R ∧
      (getPercentageColor p alpha).G ≤ (getPercentageColor q alpha).G := by
  unfold getPercentageColor
  split_ifs with hq hp hp
  · constructor <;> dsimp only <;> linarith
  · exact absurd (h.trans hq) hp
  · constructor <;> dsimp only <;> linarith
  · constructor <;> dsimp only <;> linarith

/-- Of two bars, the one that is filled further shows no smaller number and no redder colour. -/
structure ProgressBar.Below (bar bar' : ProgressBar) : Prop where
  text : ∃ shown shown', readPercentage bar.progressText = some shown ∧
    readPercentage bar'.progressText = some shown' ∧ shown ≤ shown'
  red : bar'.filled.color.R ≤ bar.filled.color.R
  green : bar.filled.color.G ≤ bar'.filled.color.G
  background : bar.background.color = bar.filled.color ∧ bar'.background.color = bar'.filled.color

theorem below_drawProgressBar (size : TextureSize) {p q : ℚ} (hp : 0 ≤ p) (h : p ≤ q) :
    (drawProgressBar size p).Below (drawProgressBar size q) := by
  have hcolor := getPercentageColor_mono h 1
  have hmono : tenths (p * 100) ≤ tenths (q * 100) := tenths_mono (by linarith)
  have hnonneg : 0 ≤ tenths (p * 100) := tenths_nonneg (by linarith)
  have hshown : (tenths (p * 100)).natAbs ≤ (tenths (q * 100)).natAbs := by omega
  refine ⟨⟨_, _, readPercentage_drawProgressBar size hp,
    readPercentage_drawProgressBar size (hp.trans h), hshown⟩, ?_, ?_, rfl, rfl⟩
  · exact div_le_div_of_nonneg_right hcolor.1 (by norm_num)
  · exact div_le_div_of_nonneg_right hcolor.2 (by norm_num)

/-! ## Runs -/

/-- Every frame has been drawn from one progress above zero. -/
def FramesDrawn (s : PluginState) : Prop :=
  ∀ size bar, (size, bar) ∈ s.canvas → ∃ p, 0 < p ∧ bar = drawProgressBar size p

/-- Only a drawable draws. -/
theorem canvas_next (sdk : BakkesMod) {s : PluginState} {e : PluginEvent} (he : s.enabled e) :
    (s.next sdk e).canvas = s.canvas ∨
      ∃ size p, 0 < p ∧
        (s.next sdk e).canvas = s.canvas ++ [(size, drawProgressBar size p)] := by
  cases e with
  | request replayId token throws =>
    refine Or.inl ?_
    rw [next_request]
    cases s.outcome sdk replayId throws with
    | startThrew => dsimp only; split <;> rfl
    | _ => rfl
  | chunk i bytes =>
    obtain ⟨l₁, d, l₂, -, -, hnext⟩ := next_chunk sdk s he bytes
    rw [hnext]
    exact Or.inl rfl
  | progress i report => exact Or.inl rfl
  | completion i code throws =>
    obtain ⟨l₁, d, l₂, -, -, hnext⟩ := next_completion sdk s he code throws
    rw [hnext]
    refine Or.inl ?_
    dsimp only
    split
    · rfl
    · rfl
  | runTask k =>
    obtain ⟨t₁, path, t₂, -, -, hnext⟩ := next_runTask sdk s he
    rw [hnext]
    exact Or.inl rfl
  | frame size =>
    simp only [PluginState.next, PluginState.frame, drawDownloadProgress]
    cases s.downloadProgress with
    | none => exact Or.inl (List.append_nil _)
    | some p =>
      by_cases hshown : 0 < p ∧ p < 100
      · exact Or.inr ⟨size, p, hshown.1, by simp [hshown]⟩
      · exact Or.inl (by simp [hshown])

/-- **Step lemma**: every frame is drawn from one progress. -/
theorem FramesDrawn.next {sdk : BakkesMod} {s : PluginState} (h : FramesDrawn s)
    {e : PluginEvent} (he : s.enabled e) : FramesDrawn (s.next sdk e) := by
  intro size bar hframe
  rcases canvas_next sdk he with hsame | ⟨size', p, hp, hdrawn⟩
  · rw [hsame] at hframe
    exact h size bar hframe
  · rw [hdrawn, List.mem_append, List.mem_singleton] at hframe
    rcases hframe with hold | hnew
    · exact h size bar hold
    · cases hnew
      exact ⟨p, hp, rfl⟩

/-- **Bar, text and colour agree** in every frame of every run, over exact rationals: the text is
    read as the share of the bar that is filled, to half a tenth of a percent; and of two frames,
    the one filled further shows no smaller number and no redder colour. -/
theorem frames_agree (sdk : BakkesMod) (bringWindowToFront : Bool) (start : Path → Option Body)
    {as : List PluginEvent}
    (hl : (pluginMachine sdk).Legal (.loaded bringWindowToFront start) as) :
    let s := (pluginMachine sdk).exec (.loaded bringWindowToFront start) as
    (∀ size bar, (size, bar) ∈ s.canvas → 0 < size.width →
      ∃ shown, readPercentage bar.progressText = some shown ∧
        |(shown : ℚ) / 10 - bar.filled.width / size.width * 100| ≤ 1 / 20) ∧
    ∀ size bar bar', (size, bar) ∈ s.canvas → (size, bar') ∈ s.canvas → 0 < size.width →
      bar.filled.width ≤ bar'.filled.width → bar.Below bar' := by
  intro s
  have hdrawn : FramesDrawn s :=
    Machine.exec_invariant (fun _ _ hs he => hs.next he)
      (fun _ _ hframe => absurd hframe List.not_mem_nil) hl
  constructor
  · intro size bar hbar hwidth
    obtain ⟨p, hp, rfl⟩ := hdrawn size bar hbar
    exact ⟨_, readPercentage_drawProgressBar size hp.le,
      abs_shown_sub_le size hwidth hp.le⟩
  · intro size bar bar' hbar hbar' hwidth hle
    obtain ⟨p, hp, rfl⟩ := hdrawn size bar hbar
    obtain ⟨q, -, rfl⟩ := hdrawn size bar' hbar'
    exact below_drawProgressBar size hp.le (le_of_mul_le_mul_left hle hwidth)

/-- The size is unknown at first; then half of the download is there. -/
theorem frames_agree_unknown_then_half :
    let run := [.request "ab".toList "token".toList noThrow, .progress 0 .firstByte,
      .frame .sample, .progress 0 .half, .frame .sample]
    let s := (pluginMachine .simple).exec (.loaded true fun _ => none) run
    (∀ size bar, (size, bar) ∈ s.canvas → 0 < size.width →
      ∃ shown, readPercentage bar.progressText = some shown ∧
        |(shown : ℚ) / 10 - bar.filled.width / size.width * 100| ≤ 1 / 20) ∧
    ∀ size bar bar', (size, bar) ∈ s.canvas → (size, bar') ∈ s.canvas → 0 < size.width →
      bar.filled.width ≤ bar'.filled.width → bar.Below bar' :=
  frames_agree .simple true (fun _ => none) (by decide)

end BallchasingReplayPlayer
