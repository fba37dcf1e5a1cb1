import Mathlib.Tactic.Positivity
import BallchasingReplayPlayer.Lib.FixedPoint

/-!
# Download Progress and the Progress Bar

The `download_progress` accumulator and what is drawn from it, over exact rationals. A
division by zero has no value: `none` is a progress that is not a number, and every
comparison with it is false.

## Source

- `progress_function` of `DownloadAndPlayReplay` ↔ `progressFunction`
- `DrawDownloadProgress`, `DrawProgressBar` ↔ `drawDownloadProgress`, `drawProgressBar`
- `GetPercentageColor` ↔ `getPercentageColor`

The positions the bar is drawn at go through the vector operators of the SDK and are left
out; sizes, texture coordinates, colours and the text are kept.

## Main Results

- `progressFunction_inUnit_iff`: a progress in `[0, 1]` stays there exactly when the report
  is not `(0, 0)`
- `drawDownloadProgress_bounds`: what a progress in `[0, 1]` draws is within its bounds
-/

namespace BallchasingReplayPlayer

open FixedPoint

/-! ## The Accumulator -/

/-- What libcurl reports: the size of the download, 0 while it is not known, and the bytes
    received so far. -/
structure CurlProgress where
  max : ℚ
  current : ℚ
  max_nonneg : 0 ≤ max
  current_nonneg : 0 ≤ current
  current_le_max : 0 < max → current ≤ max

/-- Nothing received and no size known yet. -/
def CurlProgress.unknown : CurlProgress := ⟨0, 0, le_rfl, le_rfl, fun _ => le_rfl⟩

/-- The first byte of a download whose size is not known. -/
def CurlProgress.firstByte : CurlProgress :=
  ⟨0, 1, le_rfl, zero_le_one, fun h => absurd h (lt_irrefl 0)⟩

/-- One byte of two. -/
def CurlProgress.half : CurlProgress := ⟨2, 1, zero_le_two, zero_le_one, fun _ => one_le_two⟩

/-- Division, undefined for a divisor of zero. -/
def divide (a b : ℚ) : Option ℚ := if b = 0 then none else some (a / b)

/-- `progress_function`: steps of 5% that wrap around while the size is unknown, the ratio
    once it is known. -/
def progressFunction (report : CurlProgress) (downloadProgress : Option ℚ) : Option ℚ :=
  if report.max = 0 ∧ report.current ≠ 0 then
    let stepped := downloadProgress.map (· + 1 / 20)
    if stepped.any (fun p => 1 < p) then some 0 else stepped
  else divide report.current report.max

/-- The progress has a value, and it lies in `[0, 1]`. -/
def InUnit (progress : Option ℚ) : Prop := ∃ p, progress = some p ∧ 0 ≤ p ∧ p ≤ 1

/-- The report `(0, 0)` takes the branch that divides by `max`. -/
theorem progressFunction_zero_zero {report : CurlProgress} (hmax : report.max = 0)
    (hcur : report.current = 0) (progress : Option ℚ) :
    progressFunction report progress = none := by
  simp [progressFunction, divide, hmax, hcur]

/-- While the size is unknown, a progress with a value moves one step or wraps around. -/
theorem progressFunction_step {report : CurlProgress} (hmax : report.max = 0)
    (hcur : report.current ≠ 0) (p : ℚ) :
    progressFunction report (some p) =
      if 1 < p + 1 / 20 then some 0 else some (p + 1 / 20) := by
  rw [progressFunction, if_pos ⟨hmax, hcur⟩]
  simp only [Option.map_some, Option.any_some, decide_eq_true_eq]

theorem progressFunction_step_inUnit {report : CurlProgress} (hmax : report.max = 0)
    (hcur : report.current ≠ 0) {progress : Option ℚ} (h : InUnit progress) :
    InUnit (progressFunction report progress) := by
  obtain ⟨p, rfl, hp0, hp1⟩ := h
  rw [progressFunction_step hmax hcur]
  split_ifs with hwrap
  · exact ⟨0, rfl, le_rfl, zero_le_one⟩
  · exact ⟨p + 1 / 20, rfl, by linarith, not_lt.mp hwrap⟩

theorem progressFunction_ratio_inUnit {report : CurlProgress} (hmax : report.max ≠ 0)
    (progress : Option ℚ) : InUnit (progressFunction report progress) := by
  have hpos : 0 < report.max := lt_of_le_of_ne report.max_nonneg (Ne.symm hmax)
  refine ⟨report.current / report.max, by simp [progressFunction, divide, hmax], ?_, ?_⟩
  · exact div_nonneg report.current_nonneg report.max_nonneg
  · rw [div_le_one hpos]
    exact report.current_le_max hpos

/-- **Step lemma**: from a progress in `[0, 1]`, a report gives a progress in `[0, 1]`
    exactly when it is not `(0, 0)`. -/
theorem progressFunction_inUnit_iff (report : CurlProgress) {progress : Option ℚ}
    (h : InUnit progress) :
    InUnit (progressFunction report progress) ↔ ¬ (report.max = 0 ∧ report.current = 0) := by
  constructor
  · rintro ⟨p, hp, -⟩ ⟨hmax, hcur⟩
    rw [progressFunction_zero_zero hmax hcur] at hp
    cases hp
  · intro hreport
    by_cases hmax : report.max = 0
    · exact progressFunction_step_inUnit hmax (fun hcur => hreport ⟨hmax, hcur⟩) h
    · exact progressFunction_ratio_inUnit hmax progress

/-! ## Colour -/

/-- `LinearColor`. -/
structure LinearColor where
  R : ℚ
  G : ℚ
  B : ℚ
  A : ℚ
deriving DecidableEq

/-- `GetPercentageColor`: red to yellow up to one half, yellow to green above. -/
def getPercentageColor (percent alpha : ℚ) : LinearColor :=
  if percent ≤ 1 / 2 then
    { R := 255, G := 0 + 255 * (percent * 2), B := 0, A := 255 * alpha }
  else
    { R := 255 - 255 * ((percent - 1 / 2) * 2), G := 255, B := 0, A := 255 * alpha }

/-- `operator/` of `LinearColor`. -/
def LinearColor.div (c : LinearColor) (d : ℚ) : LinearColor :=
  { R := c.R / d, G := c.G / d, B := c.B / d, A := c.A / d }

/-- Red and green of a colour lie in `[0, 1]`. -/
def LinearColor.RedGreenInUnit (c : LinearColor) : Prop :=
  (0 ≤ c.R ∧ c.R ≤ 1) ∧ (0 ≤ c.G ∧ c.G ≤ 1)

theorem getPercentageColor_div_inUnit {percent : ℚ} (h0 : 0 ≤ percent) (h1 : percent ≤ 1)
    (alpha : ℚ) : ((getPercentageColor percent alpha).div 255).RedGreenInUnit := by
  unfold getPercentageColor
  split_ifs with hhalf
  · refine ⟨⟨?_, ?_⟩, ?_, ?_⟩ <;> simp only [LinearColor.div] <;> linarith
  · refine ⟨⟨?_, ?_⟩, ?_, ?_⟩ <;> simp only [LinearColor.div] <;> linarith

/-! ## Drawing -/

/-- One `canvas.DrawTile` of the progress texture: the size on the canvas, the part of the
    texture it shows, its colour and blend mode. -/
structure Tile where
  width : ℚ
  height : ℚ
  u : ℚ
  v : ℚ
  uWidth : ℚ
  vHeight : ℚ
  color : LinearColor
  clip : Bool
  blendMode : ℕ
deriving DecidableEq

/-- `BlendMode::Masked`. -/
def blendModeMasked : ℕ := 1

/-- The size of the progress texture. -/
structure TextureSize where
  width : ℚ
  height : ℚ
  width_nonneg : 0 ≤ width
  height_nonneg : 0 ≤ height

/-- A texture of 200 by 40. -/
def TextureSize.sample : TextureSize := ⟨200, 40, by norm_num, by norm_num⟩

/-- What `DrawProgressBar` puts on the canvas: the empty bar, the filled part and the text. -/
structure ProgressBar where
  background : Tile
  filled : Tile
  progressText : List Char

/-- `DrawProgressBar`. -/
def drawProgressBar (size : TextureSize) (percentFactor : ℚ) : ProgressBar :=
  let col := (getPercentageColor percentFactor 1).div 255
  let width := size.width
  let height := size.height
  let halfHeight := height / 2
  let progressWidth := width * percentFactor
  { background := ⟨width, height / 2, 0, halfHeight, width, halfHeight, col, false,
      blendModeMasked⟩
    filled := ⟨progressWidth, halfHeight, 0, 0, progressWidth, halfHeight, col, false,
      blendModeMasked⟩
    progressText := fixed1 (percentFactor * 100) ++ ['%'] }

/-- `DrawDownloadProgress`: nothing is drawn for a progress of 0, of 100 and more, or
    without a value. -/
def drawDownloadProgress (size : TextureSize) (downloadProgress : Option ℚ) :
    Option ProgressBar :=
  match downloadProgress with
  | some p => if 0 < p ∧ p < 100 then some (drawProgressBar size p) else none
  | none => none

/-- The tenths of a percent that a text such as `12.5%` stands for. A text with a sign stands for
    none. -/
def readPercentage (text : List Char) : Option ℕ :=
  if text.getLast? = some '%' then readTenths text.dropLast else none

/-- The text on the canvas is read as the tenths that are printed. -/
theorem readPercentage_drawProgressBar (size : TextureSize) {p : ℚ} (h : 0 ≤ p) :
    readPercentage (drawProgressBar size p).progressText = some (tenths (p * 100)).natAbs := by
  unfold readPercentage drawProgressBar
  dsimp only
  rw [List.getLast?_concat, if_pos rfl, List.dropLast_concat]
  exact readTenths_fixed1 (mul_nonneg h (by norm_num))

/-- The filled part is no wider than the bar, the text is read as 0% to 100%, and the colours of
    both tiles are colours. -/
structure ProgressBar.WithinBounds (bar : ProgressBar) (size : TextureSize) : Prop where
  filled_nonneg : 0 ≤ bar.filled.width
  filled_le : bar.filled.width ≤ size.width
  text : ∃ shown, readPercentage bar.progressText = some shown ∧ shown ≤ 1000
  background_color : bar.background.color.RedGreenInUnit
  filled_color : bar.filled.color.RedGreenInUnit

theorem drawProgressBar_withinBounds (size : TextureSize) {p : ℚ} (h0 : 0 ≤ p) (h1 : p ≤ 1) :
    (drawProgressBar size p).WithinBounds size := by
  have hcolor := getPercentageColor_div_inUnit h0 h1 1
  have htext : 0 * 10 ≤ tenths (p * 100) ∧ tenths (p * 100) ≤ 100 * 10 :=
    tenths_mem (by push_cast; linarith) (by push_cast; linarith)
  have hshown : (tenths (p * 100)).natAbs ≤ 1000 := by omega
  exact
    { filled_nonneg := mul_nonneg size.width_nonneg h0
      filled_le := mul_le_of_le_one_right size.width_nonneg h1
      text := ⟨_, readPercentage_drawProgressBar size h0, hshown⟩
      background_color := hcolor
      filled_color := hcolor }

/-- Every frame drawn from a progress in `[0, 1]` is within its bounds. -/
theorem drawDownloadProgress_bounds {progress : Option ℚ} (h : InUnit progress)
    (size : TextureSize) :
    ∀ bar ∈ drawDownloadProgress size progress, bar.WithinBounds size := by
  obtain ⟨p, rfl, hp0, hp1⟩ := h
  intro bar hbar
  simp only [drawDownloadProgress, Option.mem_def, Option.ite_none_right_eq_some,
    Option.some.injEq] at hbar
  obtain ⟨-, rfl⟩ := hbar
  exact drawProgressBar_withinBounds size hp0 hp1

end BallchasingReplayPlayer
