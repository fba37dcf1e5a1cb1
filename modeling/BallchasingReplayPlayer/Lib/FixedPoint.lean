import Mathlib.Data.Rat.Floor
import Mathlib.Tactic.Linarith

/-!
# Fixed-Point Text

Decimal rendering with one digit behind the point, as `{:.1f}` prints an exact value:
round to the nearest tenth, ties to the even tenth, then write the tenths out.

## Rules

- `le_roundHalfEven`, `roundHalfEven_le`, `roundHalfEven_mono`: rounding keeps the order
- `abs_tenths_sub_le`: how far the value shown is away
- `readTenths_fixed1`: the text is read as the value shown
-/

namespace FixedPoint

/-- The nearest integer, ties to the even one. -/
def roundHalfEven (q : ℚ) : ℤ :=
  if q - ⌊q⌋ < 1 / 2 then ⌊q⌋
  else if 1 / 2 < q - ⌊q⌋ then ⌊q⌋ + 1
  else if ⌊q⌋ % 2 = 0 then ⌊q⌋ else ⌊q⌋ + 1

/-- An integer below the value is below the rounded value. -/
theorem le_roundHalfEven {n : ℤ} {q : ℚ} (h : (n : ℚ) ≤ q) : n ≤ roundHalfEven q := by
  have hfloor : n ≤ ⌊q⌋ := Int.le_floor.mpr h
  unfold roundHalfEven
  split_ifs <;> omega

/-- An integer above the value is above the rounded value. -/
theorem roundHalfEven_le {n : ℤ} {q : ℚ} (h : q ≤ (n : ℚ)) : roundHalfEven q ≤ n := by
  have hlow : (⌊q⌋ : ℚ) ≤ q := Int.floor_le q
  have hfloor : ⌊q⌋ ≤ n := by exact_mod_cast hlow.trans h
  -- rounding up only happens strictly above the floor, hence strictly below `n`
  have hup : ¬ q - ⌊q⌋ < 1 / 2 → ⌊q⌋ + 1 ≤ n := by
    intro hfrac
    have hlt : (⌊q⌋ : ℚ) < n := by linarith
    exact_mod_cast hlt
  unfold roundHalfEven
  split_ifs with h1 <;> first | exact hfloor | exact hup h1

/-- The tenths `{:.1f}` shows. -/
def tenths (q : ℚ) : ℤ := roundHalfEven (q * 10)

/-- `{:.1f}`. -/
def fixed1 (q : ℚ) : List Char :=
  (if q < 0 then ['-'] else []) ++ Nat.toDigits 10 ((tenths q).natAbs / 10) ++ '.' ::
    Nat.toDigits 10 ((tenths q).natAbs % 10)

/-- The value shown lies between integers the value lies between. -/
theorem tenths_mem {lo hi : ℤ} {q : ℚ} (hlo : (lo : ℚ) ≤ q) (hhi : q ≤ (hi : ℚ)) :
    lo * 10 ≤ tenths q ∧ tenths q ≤ hi * 10 := by
  constructor
  · apply le_roundHalfEven
    push_cast
    linarith
  · apply roundHalfEven_le
    push_cast
    linarith

/-! ## Accuracy -/

/-- The rounded value is at most one half away. -/
theorem abs_roundHalfEven_sub_le (q : ℚ) : |(roundHalfEven q : ℚ) - q| ≤ 1 / 2 := by
  have hlow : (⌊q⌋ : ℚ) ≤ q := Int.floor_le q
  have hhigh : q < ⌊q⌋ + 1 := Int.lt_floor_add_one q
  rw [abs_le]
  unfold roundHalfEven
  split_ifs with hdown hup
  · constructor <;> linarith
  · push_cast
    constructor <;> linarith
  -- a tie
  · constructor <;> linarith
  · push_cast
    constructor <;> linarith

/-- A greater value is not rounded to a smaller one. -/
theorem roundHalfEven_mono {p q : ℚ} (h : p ≤ q) : roundHalfEven p ≤ roundHalfEven q := by
  by_contra hless
  have hgap : roundHalfEven q + 1 ≤ roundHalfEven p := by omega
  have hgap' : (roundHalfEven q : ℚ) + 1 ≤ roundHalfEven p := by exact_mod_cast hgap
  have hp := (abs_le.mp (abs_roundHalfEven_sub_le p)).2
  have hq := (abs_le.mp (abs_roundHalfEven_sub_le q)).1
  -- the two can only be a whole apart if both are one half away from the same value
  have heq : p = q := by linarith
  rw [heq] at hgap
  omega

theorem tenths_mono {p q : ℚ} (h : p ≤ q) : tenths p ≤ tenths q :=
  roundHalfEven_mono (by linarith)

theorem tenths_nonneg {q : ℚ} (h : 0 ≤ q) : 0 ≤ tenths q :=
  le_roundHalfEven (by push_cast; linarith)

/-- The value shown is at most half a tenth away. -/
theorem abs_tenths_sub_le (q : ℚ) : |(tenths q : ℚ) / 10 - q| ≤ 1 / 20 := by
  have hround := abs_le.mp (abs_roundHalfEven_sub_le (q * 10))
  unfold tenths
  rw [abs_le]
  constructor <;> linarith [hround.1, hround.2]

/-! ## Reading -/

/-- The tenths that a text of digits with one digit behind the point stands for. -/
def readTenths (text : List Char) : Option ℕ :=
  match text.takeWhile Char.isDigit, text.dropWhile Char.isDigit with
  | [], _ => none
  | whole, ['.', tenth] =>
    if tenth.isDigit then some (Nat.ofDigitChars 10 (whole ++ [tenth]) 0) else none
  | _, _ => none

/-- **Round trip**: what `{:.1f}` prints is read as the tenths it shows. -/
theorem readTenths_fixed1 {q : ℚ} (h : 0 ≤ q) :
    readTenths (fixed1 q) = some (tenths q).natAbs := by
  unfold fixed1
  rw [if_neg (not_lt.mpr h), List.nil_append]
  generalize (tenths q).natAbs = n
  have hrest : n % 10 < 10 := Nat.mod_lt n (by omega)
  have hdigits : ∀ c ∈ Nat.toDigits 10 (n / 10), c.isDigit = true :=
    fun c hc => Nat.isDigit_of_mem_toDigits (by omega) le_rfl hc
  have htenth : (Nat.digitChar (n % 10)).isDigit = true := by
    apply Nat.isDigit_of_mem_toDigits (n := n % 10) (b := 10) (by omega) le_rfl
    simp [Nat.toDigits_of_lt_base hrest]
  have hvalue :
      Nat.ofDigitChars 10 (Nat.toDigits 10 (n / 10) ++ [Nat.digitChar (n % 10)]) 0 = n := by
    rw [Nat.ofDigitChars_append, Nat.ofDigitChars_toDigits (by omega) le_rfl,
      Nat.ofDigitChars_cons_digitChar_of_lt_ten hrest, Nat.ofDigitChars_nil]
    omega
  unfold readTenths
  rw [Nat.toDigits_of_lt_base hrest, List.takeWhile_append_of_pos hdigits,
    List.dropWhile_append_of_pos hdigits]
  -- the point is no digit, and in front of it there is at least one
  cases hwhole : Nat.toDigits 10 (n / 10) with
  | nil => exact absurd hwhole Nat.toDigits_ne_nil
  | cons c cs =>
    rw [hwhole, List.cons_append] at hvalue
    simp [htenth, hvalue]

end FixedPoint
