import Mathlib.Tactic.Ring
import Mathlib.Data.Nat.ModEq

/-!
# Numbers as Bytes

A number is written with its most significant byte first, in as many bytes as there is room for.
What does not fit is cut off, as a conversion to a machine word does it.

## Main Results

- `read_write`: reading what was written gives the number, up to what was cut off
- `write_read`: writing what was read gives the bytes
- `write_drop`: the last bytes of a word are the shorter word
-/

namespace BigEndian

/-- The last `k` bytes of a number. -/
def write : ℕ → ℕ → List UInt8
  | 0, _ => []
  | k + 1, n => UInt8.ofNat (n / 256 ^ k) :: write k n

/-- The number bytes stand for. -/
def read (bytes : List UInt8) : ℕ := bytes.foldl (fun n byte => n * 256 + byte.toNat) 0

@[simp] theorem length_write (k n : ℕ) : (write k n).length = k := by
  induction k with
  | zero => rfl
  | succ k ih => simp [write, ih]

theorem foldl_write (k n m : ℕ) :
    (write k n).foldl (fun n byte => n * 256 + byte.toNat) m = m * 256 ^ k + n % 256 ^ k := by
  induction k generalizing m with
  | zero => simp [write, Nat.mod_one]
  | succ k ih =>
    have hbyte : (UInt8.ofNat (n / 256 ^ k)).toNat = n / 256 ^ k % 256 := UInt8.toNat_ofNat'
    have hmod : n % 256 ^ (k + 1) = n % 256 ^ k + 256 ^ k * (n / 256 ^ k % 256) := by
      rw [pow_succ]
      exact Nat.mod_mul
    unfold write
    rw [List.foldl_cons, ih, hbyte, hmod, pow_succ]
    ring

/-- **Round trip**: what was cut off is missing, and nothing else. -/
theorem read_write (k n : ℕ) : read (write k n) = n % 256 ^ k := by
  unfold read
  rw [foldl_write, Nat.zero_mul, Nat.zero_add]

theorem write_drop (j k n : ℕ) : (write (j + k) n).drop j = write k n := by
  induction j with
  | zero => rw [Nat.zero_add, List.drop_zero]
  | succ j ih =>
    rw [Nat.add_right_comm]
    exact ih

theorem foldl_read (bytes : List UInt8) (m : ℕ) :
    bytes.foldl (fun n byte => n * 256 + byte.toNat) m = m * 256 ^ bytes.length + read bytes := by
  induction bytes generalizing m with
  | nil => simp [read]
  | cons byte bytes ih =>
    unfold read
    rw [List.foldl_cons, List.foldl_cons, ih, ih (0 * 256 + byte.toNat), List.length_cons, pow_succ]
    ring

theorem read_cons (byte : UInt8) (bytes : List UInt8) :
    read (byte :: bytes) = byte.toNat * 256 ^ bytes.length + read bytes := by
  have hfoldl := foldl_read bytes (0 * 256 + byte.toNat)
  unfold read at hfoldl ⊢
  rw [List.foldl_cons, hfoldl, Nat.zero_mul, Nat.zero_add]

theorem read_lt (bytes : List UInt8) : read bytes < 256 ^ bytes.length := by
  induction bytes with
  | nil => simp [read]
  | cons byte bytes ih =>
    have hbyte := byte.toNat_lt
    rw [read_cons, List.length_cons]
    calc
      _ < byte.toNat * 256 ^ bytes.length + 256 ^ bytes.length := by omega
      _ = (byte.toNat + 1) * 256 ^ bytes.length := by ring
      _ ≤ 256 * 256 ^ bytes.length := Nat.mul_le_mul_right _ (by omega)
      _ = 256 ^ (bytes.length + 1) := by rw [pow_succ, Nat.mul_comm]

/-- What is above the bytes that are written does not count. -/
theorem write_mul_add (k m n : ℕ) : write k (m * 256 ^ k + n) = write k n := by
  induction k generalizing m with
  | zero => rfl
  | succ k ih =>
    have hshift : m * 256 ^ (k + 1) + n = m * 256 * 256 ^ k + n := by
      rw [pow_succ]
      ring
    have hdiv : (m * 256 * 256 ^ k + n) / 256 ^ k = m * 256 + n / 256 ^ k := by
      rw [Nat.mul_comm (m * 256), Nat.mul_add_div (Nat.pow_pos (by decide : 0 < 256))]
    unfold write
    rw [hshift, ih, hdiv]
    congr 1
    apply UInt8.toNat.inj
    rw [UInt8.toNat_ofNat', UInt8.toNat_ofNat']
    omega

/-- **Round trip**: bytes are those of the number they stand for. -/
theorem write_read (bytes : List UInt8) : write bytes.length (read bytes) = bytes := by
  induction bytes with
  | nil => rfl
  | cons byte bytes ih =>
    have hlt := read_lt bytes
    have hdiv : (byte.toNat * 256 ^ bytes.length + read bytes) / 256 ^ bytes.length =
        byte.toNat := by
      rw [Nat.add_comm, Nat.add_mul_div_right _ _ (Nat.pow_pos (by decide)),
        Nat.div_eq_of_lt hlt, Nat.zero_add]
    rw [List.length_cons, read_cons]
    unfold write
    rw [hdiv, write_mul_add, ih, UInt8.ofNat_toNat]

end BigEndian
