import Mathlib.Data.List.Basic
import Mathlib.Data.Nat.Bits
import Mathlib.Tactic.Ring

/-!
# The UTF-8 Validator of websocketpp

`utf8_validator.hpp` reads a text message byte by byte with a table-driven automaton. The table is
tied to the encoding of characters here: what the validator accepts is exactly the UTF-8 encoding
of a list of characters, and what it has not refused can still become one.

## Main Results

- `decode_append`: the validator can be fed in pieces
- `validate_iff`: it accepts a text iff the text encodes a list of characters
- `decode_iff`: it refuses at the first byte behind which no text can be completed
-/

namespace BallchasingReplayPlayer

namespace Utf8Validator

/-! ## The Validator -/

/-- `utf8_accept`. -/
def utf8Accept : ℕ := 0

/-- `utf8_reject`. -/
def utf8Reject : ℕ := 1

/-- `utf8d`: the class of every byte, and behind them a row of sixteen for every state. -/
def utf8d : List ℕ := [
  0,0,0,0,0,0,0,0,0,0,0,0,0,0,0,0,0,0,0,0,0,0,0,0,0,0,0,0,0,0,0,0, -- 00..1f
  0,0,0,0,0,0,0,0,0,0,0,0,0,0,0,0,0,0,0,0,0,0,0,0,0,0,0,0,0,0,0,0, -- 20..3f
  0,0,0,0,0,0,0,0,0,0,0,0,0,0,0,0,0,0,0,0,0,0,0,0,0,0,0,0,0,0,0,0, -- 40..5f
  0,0,0,0,0,0,0,0,0,0,0,0,0,0,0,0,0,0,0,0,0,0,0,0,0,0,0,0,0,0,0,0, -- 60..7f
  1,1,1,1,1,1,1,1,1,1,1,1,1,1,1,1,9,9,9,9,9,9,9,9,9,9,9,9,9,9,9,9, -- 80..9f
  7,7,7,7,7,7,7,7,7,7,7,7,7,7,7,7,7,7,7,7,7,7,7,7,7,7,7,7,7,7,7,7, -- a0..bf
  8,8,2,2,2,2,2,2,2,2,2,2,2,2,2,2,2,2,2,2,2,2,2,2,2,2,2,2,2,2,2,2, -- c0..df
  0xa,0x3,0x3,0x3,0x3,0x3,0x3,0x3,0x3,0x3,0x3,0x3,0x3,0x4,0x3,0x3, -- e0..ef
  0xb,0x6,0x6,0x6,0x5,0x8,0x8,0x8,0x8,0x8,0x8,0x8,0x8,0x8,0x8,0x8, -- f0..ff
  0x0,0x1,0x2,0x3,0x5,0x8,0x7,0x1,0x1,0x1,0x4,0x6,0x1,0x1,0x1,0x1, -- s0..s0
  1,1,1,1,1,1,1,1,1,1,1,1,1,1,1,1,1,0,1,1,1,1,1,0,1,0,1,1,1,1,1,1, -- s1..s2
  1,2,1,1,1,1,1,2,1,2,1,1,1,1,1,1,1,1,1,1,1,1,1,2,1,1,1,1,1,1,1,1, -- s3..s4
  1,2,1,1,1,1,1,1,1,2,1,1,1,1,1,1,1,1,1,1,1,1,1,3,1,3,1,1,1,1,1,1, -- s5..s6
  1,3,1,1,1,1,1,3,1,3,1,1,1,1,1,1,1,3,1,1,1,1,1,1,1,1,1,1,1,1,1,1] -- s7..s8

/-- `validator`: the state of the automaton and the code point read so far. -/
structure Validator where
  state : ℕ
  codepoint : ℕ
deriving DecidableEq, Repr

/-- A validator as it is constructed. -/
def Validator.fresh : Validator := ⟨utf8Accept, 0⟩

/-- `type` of a byte. -/
def byteType (byte : UInt8) : ℕ := utf8d.getD byte.toNat 0

/-- The entry of a state for a type. -/
def row (state type : ℕ) : ℕ := utf8d.getD (256 + state * 16 + type) 0

/-- The state behind a byte. -/
def nextState (state : ℕ) (byte : UInt8) : ℕ := row state (byteType byte)

/-- `utf8_validator::decode`: the next byte. -/
def decodeByte (v : Validator) (byte : UInt8) : Validator where
  codepoint :=
    if v.state ≠ utf8Accept then (byte.toNat &&& 0x3f ||| v.codepoint <<< 6) % 2 ^ 32
    else 0xff >>> byteType byte &&& byte.toNat
  state := nextState v.state byte

/-- `validator::decode`: it stops at the first byte that is refused. -/
def decode (v : Validator) : List UInt8 → Validator × Bool
  | [] => (v, true)
  | byte :: bytes =>
    let v' := decodeByte v byte
    if v'.state = utf8Reject then (v', false) else decode v' bytes

/-- `validator::complete`. -/
def Validator.complete (v : Validator) : Bool := v.state = utf8Accept

/-- `utf8_validator::validate`. -/
def validate (s : List UInt8) : Bool :=
  let (v, accepted) := decode .fresh s
  if !accepted then false else v.complete

theorem decode_cons (v : Validator) (byte : UInt8) (bytes : List UInt8) :
    decode v (byte :: bytes) =
      if nextState v.state byte = 1 then (decodeByte v byte, false)
      else decode (decodeByte v byte) bytes := rfl

/-- Two pieces are read like one. -/
theorem decode_append (v : Validator) (xs ys : List UInt8) :
    decode v (xs ++ ys) = if (decode v xs).2 then decode (decode v xs).1 ys else decode v xs := by
  induction xs generalizing v with
  | nil => rfl
  | cons x xs ih =>
    rw [List.cons_append, decode_cons, decode_cons]
    split
    · rfl
    · exact ih _

/-! ## States and Bytes -/

/-- The state behind a list of bytes, refused or not. -/
def run (state : ℕ) (bytes : List UInt8) : ℕ := bytes.foldl nextState state

theorem run_cons (state : ℕ) (byte : UInt8) (bytes : List UInt8) :
    run state (byte :: bytes) = run (nextState state byte) bytes := rfl

theorem run_append (state : ℕ) (xs ys : List UInt8) :
    run state (xs ++ ys) = run (run state xs) ys := by
  simp [run]

/-- What holds of the bytes below 256 holds of every byte. -/
theorem forall_byte {P : UInt8 → Prop} (h : ∀ n < 256, P (UInt8.ofNat n)) (byte : UInt8) :
    P byte := by
  have hbyte := h byte.toNat byte.toNat_lt
  rwa [UInt8.ofNat_toNat] at hbyte

/-- The type of a byte by its range. -/
def typeOf (n : ℕ) : ℕ :=
  if n ≤ 0x7f then 0
  else if n ≤ 0x8f then 1
  else if n ≤ 0x9f then 9
  else if n ≤ 0xbf then 7
  else if n < 0xc2 then 8
  else if n ≤ 0xdf then 2
  else if n = 0xe0 then 10
  else if n = 0xed then 4
  else if n ≤ 0xef then 3
  else if n = 0xf0 then 11
  else if n ≤ 0xf3 then 6
  else if n = 0xf4 then 5
  else 8

theorem byteType_eq (byte : UInt8) : byteType byte = typeOf byte.toNat := by
  revert byte
  exact forall_byte (by decide +kernel)

theorem byteType_le (byte : UInt8) : byteType byte ≤ 11 := by
  have htype : ∀ n < 256, typeOf n ≤ 11 := by decide +kernel
  rw [byteType_eq]
  exact htype _ byte.toNat_lt

/-- A refused text stays refused. -/
theorem nextState_reject (byte : UInt8) : nextState 1 byte = 1 := by
  have hrow : ∀ type ≤ 11, row 1 type = 1 := by decide +kernel
  exact hrow _ (byteType_le byte)

theorem run_reject (bytes : List UInt8) : run 1 bytes = 1 := by
  induction bytes with
  | nil => rfl
  | cons byte bytes ih => rw [run_cons, nextState_reject, ih]

/-- The validator stops iff the automaton refuses, and otherwise it is in its state. -/
theorem decode_run (v : Validator) (bytes : List UInt8) (hv : v.state ≠ 1) :
    ((decode v bytes).2 = true ↔ run v.state bytes ≠ 1) ∧
      ((decode v bytes).2 = true → (decode v bytes).1.state = run v.state bytes) := by
  induction bytes generalizing v with
  | nil => exact ⟨⟨fun _ => hv, fun _ => rfl⟩, fun _ => rfl⟩
  | cons byte bytes ih =>
    have hnext : (decodeByte v byte).state = nextState v.state byte := rfl
    rw [decode_cons, run_cons]
    by_cases hreject : nextState v.state byte = 1
    · rw [if_pos hreject, hreject, run_reject]
      simp
    · rw [if_neg hreject]
      have htail := ih (decodeByte v byte) (by rw [hnext]; exact hreject)
      rwa [hnext] at htail

theorem validate_eq_run (bytes : List UInt8) : validate bytes = true ↔ run 0 bytes = 0 := by
  obtain ⟨haccepted, hstate⟩ := decode_run .fresh bytes (by decide)
  have hfresh : Validator.fresh.state = 0 := rfl
  rw [hfresh] at haccepted hstate
  unfold validate
  cases hdecode : decode .fresh bytes with
  | mk v accepted =>
    rw [hdecode] at haccepted hstate
    cases accepted with
    | false =>
      have hrun : run 0 bytes = 1 := by simpa using haccepted
      simp [hrun]
    | true =>
      have hv : v.state = run 0 bytes := hstate rfl
      simp [Validator.complete, utf8Accept, hv]

/-! ## Characters -/

/-- From the start, the first byte says how many bytes the character has. -/
def firstState (n : ℕ) : ℕ :=
  if n ≤ 0x7f then 0
  else if n < 0xc2 then 1
  else if n ≤ 0xdf then 2
  else if n = 0xe0 then 4
  else if n = 0xed then 5
  else if n ≤ 0xef then 3
  else if n = 0xf0 then 6
  else if n ≤ 0xf3 then 7
  else if n = 0xf4 then 8
  else 1

theorem nextState_accept (byte : UInt8) : nextState 0 byte = firstState byte.toNat := by
  have hrow : ∀ n < 256, row 0 (typeOf n) = firstState n := by decide +kernel
  unfold nextState
  rw [byteType_eq]
  exact hrow _ byte.toNat_lt

/-- What a state inside a character waits for: the least and the greatest next byte, and the
    state behind it. -/
def continuation : ℕ → ℕ × ℕ × ℕ
  | 2 => (0x80, 0xbf, 0)
  | 3 => (0x80, 0xbf, 2)
  | 4 => (0xa0, 0xbf, 2)
  | 5 => (0x80, 0x9f, 2)
  | 6 => (0x90, 0xbf, 3)
  | 7 => (0x80, 0xbf, 3)
  | 8 => (0x80, 0x8f, 3)
  | _ => (1, 0, 1)

/-- The bytes of a type that can stand inside a character. -/
def typeRange : ℕ → ℕ × ℕ
  | 1 => (0x80, 0x8f)
  | 9 => (0x90, 0x9f)
  | 7 => (0xa0, 0xbf)
  | _ => (0, 0)

theorem nextState_inside {state : ℕ} (hlo : 2 ≤ state) (hhi : state ≤ 8) (byte : UInt8) :
    nextState state byte =
      if (continuation state).1 ≤ byte.toNat ∧ byte.toNat ≤ (continuation state).2.1 then
        (continuation state).2.2
      else 1 := by
  -- a state takes all bytes of a type or none
  have hrow : ∀ state ≤ 8, 2 ≤ state → ∀ type ≤ 11, row state type =
      if (continuation state).1 ≤ (typeRange type).1 ∧
          (typeRange type).2 ≤ (continuation state).2.1 then
        (continuation state).2.2
      else 1 := by
    decide +kernel
  have hrange : ∀ state ≤ 8, 2 ≤ state → ∀ n < 256,
      decide ((continuation state).1 ≤ (typeRange (typeOf n)).1 ∧
          (typeRange (typeOf n)).2 ≤ (continuation state).2.1) =
        decide ((continuation state).1 ≤ n ∧ n ≤ (continuation state).2.1) := by
    decide +kernel
  unfold nextState
  rw [hrow state hhi hlo _ (byteType_le byte), byteType_eq]
  have hiff := decide_eq_decide.mp (hrange state hhi hlo byte.toNat byte.toNat_lt)
  simp only [hiff]

/-- The character with a code. -/
theorem exists_char {n : ℕ} (hn : n.isValidChar) : ∃ c : Char, c.val.toNat = n :=
  ⟨Char.ofNatAux n hn, rfl⟩

/-- A byte from its number. -/
theorem ofNat_eq {n : ℕ} {byte : UInt8} (h : n = byte.toNat) : UInt8.ofNat n = byte := by
  rw [h, UInt8.ofNat_toNat]

theorem encode_one {a : UInt8} (ha : a.toNat ≤ 0x7f) : ∃ c, String.utf8EncodeChar c = [a] := by
  obtain ⟨c, hc⟩ := exists_char (n := a.toNat) (Or.inl (by omega))
  refine ⟨c, ?_⟩
  unfold String.utf8EncodeChar
  rw [hc, if_pos ha, UInt8.ofNat_toNat]

theorem encode_two {a b : UInt8} (ha : 0xc2 ≤ a.toNat) (ha' : a.toNat ≤ 0xdf)
    (hb : 0x80 ≤ b.toNat) (hb' : b.toNat ≤ 0xbf) : ∃ c, String.utf8EncodeChar c = [a, b] := by
  have hvalid : ((a.toNat - 0xc0) * 64 + (b.toNat - 0x80)).isValidChar := Or.inl (by omega)
  obtain ⟨c, hc⟩ := exists_char hvalid
  refine ⟨c, ?_⟩
  unfold String.utf8EncodeChar
  rw [hc, if_neg (by omega), if_pos (by omega)]
  rw [List.cons_eq_cons, List.cons_eq_cons]
  refine ⟨ofNat_eq ?_, ofNat_eq ?_, rfl⟩ <;> omega

theorem encode_three {a b c : UInt8} (ha : 0xe0 ≤ a.toNat) (ha' : a.toNat ≤ 0xef)
    (hb : 0x80 ≤ b.toNat) (hb' : b.toNat ≤ 0xbf) (hc : 0x80 ≤ c.toNat) (hc' : c.toNat ≤ 0xbf)
    -- neither an overlong form nor a surrogate
    (hlow : a.toNat = 0xe0 → 0xa0 ≤ b.toNat) (hsurrogate : a.toNat = 0xed → b.toNat ≤ 0x9f) :
    ∃ x, String.utf8EncodeChar x = [a, b, c] := by
  have hvalid : ((a.toNat - 0xe0) * 4096 + (b.toNat - 0x80) * 64 +
      (c.toNat - 0x80)).isValidChar := by
    unfold Nat.isValidChar
    omega
  obtain ⟨x, hx⟩ := exists_char hvalid
  refine ⟨x, ?_⟩
  unfold String.utf8EncodeChar
  rw [hx, if_neg (by omega), if_neg (by omega), if_pos (by omega)]
  rw [List.cons_eq_cons, List.cons_eq_cons, List.cons_eq_cons]
  refine ⟨ofNat_eq ?_, ofNat_eq ?_, ofNat_eq ?_, rfl⟩ <;> omega

theorem encode_four {a b c d : UInt8} (ha : 0xf0 ≤ a.toNat) (ha' : a.toNat ≤ 0xf4)
    (hb : 0x80 ≤ b.toNat) (hb' : b.toNat ≤ 0xbf) (hc : 0x80 ≤ c.toNat) (hc' : c.toNat ≤ 0xbf)
    (hd : 0x80 ≤ d.toNat) (hd' : d.toNat ≤ 0xbf)
    -- neither an overlong form nor a number above the last character
    (hlow : a.toNat = 0xf0 → 0x90 ≤ b.toNat) (hhigh : a.toNat = 0xf4 → b.toNat ≤ 0x8f) :
    ∃ x, String.utf8EncodeChar x = [a, b, c, d] := by
  have hvalid : ((a.toNat - 0xf0) * 262144 + (b.toNat - 0x80) * 4096 + (c.toNat - 0x80) * 64 +
      (d.toNat - 0x80)).isValidChar := by
    unfold Nat.isValidChar
    omega
  obtain ⟨x, hx⟩ := exists_char hvalid
  refine ⟨x, ?_⟩
  unfold String.utf8EncodeChar
  rw [hx, if_neg (by omega), if_neg (by omega), if_neg (by omega)]
  rw [List.cons_eq_cons, List.cons_eq_cons, List.cons_eq_cons, List.cons_eq_cons]
  refine ⟨ofNat_eq ?_, ofNat_eq ?_, ofNat_eq ?_, ofNat_eq ?_, rfl⟩ <;> omega

/-! ## From Bytes to Characters -/

/-- Inside a character the next byte is one the state waits for. -/
theorem run_inside {state : ℕ} {bytes : List UInt8} (hlo : 2 ≤ state) (hhi : state ≤ 8)
    (h : run state bytes = 0) :
    ∃ b rest, bytes = b :: rest ∧ (continuation state).1 ≤ b.toNat ∧
      b.toNat ≤ (continuation state).2.1 ∧ run (continuation state).2.2 rest = 0 := by
  cases bytes with
  | nil =>
    have hstate : state = 0 := h
    omega
  | cons b rest =>
    rw [run_cons, nextState_inside hlo hhi] at h
    split at h
    case isTrue hrange => exact ⟨b, rest, rfl, hrange.1, hrange.2, h⟩
    case isFalse =>
      rw [run_reject] at h
      cases h

/-- Two more bytes, the first of them as the state wants it. -/
theorem run_inside_two {state : ℕ} {bytes : List UInt8} (hlo : 2 ≤ state) (hhi : state ≤ 8)
    (hbehind : (continuation state).2.2 = 2) (h : run state bytes = 0) :
    ∃ b c rest, bytes = b :: c :: rest ∧ (continuation state).1 ≤ b.toNat ∧
      b.toNat ≤ (continuation state).2.1 ∧ 0x80 ≤ c.toNat ∧ c.toNat ≤ 0xbf ∧
      run 0 rest = 0 := by
  obtain ⟨b, rest, rfl, hb, hb', hrest⟩ := run_inside hlo hhi h
  rw [hbehind] at hrest
  obtain ⟨c, rest, rfl, hc, hc', hrest⟩ := run_inside (by omega) (by omega) hrest
  exact ⟨b, c, rest, rfl, hb, hb', hc, hc', hrest⟩

/-- Three more bytes. -/
theorem run_inside_three {state : ℕ} {bytes : List UInt8} (hlo : 2 ≤ state) (hhi : state ≤ 8)
    (hbehind : (continuation state).2.2 = 3) (h : run state bytes = 0) :
    ∃ b c d rest, bytes = b :: c :: d :: rest ∧ (continuation state).1 ≤ b.toNat ∧
      b.toNat ≤ (continuation state).2.1 ∧ 0x80 ≤ c.toNat ∧ c.toNat ≤ 0xbf ∧
      0x80 ≤ d.toNat ∧ d.toNat ≤ 0xbf ∧ run 0 rest = 0 := by
  obtain ⟨b, rest, rfl, hb, hb', hrest⟩ := run_inside hlo hhi h
  rw [hbehind] at hrest
  obtain ⟨c, d, rest, rfl, hc, hc', hd, hd', hrest⟩ :=
    run_inside_two (by omega) (by omega) rfl hrest
  exact ⟨b, c, d, rest, rfl, hb, hb', hc, hc', hd, hd', hrest⟩

/-- An accepted text that is not empty begins with a character. -/
theorem exists_char_of_run {a : UInt8} {bytes : List UInt8} (h : run 0 (a :: bytes) = 0) :
    ∃ x rest, a :: bytes = String.utf8EncodeChar x ++ rest ∧ run 0 rest = 0 := by
  rw [run_cons, nextState_accept] at h
  -- the first byte says how many are to follow, and in which range the second one is
  unfold firstState at h
  split at h
  case isTrue ha =>
    obtain ⟨x, hx⟩ := encode_one ha
    exact ⟨x, bytes, by rw [hx]; rfl, h⟩
  split at h
  case isTrue =>
    rw [run_reject] at h
    cases h
  split at h
  case isTrue =>
    obtain ⟨b, rest, rfl, hb, hb', hrest⟩ := run_inside (by omega) (by omega) h
    obtain ⟨x, hx⟩ := encode_two (a := a) (by omega) (by omega) hb hb'
    exact ⟨x, rest, by rw [hx]; rfl, hrest⟩
  split at h
  case isTrue ha =>
    obtain ⟨b, c, rest, rfl, hb, hb', hc, hc', hrest⟩ :=
      run_inside_two (by omega) (by omega) rfl h
    have hlow : 0xa0 ≤ b.toNat := hb
    have hhigh : b.toNat ≤ 0xbf := hb'
    obtain ⟨x, hx⟩ := encode_three (a := a) (by omega) (by omega) (by omega) hhigh hc hc'
      (fun _ => hlow) (by omega)
    exact ⟨x, rest, by rw [hx]; rfl, hrest⟩
  split at h
  case isTrue ha =>
    obtain ⟨b, c, rest, rfl, hb, hb', hc, hc', hrest⟩ :=
      run_inside_two (by omega) (by omega) rfl h
    have hlow : 0x80 ≤ b.toNat := hb
    have hhigh : b.toNat ≤ 0x9f := hb'
    obtain ⟨x, hx⟩ := encode_three (a := a) (by omega) (by omega) hlow (by omega) hc hc'
      (by omega) (fun _ => hhigh)
    exact ⟨x, rest, by rw [hx]; rfl, hrest⟩
  split at h
  case isTrue =>
    obtain ⟨b, c, rest, rfl, hb, hb', hc, hc', hrest⟩ :=
      run_inside_two (by omega) (by omega) rfl h
    obtain ⟨x, hx⟩ := encode_three (a := a) (by omega) (by omega) hb hb' hc hc'
      (by omega) (by omega)
    exact ⟨x, rest, by rw [hx]; rfl, hrest⟩
  split at h
  case isTrue ha =>
    obtain ⟨b, c, d, rest, rfl, hb, hb', hc, hc', hd, hd', hrest⟩ :=
      run_inside_three (by omega) (by omega) rfl h
    have hlow : 0x90 ≤ b.toNat := hb
    have hhigh : b.toNat ≤ 0xbf := hb'
    obtain ⟨x, hx⟩ := encode_four (a := a) (by omega) (by omega) (by omega) hhigh hc hc' hd hd'
      (fun _ => hlow) (by omega)
    exact ⟨x, rest, by rw [hx]; rfl, hrest⟩
  split at h
  case isTrue =>
    obtain ⟨b, c, d, rest, rfl, hb, hb', hc, hc', hd, hd', hrest⟩ :=
      run_inside_three (by omega) (by omega) rfl h
    obtain ⟨x, hx⟩ := encode_four (a := a) (by omega) (by omega) hb hb' hc hc' hd hd'
      (by omega) (by omega)
    exact ⟨x, rest, by rw [hx]; rfl, hrest⟩
  split at h
  case isTrue ha =>
    obtain ⟨b, c, d, rest, rfl, hb, hb', hc, hc', hd, hd', hrest⟩ :=
      run_inside_three (by omega) (by omega) rfl h
    have hlow : 0x80 ≤ b.toNat := hb
    have hhigh : b.toNat ≤ 0x8f := hb'
    obtain ⟨x, hx⟩ := encode_four (a := a) (by omega) (by omega) hlow (by omega) hc hc' hd hd'
      (by omega) (fun _ => hhigh)
    exact ⟨x, rest, by rw [hx]; rfl, hrest⟩
  case isFalse =>
    rw [run_reject] at h
    cases h

/-- An accepted text encodes characters. -/
theorem exists_chars_of_run (bytes : List UInt8) (h : run 0 bytes = 0) :
    ∃ cs : List Char, bytes = cs.flatMap String.utf8EncodeChar := by
  -- every character takes at least one byte off
  induction hn : bytes.length using Nat.strongRecOn generalizing bytes with
  | ind n ih =>
    cases bytes with
    | nil => exact ⟨[], rfl⟩
    | cons a bytes =>
      obtain ⟨x, rest, hsplit, hrest⟩ := exists_char_of_run h
      have hlength := congrArg List.length hsplit
      rw [List.length_append, String.length_utf8EncodeChar] at hlength
      have hsize := x.utf8Size_pos
      obtain ⟨cs, hcs⟩ := ih rest.length (by omega) rest hrest rfl
      exact ⟨x :: cs, by rw [hsplit, List.flatMap_cons, ← hcs]⟩

/-! ## From Characters to Bytes -/

/-- A byte a state waits for. -/
theorem run_step {state : ℕ} {b : UInt8} {rest : List UInt8} (hlo : 2 ≤ state) (hhi : state ≤ 8)
    (hb : (continuation state).1 ≤ b.toNat) (hb' : b.toNat ≤ (continuation state).2.1) :
    run state (b :: rest) = run (continuation state).2.2 rest := by
  rw [run_cons, nextState_inside hlo hhi, if_pos ⟨hb, hb'⟩]

/-- The state behind the first of three bytes. -/
theorem exists_state_three {a : UInt8} (ha : 0xe0 ≤ a.toNat) (ha' : a.toNat ≤ 0xef) :
    ∃ state, nextState 0 a = state ∧ 2 ≤ state ∧ state ≤ 8 ∧ (continuation state).2.2 = 2 ∧
      (continuation state).1 = (if a.toNat = 0xe0 then 0xa0 else 0x80) ∧
      (continuation state).2.1 = (if a.toNat = 0xed then 0x9f else 0xbf) := by
  rw [nextState_accept]
  unfold firstState
  by_cases hlow : a.toNat = 0xe0
  · exact ⟨4, by simp [hlow], by decide, by decide, rfl, by simp [hlow, continuation],
      by simp [hlow, continuation]⟩
  by_cases hsurrogate : a.toNat = 0xed
  · exact ⟨5, by simp [hsurrogate], by decide, by decide, rfl, by simp [hsurrogate, continuation],
      by simp [hsurrogate, continuation]⟩
  · refine ⟨3, ?_, by decide, by decide, rfl, by simp [hlow, continuation],
      by simp [hsurrogate, continuation]⟩
    rw [if_neg (by omega), if_neg (by omega), if_neg (by omega), if_neg hlow, if_neg hsurrogate,
      if_pos ha']

/-- The state behind the first of four bytes. -/
theorem exists_state_four {a : UInt8} (ha : 0xf0 ≤ a.toNat) (ha' : a.toNat ≤ 0xf4) :
    ∃ state, nextState 0 a = state ∧ 2 ≤ state ∧ state ≤ 8 ∧ (continuation state).2.2 = 3 ∧
      (continuation state).1 = (if a.toNat = 0xf0 then 0x90 else 0x80) ∧
      (continuation state).2.1 = (if a.toNat = 0xf4 then 0x8f else 0xbf) := by
  rw [nextState_accept]
  unfold firstState
  by_cases hlow : a.toNat = 0xf0
  · exact ⟨6, by simp [hlow], by decide, by decide, rfl, by simp [hlow, continuation],
      by simp [hlow, continuation]⟩
  by_cases hhigh : a.toNat = 0xf4
  · exact ⟨8, by simp [hhigh], by decide, by decide, rfl, by simp [hhigh, continuation],
      by simp [hhigh, continuation]⟩
  · refine ⟨7, ?_, by decide, by decide, rfl, by simp [hlow, continuation],
      by simp [hhigh, continuation]⟩
    rw [if_neg (by omega), if_neg (by omega), if_neg (by omega), if_neg (by omega),
      if_neg (by omega), if_neg (by omega), if_neg hlow, if_pos (by omega)]

theorem toNat_ofNat_of_lt {n : ℕ} (hn : n < 256) : (UInt8.ofNat n).toNat = n := by
  rw [UInt8.toNat_ofNat']
  exact Nat.mod_eq_of_lt hn

/-- **A character is accepted.** -/
theorem run_utf8EncodeChar (x : Char) (rest : List UInt8) :
    run 0 (String.utf8EncodeChar x ++ rest) = run 0 rest := by
  have hvalid : x.val.toNat < 0xd800 ∨ 0xdfff < x.val.toNat ∧ x.val.toNat < 0x110000 := x.valid
  unfold String.utf8EncodeChar
  generalize x.val.toNat = v at hvalid
  dsimp only
  -- one case for each number of bytes; the surrogates are left out among three, the values above
  -- the last one among four
  split
  case isTrue h1 =>
    have ha := toNat_ofNat_of_lt (n := v) (by omega)
    rw [List.cons_append, List.nil_append, run_cons, nextState_accept, firstState,
      if_pos (by omega)]
  split
  case isTrue h1 h2 =>
    have ha := toNat_ofNat_of_lt (n := v / 64 % 0x20 + 0xc0) (by omega)
    have hb := toNat_ofNat_of_lt (n := v % 0x40 + 0x80) (by omega)
    rw [List.cons_append, List.cons_append, List.nil_append, run_cons, nextState_accept,
      firstState, if_neg (by omega), if_neg (by omega), if_pos (by omega)]
    exact run_step (by omega) (by omega) (by rw [hb]; exact Nat.le_add_left _ _)
      (by rw [hb]; change v % 0x40 + 0x80 ≤ 0xbf; omega)
  split
  case isTrue h1 h2 h3 =>
    have ha := toNat_ofNat_of_lt (n := v / 4096 % 0x10 + 0xe0) (by omega)
    have hb := toNat_ofNat_of_lt (n := v / 64 % 0x40 + 0x80) (by omega)
    have hc := toNat_ofNat_of_lt (n := v % 0x40 + 0x80) (by omega)
    obtain ⟨state, hstate, hlo, hhi, hbehind, hleast, hgreatest⟩ :=
      exists_state_three (a := UInt8.ofNat (v / 4096 % 0x10 + 0xe0)) (by omega) (by omega)
    rw [List.cons_append, List.cons_append, List.cons_append, List.nil_append, run_cons, hstate,
      run_step hlo hhi (by rw [hleast, hb, ha]; split <;> omega)
        (by rw [hgreatest, hb, ha]; split <;> omega), hbehind]
    exact run_step (by omega) (by omega) (by rw [hc]; exact Nat.le_add_left _ _)
      (by rw [hc]; change v % 0x40 + 0x80 ≤ 0xbf; omega)
  case isFalse h1 h2 h3 =>
    have ha := toNat_ofNat_of_lt (n := v / 262144 % 0x08 + 0xf0) (by omega)
    have hb := toNat_ofNat_of_lt (n := v / 4096 % 0x40 + 0x80) (by omega)
    have hc := toNat_ofNat_of_lt (n := v / 64 % 0x40 + 0x80) (by omega)
    have hd := toNat_ofNat_of_lt (n := v % 0x40 + 0x80) (by omega)
    obtain ⟨state, hstate, hlo, hhi, hbehind, hleast, hgreatest⟩ :=
      exists_state_four (a := UInt8.ofNat (v / 262144 % 0x08 + 0xf0)) (by omega) (by omega)
    rw [List.cons_append, List.cons_append, List.cons_append, List.cons_append, List.nil_append,
      run_cons, hstate, run_step hlo hhi (by rw [hleast, hb, ha]; split <;> omega)
        (by rw [hgreatest, hb, ha]; split <;> omega), hbehind,
      run_step (by omega) (by omega) (by rw [hc]; exact Nat.le_add_left _ _)
        (by rw [hc]; change v / 64 % 0x40 + 0x80 ≤ 0xbf; omega)]
    change run 2 _ = _
    exact run_step (by omega) (by omega) (by rw [hd]; exact Nat.le_add_left _ _)
      (by rw [hd]; change v % 0x40 + 0x80 ≤ 0xbf; omega)

theorem run_flatMap_utf8EncodeChar (cs : List Char) :
    run 0 (cs.flatMap String.utf8EncodeChar) = 0 := by
  induction cs with
  | nil => rfl
  | cons x cs ih => rw [List.flatMap_cons, run_utf8EncodeChar, ih]

/-- **What the validator accepts**: the texts that encode a list of characters. -/
theorem validate_iff (bytes : List UInt8) :
    validate bytes = true ↔ ∃ cs : List Char, bytes = cs.flatMap String.utf8EncodeChar := by
  rw [validate_eq_run]
  constructor
  · exact exists_chars_of_run bytes
  · rintro ⟨cs, rfl⟩
    exact run_flatMap_utf8EncodeChar cs

/-- Bytes that complete the character a state is inside of. -/
def completion : ℕ → List UInt8
  | 0 => []
  | 2 => [0x80]
  | 3 => [0x80, 0x80]
  | 4 => [0xa0, 0x80]
  | 5 => [0x80, 0x80]
  | 6 => [0x90, 0x80, 0x80]
  | _ => [0x80, 0x80, 0x80]

theorem run_completion : ∀ state ≤ 8, state ≠ 1 → run state (completion state) = 0 := by
  decide +kernel

theorem nextState_le {state : ℕ} (hstate : state ≤ 8) (byte : UInt8) :
    nextState state byte ≤ 8 := by
  have hrow : ∀ state ≤ 8, ∀ type ≤ 11, row state type ≤ 8 := by decide +kernel
  exact hrow state hstate _ (byteType_le byte)

theorem run_le {state : ℕ} (hstate : state ≤ 8) (bytes : List UInt8) : run state bytes ≤ 8 := by
  induction bytes generalizing state with
  | nil => exact hstate
  | cons byte bytes ih => exact ih (nextState_le hstate byte)

/-- **When it refuses**: a text is not refused as long as some text that encodes characters
    begins with it. -/
theorem decode_iff (bytes : List UInt8) :
    (decode .fresh bytes).2 = true ↔
      ∃ cs : List Char, bytes <+: cs.flatMap String.utf8EncodeChar := by
  rw [(decode_run .fresh bytes (by decide)).1]
  constructor
  · intro hrun
    have hcomplete := run_completion _ (run_le (Nat.zero_le 8) bytes) hrun
    rw [← run_append] at hcomplete
    obtain ⟨cs, hcs⟩ := exists_chars_of_run _ hcomplete
    exact ⟨cs, completion (run 0 bytes), hcs⟩
  · rintro ⟨cs, tail, htail⟩ hreject
    have hreject : run 0 bytes = 1 := hreject
    have hrun := run_flatMap_utf8EncodeChar cs
    rw [← htail, run_append, hreject, run_reject] at hrun
    cases hrun

end Utf8Validator

end BallchasingReplayPlayer
