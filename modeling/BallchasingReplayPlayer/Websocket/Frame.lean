import Mathlib.Data.List.Basic
import Mathlib.Data.List.MinMax
import BallchasingReplayPlayer.Lib.BigEndian

/-!
# The Frames of websocketpp

`frame.hpp`: the two bytes every frame begins with, the length and the masking key behind them, and
the masking of a payload that arrives in pieces.

## Layers

1. `Opcode`, `BasicHeader`, `ExtendedHeader`: the fields of a frame and how they are read
2. `byteMaskCirc`: masking with a key that is rotated between two pieces

## Main Results

- `getPayloadSize_write`, `getMaskingKey_write`: what is written in a header is read from it
- `byteMaskCirc_append`: two pieces are masked like one, with the key rotated in between
- `byteMaskCirc_byteMask`: masking twice gives the payload back
-/

namespace BallchasingReplayPlayer

namespace Frame

/-! ## Opcodes -/

/-- `frame::opcode::value`. -/
inductive Opcode where
  | continuation
  | text
  | binary
  | rsv3
  | rsv4
  | rsv5
  | rsv6
  | rsv7
  | close
  | ping
  | pong
  | controlRsvb
  | controlRsvc
  | controlRsvd
  | controlRsve
  | controlRsvf
deriving DecidableEq, Repr

namespace Opcode

/-- The number of an opcode. -/
def value (v : Opcode) : ℕ := v.ctorIdx

/-- The opcode with a number below 16. -/
def ofValue : ℕ → Opcode
  | 0x0 => continuation
  | 0x1 => text
  | 0x2 => binary
  | 0x3 => rsv3
  | 0x4 => rsv4
  | 0x5 => rsv5
  | 0x6 => rsv6
  | 0x7 => rsv7
  | 0x8 => close
  | 0x9 => ping
  | 0xa => pong
  | 0xb => controlRsvb
  | 0xc => controlRsvc
  | 0xd => controlRsvd
  | 0xe => controlRsve
  | _ => controlRsvf

theorem value_lt (v : Opcode) : v.value < 16 := by cases v <;> decide

theorem ofValue_value (v : Opcode) : ofValue v.value = v := by cases v <;> rfl

def reserved (v : Opcode) : Bool :=
  (Opcode.rsv3.value ≤ v.value ∧ v.value ≤ Opcode.rsv7.value) ∨
    (Opcode.controlRsvb.value ≤ v.value ∧ v.value ≤ Opcode.controlRsvf.value)

/-- Four bits hold no other opcode. -/
def invalid (v : Opcode) : Bool := 0xf < v.value

def isControl (v : Opcode) : Bool := 0x8 ≤ v.value

end Opcode

/-! ## Headers -/

/-- `BASIC_HEADER_LENGTH`. -/
def basicHeaderLength : ℕ := 2

/-- `MAX_EXTENDED_HEADER_LENGTH`. -/
def maxExtendedHeaderLength : ℕ := 12

/-- `limits::payload_size_basic`. -/
def payloadSizeBasic : ℕ := 125

/-- `limits::payload_size_extended`. -/
def payloadSizeExtended : ℕ := 0xffff

/-- `limits::close_reason_size`. -/
def closeReasonSize : ℕ := 123

/-- `payload_size_code_16bit`. -/
def payloadSizeCode16bit : ℕ := 0x7e

/-- `payload_size_code_64bit`. -/
def payloadSizeCode64bit : ℕ := 0x7f

def bhb0Opcode : UInt8 := 0x0f
def bhb0Rsv3 : UInt8 := 0x10
def bhb0Rsv2 : UInt8 := 0x20
def bhb0Rsv1 : UInt8 := 0x40
def bhb0Fin : UInt8 := 0x80
def bhb1Payload : UInt8 := 0x7f
def bhb1Mask : UInt8 := 0x80

/-- `basic_header`. -/
structure BasicHeader where
  b0 : UInt8
  b1 : UInt8
deriving DecidableEq, Repr

/-- A mask if a flag is set. -/
def flag (set : Bool) (mask : UInt8) : UInt8 := if set then mask else 0

/-- The seven bits a size is announced with. -/
def basicValue (size : ℕ) : ℕ :=
  if size ≤ payloadSizeBasic then size
  else if size ≤ payloadSizeExtended then payloadSizeCode16bit
  else payloadSizeCode64bit

/-- The constructor of `basic_header` from its fields. -/
def BasicHeader.write (op : Opcode) (size : ℕ) (fin mask rsv1 rsv2 rsv3 : Bool) : BasicHeader where
  b0 := flag fin bhb0Fin ||| flag rsv1 bhb0Rsv1 ||| flag rsv2 bhb0Rsv2 ||| flag rsv3 bhb0Rsv3 |||
    (UInt8.ofNat op.value &&& bhb0Opcode)
  b1 := flag mask bhb1Mask ||| UInt8.ofNat (basicValue size)

/-- `extended_header`: its bytes. -/
abbrev ExtendedHeader := List UInt8

/-- Bytes copied over others, from a position on. -/
def copyTo (bytes : List UInt8) (position : ℕ) (chunk : List UInt8) : List UInt8 :=
  bytes.take position ++ chunk ++ bytes.drop (position + chunk.length)

theorem copyTo_zero (bytes chunk : List UInt8) :
    copyTo bytes 0 chunk = chunk ++ bytes.drop chunk.length := by
  unfold copyTo
  rw [List.take_zero, List.nil_append, Nat.zero_add]

/-- The default constructor of `extended_header`. -/
def zeroHeader : ExtendedHeader := List.replicate maxExtendedHeaderLength 0

/-- `payload_offset` of `copy_payload`. -/
def payloadOffset (size : ℕ) : ℕ :=
  if size ≤ payloadSizeBasic then 8 else if size ≤ payloadSizeExtended then 6 else 0

/-- `copy_payload`: the bytes it copies. -/
def copyPayload (size : ℕ) : List UInt8 := (BigEndian.write 8 size).drop (payloadOffset size)

/-- Byte `i` of a word in memory, the lowest first. -/
def byteAt {n : ℕ} (word : BitVec n) (i : ℕ) : UInt8 := ⟨word.extractLsb' (8 * i) 8⟩

/-- `masking_key_type`, by its member `i`. -/
abbrev MaskingKey := BitVec 32

/-- The member `c` of a masking key. -/
def MaskingKey.c (key : MaskingKey) : List UInt8 :=
  [byteAt key 0, byteAt key 1, byteAt key 2, byteAt key 3]

/-- The masking key whose member `c` is given. -/
def MaskingKey.ofBytes (c : List UInt8) : MaskingKey :=
  (c.getD 3 0).toBitVec ++ (c.getD 2 0).toBitVec ++ (c.getD 1 0).toBitVec ++ (c.getD 0 0).toBitVec

/-- The constructors of `extended_header` from a size, and a masking key if there is one. -/
def ExtendedHeader.write (size : ℕ) (key : Option MaskingKey) : ExtendedHeader :=
  let bytes := copyTo zeroHeader 0 (copyPayload size)
  match key with
  | none => bytes
  | some key => copyTo bytes (8 - payloadOffset size) key.c

def getFin (h : BasicHeader) : Bool := h.b0 &&& bhb0Fin == bhb0Fin
def getRsv1 (h : BasicHeader) : Bool := h.b0 &&& bhb0Rsv1 == bhb0Rsv1
def getRsv2 (h : BasicHeader) : Bool := h.b0 &&& bhb0Rsv2 == bhb0Rsv2
def getRsv3 (h : BasicHeader) : Bool := h.b0 &&& bhb0Rsv3 == bhb0Rsv3
def getOpcode (h : BasicHeader) : Opcode := .ofValue (h.b0 &&& bhb0Opcode).toNat
def getMasked (h : BasicHeader) : Bool := h.b1 &&& bhb1Mask == bhb1Mask
def getBasicSize (h : BasicHeader) : ℕ := (h.b1 &&& bhb1Payload).toNat

def getMaskingKeyOffset (h : BasicHeader) : ℕ :=
  if getBasicSize h = payloadSizeCode16bit then 2
  else if getBasicSize h = payloadSizeCode64bit then 8
  else 0

def getHeaderLen (h : BasicHeader) : ℕ :=
  basicHeaderLength + getMaskingKeyOffset h + if getMasked h then 4 else 0

/-- `prepare_header`: the header as it is sent. -/
def prepareHeader (h : BasicHeader) (e : ExtendedHeader) : List UInt8 :=
  h.b0 :: h.b1 :: e.take (getHeaderLen h - basicHeaderLength)

def getMaskingKey (h : BasicHeader) (e : ExtendedHeader) : MaskingKey :=
  if !getMasked h then 0 else .ofBytes ((e.drop (getMaskingKeyOffset h)).take 4)

def getExtendedSize (e : ExtendedHeader) : ℕ := BigEndian.read (e.take 2)
def getJumboSize (e : ExtendedHeader) : ℕ := BigEndian.read (e.take 8)

def getPayloadSize (h : BasicHeader) (e : ExtendedHeader) : ℕ :=
  if getBasicSize h ≤ payloadSizeBasic then getBasicSize h
  else if getBasicSize h = payloadSizeCode16bit then getExtendedSize e
  else getJumboSize e

/-! ## What Is Written Is Read -/

section Reading

variable (op : Opcode) (size : ℕ) (fin mask rsv1 rsv2 rsv3 : Bool)

/-- The first byte holds the flags and the opcode. -/
theorem read_b0 :
    let h := BasicHeader.write op size fin mask rsv1 rsv2 rsv3
    getFin h = fin ∧ getRsv1 h = rsv1 ∧ getRsv2 h = rsv2 ∧ getRsv3 h = rsv3 ∧
      getOpcode h = op := by
  have htable : ∀ n < 16, ∀ fin rsv1 rsv2 rsv3,
      let b0 := flag fin bhb0Fin ||| flag rsv1 bhb0Rsv1 ||| flag rsv2 bhb0Rsv2 |||
        flag rsv3 bhb0Rsv3 ||| (UInt8.ofNat n &&& bhb0Opcode)
      (b0 &&& bhb0Fin == bhb0Fin) = fin ∧ (b0 &&& bhb0Rsv1 == bhb0Rsv1) = rsv1 ∧
        (b0 &&& bhb0Rsv2 == bhb0Rsv2) = rsv2 ∧ (b0 &&& bhb0Rsv3 == bhb0Rsv3) = rsv3 ∧
        (b0 &&& bhb0Opcode).toNat = n := by
    decide +kernel
  obtain ⟨hfin, hrsv1, hrsv2, hrsv3, hop⟩ := htable op.value op.value_lt fin rsv1 rsv2 rsv3
  exact ⟨hfin, hrsv1, hrsv2, hrsv3, (congrArg Opcode.ofValue hop).trans op.ofValue_value⟩

theorem basicValue_lt : basicValue size < 128 := by
  unfold basicValue payloadSizeBasic payloadSizeCode16bit payloadSizeCode64bit
  split
  · omega
  · split <;> decide

/-- The second byte holds the mask bit and the seven bits of the size. -/
theorem read_b1 :
    let h := BasicHeader.write op size fin mask rsv1 rsv2 rsv3
    getMasked h = mask ∧ getBasicSize h = basicValue size := by
  have htable : ∀ mask, ∀ n < 128,
      ((flag mask bhb1Mask ||| UInt8.ofNat n) &&& bhb1Mask == bhb1Mask) = mask ∧
        ((flag mask bhb1Mask ||| UInt8.ofNat n) &&& bhb1Payload).toNat = n := by
    decide +kernel
  exact htable mask _ (basicValue_lt size)

/-- The masking key stands behind the bytes of the length. -/
theorem getMaskingKeyOffset_write :
    getMaskingKeyOffset (.write op size fin mask rsv1 rsv2 rsv3) = 8 - payloadOffset size := by
  unfold getMaskingKeyOffset
  rw [(read_b1 op size fin mask rsv1 rsv2 rsv3).2]
  unfold basicValue payloadOffset payloadSizeBasic payloadSizeCode16bit payloadSizeCode64bit
  split
  case isTrue hsmall =>
    rw [if_neg (by omega), if_neg (by omega)]
  case isFalse =>
    split <;> rfl

theorem length_copyPayload : (copyPayload size).length = 8 - payloadOffset size := by
  unfold copyPayload
  rw [List.length_drop, BigEndian.length_write]

/-- The length of an extended header, with the key if there is one. -/
theorem getHeaderLen_write :
    getHeaderLen (.write op size fin mask rsv1 rsv2 rsv3) - basicHeaderLength =
      (copyPayload size).length + if mask then 4 else 0 := by
  unfold getHeaderLen
  rw [getMaskingKeyOffset_write, (read_b1 op size fin mask rsv1 rsv2 rsv3).1, length_copyPayload]
  omega

/-- **The length**: it is read back from the bytes of the header, whatever is behind it. -/
theorem getPayloadSize_write (hsize : size < 2 ^ 64) (rest : List UInt8) :
    getPayloadSize (.write op size fin mask rsv1 rsv2 rsv3) (copyPayload size ++ rest) = size := by
  unfold getPayloadSize getExtendedSize getJumboSize
  rw [(read_b1 op size fin mask rsv1 rsv2 rsv3).2]
  unfold basicValue copyPayload payloadOffset payloadSizeBasic payloadSizeExtended
    payloadSizeCode16bit payloadSizeCode64bit
  by_cases hsmall : size ≤ 125
  · rw [if_pos hsmall, if_pos hsmall]
  by_cases hmiddle : size ≤ 0xffff
  · rw [if_neg hsmall, if_neg hsmall, if_pos hmiddle, if_pos hmiddle, if_neg (by decide),
      if_pos rfl]
    have hdrop : (BigEndian.write 8 size).drop 6 = BigEndian.write 2 size :=
      BigEndian.write_drop 6 2 size
    rw [hdrop, List.take_left' (BigEndian.length_write 2 size), BigEndian.read_write]
    omega
  · rw [if_neg hsmall, if_neg hsmall, if_neg hmiddle, if_neg hmiddle, if_neg (by decide),
      if_neg (by decide), List.drop_zero, List.take_left' (BigEndian.length_write 8 size),
      BigEndian.read_write]
    omega

theorem ofBytes_c (key : MaskingKey) : MaskingKey.ofBytes key.c = key := by
  unfold MaskingKey.ofBytes MaskingKey.c byteAt
  apply BitVec.eq_of_getLsbD_eq
  intro k hk
  simp only [List.getD_cons_zero, List.getD_cons_succ, BitVec.getLsbD_append,
    BitVec.getLsbD_extractLsb']
  grind

/-- **The masking key**: it is read back from behind the length. -/
theorem getMaskingKey_write (key : MaskingKey) (rest : List UInt8) :
    getMaskingKey (.write op size fin true rsv1 rsv2 rsv3)
      (copyPayload size ++ key.c ++ rest) = key := by
  have hlength : (copyPayload size).length =
      getMaskingKeyOffset (.write op size fin true rsv1 rsv2 rsv3) := by
    rw [length_copyPayload, getMaskingKeyOffset_write]
  have hc : (key.c ++ rest).take 4 = key.c := List.take_left' rfl
  unfold getMaskingKey
  rw [(read_b1 op size fin true rsv1 rsv2 rsv3).1, ← hlength, List.append_assoc, List.drop_left,
    hc]
  exact ofBytes_c key

end Reading

/-! ## Masking -/

/-- A `size_t` of the 64-bit build. -/
abbrev Word := BitVec 64

/-- A circular shift by whole bytes, as `circshift_prepared_key` makes it. -/
def circshift (word : Word) (offset : ℕ) : Word :=
  if offset = 0 then word else word >>> (offset * 8) ||| word <<< ((8 - offset) * 8)

/-- A byte of a shifted word is a byte of the word. -/
theorem byteAt_circshift (word : Word) {offset i : ℕ} (hoffset : offset < 8) (hi : i < 8) :
    byteAt (circshift word offset) i = byteAt word ((i + offset) % 8) := by
  unfold circshift
  split
  case isTrue hzero => rw [hzero, Nat.add_zero, Nat.mod_eq_of_lt hi]
  case isFalse hzero =>
    unfold byteAt
    congr 1
    ext k hk
    simp only [BitVec.getElem_extractLsb', BitVec.getLsbD_or, BitVec.getLsbD_shiftLeft,
      BitVec.getLsbD_ushiftRight]
    by_cases hlow : i + offset < 8
    · have hout : 8 * i + k < (8 - offset) * 8 := by omega
      have hbit : offset * 8 + (8 * i + k) = 8 * (i + offset) + k := by omega
      rw [Nat.mod_eq_of_lt hlow, hbit]
      simp [hout]
    · -- the byte comes from the other end
      have hin : ¬ 8 * i + k < (8 - offset) * 8 := by omega
      have hwithin : 8 * i + k < 64 := by omega
      have hgone : word.getLsbD (offset * 8 + (8 * i + k)) = false :=
        BitVec.getLsbD_of_ge _ _ (by omega)
      have hbit : 8 * i + k - (8 - offset) * 8 = 8 * ((i + offset) % 8) + k := by omega
      rw [hgone, hbit]
      simp [hin, hwithin]

/-- Words with the same bytes are the same. -/
theorem word_ext {word word' : Word} (h : ∀ i < 8, byteAt word i = byteAt word' i) :
    word = word' := by
  apply BitVec.eq_of_getLsbD_eq
  intro k hk
  have hbyte := congrArg UInt8.toBitVec (h (k / 8) (by omega))
  have hbit := congrArg (BitVec.getLsbD · (k % 8)) hbyte
  have hk' : 8 * (k / 8) + k % 8 = k := by omega
  have hlt : k % 8 < 8 := by omega
  simpa [byteAt, BitVec.getLsbD_extractLsb', hk', hlt] using hbit

/-- A masking key prepared for whole words: a word that holds the four bytes twice. -/
@[ext] structure PreparedKey where
  word : Word
  doubled : ∀ i < 4, byteAt word (i + 4) = byteAt word i

/-- In a prepared key only the position within the four bytes counts. -/
theorem PreparedKey.byteAt_eq (key : PreparedKey) {i : ℕ} (hi : i < 8) :
    byteAt key.word i = byteAt key.word (i % 4) := by
  by_cases hlow : i < 4
  · rw [Nat.mod_eq_of_lt hlow]
  · have hdoubled := key.doubled (i - 4) (by omega)
    have hback : i - 4 + 4 = i := by omega
    have hmod : i % 4 = i - 4 := by omega
    rw [hmod, ← hdoubled, hback]

theorem byteAt_prepared (key : MaskingKey) {i : ℕ} (hi : i < 8) :
    byteAt (key.setWidth 64 <<< 32 ||| key.setWidth 64) i = byteAt key (i % 4) := by
  unfold byteAt
  congr 1
  ext k hk
  have hwithin : 8 * i + k < 64 := by omega
  simp only [BitVec.getElem_extractLsb', BitVec.getLsbD_or, BitVec.getLsbD_shiftLeft,
    BitVec.getLsbD_setWidth]
  by_cases hlow : i < 4
  · have hbit : 8 * i + k < 32 := by omega
    simp [hbit, hwithin, Nat.mod_eq_of_lt hlow]
  · have hbit : ¬ 8 * i + k < 32 := by omega
    have hgone : key.getLsbD (8 * i + k) = false := BitVec.getLsbD_of_ge _ _ (by omega)
    have hback : 8 * i + k - 32 = 8 * (i % 4) + k := by omega
    have hlt : 8 * (i % 4) + k < 64 := by omega
    rw [hgone, hback]
    simp [hbit, hwithin, hlt]

/-- `prepare_masking_key`. -/
def prepareMaskingKey (key : MaskingKey) : PreparedKey where
  word := key.setWidth 64 <<< 32 ||| key.setWidth 64
  doubled i hi := by
    rw [byteAt_prepared key (by omega), byteAt_prepared key (by omega), Nat.add_mod_right]

/-- `circshift_prepared_key`. -/
def circshiftPreparedKey (key : PreparedKey) (offset : ℕ) (hoffset : offset < 8) :
    PreparedKey where
  word := circshift key.word offset
  doubled i hi := by
    rw [byteAt_circshift _ hoffset (by omega), byteAt_circshift _ hoffset (by omega),
      key.byteAt_eq (Nat.mod_lt _ (by omega)), key.byteAt_eq (Nat.mod_lt (i + offset) (by omega))]
    congr 1
    omega

/-- `byte_mask_circ`: the bytes masked, and the key for those behind them. -/
def byteMaskCirc (data : List UInt8) (key : PreparedKey) : List UInt8 × PreparedKey :=
  (data.mapIdx fun i byte => byte ^^^ byteAt key.word (i % 4),
    circshiftPreparedKey key (data.length % 4) (by omega))

/-- `byte_mask` of a whole payload. -/
def byteMask (data : List UInt8) (key : MaskingKey) : List UInt8 :=
  data.mapIdx fun i byte => byte ^^^ byteAt key (i % 4)

theorem byteAt_circshiftPreparedKey (key : PreparedKey) {offset i : ℕ} (hoffset : offset < 8)
    (hi : i < 8) :
    byteAt (circshiftPreparedKey key offset hoffset).word i =
      byteAt key.word ((i + offset) % 4) := by
  have hmod : (i + offset) % 8 % 4 = (i + offset) % 4 := by omega
  unfold circshiftPreparedKey
  rw [byteAt_circshift _ hoffset hi, key.byteAt_eq (Nat.mod_lt _ (by omega)), hmod]

/-- **In pieces**: two pieces are masked like one, with the key shifted in between. -/
theorem byteMaskCirc_append (xs ys : List UInt8) (key : PreparedKey) :
    byteMaskCirc (xs ++ ys) key =
      ((byteMaskCirc xs key).1 ++ (byteMaskCirc ys (byteMaskCirc xs key).2).1,
        (byteMaskCirc ys (byteMaskCirc xs key).2).2) := by
  unfold byteMaskCirc
  dsimp only
  rw [Prod.mk.injEq]
  constructor
  · rw [List.mapIdx_append]
    congr 1
    apply List.ext_getElem
    · simp
    · intro i hi hi'
      have hmod : (i % 4 + xs.length % 4) % 4 = (i + xs.length) % 4 := by omega
      rw [List.getElem_mapIdx, List.getElem_mapIdx,
        byteAt_circshiftPreparedKey _ _ (by omega), hmod]
  · apply PreparedKey.ext
    apply word_ext
    intro i hi
    have hmod : ((i + ys.length % 4) % 4 + xs.length % 4) % 4 =
        (i + (xs ++ ys).length % 4) % 4 := by
      rw [List.length_append]
      omega
    rw [byteAt_circshiftPreparedKey _ _ hi, byteAt_circshiftPreparedKey _ _ hi,
      byteAt_circshiftPreparedKey _ _ (by omega), hmod]

/-- **Masking twice**: a prepared key takes off what its key has put on. -/
theorem byteMaskCirc_byteMask (data : List UInt8) (key : MaskingKey) :
    (byteMaskCirc (byteMask data key) (prepareMaskingKey key)).1 = data := by
  unfold byteMaskCirc byteMask
  apply List.ext_getElem
  · simp
  · intro i hi hi'
    rw [List.getElem_mapIdx, List.getElem_mapIdx]
    unfold prepareMaskingKey
    rw [byteAt_prepared key (by omega), Nat.mod_mod, UInt8.xor_assoc, UInt8.xor_self,
      UInt8.xor_zero]

end Frame

end BallchasingReplayPlayer
