import BallchasingReplayPlayer.Websocket.Frame
import BallchasingReplayPlayer.Websocket.Utf8

/-!
# The Frame Processor of websocketpp

`processors/hybi13.hpp`: the state machine that reads frames from the bytes of a connection, and the
functions that prepare frames for sending. The configuration of the plugin has no compression, so
`m_permessage_deflate.is_enabled()` is false throughout.

## Layers

1. `Processor`: the members of `hybi13`
2. `copyBasicHeaderBytes` to `finalizeMessage`: the parts of `consume`
3. `consume` and `getMessage`: bytes in, messages out
4. `prepareDataFrame` and `prepareControl`: messages in, frames out

## Source

- `hybi13::consume` ↔ `consumeRound` and `consume`
- `hybi13::validate_incoming_basic_header` ↔ `validateIncomingBasicHeader`
- `connection::handle_read_frame` ↔ `readLoop`
-/

namespace BallchasingReplayPlayer

open BallchasingReplayPlayer.Frame Utf8Validator

/-! ## Members -/

/-- `processor::error::processor_errors`, as far as they are used. -/
inductive ProcessorError where
  | general
  | messageTooBig
  | invalidPayload
  | invalidOpcode
  | controlTooBig
  | invalidRsvBit
  | fragmentedControl
  | invalidContinuation
  | maskingRequired
  | maskingForbidden
  | nonMinimalEncoding
  | invalidUtf8
  | reservedCloseCode
  | invalidCloseCode
  | reasonRequiresCode
deriving DecidableEq, Repr

/-- A message buffer that is read into. -/
structure Message where
  opcode : Opcode
  payload : List UInt8
deriving DecidableEq, Repr

/-- `msg_metadata` with a message buffer. -/
structure MsgMetadata where
  msg : Message
  preparedKey : PreparedKey
  validator : Validator

/-- The constructor of `msg_metadata`. -/
def MsgMetadata.start (op : Opcode) (key : MaskingKey) : MsgMetadata where
  msg := ⟨op, []⟩
  preparedKey := prepareMaskingKey key
  validator := .fresh

/-- `hybi13::state`. -/
inductive ReadState where
  | headerBasic
  | headerExtended
  | extension
  | application
  | ready
  | fatalError
deriving DecidableEq, Repr

/-- The members of `hybi13`. `dataMsg` and `controlMsg` are there while their `msg_ptr` is, and
    `currentIsControl` says which of them `m_current_msg` points to. -/
structure Processor where
  isServer : Bool
  maxMessageSize : ℕ
  state : ReadState
  bytesNeeded : ℕ
  cursor : ℕ
  basicHeader : BasicHeader
  extendedHeader : ExtendedHeader
  dataMsg : Option MsgMetadata
  controlMsg : Option MsgMetadata
  currentIsControl : Bool

/-- `config::max_message_size`. -/
def maxMessageSize : ℕ := 32000000

namespace Processor

/-- `reset_headers`. -/
def resetHeaders (s : Processor) : Processor :=
  { s with
    state := .headerBasic
    bytesNeeded := basicHeaderLength
    basicHeader := ⟨0, 0⟩
    extendedHeader := zeroHeader }

/-- A processor as `get_processor` makes it. -/
def fresh (isServer : Bool) : Processor where
  isServer := isServer
  maxMessageSize := BallchasingReplayPlayer.maxMessageSize
  state := .headerBasic
  bytesNeeded := basicHeaderLength
  cursor := 0
  basicHeader := ⟨0, 0⟩
  extendedHeader := zeroHeader
  dataMsg := none
  controlMsg := none
  currentIsControl := false

/-- What `m_current_msg` points to. -/
def currentMsg (s : Processor) : Option MsgMetadata :=
  if s.currentIsControl then s.controlMsg else s.dataMsg

/-- What `m_current_msg` points to is replaced. -/
def setCurrentMsg (s : Processor) (m : Option MsgMetadata) : Processor :=
  if s.currentIsControl then { s with controlMsg := m } else { s with dataMsg := m }

/-! ## The Parts of `consume` -/

/-- `copy_basic_header_bytes`. -/
def copyBasicHeaderBytes (s : Processor) (buf : List UInt8) : ℕ × Processor :=
  if s.bytesNeeded = 0 then (0, s)
  else
    match buf with
    | [] => (0, s)
    | [b] =>
      if s.bytesNeeded = 2 then
        (1, { s with basicHeader.b0 := b, bytesNeeded := s.bytesNeeded - 1 })
      else (1, { s with basicHeader.b1 := b, bytesNeeded := s.bytesNeeded - 1 })
    | b :: c :: _ =>
      if s.bytesNeeded = 2 then
        (2, { s with basicHeader := ⟨b, c⟩, bytesNeeded := s.bytesNeeded - 2 })
      else (1, { s with basicHeader.b1 := b, bytesNeeded := s.bytesNeeded - 1 })

/-- `copy_extended_header_bytes`. -/
def copyExtendedHeaderBytes (s : Processor) (buf : List UInt8) : ℕ × Processor :=
  let bytesToRead := min s.bytesNeeded buf.length
  (bytesToRead,
    { s with
      extendedHeader := copyTo s.extendedHeader s.cursor (buf.take bytesToRead)
      cursor := s.cursor + bytesToRead
      bytesNeeded := s.bytesNeeded - bytesToRead })

/-- `validate_incoming_basic_header`. -/
def validateIncomingBasicHeader (h : BasicHeader) (isServer newMsg : Bool) :
    Except ProcessorError Unit :=
  let op := getOpcode h
  if op.isControl ∧ payloadSizeBasic < getBasicSize h then .error .controlTooBig
  else if getRsv1 h then .error .invalidRsvBit
  else if getRsv2 h ∨ getRsv3 h then .error .invalidRsvBit
  else if op.reserved then .error .invalidOpcode
  else if op.invalid then .error .invalidOpcode
  else if op.isControl ∧ !getFin h then .error .fragmentedControl
  else if newMsg ∧ op = .continuation then .error .invalidContinuation
  else if !newMsg ∧ !op.isControl ∧ op ≠ .continuation then .error .invalidContinuation
  else if isServer ∧ !getMasked h then .error .maskingRequired
  else if !isServer ∧ getMasked h then .error .maskingForbidden
  else .ok ()

/-- `validate_incoming_extended_header`. -/
def validateIncomingExtendedHeader (h : BasicHeader) (e : ExtendedHeader) :
    Except ProcessorError Unit :=
  let payloadSize := getPayloadSize h e
  if getBasicSize h = payloadSizeCode16bit ∧ payloadSize ≤ payloadSizeBasic then
    .error .nonMinimalEncoding
  else if getBasicSize h = payloadSizeCode64bit ∧ payloadSize ≤ payloadSizeExtended then
    .error .nonMinimalEncoding
  else .ok ()

/-- The end of the basic header: it is validated, and the rest of the header is needed. -/
def basicHeaderRead (s : Processor) : Except ProcessorError Processor :=
  match validateIncomingBasicHeader s.basicHeader s.isServer s.dataMsg.isNone with
  | .error e => .error e
  | .ok () =>
    .ok { s with
      state := .headerExtended
      cursor := 0
      bytesNeeded := getHeaderLen s.basicHeader - basicHeaderLength }

/-- The end of the header: the payload is needed, for a new message or for the one it continues. -/
def extendedHeaderRead (s : Processor) : Except ProcessorError Processor :=
  match validateIncomingExtendedHeader s.basicHeader s.extendedHeader with
  | .error e => .error e
  | .ok () =>
    let size := getPayloadSize s.basicHeader s.extendedHeader
    let op := getOpcode s.basicHeader
    let key := getMaskingKey s.basicHeader s.extendedHeader
    let s := { s with state := .application, bytesNeeded := size }
    if op.isControl then
      .ok { s with controlMsg := some (.start op key), currentIsControl := true }
    else
      match s.dataMsg with
      | none =>
        if s.maxMessageSize < size then .error .messageTooBig
        else .ok { s with dataMsg := some (.start op key), currentIsControl := false }
      | some m =>
        -- the sum is one of `size_t`
        if s.maxMessageSize < (m.msg.payload.length + size) % 2 ^ 64 then .error .messageTooBig
        else
          .ok { s with
            dataMsg := some { m with preparedKey := prepareMaskingKey key }
            currentIsControl := false }

/-- The payload bytes of a frame unmasked, and the key for those behind them. -/
def unmask (h : BasicHeader) (buf : List UInt8) (key : PreparedKey) : List UInt8 × PreparedKey :=
  if getMasked h then byteMaskCirc buf key else (buf, key)

/-- The bytes of a text are validated. -/
def validateText (m : MsgMetadata) (bytes : List UInt8) : Validator × Bool :=
  if m.msg.opcode = .text then decode m.validator bytes else (m.validator, true)

/-- Payload bytes are unmasked, appended to the message and validated. -/
def appendPayload (m : MsgMetadata) (h : BasicHeader) (buf : List UInt8) :
    Except ProcessorError MsgMetadata :=
  let unmasked := unmask h buf m.preparedKey
  let validated := validateText m unmasked.1
  if validated.2 then
    .ok ⟨⟨m.msg.opcode, m.msg.payload ++ unmasked.1⟩, unmasked.2, validated.1⟩
  else .error .invalidUtf8

/-- `process_payload_bytes`. -/
def processPayloadBytes (s : Processor) (buf : List UInt8) : Except ProcessorError Processor :=
  match s.currentMsg with
  -- a frame in `APPLICATION` has a message
  | none => .ok { s with bytesNeeded := s.bytesNeeded - buf.length }
  | some m =>
    (appendPayload m s.basicHeader buf).map fun m' =>
      { s.setCurrentMsg (some m') with bytesNeeded := s.bytesNeeded - buf.length }

/-- `finalize_message`. -/
def finalizeMessage (s : Processor) : Except ProcessorError Processor :=
  -- it asks for the opcode of the last frame, not of the message
  if getOpcode s.basicHeader = .text ∧ s.currentMsg.any (!·.validator.complete) then
    .error .invalidUtf8
  else .ok { s with state := .ready }

/-- The end of the payload. -/
def payloadRead (s : Processor) : Except ProcessorError Processor :=
  if getFin s.basicHeader then s.finalizeMessage else .ok s.resetHeaders

/-! ## `consume` -/

/-- One round of the loop of `consume`: the number of bytes it takes and the state behind it. -/
def consumeRound (s : Processor) (buf : List UInt8) : Except ProcessorError (ℕ × Processor) :=
  match s.state with
  | .headerBasic =>
    let (p, s') := s.copyBasicHeaderBytes buf
    if 0 < s'.bytesNeeded then .ok (p, s') else (s'.basicHeaderRead).map (p, ·)
  | .headerExtended =>
    let (p, s') := s.copyExtendedHeaderBytes buf
    if 0 < s'.bytesNeeded then .ok (p, s') else (s'.extendedHeaderRead).map (p, ·)
  | .extension => .ok (0, { s with state := .application })
  | .application =>
    let bytesToProcess := min s.bytesNeeded buf.length
    match (if 0 < bytesToProcess then s.processPayloadBytes (buf.take bytesToProcess)
      else .ok s) with
    | .error e => .error e
    | .ok s' =>
      if 0 < s'.bytesNeeded then .ok (bytesToProcess, s')
      else (s'.payloadRead).map (bytesToProcess, ·)
  | .ready | .fatalError => .error .general

/-- A round that takes no byte leads to a field behind this one. -/
def rank (s : Processor) : ℕ :=
  match s.state with
  | .headerBasic => if s.bytesNeeded = 0 then 3 else 0
  | .headerExtended => if s.bytesNeeded = 0 then 2 else 0
  | .extension => 2
  | .application => if s.bytesNeeded = 0 then 1 else 0
  | .ready | .fatalError => 0

theorem basicHeaderRead_cases {s s' : Processor} (h : s.basicHeaderRead = .ok s') :
    validateIncomingBasicHeader s.basicHeader s.isServer s.dataMsg.isNone = .ok () ∧
      s' = { s with
        state := .headerExtended
        cursor := 0
        bytesNeeded := getHeaderLen s.basicHeader - basicHeaderLength } := by
  unfold basicHeaderRead at h
  cases hvalid : validateIncomingBasicHeader s.basicHeader s.isServer s.dataMsg.isNone with
  | error e =>
    rw [hvalid] at h
    cases h
  | ok u =>
    rw [hvalid] at h
    cases h
    exact ⟨rfl, rfl⟩

/-- Behind a header the payload is needed. -/
theorem extendedHeaderRead_state {s s' : Processor} (h : s.extendedHeaderRead = .ok s') :
    s'.state = .application ∧ s'.bytesNeeded = getPayloadSize s.basicHeader s.extendedHeader := by
  unfold extendedHeaderRead at h
  split at h
  · cases h
  dsimp only at h
  split at h
  · cases h
    exact ⟨rfl, rfl⟩
  split at h
  all_goals
    split at h
    · cases h
    · cases h
      exact ⟨rfl, rfl⟩

/-- Behind a payload the message is ready, or another frame begins. -/
theorem payloadRead_cases {s s' : Processor} (h : s.payloadRead = .ok s') :
    s' = { s with state := .ready } ∨ s' = s.resetHeaders := by
  unfold payloadRead at h
  split at h
  · unfold finalizeMessage at h
    split at h
    · cases h
    · cases h
      exact Or.inl rfl
  · cases h
    exact Or.inr rfl

theorem map_ok {α β ε : Type} {f : α → β} {x : Except ε α} {b : β} (h : x.map f = .ok b) :
    ∃ a, x = .ok a ∧ f a = b := by
  cases x with
  | error e => cases h
  | ok a =>
    cases h
    exact ⟨a, rfl, rfl⟩

theorem setCurrentMsg_state (s : Processor) (m : Option MsgMetadata) :
    (s.setCurrentMsg m).state = s.state := by
  unfold setCurrentMsg
  split
  · rfl
  · rfl

theorem processPayloadBytes_state {s s' : Processor} {buf : List UInt8}
    (h : s.processPayloadBytes buf = .ok s') :
    s'.state = s.state ∧ s'.bytesNeeded = s.bytesNeeded - buf.length := by
  unfold processPayloadBytes at h
  split at h
  · cases h
    exact ⟨rfl, rfl⟩
  · obtain ⟨m', -, rfl⟩ := map_ok h
    exact ⟨s.setCurrentMsg_state _, rfl⟩

theorem rank_le (s : Processor) : s.rank ≤ 3 := by
  unfold rank
  split
  all_goals first | omega | split <;> omega

/-- What `copy_basic_header_bytes` takes and still needs. -/
theorem copyBasicHeaderBytes_state (s : Processor) (buf : List UInt8) :
    (s.copyBasicHeaderBytes buf).1 ≤ buf.length ∧
      (s.copyBasicHeaderBytes buf).2.bytesNeeded =
        s.bytesNeeded - (s.copyBasicHeaderBytes buf).1 ∧
      (s.bytesNeeded ≠ 0 → buf ≠ [] → 0 < (s.copyBasicHeaderBytes buf).1) := by
  unfold copyBasicHeaderBytes
  by_cases hzero : s.bytesNeeded = 0
  · simp [hzero]
  · rw [if_neg hzero]
    split
    · simp
    · split <;> simp
    · split <;> simp

theorem rank_headerExtended {s : Processor} (h : s.state = .headerExtended) : s.rank ≤ 2 := by
  unfold rank
  rw [h]
  dsimp only
  split <;> omega

theorem rank_application {s : Processor} (h : s.state = .application) : s.rank ≤ 1 := by
  unfold rank
  rw [h]
  dsimp only
  split <;> omega

theorem decreases_of_pos (s s' : Processor) {buf : List UInt8} {p : ℕ} (hpos : 0 < p)
    (hle : p ≤ buf.length) :
    4 * (buf.drop p).length + s'.rank < 4 * buf.length + s.rank := by
  have hrank := s'.rank_le
  rw [List.length_drop]
  omega

theorem decreases_of_rank {s s' : Processor} (buf : List UInt8) (p : ℕ)
    (hrank : s'.rank < s.rank) :
    4 * (buf.drop p).length + s'.rank < 4 * buf.length + s.rank := by
  rw [List.length_drop]
  omega

/-- **Step lemma**: a round takes bytes or gets to a later field. -/
theorem consumeRound_decreases {s s' : Processor} {buf : List UInt8} {p : ℕ}
    (hloop : buf ≠ [] ∨ s.bytesNeeded = 0) (h : s.consumeRound buf = .ok (p, s')) :
    4 * (buf.drop p).length + s'.rank < 4 * buf.length + s.rank := by
  have hmin : s.bytesNeeded ≠ 0 → 0 < min s.bytesNeeded buf.length := by
    intro hneeded
    have hlength := List.length_pos_iff.mpr (hloop.resolve_right hneeded)
    omega
  unfold consumeRound at h
  split at h
  -- in each field either bytes are taken, or none were needed and a later one is next
  case h_1 hstate =>
    obtain ⟨hp, hneeded, hpos⟩ := s.copyBasicHeaderBytes_state buf
    dsimp only at h
    split at h
    case isTrue hmore =>
      cases h
      exact decreases_of_pos _ _ (hpos (by omega) (hloop.resolve_right (by omega))) hp
    case isFalse hdone =>
      obtain ⟨t, ht, hpair⟩ := map_ok h
      cases hpair
      by_cases hzero : s.bytesNeeded = 0
      · have hs : s.rank = 3 := by simp [rank, hstate, hzero]
        have hs' : s'.state = .headerExtended := by rw [(basicHeaderRead_cases ht).2]
        have hrank := rank_headerExtended hs'
        exact decreases_of_rank _ _ (by omega)
      · exact decreases_of_pos _ _ (hpos hzero (hloop.resolve_right hzero)) hp
  case h_2 hstate =>
    have hp : (s.copyExtendedHeaderBytes buf).1 = min s.bytesNeeded buf.length := rfl
    have hneeded : (s.copyExtendedHeaderBytes buf).2.bytesNeeded =
      s.bytesNeeded - min s.bytesNeeded buf.length := rfl
    dsimp only at h
    split at h
    case isTrue hmore =>
      cases h
      exact decreases_of_pos _ _ (hmin (by omega)) (Nat.min_le_right _ _)
    case isFalse hdone =>
      obtain ⟨t, ht, hpair⟩ := map_ok h
      cases hpair
      by_cases hzero : s.bytesNeeded = 0
      · have hs : s.rank = 2 := by simp [rank, hstate, hzero]
        have hrank := rank_application (extendedHeaderRead_state ht).1
        exact decreases_of_rank _ _ (by omega)
      · exact decreases_of_pos _ _ (hmin hzero) (Nat.min_le_right _ _)
  case h_3 hstate =>
    cases h
    have hs : s.rank = 2 := by simp [rank, hstate]
    have hrank := rank_application (s := { s with state := .application }) rfl
    exact decreases_of_rank _ _ (by omega)
  -- a payload may be empty, and is not processed then
  case h_4 hstate =>
    dsimp only at h
    split at h
    case h_1 => cases h
    case h_2 t ht =>
      have htneeded : t.bytesNeeded = s.bytesNeeded - min s.bytesNeeded buf.length := by
        split at ht
        · obtain ⟨-, htneeded⟩ := processPayloadBytes_state ht
          rw [List.length_take] at htneeded
          omega
        · cases ht
          omega
      split at h
      case isTrue hmore =>
        cases h
        exact decreases_of_pos _ _ (hmin (by omega)) (Nat.min_le_right _ _)
      case isFalse hdone =>
        obtain ⟨t', ht', hpair⟩ := map_ok h
        cases hpair
        by_cases hzero : s.bytesNeeded = 0
        · have hs : s.rank = 1 := by simp [rank, hstate, hzero]
          have hs' : s'.rank = 0 := by
            rcases payloadRead_cases ht' with rfl | rfl
            · rfl
            · rfl
          exact decreases_of_rank _ _ (by omega)
        · exact decreases_of_pos _ _ (hmin hzero) (Nat.min_le_right _ _)
  case h_5 => cases h
  case h_6 => cases h

/-- `hybi13::consume`: the number of bytes it takes and the state behind them. What the processor
    holds behind an error is not looked at again. -/
def consume (s : Processor) (buf : List UInt8) : Except ProcessorError (ℕ × Processor) :=
  if _h : s.state ≠ .ready ∧ s.state ≠ .fatalError ∧ (buf ≠ [] ∨ s.bytesNeeded = 0) then
    match _hround : s.consumeRound buf with
    | .error e => .error e
    | .ok (p, s') => (consume s' (buf.drop p)).map fun (q, s'') => (p + q, s'')
  else .ok (0, s)
termination_by 4 * buf.length + s.rank
decreasing_by exact consumeRound_decreases _h.2.2 _hround

/-- `get_message`. -/
def getMessage (s : Processor) : Option Message × Processor :=
  if s.state = .ready then
    match s.currentMsg with
    | none => (none, s.resetHeaders)
    | some m =>
      let s' := s.setCurrentMsg none
      (some m.msg,
        (if m.msg.opcode.isControl then { s' with controlMsg := none }
          else { s' with dataMsg := none }).resetHeaders)
  else (none, s)

/-! ## The Loop over What Was Read -/

/-- How the loop of `handle_read_frame` ends: the buffer is used up, `consume` has failed, or an
    exception has left the dispatch of a message. -/
inductive ReadEnd where
  | consumed (s : Processor)
  | failed (e : ProcessorError)
  | threw

/-- The loop of `handle_read_frame`. A round takes a byte at least, so that there are no more
    rounds than bytes. `dispatch` is what lies behind `get_message`: for data the test that the
    connection is open and then the message handler, and `process_control_frame`. -/
def readLoop {τ : Type} (dispatch : Message → τ → τ × Bool) :
    ℕ → Processor → List UInt8 → τ → τ × ReadEnd
  | 0, s, _, t => (t, .consumed s)
  | fuel + 1, s, buf, t =>
    if buf = [] then (t, .consumed s)
    else
      match s.consume buf with
      | .error e => (t, .failed e)
      | .ok (p, s') =>
        if s'.state = .ready then
          match s'.getMessage with
          | (none, s'') => readLoop dispatch fuel s'' (buf.drop p) t
          | (some msg, s'') =>
            match dispatch msg t with
            | (t', true) => (t', .threw)
            | (t', false) => readLoop dispatch fuel s'' (buf.drop p) t'
        else readLoop dispatch fuel s' (buf.drop p) t

/-! ## Frames to Send -/

/-- A message buffer that is ready to be written. -/
structure OutMessage where
  header : List UInt8
  payload : List UInt8
  opcode : Opcode
  terminal : Bool
deriving DecidableEq, Repr

/-- The bytes a message is written as. -/
def OutMessage.bytes (m : OutMessage) : List UInt8 := m.header ++ m.payload

/-- Header and payload of a frame. A client masks it with a key, a server does not. -/
def frameOf (isServer : Bool) (op : Opcode) (payload : List UInt8) (fin : Bool)
    (key : MaskingKey) : OutMessage :=
  let h := BasicHeader.write op payload.length fin (!isServer) false false false
  if isServer then
    ⟨prepareHeader h (.write payload.length none), payload, op, false⟩
  else ⟨prepareHeader h (.write payload.length (some key)), byteMask payload key, op, false⟩

/-- `prepare_data_frame`, with the key the random number generator gives. -/
def prepareDataFrame (isServer : Bool) (op : Opcode) (payload : List UInt8) (fin : Bool)
    (key : MaskingKey) : Except ProcessorError OutMessage :=
  if op.isControl then .error .invalidOpcode
  else if op = .text ∧ !validate payload then .error .invalidPayload
  else .ok (frameOf isServer op payload fin key)

/-- `prepare_control`. -/
def prepareControl (isServer : Bool) (op : Opcode) (payload : List UInt8) (key : MaskingKey) :
    Except ProcessorError OutMessage :=
  if !op.isControl then .error .invalidOpcode
  else if payloadSizeBasic < payload.length then .error .controlTooBig
  else .ok (frameOf isServer op payload true key)

end Processor

end BallchasingReplayPlayer
