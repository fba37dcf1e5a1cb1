import BallchasingReplayPlayer.Websocket.Reading

/-!
# Messages from Frames

Above the bytes a connection is a sequence of frames. Frames of control are messages of their own
and may come between the frames of a message, which are put together. The frame processor makes
exactly that of the bytes of the frames that the other side writes.

## Layers

1. `assemble`: what a frame makes of the message that is open
2. `run_frame`: the processor does it with the bytes of a frame
3. `run_frames`: and with those of any number of frames
-/

namespace BallchasingReplayPlayer

open BallchasingReplayPlayer.Frame Utf8Validator FieldReader

namespace Processor

/-! ## Frames -/

/-- A frame as it is written. No `std::string` is longer than its payload. -/
structure SentFrame where
  opcode : Opcode
  fin : Bool
  payload : List UInt8
  key : MaskingKey
  small : payload.length < 2 ^ 63

namespace SentFrame

variable (f : SentFrame) (toServer : Bool)

/-- The bytes of a frame on its way to a server or to a client. -/
def bytes : List UInt8 := (frameOf (!toServer) f.opcode f.payload f.fin f.key).bytes

/-- The basic header of a frame. -/
def header : BasicHeader := .write f.opcode f.payload.length f.fin toServer false false false

/-- The bytes behind the basic header. -/
def extended : List UInt8 := copyPayload f.payload.length ++ if toServer then f.key.c else []

/-- The payload on the way. -/
def wire : List UInt8 := if toServer then byteMask f.payload f.key else f.payload

end SentFrame

/-- A text that is not refused yet. -/
def legible (m : Message) : Bool := m.opcode ≠ .text || (decode .fresh m.payload).2

/-- A frame ends a message or leaves it open. -/
def extend (f : SentFrame) (m : Message) : Result (Option Message) ProcessorError Message :=
  if BallchasingReplayPlayer.maxMessageSize < m.payload.length then .of (.error .messageTooBig)
  else if !legible m then .of (.error .invalidUtf8)
  else if !f.fin then .of (.ok (some m))
  -- a text in several frames may end inside a character
  else if f.opcode = .text ∧ !validate m.payload then .of (.error .invalidUtf8)
  else ([m], .ok none)

/-- What a frame makes of the message that is open, if there is one. -/
def assemble (opened : Option Message) (f : SentFrame) :
    Result (Option Message) ProcessorError Message :=
  if f.opcode.isControl ∧ payloadSizeBasic < f.payload.length then .of (.error .controlTooBig)
  else if f.opcode.reserved then .of (.error .invalidOpcode)
  else if f.opcode.isControl then
    if f.fin then ([⟨f.opcode, f.payload⟩], .ok opened) else .of (.error .fragmentedControl)
  else
    match opened with
    | none =>
      if f.opcode = .continuation then .of (.error .invalidContinuation)
      else extend f ⟨f.opcode, f.payload⟩
    | some m =>
      if f.opcode = .continuation then extend f ⟨m.opcode, m.payload ++ f.payload⟩
      else .of (.error .invalidContinuation)

/-- Frame by frame. -/
def assembleAll : Option Message → List SentFrame → Result (Option Message) ProcessorError Message
  | opened, [] => .of (.ok opened)
  | opened, f :: fs => (assemble opened f).andThen (assembleAll · fs)

/-! ## The Bytes of a Frame -/

namespace SentFrame

variable (f : SentFrame) (toServer : Bool)

theorem take_extendedHeader_write (size : ℕ) (key : MaskingKey) :
    (ExtendedHeader.write size none).take (copyPayload size).length = copyPayload size ∧
      (ExtendedHeader.write size (some key)).take ((copyPayload size).length + 4) =
        copyPayload size ++ key.c := by
  -- both headers begin with the bytes of the size
  have hbytes := copyTo_zero zeroHeader (copyPayload size)
  constructor
  · unfold ExtendedHeader.write
    dsimp only
    rw [hbytes, List.take_left]
  -- and the key is copied right behind them
  · unfold ExtendedHeader.write
    dsimp only
    rw [hbytes, ← length_copyPayload]
    unfold copyTo
    rw [List.take_left]
    exact List.take_left' (List.length_append.trans rfl)

/-- A frame is its basic header, the rest of the header and the payload. -/
theorem bytes_eq :
    f.bytes toServer =
      [(f.header toServer).b0, (f.header toServer).b1] ++ (f.extended toServer ++ f.wire toServer) := by
  obtain ⟨hnone, hsome⟩ := take_extendedHeader_write f.payload.length f.key
  -- how much of the extended header is sent depends on the mask bit alone
  have hlen := fun mask => getHeaderLen_write f.opcode f.payload.length f.fin mask false false false
  unfold bytes header extended wire frameOf OutMessage.bytes prepareHeader
  cases toServer with
  | true => simp [hlen, hsome]
  | false => simp [hlen, hnone]

theorem header_reads :
    getFin (f.header toServer) = f.fin ∧ getRsv1 (f.header toServer) = false ∧
      getRsv2 (f.header toServer) = false ∧ getRsv3 (f.header toServer) = false ∧
      getOpcode (f.header toServer) = f.opcode :=
  read_b0 f.opcode f.payload.length f.fin toServer false false false

theorem header_masked : getMasked (f.header toServer) = toServer :=
  (read_b1 f.opcode f.payload.length f.fin toServer false false false).1

theorem header_basicSize : getBasicSize (f.header toServer) = basicValue f.payload.length :=
  (read_b1 f.opcode f.payload.length f.fin toServer false false false).2

theorem length_extended :
    (f.extended toServer).length = getHeaderLen (f.header toServer) - basicHeaderLength := by
  unfold extended header
  rw [getHeaderLen_write, List.length_append]
  cases toServer with
  | true => rfl
  | false => rfl

theorem length_wire : (f.wire toServer).length = f.payload.length := by
  unfold wire byteMask
  cases toServer with
  | true => simp
  | false => rfl

theorem extended_size (rest : List UInt8) :
    getPayloadSize (f.header toServer) (f.extended toServer ++ rest) = f.payload.length := by
  have hsmall := f.small
  unfold extended header
  rw [List.append_assoc]
  exact getPayloadSize_write _ _ _ _ _ _ _ (by omega) _

theorem extended_key (rest : List UInt8) :
    getMaskingKey (f.header true) (f.extended true ++ rest) = f.key :=
  getMaskingKey_write f.opcode f.payload.length f.fin false false false f.key rest

/-- A small size is announced by itself. -/
theorem basicValue_small (size : ℕ) : payloadSizeBasic < basicValue size ↔ payloadSizeBasic < size := by
  unfold basicValue payloadSizeBasic payloadSizeExtended payloadSizeCode16bit payloadSizeCode64bit
  split
  · rfl
  · split <;> omega

/-- Sizes are written in their shortest form. -/
theorem validateIncomingExtendedHeader_extended (rest : List UInt8) :
    validateIncomingExtendedHeader (f.header toServer) (f.extended toServer ++ rest) = .ok () := by
  unfold validateIncomingExtendedHeader
  rw [extended_size, header_basicSize]
  unfold basicValue payloadSizeBasic payloadSizeExtended payloadSizeCode16bit payloadSizeCode64bit
  dsimp only
  -- one case for each form of the size: the sender never takes a longer one than it needs
  split_ifs
  all_goals first | rfl | omega

/-- **The other side's header**: what is refused of it. -/
theorem validateIncomingBasicHeader_header (newMsg : Bool) :
    validateIncomingBasicHeader (f.header toServer) toServer newMsg =
      if f.opcode.isControl ∧ payloadSizeBasic < f.payload.length then .error .controlTooBig
      else if f.opcode.reserved then .error .invalidOpcode
      else if f.opcode.isControl ∧ !f.fin then .error .fragmentedControl
      else if newMsg ∧ f.opcode = .continuation then .error .invalidContinuation
      else if !newMsg ∧ !f.opcode.isControl ∧ f.opcode ≠ .continuation then
        .error .invalidContinuation
      else .ok () := by
  obtain ⟨hfin, hrsv1, hrsv2, hrsv3, hop⟩ := f.header_reads toServer
  -- four bits hold no other opcode, so that check never fails
  have hvalid : f.opcode.invalid = false := by
    have hlt := f.opcode.value_lt
    simp only [Opcode.invalid, decide_eq_false_iff_not]
    omega
  -- the mask bit is the one that the receiver's role asks for
  have hmask : ¬ (toServer = true ∧ (!toServer) = true) := by cases toServer <;> simp
  have hmask' : ¬ ((!toServer) = true ∧ toServer = true) := by cases toServer <;> simp
  unfold validateIncomingBasicHeader
  simp only [hfin, hrsv1, hrsv2, hrsv3, hop, f.header_masked, f.header_basicSize,
    basicValue_small, hvalid, hmask, hmask', Bool.false_eq_true, if_false, or_self]

end SentFrame

/-! ## The Processor between Frames -/

variable {isServer : Bool} {s : Processor} {opened : Option Message}

/-- A processor that waits for a frame, with the message that is open. -/
structure Between (isServer : Bool) (s : Processor) (opened : Option Message) : Prop where
  role : s.isServer = isServer
  limit : s.maxMessageSize = BallchasingReplayPlayer.maxMessageSize
  state : s.state = .headerBasic
  needed : s.bytesNeeded = basicHeaderLength
  header : s.extendedHeader.length = maxExtendedHeaderLength
  msg : s.dataMsg.map (·.msg) = opened
  small : ∀ m ∈ s.dataMsg,
    m.msg.payload.length ≤ BallchasingReplayPlayer.maxMessageSize
  validator : ∀ m ∈ s.dataMsg, m.msg.opcode = .text →
    decode .fresh m.msg.payload = (m.validator, true)

/-- A processor at the payload of a frame, with the message it belongs to. -/
structure InPayload (isServer : Bool) (f : SentFrame) (s : Processor) (m : MsgMetadata) :
    Prop where
  role : s.isServer = isServer
  limit : s.maxMessageSize = BallchasingReplayPlayer.maxMessageSize
  state : s.state = .application
  needed : s.bytesNeeded = f.payload.length
  basic : s.basicHeader = f.header isServer
  header : s.extendedHeader.length = maxExtendedHeaderLength
  msg : s.currentMsg = some m
  key : isServer = true → m.preparedKey = prepareMaskingKey f.key

theorem between_fresh (isServer : Bool) : Between isServer (fresh isServer) none where
  role := rfl
  limit := rfl
  state := rfl
  needed := rfl
  header := rfl
  msg := rfl
  small _ h := by cases h
  validator _ h := by cases h

theorem Between.valid (hs : Between isServer s opened) : s.Valid := by
  refine ⟨hs.header, ?_⟩
  rw [hs.state]
  exact hs.needed.le

theorem Between.settled (hs : Between isServer s opened) : frameReader.Settled s := by
  refine settled_iff.mpr ⟨hs.valid, ?_, ?_⟩
  · rw [hs.state]
    decide
  · rw [hs.needed]
    decide

/-- The message that is open has got as far as the validator. -/
theorem Between.of_resetHeaders {t : Processor} (hrole : t.isServer = isServer)
    (hlimit : t.maxMessageSize = BallchasingReplayPlayer.maxMessageSize)
    (hmsg : t.dataMsg.map (·.msg) = opened)
    (hsmall : ∀ m ∈ t.dataMsg, m.msg.payload.length ≤ BallchasingReplayPlayer.maxMessageSize)
    (hvalidator : ∀ m ∈ t.dataMsg, m.msg.opcode = .text →
      decode .fresh m.msg.payload = (m.validator, true)) :
    Between isServer t.resetHeaders opened :=
  ⟨hrole, hlimit, rfl, rfl, rfl, hmsg, hsmall, hvalidator⟩

/-! ## The Headers of a Frame -/

variable {f : SentFrame} {m : MsgMetadata}

/-- The processor behind a basic header. -/
def behindBasic (s : Processor) (h : BasicHeader) : Processor :=
  { s with
    basicHeader := h
    state := .headerExtended
    cursor := 0
    bytesNeeded := getHeaderLen h - basicHeaderLength }

/-- The processor with the bytes of a header, before they are looked at. -/
def behindExtended (s : Processor) (bytes : List UInt8) : Processor :=
  { s with
    extendedHeader := copyTo s.extendedHeader 0 bytes
    cursor := bytes.length
    bytesNeeded := 0 }

theorem field_basic (hs : Between isServer s opened) (h : BasicHeader) :
    frameReader.field s [h.b0, h.b1] =
      (validateIncomingBasicHeader h isServer opened.isNone).map fun _ => s.behindBasic h := by
  have hnone : s.dataMsg.isNone = opened.isNone := by
    rw [← hs.msg, Option.isNone_map]
  have htwo : s.bytesNeeded = 2 := hs.needed
  rw [← hs.role, ← hnone]
  -- the two bytes fill the header, so that `consume` looks at it at once
  change s.absorb [h.b0, h.b1] >>= finish = _
  rw [absorb_headerBasic hs.state]
  unfold copyBasicHeaderBytes
  rw [if_neg (by omega)]
  dsimp only
  rw [if_pos htwo]
  change finish _ = _
  unfold finish
  dsimp only
  rw [hs.state]
  dsimp only
  unfold basicHeaderRead
  dsimp only
  cases validateIncomingBasicHeader h s.isServer s.dataMsg.isNone with
  | error e => rfl
  | ok u => rfl

theorem field_extended {bytes : List UInt8} (hstate : s.state = .headerExtended)
    (hcursor : s.cursor = 0) (hneeded : s.bytesNeeded = bytes.length) :
    frameReader.field s bytes = (s.behindExtended bytes).extendedHeaderRead := by
  change s.absorb bytes >>= finish = _
  -- all that is missing of the header is there, and `finish` goes on with it
  rw [absorb_headerExtended hstate]
  unfold copyExtendedHeaderBytes behindExtended
  dsimp only
  rw [hneeded, Nat.min_self, hcursor, List.take_length, Nat.zero_add, Nat.sub_self]
  change finish _ = _
  unfold finish
  dsimp only
  rw [hstate]

/-- **The header of a frame**: the payload is read next, as long as the header is not refused. -/
theorem runSettled_header (hs : Between isServer s opened) (f : SentFrame) :
    frameReader.runSettled s (f.bytes isServer) =
      (Result.of (validateIncomingBasicHeader (f.header isServer) isServer opened.isNone >>=
        fun _ => ((s.behindBasic (f.header isServer)).behindExtended
          (f.extended isServer)).extendedHeaderRead)).andThen
        (frameReader.runSettled · (f.wire isServer)) := by
  have hlength := f.length_extended isServer
  have hlength' : [(f.header isServer).b0, (f.header isServer).b1].length =
    frameReader.needed s := hs.needed.symm
  -- first the two bytes of the basic header
  rw [f.bytes_eq, Reader.runSettled_field hs.valid hs.settled.ready hlength', field_basic hs]
  cases validateIncomingBasicHeader (f.header isServer) isServer opened.isNone with
  | error e => rfl
  | ok u =>
    -- then as many bytes as it announces
    have hroom := getHeaderLen_le (f.header isServer)
    have hvalid : (s.behindBasic (f.header isServer)).Valid :=
      ⟨hs.header, (Nat.zero_add _).trans_le hroom⟩
    dsimp only [Except.map]
    rw [Result.andThen_of_ok, Reader.runSettled_field hvalid rfl hlength,
      field_extended rfl rfl hlength.symm]
    rfl

/-! ## The Payload of a Frame -/

theorem unmask_wire (h : InPayload isServer f s m) :
    (unmask s.basicHeader (f.wire isServer) m.preparedKey).1 = f.payload := by
  unfold unmask SentFrame.wire
  rw [h.basic, f.header_masked]
  cases isServer with
  -- a server takes off the mask that the client has put on
  | true =>
    rw [if_pos rfl, if_pos rfl, h.key rfl]
    exact byteMaskCirc_byteMask f.payload f.key
  | false => rfl

/-- A message with the payload of a frame at its end, and the key that is left. -/
def withPayload (m : MsgMetadata) (payload : List UInt8) (key : PreparedKey) : MsgMetadata where
  msg := ⟨m.msg.opcode, m.msg.payload ++ payload⟩
  preparedKey := key
  validator := (validateText m payload).1

/-- The processor at the end of a payload. -/
def behindPayload (s : Processor) (m : MsgMetadata) : Processor :=
  { s.setCurrentMsg (some m) with bytesNeeded := 0 }

/-- The processor behind a message that was collected. -/
def behindMessage (s : Processor) (msg : Message) : Processor :=
  (if msg.opcode.isControl then { s.setCurrentMsg none with controlMsg := none }
    else { s.setCurrentMsg none with dataMsg := none }).resetHeaders

theorem field_payload (h : InPayload isServer f s m) :
    ∃ key, frameReader.field s (f.wire isServer) =
      if (validateText m f.payload).2 then
        (s.behindPayload (withPayload m f.payload key)).payloadRead
      else .error .invalidUtf8 := by
  refine ⟨(unmask s.basicHeader (f.wire isServer) m.preparedKey).2, ?_⟩
  have hneeded : s.bytesNeeded - (f.wire isServer).length = 0 := by
    rw [h.needed, f.length_wire, Nat.sub_self]
  have hpayload := unmask_wire h
  change s.absorb (f.wire isServer) >>= finish = _
  rw [absorb_application h.state]
  unfold processPayloadBytes
  rw [h.msg]
  dsimp only
  -- the payload is unmasked where it lies, and a text goes through the validator
  unfold appendPayload
  dsimp only
  rw [hpayload, hneeded]
  split
  case isTrue =>
    change finish _ = _
    unfold finish
    dsimp only
    rw [setCurrentMsg_state, h.state]
    rfl
  case isFalse => rfl

theorem collect_ready (hstate : s.state = .ready) (hm : s.currentMsg = some m) :
    s.collect = (m.msg, s.behindMessage m.msg) := by
  unfold collect
  rw [getMessage_ready hstate hm]
  rfl

theorem behindMessage_ready (s : Processor) (msg : Message) :
    behindMessage { s with state := .ready } msg = s.behindMessage msg := by
  unfold behindMessage setCurrentMsg
  dsimp only
  split
  · split
    · rfl
    · rfl
  · split
    · rfl
    · rfl

/-- The end of a payload, by the fields of its frame. -/
theorem payloadRead_eq (hbasic : s.basicHeader = f.header isServer) (hm : s.currentMsg = some m) :
    s.payloadRead =
      if !f.fin then .ok s.resetHeaders
      else if f.opcode = .text ∧ !m.validator.complete then .error .invalidUtf8
      else .ok { s with state := .ready } := by
  -- `finalize_message` looks at the last header, not at the message
  obtain ⟨hfin, -, -, -, hop⟩ := f.header_reads isServer
  rw [← hbasic] at hfin hop
  unfold payloadRead finalizeMessage
  rw [hfin, hop, hm, Option.any_some]
  cases f.fin with
  | true => rfl
  | false => rfl

/-- **The payload of a frame**: what becomes of the message. -/
theorem runSettled_payload (h : InPayload isServer f s m) :
    ∃ key, frameReader.runSettled s (f.wire isServer) =
      if !(validateText m f.payload).2 then Result.of (.error .invalidUtf8)
      else if !f.fin then
        Result.of (.ok (s.behindPayload (withPayload m f.payload key)).resetHeaders)
      else if f.opcode = .text ∧ !(validateText m f.payload).1.complete then
        Result.of (.error .invalidUtf8)
      else
        ([(withPayload m f.payload key).msg],
          .ok ((s.behindPayload (withPayload m f.payload key)).behindMessage
            (withPayload m f.payload key).msg)) := by
  obtain ⟨key, hfield⟩ := field_payload h
  refine ⟨key, ?_⟩
  have hvalid : s.Valid := by
    refine ⟨h.header, ?_⟩
    rw [h.state]
    dsimp only
    rw [h.msg]
    rfl
  have hready : frameReader.ready s = false := by simp [frameReader, h.state]
  have hlength : (f.wire isServer).length = frameReader.needed s :=
    (f.length_wire isServer).trans h.needed.symm
  -- the payload is one field of the reader, with nothing behind it
  have hsplit := Reader.runSettled_field hvalid hready hlength []
  rw [List.append_nil] at hsplit
  rw [hsplit, hfield]
  have hheader : (s.behindPayload (withPayload m f.payload key)).basicHeader =
      f.header isServer := by
    rw [← h.basic]
    unfold behindPayload setCurrentMsg
    dsimp only
    split
    · rfl
    · rfl
  have hmsg : (s.behindPayload (withPayload m f.payload key)).currentMsg =
    some (withPayload m f.payload key) := s.currentMsg_setCurrentMsg _
  rw [payloadRead_eq hheader hmsg]
  generalize s.behindPayload (withPayload m f.payload key) = t at hmsg ⊢
  cases hread : (validateText m f.payload).2 with
  | false => rfl
  | true =>
    cases hlast : f.fin with
    -- more frames follow: the processor waits for the next header
    | false =>
      have hreset := settled_iff.mpr ⟨t.resetHeaders_valid, ReadState.noConfusion,
        Nat.succ_ne_zero 1⟩
      refine (Result.andThen_of_ok t.resetHeaders _).trans ?_
      rw [Reader.runSettled_of_settled hreset]
      rfl
    | true =>
      by_cases htext : f.opcode = .text ∧ !(validateText m f.payload).1.complete
      -- a text that ends inside a character is refused
      · have htext' : f.opcode = .text ∧ !(withPayload m f.payload key).validator.complete := htext
        simp only [htext, htext']
        rfl
      -- otherwise the message is ready, and `get_message` resets the processor
      · have hready' : frameReader.ready { t with state := .ready } = true := by simp [frameReader]
        have hcollect : collect { t with state := .ready } =
            ((withPayload m f.payload key).msg, t.behindMessage (withPayload m f.payload key).msg) := by
          rw [← behindMessage_ready]
          exact collect_ready (s := { t with state := .ready }) rfl hmsg
        have hrun := Reader.runSettled_of_ready hready' []
        have hcollect' : frameReader.collect { t with state := .ready } = _ := hcollect
        rw [hcollect'] at hrun
        have htext' : ¬ (f.opcode = .text ∧
          (!(withPayload m f.payload key).validator.complete) = true) := htext
        have hlast' : ¬ (!true) = true := Bool.false_ne_true
        rw [if_pos rfl, if_neg hlast', if_neg htext', if_neg hlast', if_neg hlast', if_neg htext]
        exact (Result.andThen_of_ok _ _).trans hrun

/-! ## A Frame -/

/-- The processor at the payload of a frame, with the messages it has then. -/
def atPayload (s : Processor) (isServer : Bool) (f : SentFrame) (data control : Option MsgMetadata)
    (currentIsControl : Bool) : Processor :=
  { (s.behindBasic (f.header isServer)).behindExtended (f.extended isServer) with
    state := .application
    bytesNeeded := f.payload.length
    dataMsg := data
    controlMsg := control
    currentIsControl := currentIsControl }

theorem extendedHeaderRead_eq (hs : Between isServer s opened) (f : SentFrame) :
    ∃ key, (isServer = true → key = f.key) ∧
      ((s.behindBasic (f.header isServer)).behindExtended (f.extended isServer)).extendedHeaderRead =
        if f.opcode.isControl then
          .ok (s.atPayload isServer f s.dataMsg (some (.start f.opcode key)) true)
        else
          match s.dataMsg with
          | none =>
            if BallchasingReplayPlayer.maxMessageSize < f.payload.length then .error .messageTooBig
            else .ok (s.atPayload isServer f (some (.start f.opcode key)) s.controlMsg false)
          | some m =>
            if BallchasingReplayPlayer.maxMessageSize <
                (m.msg.payload.length + f.payload.length) % 2 ^ 64 then .error .messageTooBig
            else
              .ok (s.atPayload isServer f
                (some { m with preparedKey := prepareMaskingKey key }) s.controlMsg false) := by
  have hcopy := copyTo_zero s.extendedHeader (f.extended isServer)
  have hop : getOpcode (f.header isServer) = f.opcode := (f.header_reads isServer).2.2.2.2
  refine ⟨getMaskingKey (f.header isServer) (copyTo s.extendedHeader 0 (f.extended isServer)), ?_, ?_⟩
  · rintro rfl
    rw [hcopy, f.extended_key]
  -- both reads of the header go through the part that was copied
  · unfold extendedHeaderRead
    have hvalid : validateIncomingExtendedHeader (f.header isServer)
        (copyTo s.extendedHeader 0 (f.extended isServer)) = .ok () := by
      rw [hcopy, f.validateIncomingExtendedHeader_extended]
    have hsize : getPayloadSize (f.header isServer)
        (copyTo s.extendedHeader 0 (f.extended isServer)) = f.payload.length := by
      rw [hcopy, f.extended_size]
    rw [← hs.limit]
    unfold behindExtended behindBasic
    dsimp only
    rw [hvalid, hsize, hop]
    rfl

theorem inPayload_atPayload {data control : Option MsgMetadata} {currentIsControl : Bool}
    (hs : Between isServer s opened)
    (hmsg : (s.atPayload isServer f data control currentIsControl).currentMsg = some m)
    (hkey : isServer = true → m.preparedKey = prepareMaskingKey f.key) :
    InPayload isServer f (s.atPayload isServer f data control currentIsControl) m := by
  refine ⟨hs.role, hs.limit, rfl, rfl, rfl, ?_, hmsg, hkey⟩
  have hheader : (s.behindBasic (f.header isServer)).extendedHeader.length =
    maxExtendedHeaderLength := hs.header
  have hroom := getHeaderLen_le (f.header isServer)
  refine (length_copyTo ?_).trans hheader
  rw [f.length_extended, hheader]
  omega

theorem setCurrentMsg_data (hdata : s.currentIsControl = false) (m : Option MsgMetadata) :
    s.setCurrentMsg m = { s with dataMsg := m } :=
  if_neg (by simp [hdata])

theorem setCurrentMsg_control (hcontrol : s.currentIsControl = true) (m : Option MsgMetadata) :
    s.setCurrentMsg m = { s with controlMsg := m } :=
  if_pos hcontrol

theorem validateText_eq
    (hvalidator : m.msg.opcode = .text → decode .fresh m.msg.payload = (m.validator, true))
    (payload : List UInt8) (htext : m.msg.opcode = .text) :
    validateText m payload = decode .fresh (m.msg.payload ++ payload) := by
  unfold validateText
  rw [if_pos htext, decode_append, hvalidator htext, if_pos rfl]

/-- **A frame of a data message**: it is put behind those before it. -/
theorem runSettled_data (h : InPayload isServer f s m) (hdata : s.currentIsControl = false)
    (hsmall : (m.msg.payload ++ f.payload).length ≤ BallchasingReplayPlayer.maxMessageSize)
    (hvalidator : m.msg.opcode = .text → decode .fresh m.msg.payload = (m.validator, true))
    (htext : f.opcode = .text → m.msg.opcode = .text) :
    (frameReader.runSettled s (f.wire isServer)).Agrees (Between isServer)
      (extend f ⟨m.msg.opcode, m.msg.payload ++ f.payload⟩) := by
  obtain ⟨key, hrun⟩ := runSettled_payload h
  -- the validator has seen the whole text so far, piece by piece
  have hlegible : legible ⟨m.msg.opcode, m.msg.payload ++ f.payload⟩ =
      (validateText m f.payload).2 := by
    unfold legible
    by_cases hop : m.msg.opcode = .text
    · simp [hop, validateText_eq hvalidator f.payload hop]
    · simp [hop, validateText]
  have hsize := Nat.not_lt.mpr hsmall
  rw [hrun]
  unfold extend
  dsimp only
  rw [if_neg hsize, hlegible]
  cases hread : (validateText m f.payload).2 with
  | false => exact ⟨rfl, rfl⟩
  | true =>
    have hread' : ¬ (!true) = true := Bool.false_ne_true
    rw [if_neg hread', if_neg hread']
    cases hlast : f.fin with
    -- the message stays open, and the validator is as far as its payload
    | false =>
      have hbehind : s.behindPayload (withPayload m f.payload key) =
          { s with dataMsg := some (withPayload m f.payload key), bytesNeeded := 0 } := by
        unfold behindPayload
        rw [setCurrentMsg_data hdata]
      refine ⟨rfl, ?_⟩
      rw [hbehind]
      refine Between.of_resetHeaders h.role h.limit rfl ?_ ?_
      · rintro m' ⟨⟩
        exact hsmall
      · rintro m' ⟨⟩ hop
        change decode .fresh (m.msg.payload ++ f.payload) = ((validateText m f.payload).1, true)
        rw [← hread]
        exact (validateText_eq hvalidator f.payload hop).symm
    | true =>
      rw [if_neg hread', if_neg hread']
      -- a text that is no continuation is complete exactly when the validator is
      have hcomplete : (f.opcode = .text ∧ (!(validateText m f.payload).1.complete) = true) ↔
          (f.opcode = .text ∧ (!validate (m.msg.payload ++ f.payload)) = true) := by
        refine and_congr_right fun hop => ?_
        unfold validate
        rw [← validateText_eq hvalidator f.payload (htext hop)]
        dsimp only
        rw [hread]
        rfl
      by_cases hend : f.opcode = .text ∧ (!(validateText m f.payload).1.complete) = true
      · rw [if_pos hend, if_pos (hcomplete.mp hend)]
        exact ⟨rfl, rfl⟩
      · rw [if_neg hend, if_neg fun hend' => hend (hcomplete.mpr hend')]
        refine ⟨rfl, ?_⟩
        -- the message was handed out, so that none is open
        have hcurrent : (s.behindPayload (withPayload m f.payload key)).currentIsControl =
            false := by
          unfold behindPayload
          rw [setCurrentMsg_data hdata]
          exact hdata
        have hrole : (s.behindPayload (withPayload m f.payload key)).isServer = isServer := by
          unfold behindPayload
          rw [setCurrentMsg_data hdata]
          exact h.role
        have hlimit : (s.behindPayload (withPayload m f.payload key)).maxMessageSize =
            BallchasingReplayPlayer.maxMessageSize := by
          unfold behindPayload
          rw [setCurrentMsg_data hdata]
          exact h.limit
        change Between isServer (behindMessage _ _) none
        unfold behindMessage
        rw [setCurrentMsg_data hcurrent]
        split
        · exact Between.of_resetHeaders hrole hlimit rfl (fun m' hm' => by cases hm')
            (fun m' hm' => by cases hm')
        · exact Between.of_resetHeaders hrole hlimit rfl (fun m' hm' => by cases hm')
            (fun m' hm' => by cases hm')

/-- **A frame of control**: it is a message, and the one that is open stays as it is. -/
theorem runSettled_control {key : MaskingKey} (hs : Between isServer s opened)
    (hkey : isServer = true → key = f.key) (hcontrol : f.opcode.isControl = true)
    (hfin : f.fin = true) :
    (frameReader.runSettled
        (s.atPayload isServer f s.dataMsg (some (.start f.opcode key)) true)
        (f.wire isServer)).Agrees (Between isServer) ([⟨f.opcode, f.payload⟩], .ok opened) := by
  have hpayload : InPayload isServer f
      (s.atPayload isServer f s.dataMsg (some (.start f.opcode key)) true)
      (.start f.opcode key) :=
    inPayload_atPayload hs rfl fun hserver => by rw [← hkey hserver]; rfl
  -- the validator is for texts alone
  have htext : f.opcode ≠ .text := by
    intro hop
    rw [hop] at hcontrol
    cases hcontrol
  obtain ⟨key', hrun⟩ := runSettled_payload hpayload
  have hread : validateText (.start f.opcode key) f.payload = (.fresh, true) := if_neg htext
  have hlast : ¬ (!true) = true := Bool.false_ne_true
  rw [hrun, hread, hfin, if_neg hlast, if_neg hlast, if_neg fun hop => htext hop.1]
  refine ⟨rfl, ?_⟩
  change Between isServer (behindMessage _ _) opened
  unfold behindMessage behindPayload
  rw [setCurrentMsg_control rfl, setCurrentMsg_control rfl]
  have hcontrol' : (withPayload (.start f.opcode key) f.payload key').msg.opcode.isControl = true :=
    hcontrol
  rw [if_pos hcontrol']
  -- the slot of the data message was never touched
  exact Between.of_resetHeaders hs.role hs.limit hs.msg hs.small hs.validator

/-- **A frame**: the processor makes of its bytes what the frame makes of the open message. -/
theorem run_frame (hs : Between isServer s opened) (f : SentFrame) :
    (frameReader.run s (f.bytes isServer)).Agrees (Between isServer) (assemble opened f) := by
  obtain ⟨key, hkey, hheader⟩ := extendedHeaderRead_eq hs f
  rw [← Reader.runSettled_of_settled hs.settled, runSettled_header hs, hheader,
    f.validateIncomingBasicHeader_header]
  unfold assemble
  -- the checks of the header come in the order of `assemble`
  by_cases hbig : f.opcode.isControl ∧ payloadSizeBasic < f.payload.length
  · rw [if_pos hbig, if_pos hbig]
    exact ⟨rfl, rfl⟩
  rw [if_neg hbig, if_neg hbig]
  by_cases hreserved : f.opcode.reserved
  · rw [if_pos hreserved, if_pos hreserved]
    exact ⟨rfl, rfl⟩
  rw [if_neg hreserved, if_neg hreserved]
  by_cases hcontrol : f.opcode.isControl
  · rw [if_pos hcontrol, if_pos hcontrol]
    by_cases hfin : f.fin
    · have hcontinuation : f.opcode ≠ .continuation := by
        intro hop
        rw [hop] at hcontrol
        cases hcontrol
      rw [if_neg (by simp [hfin]), if_neg (fun h => hcontinuation h.2),
        if_neg (by simp [hcontrol]), if_pos hfin]
      exact runSettled_control hs hkey hcontrol hfin
    · rw [if_pos ⟨hcontrol, by simpa using hfin⟩, if_neg hfin]
      exact ⟨rfl, rfl⟩
  · rw [if_neg fun h => hcontrol h.1, if_neg hcontrol, if_neg hcontrol]
    have hmsg := hs.msg
    cases hdata : s.dataMsg with
    -- the first frame of a message
    | none =>
      rw [hdata] at hmsg
      obtain rfl : none = opened := hmsg
      by_cases hop : f.opcode = .continuation
      · rw [if_pos ⟨rfl, hop⟩, if_pos hop]
        exact ⟨rfl, rfl⟩
      rw [if_neg fun h => hop h.2, if_neg (by simp), if_neg hop]
      dsimp only [bind, Except.bind]
      by_cases hsize : BallchasingReplayPlayer.maxMessageSize < f.payload.length
      · have hextend : extend f ⟨f.opcode, f.payload⟩ = .of (.error .messageTooBig) := if_pos hsize
        rw [if_pos hsize, hextend]
        exact ⟨rfl, rfl⟩
      · rw [if_neg hsize, Result.andThen_of_ok]
        have hpayload : InPayload isServer f
            (s.atPayload isServer f (some (.start f.opcode key)) s.controlMsg false)
            (.start f.opcode key) :=
          inPayload_atPayload hs rfl fun hserver => by rw [← hkey hserver]; rfl
        exact runSettled_data hpayload rfl (Nat.not_lt.mp hsize) (fun _ => rfl) id
    -- a frame behind others of its message
    | some m =>
      rw [hdata] at hmsg
      obtain rfl : some m.msg = opened := hmsg
      by_cases hop : f.opcode = .continuation
      · have hm : m ∈ s.dataMsg := hdata
        have hsmall := hs.small m hm
        have hpayload := f.small
        -- the sum of the lengths does not wrap around, as both are small
        have hsum : (m.msg.payload.length + f.payload.length) % 2 ^ 64 =
            (m.msg.payload ++ f.payload).length := by
          rw [List.length_append]
          unfold BallchasingReplayPlayer.maxMessageSize at hsmall
          omega
        rw [if_neg (by simp), if_neg (fun h => h.2.2 hop)]
        dsimp only [bind, Except.bind]
        rw [if_pos hop, hsum]
        by_cases hsize : BallchasingReplayPlayer.maxMessageSize < (m.msg.payload ++ f.payload).length
        · have hextend : extend f ⟨m.msg.opcode, m.msg.payload ++ f.payload⟩ =
            .of (.error .messageTooBig) := if_pos hsize
          rw [if_pos hsize, hextend]
          exact ⟨rfl, rfl⟩
        · rw [if_neg hsize, Result.andThen_of_ok]
          have hpayload : InPayload isServer f
              (s.atPayload isServer f
                (some { m with preparedKey := prepareMaskingKey key }) s.controlMsg false)
              { m with preparedKey := prepareMaskingKey key } :=
            inPayload_atPayload hs rfl fun hserver => by rw [← hkey hserver]
          refine runSettled_data (m := { m with preparedKey := prepareMaskingKey key }) hpayload rfl
            (Nat.not_lt.mp hsize) (hs.validator m hm) ?_
          intro htext
          rw [hop] at htext
          cases htext
      · rw [if_neg (by simp), if_pos ⟨rfl, by simpa using hcontrol, hop⟩]
        dsimp only [bind, Except.bind]
        rw [if_neg hop]
        exact ⟨rfl, rfl⟩

/-- **Frames**: of a stream of frames the processor makes what the frames make. -/
theorem run_frames (hs : Between isServer s opened) (fs : List SentFrame) :
    (frameReader.run s (fs.flatMap (·.bytes isServer))).Agrees (Between isServer)
      (assembleAll opened fs) := by
  induction fs generalizing s opened with
  | nil => exact ⟨rfl, hs⟩
  | cons f fs ih =>
    rw [List.flatMap_cons, Reader.run_append]
    exact (run_frame hs f).andThen fun s' opened' hs' => ih hs'

end Processor

end BallchasingReplayPlayer
