import BallchasingReplayPlayer.Lib.Machine
import BallchasingReplayPlayer.Websocket.Processor

/-!
# A Connection of websocketpp

`connection_impl.hpp` behind the opening handshake, in the role of a server: frames are queued by
any thread and written by the thread in `run()`, which also reads, answers frames of control and
closes. The steps come in any order, and one after the other. The two parts of `send` lie between
two locks and are two steps. `close` is one step, which the code does not ensure: it tests and sets
the state under a lock, but neither `terminate` nor the state test in front of the message handler
takes that lock, so that here no `close` of another thread overlaps a step of `run()`.

## Layers

1. `CloseStatus`, `extractCode`, `prepareClose`: close codes (`close.hpp`)
2. `Connection`: the members of `connection`
3. `connectionMachine`: its steps

## Source

- `connection::send`, `ping`, `pong` ↔ `call`, then `push`: two locks
- `connection::close` ↔ `close`: between two steps of `run()`
- `connection::write_frame`, `handle_write_frame` ↔ `writeFrame`, `handleWriteFrame`
- `connection::handle_read_frame` ↔ `read`, `round`, `readFails`
- `connection::process_control_frame` ↔ `processControlFrame`
- `connection::terminate`, `handle_terminate` ↔ `terminate`, `closeHandler`
-/

namespace BallchasingReplayPlayer

open BallchasingReplayPlayer.Frame Utf8Validator Transition

open BallchasingReplayPlayer.Processor (OutMessage)

/-! ## Close Codes -/

namespace CloseStatus

/-- `close::status::value` -/
abbrev Value := UInt16

def blank : Value := 0
def normal : Value := 1000
def protocolError : Value := 1002
def noStatus : Value := 1005
def abnormalClose : Value := 1006
def invalidPayload : Value := 1007
def policyViolation : Value := 1008
def messageTooBig : Value := 1009
def internalEndpointError : Value := 1011
def tlsHandshake : Value := 1015
def rsvStart : Value := 1016
def rsvEnd : Value := 2999
def invalidLow : Value := 999
def invalidHigh : Value := 5000

def reserved (code : Value) : Bool := (rsvStart ≤ code ∧ code ≤ rsvEnd) ∨ code = 1004

def invalid (code : Value) : Bool :=
  code ≤ invalidLow ∨ invalidHigh ≤ code ∨ code = noStatus ∨ code = abnormalClose ∨
    code = tlsHandshake

/-- Errors that leave nothing to wait for. -/
def terminal (code : Value) : Bool :=
  code = protocolError ∨ code = invalidPayload ∨ code = policyViolation ∨ code = messageTooBig ∨
    code = internalEndpointError

end CloseStatus

/-- The errors of `extract_code` and `extract_reason`. -/
inductive CloseError where
  | badCloseCode
  | invalidCloseCode
  | reservedCloseCode
  | invalidUtf8
deriving DecidableEq, Repr

/-- `extract_code`: the code, and the error it is flagged with. -/
def extractCode (payload : List UInt8) : CloseStatus.Value × Option CloseError :=
  if payload.length = 0 then (CloseStatus.noStatus, none)
  else if payload.length = 1 then (CloseStatus.protocolError, some .badCloseCode)
  else
    let code := UInt16.ofNat (BigEndian.read (payload.take 2))
    (code,
      -- the second test overwrites what the first one has found
      if CloseStatus.reserved code then some .reservedCloseCode
      else if CloseStatus.invalid code then some .invalidCloseCode
      else none)

/-- `extract_reason`. -/
def extractReason (payload : List UInt8) : List UInt8 × Option CloseError :=
  let reason := if 2 < payload.length then payload.drop 2 else []
  (reason, if validate reason then none else some .invalidUtf8)

/-- `error::to_ws`. -/
def ProcessorError.toWs : ProcessorError → CloseStatus.Value
  | .controlTooBig | .invalidOpcode | .invalidRsvBit | .fragmentedControl | .invalidContinuation
  | .maskingRequired | .maskingForbidden | .reservedCloseCode | .invalidCloseCode =>
    CloseStatus.protocolError
  | .invalidPayload | .invalidUtf8 => CloseStatus.invalidPayload
  | .messageTooBig => CloseStatus.messageTooBig
  | .general | .nonMinimalEncoding | .reasonRequiresCode => CloseStatus.internalEndpointError

/-- The bytes of a literal. -/
def asciiBytes (s : String) : List UInt8 := s.toList.map fun c => UInt8.ofNat c.toNat

/-- `processor_category::message`. -/
def ProcessorError.message : ProcessorError → List UInt8
  | .general => asciiBytes "Generic processor error"
  | .messageTooBig => asciiBytes "A message was too large"
  | .invalidPayload => asciiBytes "A payload contained invalid data"
  | .invalidOpcode => asciiBytes "invalid opcode"
  | .controlTooBig =>
    asciiBytes "Control messages are limited to fewer than 125 characters"
  | .invalidRsvBit => asciiBytes "Invalid use of reserved bits"
  | .fragmentedControl => asciiBytes "Control messages cannot be fragmented"
  | .invalidContinuation => asciiBytes "Invalid message continuation"
  | .maskingRequired => asciiBytes "Clients may not send unmasked frames"
  | .maskingForbidden => asciiBytes "Servers may not send masked frames"
  | .nonMinimalEncoding => asciiBytes "Payload length was not minimally encoded"
  | .invalidUtf8 => asciiBytes "Invalid UTF8 encoding"
  | .reservedCloseCode => asciiBytes "Reserved close code used"
  | .invalidCloseCode => asciiBytes "Invalid close code used"
  | .reasonRequiresCode => asciiBytes "Using a close reason requires a valid close code"

/-- The payload of a close frame. -/
def closePayload (code : CloseStatus.Value) (reason : List UInt8) : List UInt8 :=
  if code ≠ CloseStatus.noStatus then BigEndian.write 2 code.toNat ++ reason else []

/-- `prepare_close`, on the side of a server. -/
def prepareClose (code : CloseStatus.Value) (reason : List UInt8) :
    Except ProcessorError OutMessage :=
  if CloseStatus.reserved code then .error .reservedCloseCode
  else if CloseStatus.invalid code ∧ code ≠ CloseStatus.noStatus then .error .invalidCloseCode
  else if code = CloseStatus.noStatus ∧ 0 < reason.length then .error .reasonRequiresCode
  else if payloadSizeBasic - 2 < reason.length then .error .controlTooBig
  else Processor.prepareControl true .close (closePayload code reason) 0

/-! ## Members -/

/-- `session::state::value`, behind the opening handshake. -/
inductive SessionState where
  | opened
  | closing
  | closed
deriving DecidableEq, Repr

/-- A call of `send`, `ping` or `pong` that has found the connection open. -/
inductive PendingCall where
  | send (op : Opcode) (payload : List UInt8)
  | ping (payload : List UInt8)
  | pong (payload : List UInt8)
deriving DecidableEq, Repr

/-- What a call writes. A server masks nothing, so no key is drawn. -/
def PendingCall.prepare : PendingCall → Except ProcessorError OutMessage
  | .send op payload => Processor.prepareDataFrame true op payload true 0
  | .ping payload => Processor.prepareControl true .ping payload 0
  | .pong payload => Processor.prepareControl true .pong payload 0

/-- The members of a connection, and what waits for it in the io service: `posted` calls of
    `write_frame`, a read if `reading`, the shutdown of the socket if `shuttingDown`. `buffer` is
    what `handle_read_frame` has not come to yet, `pending` the calls between their two locks. No
    code reads the five lists and the count at the end: they record what has happened. -/
structure Connection where
  state : SessionState
  processor : Processor
  buffer : List UInt8
  reading : Bool
  pending : List PendingCall
  sendQueue : List OutMessage
  sendBufferSize : ℕ
  writeFlag : Bool
  currentMsgs : List OutMessage
  posted : ℕ
  timer : Bool
  wasClean : Bool
  shuttingDown : Bool
  running : Bool
  received : List UInt8
  collected : List Message
  dispatched : List Message
  pushed : List OutMessage
  written : List OutMessage
  closeHandlerCalls : ℕ

namespace Connection

/-- A connection at the end of its opening handshake: `read_frame` has been called. -/
def fresh : Connection where
  state := .opened
  processor := .fresh true
  buffer := []
  reading := true
  pending := []
  sendQueue := []
  sendBufferSize := 0
  writeFlag := false
  currentMsgs := []
  posted := 0
  timer := false
  wasClean := false
  shuttingDown := false
  running := true
  received := []
  collected := []
  dispatched := []
  pushed := []
  written := []
  closeHandlerCalls := 0

/-! ## Writing -/

/-- `write_push`. -/
def writePush (c : Connection) (msg : OutMessage) : Connection :=
  { c with
    sendBufferSize := c.sendBufferSize + msg.payload.length
    sendQueue := c.sendQueue ++ [msg]
    pushed := c.pushed ++ [msg] }

/-- `needs_writing`: `write_frame` is posted unless a write is on its way. -/
def dispatchWrite (c : Connection) : Connection :=
  if !c.writeFlag ∧ c.sendQueue ≠ [] then { c with posted := c.posted + 1 } else c

/-- The call of `write_frame` is posted if it has to be. -/
theorem dispatchWrite_eq (c : Connection) :
    c.dispatchWrite = { c with
      posted := if !c.writeFlag ∧ c.sendQueue ≠ [] then c.posted + 1 else c.posted } := by
  unfold dispatchWrite
  split
  · rfl
  · rfl

/-- The second part of a call: the message is prepared and pushed. -/
def push (c : Connection) (call : PendingCall) : Connection :=
  match call.prepare with
  | .error _ => c
  | .ok msg => (c.writePush msg).dispatchWrite

/-- The messages that are written together: up to a terminal one. -/
def writePops : List OutMessage → List OutMessage × List OutMessage
  | [] => ([], [])
  | msg :: msgs =>
    if msg.terminal then ([msg], msgs)
    else
      let (ready, rest) := writePops msgs
      (msg :: ready, rest)

/-- `write_frame`, down to the `async_write`. -/
def writeFrame (c : Connection) : Connection :=
  if c.writeFlag then c
  else
    let (ready, rest) := writePops c.sendQueue
    if ready = [] then c
    else
      { c with
        sendQueue := rest
        sendBufferSize := c.sendBufferSize - (ready.map (·.payload.length)).sum
        writeFlag := true
        currentMsgs := ready
        written := c.written ++ ready }

/-- `terminate` -/
def terminate (c : Connection) : Connection :=
  if c.state = .closed then { c with timer := false }
  else { c with timer := false, state := .closed, shuttingDown := true }

/-- `handle_write_frame`. The flag is released only if there is more to come. -/
def handleWriteFrame (c : Connection) (fails : Bool) : Connection :=
  let terminal := c.currentMsgs.getLast?.any (·.terminal)
  let c := { c with currentMsgs := [] }
  -- the flag stays taken on both ways out, so nothing more is written
  if fails then c.terminate
  else if terminal then c.terminate
  else { c with writeFlag := false }.dispatchWrite

/-! ## Closing -/

/-- `send_close_frame`. The code and the reason of the other side count if it is an answer to
    them. -/
def sendCloseFrame (c : Connection) (code : CloseStatus.Value) (reason : List UInt8)
    (remote : CloseStatus.Value × List UInt8) (ack terminal : Bool) :
    Except ProcessorError Connection :=
  let (code, reason) :=
    if code ≠ CloseStatus.blank then (code, reason)
    else if !ack then (CloseStatus.noStatus, [])
    -- an answer repeats the code of the other side, which may have sent none
    else if remote.1 = CloseStatus.noStatus then (CloseStatus.normal, [])
    else remote
  match prepareClose code reason with
  | .error e => .error e
  | .ok msg =>
    .ok ({ c with
      state := .closing
      wasClean := c.wasClean || ack
      timer := true }.writePush { msg with terminal := msg.terminal || terminal }).dispatchWrite

/-- `send_close_ack`, by a server. Its caller does no more than write an error to the log. -/
def sendCloseAck (c : Connection) (code : CloseStatus.Value) (reason : List UInt8)
    (remote : CloseStatus.Value × List UInt8) : Connection :=
  match c.sendCloseFrame code reason remote true true with
  | .error _ => c
  | .ok c' => c'

/-- `close`, or `none` for an error. -/
def close (c : Connection) (code : CloseStatus.Value) (reason : List UInt8) : Option Connection :=
  if c.state ≠ .opened then none
  else
    (c.sendCloseFrame code (reason.take closeReasonSize) (CloseStatus.abnormalClose, []) false
      (CloseStatus.terminal code)).toOption

/-! ## Reading -/

/-- `process_control_frame`. There are no handlers for pings and pongs. -/
def processControlFrame (c : Connection) (msg : Message) : Connection :=
  if c.state = .closed then c
  -- behind a close frame only one of the other side counts
  else if msg.opcode ≠ .close ∧ c.state ≠ .opened then c
  else if msg.opcode = .ping then { c with pending := c.pending ++ [.pong msg.payload] }
  else if msg.opcode = .pong then c
  else if msg.opcode = .close then
    match extractCode msg.payload with
    -- an invalid code is answered in the state closing as well
    | (code, some _) =>
      c.sendCloseAck CloseStatus.protocolError (asciiBytes "Invalid close code") (code, [])
    | (code, none) =>
      match extractReason msg.payload with
      | (reason, some _) =>
        c.sendCloseAck CloseStatus.protocolError (asciiBytes "Invalid close reason") (code, reason)
      | (reason, none) =>
        if c.state = .opened then c.sendCloseAck CloseStatus.blank [] (code, reason)
        -- the answer to the close frame of this side
        else if c.state = .closing ∧ !c.wasClean then { c with wasClean := true }.terminate
        else c
  else c

/-- A message that is complete: data goes to the message handler, from which an exception may come
    back. -/
def dispatchMessage (c : Connection) (msg : Message) (threw : Bool) : Connection :=
  let c := { c with collected := c.collected ++ [msg] }
  if msg.opcode.isControl then c.processControlFrame msg
  -- data that comes behind a close frame is dropped
  else if c.state = .opened then
    { c with dispatched := c.dispatched ++ [msg], running := c.running && !threw }
  else c

/-- Bytes are left behind in the buffer, or `read_frame` is called again. -/
def advance (c : Connection) (p : ℕ) : Connection :=
  let buffer := c.buffer.drop p
  { c with buffer := buffer, reading := buffer = [] }

/-- `handle_read_frame` fails to read a frame: the connection is closed, or terminated if it is
    closing already. It does not read again. -/
def protocolError (c : Connection) (e : ProcessorError) : Connection :=
  let c := { c with buffer := [] }
  match c.close e.toWs e.message with
  | some c' => c'
  | none => c.terminate

/-- A round of the loop in `handle_read_frame`. -/
def round (c : Connection) (threw : Bool) : Connection :=
  match c.processor.consume c.buffer with
  | .error e => c.protocolError e
  | .ok (p, processor) =>
    if processor.state = .ready then
      match processor.getMessage with
      -- a null message is passed over
      | (none, processor') => { c with processor := processor' }.advance p
      | (some msg, processor') =>
        ({ c with processor := processor' }.dispatchMessage msg threw).advance p
    else { c with processor := processor }.advance p

/-! ## Control -/

/-- What a frame of control, a call of `close` or an error does to a connection: nothing, a pong
    that waits, a close frame that is pushed, or its end. -/
inductive ControlMove (c c' : Connection) : Prop
  | none (h : c' = c)
  | answers (payload : List UInt8) (h : c' = { c with pending := c.pending ++ [.pong payload] })
  | closes (code : CloseStatus.Value) (reason : List UInt8) (m : OutMessage)
      (terminal clean : Bool) (hopen : c.state ≠ .closed)
      (hprepare : prepareClose code reason = .ok m)
      (h : c' = ({ c with
        state := .closing
        wasClean := clean
        timer := true }.writePush { m with terminal := terminal }).dispatchWrite)
  | ends (clean : Bool) (h : c' = { c with wasClean := clean }.terminate)

variable {c c' : Connection}

/-- A close frame is pushed, unless it cannot be prepared. -/
theorem sendCloseFrame_moves {code : CloseStatus.Value} {reason : List UInt8}
    {remote : CloseStatus.Value × List UInt8} {ack terminal : Bool} (hopen : c.state ≠ .closed)
    (h : c.sendCloseFrame code reason remote ack terminal = .ok c') : ControlMove c c' := by
  unfold sendCloseFrame at h
  dsimp only at h
  split at h
  · cases h
  case h_2 m hprepare =>
    cases h
    exact .closes _ _ m _ _ hopen hprepare rfl

theorem sendCloseAck_moves {code : CloseStatus.Value} {reason : List UInt8}
    {remote : CloseStatus.Value × List UInt8} (hopen : c.state ≠ .closed) :
    ControlMove c (c.sendCloseAck code reason remote) := by
  unfold sendCloseAck
  split
  · exact .none rfl
  case h_2 c' hsend => exact sendCloseFrame_moves hopen hsend

theorem close_moves {code : CloseStatus.Value} {reason : List UInt8}
    (h : c.close code reason = some c') : ControlMove c c' := by
  unfold close at h
  split at h
  · cases h
  case isFalse hopen =>
    have hclosed : c.state ≠ .closed := by
      rw [not_not] at hopen
      rw [hopen]
      exact SessionState.noConfusion
    cases hsend : c.sendCloseFrame code (reason.take closeReasonSize)
        (CloseStatus.abnormalClose, []) false (CloseStatus.terminal code) with
    | error e =>
      rw [hsend] at h
      cases h
    | ok c'' =>
      rw [hsend] at h
      cases h
      exact sendCloseFrame_moves hclosed hsend

theorem processControlFrame_moves (msg : Message) :
    ControlMove c (c.processControlFrame msg) := by
  unfold processControlFrame
  split
  · exact .none rfl
  case isFalse hopen =>
    split
    · exact .none rfl
    split
    · exact .answers _ rfl
    split
    · exact .none rfl
    split
    · split
      · exact sendCloseAck_moves hopen
      · split
        · exact sendCloseAck_moves hopen
        · split
          · exact sendCloseAck_moves hopen
          split
          · exact .ends true rfl
          · exact .none rfl
    · exact .none rfl

/-- The rest of the buffer is left behind. -/
theorem protocolError_moves (e : ProcessorError) :
    ControlMove { c with buffer := [] } (c.protocolError e) := by
  unfold protocolError
  dsimp only
  split
  case h_1 c' hclose => exact close_moves hclose
  case h_2 => exact .ends _ rfl

end Connection

/-! ## Steps -/

/-- The steps of a connection: of any thread, then of the thread in `run()`. -/
inductive ConnectionEvent where
  | call (call : PendingCall)
  | push (i : ℕ)
  | close (code : CloseStatus.Value) (reason : List UInt8)
  | writeFrame
  | handleWriteFrame (fails : Bool)
  | read (bytes : List UInt8)
  | readFails
  | round (threw : Bool)
  | closeTimeout
  | closeHandler

namespace Connection

/-- The state after a step. -/
def next (c : Connection) : ConnectionEvent → Connection
  | .call call =>
    -- the first part of a call: `invalid_state` unless the connection is open
    if c.state = .opened then { c with pending := c.pending ++ [call] } else c
  | .push i =>
    match c.pending[i]? with
    | none => c
    | some call => { c with pending := c.pending.eraseIdx i }.push call
  | .close code reason => (c.close code reason).getD c
  | .writeFrame => { c with posted := c.posted - 1 }.writeFrame
  | .handleWriteFrame fails => c.handleWriteFrame fails
  | .read bytes =>
    { c with reading := false, buffer := bytes, received := c.received ++ bytes }
  -- an end of file on a closed connection is ignored, and to terminate it again does nothing
  | .readFails => { c with reading := false }.terminate
  | .round threw => c.round threw
  | .closeTimeout => c.terminate
  | .closeHandler =>
    { c with shuttingDown := false, closeHandlerCalls := c.closeHandlerCalls + 1 }

/-- When a step can be taken. -/
def guard (c : Connection) : ConnectionEvent → Prop
  | .call _ | .close _ _ => True
  | .push i => i < c.pending.length
  | .writeFrame => c.running = true ∧ 0 < c.posted
  | .handleWriteFrame _ => c.running = true ∧ c.currentMsgs ≠ []
  | .read bytes => c.running = true ∧ c.reading = true ∧ bytes ≠ []
  | .readFails => c.running = true ∧ c.reading = true
  | .round _ => c.running = true ∧ c.buffer ≠ []
  | .closeTimeout => c.running = true ∧ c.timer = true
  | .closeHandler => c.running = true ∧ c.shuttingDown = true

instance (c : Connection) : ∀ e, Decidable (c.guard e)
  | .call _ | .close _ _ => inferInstanceAs (Decidable True)
  | .push _ => inferInstanceAs (Decidable (_ < _))
  | .writeFrame | .handleWriteFrame _ | .readFails | .round _ | .closeTimeout | .closeHandler =>
    inferInstanceAs (Decidable (_ ∧ _))
  | .read _ => inferInstanceAs (Decidable (_ ∧ _ ∧ _))

end Connection

/-- A connection, one step after the other. -/
def connectionMachine : Machine Connection ConnectionEvent where
  enabled c e := c.guard e
  next c e := c.next e

instance (c : Connection) (e : ConnectionEvent) : Decidable (connectionMachine.enabled c e) :=
  inferInstanceAs (Decidable (c.guard e))

end BallchasingReplayPlayer
