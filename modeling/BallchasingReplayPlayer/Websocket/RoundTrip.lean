import Mathlib.Data.List.Infix
import BallchasingReplayPlayer.Websocket.Assembly

/-!
# Messages Across a Connection

What one side writes the other side reads: messages of data in any number of pieces, with frames of
control in between, through reads that cut the bytes anywhere.

## Main Results

- `readAll_frames`: bytes of frames are read as the messages that the frames make
- `readAll_transfers`: every message comes across, in the order in which they end, to the point
  where it is decided what becomes of it
-/

namespace BallchasingReplayPlayer

open BallchasingReplayPlayer.Frame Utf8Validator FieldReader

namespace Processor

/-! ## Transfers -/

/-- A message of control on its way. -/
structure ControlFrame where
  opcode : Opcode
  payload : List UInt8
  key : MaskingKey
  control : opcode = .close ∨ opcode = .ping ∨ opcode = .pong
  short : payload.length ≤ payloadSizeBasic

/-- A piece of a message of data, with the messages of control that are written before it. -/
structure Piece where
  before : List ControlFrame
  payload : List UInt8
  key : MaskingKey
  small : payload.length < 2 ^ 63

/-- A message of data in pieces. -/
structure Transfer where
  opcode : Opcode
  first : Piece
  rest : List Piece
  data : opcode = .text ∨ opcode = .binary
  small : (first.payload ++ rest.flatMap (·.payload)).length ≤ BallchasingReplayPlayer.maxMessageSize
  valid : opcode = .text → validate (first.payload ++ rest.flatMap (·.payload)) = true

/-- The frame of a message of control. -/
def ControlFrame.frame (c : ControlFrame) : SentFrame where
  opcode := c.opcode
  fin := true
  payload := c.payload
  key := c.key
  small := Nat.lt_of_le_of_lt c.short (by decide)

/-- A message of control as it is read. -/
def ControlFrame.msg (c : ControlFrame) : Message := ⟨c.opcode, c.payload⟩

/-- The frame of a piece. -/
def Piece.frame (p : Piece) (op : Opcode) (fin : Bool) : SentFrame := ⟨op, fin, p.payload, p.key, p.small⟩

/-- The frames of the pieces behind the first one. -/
def continued : List Piece → List SentFrame
  | [] => []
  | p :: ps => p.before.map (·.frame) ++ p.frame .continuation ps.isEmpty :: continued ps

/-- The frames of a message of data, and those of control between them. -/
def Transfer.frames (t : Transfer) : List SentFrame :=
  t.first.before.map (·.frame) ++ t.first.frame t.opcode t.rest.isEmpty :: continued t.rest

/-- The messages of a transfer. That of data ends behind all those of control. -/
def Transfer.messages (t : Transfer) : List Message :=
  (t.first :: t.rest).flatMap (·.before.map (·.msg)) ++
    [⟨t.opcode, t.first.payload ++ t.rest.flatMap (·.payload)⟩]

/-! ## What the Frames Make -/

variable {opened : Option Message}

theorem assemble_control (c : ControlFrame) :
    assemble opened c.frame = ([c.msg], .ok opened) := by
  have hshort := Nat.not_lt.mpr c.short
  have hop : c.opcode.reserved = false ∧ c.opcode.isControl = true := by
    rcases c.control with h | h | h
    all_goals
      rw [h]
      decide
  unfold assemble ControlFrame.frame
  dsimp only
  rw [if_neg fun h => hshort h.2, hop.1, hop.2, if_neg Bool.false_ne_true, if_pos rfl, if_pos rfl]
  rfl

theorem assembleAll_cons (f : SentFrame) (fs : List SentFrame) :
    assembleAll opened (f :: fs) = (assemble opened f).andThen (assembleAll · fs) := rfl

theorem assembleAll_append (fs fs' : List SentFrame) :
    assembleAll opened (fs ++ fs') = (assembleAll opened fs).andThen (assembleAll · fs') := by
  induction fs generalizing opened with
  | nil => exact (Result.andThen_of_ok opened (assembleAll · fs')).symm
  | cons f fs ih =>
    rw [List.cons_append, assembleAll_cons, assembleAll_cons, Result.andThen_assoc]
    simp only [ih]

/-- Messages of control come across whatever message is open. -/
theorem assembleAll_controls (cs : List ControlFrame) :
    assembleAll opened (cs.map (·.frame)) = (cs.map (·.msg), .ok opened) := by
  induction cs with
  | nil => rfl
  | cons c cs ih =>
    rw [List.map_cons, List.map_cons, assembleAll_cons, assemble_control]
    unfold Result.andThen
    dsimp only
    rw [ih]
    rfl

/-- The beginning of a text is not refused. -/
theorem legible_of_append {op : Opcode} {xs ys : List UInt8}
    (h : op = .text → validate (xs ++ ys) = true) : legible ⟨op, xs⟩ = true := by
  unfold legible
  by_cases hop : op = .text
  · have hvalid := h hop
    unfold validate at hvalid
    rw [decode_append] at hvalid
    cases hread : (decode .fresh xs).2 with
    | true => simp
    | false => simp [hread] at hvalid
  · simp [hop]

/-- A frame that ends the message, or leaves it open for what is still to come. -/
theorem extend_piece {f : SentFrame} {op : Opcode} {xs ys : List UInt8}
    (hsmall : (xs ++ ys).length ≤ BallchasingReplayPlayer.maxMessageSize)
    (hvalid : op = .text → validate (xs ++ ys) = true) (hend : f.fin = true → ys = [])
    (hop : f.opcode = .text → op = .text) :
    extend f ⟨op, xs⟩ =
      if f.fin then ([⟨op, xs⟩], .ok none) else Result.of (.ok (some ⟨op, xs⟩)) := by
  rw [List.length_append] at hsmall
  unfold extend
  rw [if_neg (by dsimp only; omega), legible_of_append hvalid]
  cases hfin : f.fin with
  | false => rfl
  | true =>
    rw [hend hfin, List.append_nil] at hvalid
    refine (if_neg Bool.false_ne_true).trans ((if_neg Bool.false_ne_true).trans (if_neg ?_))
    rintro ⟨htext, hinvalid⟩
    rw [hvalid (hop htext)] at hinvalid
    cases hinvalid

/-- The pieces behind the first one end the message that is open. -/
theorem assembleAll_continued {op : Opcode} (ps : List Piece) (hps : ps ≠ []) (xs : List UInt8)
    (hsmall : (xs ++ ps.flatMap (·.payload)).length ≤ BallchasingReplayPlayer.maxMessageSize)
    (hvalid : op = .text → validate (xs ++ ps.flatMap (·.payload)) = true) :
    assembleAll (some ⟨op, xs⟩) (continued ps) =
      (ps.flatMap (·.before.map (·.msg)) ++ [⟨op, xs ++ ps.flatMap (·.payload)⟩], .ok none) := by
  induction ps generalizing xs with
  | nil => exact absurd rfl hps
  | cons p ps ih =>
    have hpayload : xs ++ (p :: ps).flatMap (·.payload) =
        xs ++ p.payload ++ ps.flatMap (·.payload) := (List.append_assoc _ _ _).symm
    rw [hpayload] at hsmall hvalid ⊢
    -- the piece ends the message iff it is the last one
    have hpiece := extend_piece (f := p.frame .continuation ps.isEmpty) hsmall hvalid
      (fun hlast => by
        rw [List.isEmpty_iff.mp hlast]
        rfl)
      (fun htext => by cases htext)
    have hassemble : assemble (some ⟨op, xs⟩) (p.frame .continuation ps.isEmpty) =
        extend (p.frame .continuation ps.isEmpty) ⟨op, xs ++ p.payload⟩ := rfl
    -- the frames of control in front of it come out first
    rw [List.flatMap_cons, continued, assembleAll_append, assembleAll_controls]
    unfold Result.andThen
    dsimp only
    rw [assembleAll_cons, hassemble, hpiece]
    cases ps with
    | nil => simp [Piece.frame, continued, assembleAll, Result.andThen, Result.of]
    | cons p' ps =>
      rw [if_neg (by simp [Piece.frame]), Result.andThen_of_ok,
        ih (List.cons_ne_nil _ _) _ hsmall hvalid]
      simp only [List.append_assoc]

/-- **A transfer**: its frames make its messages. -/
theorem assembleAll_transfer (t : Transfer) :
    assembleAll none t.frames = (t.messages, .ok none) := by
  have hop : t.opcode.reserved = false ∧ t.opcode.isControl = false ∧
      t.opcode ≠ .continuation := by
    rcases t.data with h | h
    all_goals
      rw [h]
      decide
  have hpiece := extend_piece (f := t.first.frame t.opcode t.rest.isEmpty) t.small t.valid
    (fun hlast => by
      rw [List.isEmpty_iff.mp hlast]
      rfl)
    id
  -- no message is open, so the first piece opens one
  have hassemble : assemble none (t.first.frame t.opcode t.rest.isEmpty) =
      extend (t.first.frame t.opcode t.rest.isEmpty) ⟨t.opcode, t.first.payload⟩ := by
    unfold assemble Piece.frame
    dsimp only
    rw [hop.1, hop.2.1, if_neg (fun h => Bool.false_ne_true h.1), if_neg Bool.false_ne_true,
      if_neg Bool.false_ne_true, if_neg hop.2.2]
  unfold Transfer.frames Transfer.messages
  rw [assembleAll_append, assembleAll_controls]
  unfold Result.andThen
  dsimp only
  rw [assembleAll_cons, hassemble, hpiece, List.flatMap_cons]
  cases hrest : t.rest with
  | nil => simp [Piece.frame, continued, assembleAll, Result.andThen, Result.of]
  | cons p ps =>
    have hcontinued := assembleAll_continued t.rest (by rw [hrest]; exact List.cons_ne_nil _ _)
      t.first.payload t.small t.valid
    rw [hrest] at hcontinued
    rw [if_neg (by simp [Piece.frame]), Result.andThen_of_ok, hcontinued, List.append_assoc]

theorem assembleAll_transfers (ts : List Transfer) :
    assembleAll none (ts.flatMap (·.frames)) = (ts.flatMap (·.messages), .ok none) := by
  induction ts with
  | nil => rfl
  | cons t ts ih =>
    rw [List.flatMap_cons, assembleAll_append, assembleAll_transfer]
    unfold Result.andThen
    dsimp only
    rw [ih, List.flatMap_cons]

/-! ## What Is Read -/

/-- The beginning of the bytes of frames that are not refused makes the first of their messages. -/
theorem run_of_beginning {isServer : Bool} {fs : List SentFrame} {msgs : List Message}
    (hassemble : assembleAll none fs = (msgs, .ok opened)) {bytes : List UInt8}
    (hbytes : bytes <+: fs.flatMap (·.bytes isServer)) :
    (frameReader.run (fresh isServer) bytes).1 <+: msgs ∧
      (bytes = fs.flatMap (·.bytes isServer) →
        (frameReader.run (fresh isServer) bytes).1 = msgs) ∧
      ∃ s, (frameReader.run (fresh isServer) bytes).2 = .ok s := by
  obtain ⟨rest, hrest⟩ := hbytes
  obtain ⟨hitems, hends⟩ := run_frames (between_fresh isServer) fs
  rw [hassemble] at hitems hends
  cases hend : (frameReader.run (fresh isServer) (fs.flatMap (·.bytes isServer))).2 with
  | error e =>
    rw [hend] at hends
    cases hends
  | ok s =>
    rw [← hrest] at hend
    obtain ⟨hbegins, hok⟩ := Reader.run_beginning hend
    rw [hrest, hitems] at hbegins
    refine ⟨hbegins, fun hall => ?_, hok⟩
    rw [hall, hitems]

variable {τ : Type} (dispatch : Message → τ → τ × Bool)

/-- **Frames across a connection**: however the reads cut the bytes of the frames that the other
    side writes, the messages dispatched are those that the frames make, and reading fails if and
    only if a frame does, with its error. -/
theorem readAll_frames (isServer : Bool) (t : τ) (fs : List SentFrame)
    (bufs : List (List UInt8)) (hbufs : bufs.flatten = fs.flatMap (·.bytes isServer)) :
    ∃ r, r.Agrees (Between isServer) (assembleAll none fs) ∧
      readAll dispatch (fresh isServer) t bufs = conclude dispatch r t := by
  refine ⟨frameReader.run (fresh isServer) bufs.flatten, ?_, ?_⟩
  · rw [hbufs]
    exact run_frames (between_fresh isServer) fs
  · exact readAll_eq dispatch (settled_fresh isServer) t bufs

/-- A ping is read through reads of four, one and one bytes. -/
theorem readAll_frames_ping :
    ∃ r, r.Agrees (Between true) (assembleAll none [⟨.ping, true, [], 0, by decide⟩]) ∧
      readAll (fun msg msgs => (msgs ++ [msg], false)) (fresh true) []
        [[0x89, 0x80, 0, 0], [0], [0]] =
          conclude (fun msg msgs => (msgs ++ [msg], false)) r [] :=
  readAll_frames _ true [] [⟨.ping, true, [], 0, by decide⟩] _ (by decide)

/-- **Messages across a connection**: however the messages are cut into frames, the frames mixed
    with those of control and the bytes cut by the reads, `get_message` hands out every message,
    once and in the order in which the messages end, until an exception leaves the handling of one
    of them. It is behind `get_message` that data is dropped once the connection is not open. -/
theorem readAll_transfers (isServer : Bool) (t : τ) (ts : List Transfer)
    (bufs : List (List UInt8))
    (hbufs : bufs.flatten = (ts.flatMap (·.frames)).flatMap (·.bytes isServer)) :
    (readAll dispatch (fresh isServer) t bufs).1 =
        (dispatchAll dispatch (ts.flatMap (·.messages)) t).1 ∧
      ∀ e, (readAll dispatch (fresh isServer) t bufs).2 ≠ .failed e := by
  have hbegins : bufs.flatten <+: (ts.flatMap (·.frames)).flatMap (·.bytes isServer) := by
    rw [hbufs]
  obtain ⟨-, hall, s, hs⟩ := run_of_beginning (assembleAll_transfers ts) hbegins
  rw [readAll_eq dispatch (settled_fresh isServer), ← hall hbufs]
  exact ⟨conclude_fst dispatch _ t, conclude_of_ok dispatch hs t⟩

/-- A text in two pieces with a ping between them. -/
def textAroundPing : Transfer where
  opcode := .text
  first := ⟨[], [0x48], 0x04030201, by decide⟩
  rest := [⟨[⟨.ping, [], 0, by decide, by decide⟩], [0x69], 0, by decide⟩]
  data := Or.inl rfl
  small := by decide
  valid _ := by decide

/-- The ping is dispatched before the text that is around it. -/
theorem readAll_transfers_textAroundPing :
    (readAll (fun msg msgs => (msgs ++ [msg], false)) (fresh true) []
      [[0x01, 0x81, 0x01, 0x02, 0x03], [0x04, 0x49, 0x89, 0x80, 0, 0, 0, 0, 0x80],
        [0x81, 0, 0, 0, 0, 0x69]]).1 =
      [⟨.ping, []⟩, ⟨.text, [0x48, 0x69]⟩] :=
  (readAll_transfers (fun msg msgs => (msgs ++ [msg], false)) true [] [textAroundPing] _
    (by decide)).1

end Processor

end BallchasingReplayPlayer
