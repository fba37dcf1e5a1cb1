import BallchasingReplayPlayer.Lib.FieldReader
import BallchasingReplayPlayer.Websocket.Processor

/-!
# Reading a Stream of Frames

How many bytes a read brings is up to the network. The frame processor is a reader of fields, so
what it makes of a stream does not depend on where the reads cut it.

## Layers

1. `frameReader`: the parts of `consume` as a reader of fields
2. `consume_run`: a call of `consume`
3. `readLoop_eq`: the loop of `handle_read_frame` dispatches what the stream means
4. `readAll_flatten`: any number of reads
-/

namespace BallchasingReplayPlayer

open BallchasingReplayPlayer.Frame Utf8Validator FieldReader

namespace Processor

/-! ## The Parts of a Frame -/

/-- The states the processor can be in: what is still to be copied into a header fits into it, and a
    frame whose payload is read has a message to be read into. -/
structure Valid (s : Processor) : Prop where
  header : s.extendedHeader.length = maxExtendedHeaderLength
  state : match s.state with
    | .headerBasic => s.bytesNeeded ≤ basicHeaderLength
    | .headerExtended => s.cursor + s.bytesNeeded ≤ maxExtendedHeaderLength
    | .application | .ready => s.currentMsg.isSome = true
    | .extension | .fatalError => False

/-- Bytes of the field the processor is in. -/
def absorb (s : Processor) (xs : List UInt8) : Except ProcessorError Processor :=
  match s.state with
  | .headerBasic => .ok (s.copyBasicHeaderBytes xs).2
  | .headerExtended => .ok (s.copyExtendedHeaderBytes xs).2
  | .application => s.processPayloadBytes xs
  | .extension | .ready | .fatalError => .ok s

/-- The end of the field the processor is in. -/
def finish (s : Processor) : Except ProcessorError Processor :=
  match s.state with
  | .headerBasic => s.basicHeaderRead
  | .headerExtended => s.extendedHeaderRead
  | .application => s.payloadRead
  | .extension | .ready | .fatalError => .ok s

/-- The message that is ready, and the processor without it. -/
def collect (s : Processor) : Message × Processor :=
  (s.getMessage.1.getD ⟨.continuation, []⟩, s.getMessage.2)

theorem setCurrentMsg_currentMsg (s : Processor) : s.setCurrentMsg s.currentMsg = s := by
  unfold setCurrentMsg currentMsg
  split
  · rfl
  · rfl

theorem currentMsg_setCurrentMsg (s : Processor) (m : Option MsgMetadata) :
    (s.setCurrentMsg m).currentMsg = m := by
  unfold setCurrentMsg currentMsg
  split
  · rfl
  · rfl

/-! ## Bytes of a Field -/

theorem length_copyTo {bytes chunk : List UInt8} {position : ℕ}
    (h : position + chunk.length ≤ bytes.length) :
    (copyTo bytes position chunk).length = bytes.length := by
  unfold copyTo
  rw [List.length_append, List.length_append, List.length_take, List.length_drop]
  omega

/-- Copying in two steps. -/
theorem copyTo_append {bytes : List UInt8} {position : ℕ} (xs ys : List UInt8)
    (h : position ≤ bytes.length) :
    copyTo (copyTo bytes position xs) (position + xs.length) ys =
      copyTo bytes position (xs ++ ys) := by
  -- the second copy finds the first one in front of it, and the old bytes behind it
  have htake : (bytes.take position ++ xs).length = position + xs.length := by
    rw [List.length_append, List.length_take, Nat.min_eq_left h]
  have hdrop : (bytes.take position ++ xs ++ bytes.drop (position + xs.length)).drop
      (position + xs.length + ys.length) = bytes.drop (position + xs.length + ys.length) := by
    rw [← htake, ← List.drop_drop, List.drop_left, htake, List.drop_drop]
  unfold copyTo
  rw [List.take_left' htake, hdrop, List.length_append, Nat.add_assoc,
    List.append_assoc (bytes.take position)]

theorem circshift_zero (key : PreparedKey) : circshiftPreparedKey key 0 (by omega) = key :=
  PreparedKey.ext rfl

theorem unmask_nil (h : BasicHeader) (key : PreparedKey) : unmask h [] key = ([], key) := by
  unfold unmask
  split
  · exact congrArg (Prod.mk []) (circshift_zero key)
  · rfl

theorem unmask_append (h : BasicHeader) (xs ys : List UInt8) (key : PreparedKey) :
    unmask h (xs ++ ys) key =
      ((unmask h xs key).1 ++ (unmask h ys (unmask h xs key).2).1,
        (unmask h ys (unmask h xs key).2).2) := by
  unfold unmask
  split
  · exact byteMaskCirc_append xs ys key
  · rfl

theorem appendPayload_nil (m : MsgMetadata) (h : BasicHeader) : appendPayload m h [] = .ok m := by
  have hvalidate : validateText m [] = (m.validator, true) := by
    unfold validateText
    split
    · rfl
    · rfl
  unfold appendPayload
  simp [unmask_nil, hvalidate]

/-- Payload bytes in two pieces. -/
theorem appendPayload_append (m : MsgMetadata) (h : BasicHeader) (xs ys : List UInt8) :
    appendPayload m h (xs ++ ys) =
      appendPayload m h xs >>= fun m' => appendPayload m' h ys := by
  unfold appendPayload
  rw [unmask_append]
  dsimp only
  unfold validateText
  by_cases htext : m.msg.opcode = .text
  · rw [if_pos htext, if_pos htext, decode_append]
    cases hfirst : (decode m.validator (unmask h xs m.preparedKey).1).2 with
    | false =>
      -- the first piece is refused already, whatever the second one is
      simp only [Bool.false_eq_true, if_false, hfirst]
      rfl
    | true =>
      simp only [if_true]
      change _ = if (if m.msg.opcode = .text then _ else _ : Validator × Bool).2 then _ else _
      rw [if_pos htext, List.append_assoc]
  · -- no validator looks at binary data
    rw [if_neg htext, if_neg htext, if_pos rfl, if_pos rfl]
    change _ = if (if m.msg.opcode = .text then _ else _ : Validator × Bool).2 then _ else _
    rw [if_neg htext, if_pos rfl, List.append_assoc]

/-! ## The Laws -/

variable {s s' : Processor} {xs : List UInt8}

theorem absorb_headerBasic (h : s.state = .headerBasic) :
    s.absorb xs = .ok (s.copyBasicHeaderBytes xs).2 := by
  unfold absorb
  rw [h]

theorem absorb_headerExtended (h : s.state = .headerExtended) :
    s.absorb xs = .ok (s.copyExtendedHeaderBytes xs).2 := by
  unfold absorb
  rw [h]

theorem absorb_application (h : s.state = .application) :
    s.absorb xs = s.processPayloadBytes xs := by
  unfold absorb
  rw [h]

/-- A valid processor is in a header, in a payload or at the end of a message. -/
theorem Valid.cases {P : Prop} (hs : s.Valid)
    (headerBasic : s.state = .headerBasic → s.bytesNeeded ≤ basicHeaderLength → P)
    (headerExtended : s.state = .headerExtended →
      s.cursor + s.bytesNeeded ≤ maxExtendedHeaderLength → P)
    (application : ∀ m, s.state = .application → s.currentMsg = some m → P)
    (ready : ∀ m, s.state = .ready → s.currentMsg = some m → P) : P := by
  have hstate := hs.state
  cases h : s.state with
  | headerBasic =>
    rw [h] at hstate
    exact headerBasic h hstate
  | headerExtended =>
    rw [h] at hstate
    exact headerExtended h hstate
  | application =>
    rw [h] at hstate
    obtain ⟨m, hm⟩ := Option.isSome_iff_exists.mp hstate
    exact application m h hm
  | ready =>
    rw [h] at hstate
    obtain ⟨m, hm⟩ := Option.isSome_iff_exists.mp hstate
    exact ready m h hm
  | extension =>
    rw [h] at hstate
    cases hstate
  | fatalError =>
    rw [h] at hstate
    cases hstate

theorem processPayloadBytes_nil {m : MsgMetadata} (hm : s.currentMsg = some m) :
    s.processPayloadBytes [] = .ok s := by
  have hsame : s.setCurrentMsg (some m) = s := by rw [← hm, setCurrentMsg_currentMsg]
  unfold processPayloadBytes
  rw [hm]
  dsimp only
  rw [appendPayload_nil]
  dsimp only [Except.map]
  rw [hsame, List.length_nil, Nat.sub_zero]

theorem absorb_nil (hs : s.Valid) : s.absorb [] = .ok s := by
  refine hs.cases ?_ ?_ ?_ ?_
  · intro hstate _
    rw [absorb_headerBasic hstate]
    unfold copyBasicHeaderBytes
    split
    · rfl
    · rfl
  · intro hstate _
    have hcopy : copyTo s.extendedHeader s.cursor [] = s.extendedHeader := by simp [copyTo]
    rw [absorb_headerExtended hstate]
    unfold copyExtendedHeaderBytes
    simp [hcopy]
  · intro m hstate hm
    rw [absorb_application hstate]
    exact processPayloadBytes_nil hm
  · intro m hstate _
    unfold absorb
    rw [hstate]

/-- Two bytes of a basic header, or one. -/
theorem copyBasicHeaderBytes_append {xs ys : List UInt8}
    (hneeded : s.bytesNeeded ≤ basicHeaderLength)
    (hlength : xs.length + ys.length ≤ s.bytesNeeded) :
    (s.copyBasicHeaderBytes (xs ++ ys)).2 =
      ((s.copyBasicHeaderBytes xs).2.copyBasicHeaderBytes ys).2 := by
  unfold basicHeaderLength at hneeded
  -- a basic header has two bytes: one of the pieces is empty, or each of them is one byte
  match xs, ys with
  | [], ys =>
    have hnil : s.copyBasicHeaderBytes [] = (0, s) := by
      unfold copyBasicHeaderBytes
      split
      · rfl
      · rfl
    rw [hnil, List.nil_append]
  | x :: xs, [] =>
    rw [List.append_nil]
    generalize (s.copyBasicHeaderBytes (x :: xs)).2 = s'
    unfold copyBasicHeaderBytes
    split
    · rfl
    · rfl
  | [x], [y] =>
    have htwo : s.bytesNeeded = 2 := by
      simp only [List.length_cons, List.length_nil] at hlength
      omega
    simp [copyBasicHeaderBytes, htwo]
  -- more bytes than a basic header has
  | x :: x' :: xs, y :: ys =>
    simp only [List.length_cons] at hlength
    omega
  | [x], y :: y' :: ys =>
    simp only [List.length_cons, List.length_nil] at hlength
    omega

theorem copyExtendedHeaderBytes_append {xs ys : List UInt8} (hs : s.Valid)
    (hstate : s.state = .headerExtended) (hlength : xs.length + ys.length ≤ s.bytesNeeded) :
    (s.copyExtendedHeaderBytes (xs ++ ys)).2 =
      ((s.copyExtendedHeaderBytes xs).2.copyExtendedHeaderBytes ys).2 := by
  have hroom : s.cursor + s.bytesNeeded ≤ maxExtendedHeaderLength := by
    have hstate' := hs.state
    rwa [hstate] at hstate'
  have hheader := hs.header
  -- no piece is longer than what is needed, so that all of it is copied
  have hxs : min s.bytesNeeded xs.length = xs.length := Nat.min_eq_right (by omega)
  have hys : min (s.bytesNeeded - xs.length) ys.length = ys.length := Nat.min_eq_right (by omega)
  have hxys : min s.bytesNeeded (xs ++ ys).length = (xs ++ ys).length :=
    Nat.min_eq_right (by rw [List.length_append]; exact hlength)
  have hcopy := copyTo_append xs ys (show s.cursor ≤ s.extendedHeader.length by omega)
  unfold copyExtendedHeaderBytes
  dsimp only
  rw [hxs, hys, hxys, List.take_length, List.take_length, List.take_length, hcopy,
    List.length_append, Nat.add_assoc, Nat.sub_sub]

theorem processPayloadBytes_append (xs ys : List UInt8) (hmsg : s.currentMsg.isSome = true) :
    s.processPayloadBytes (xs ++ ys) =
      s.processPayloadBytes xs >>= fun s' => s'.processPayloadBytes ys := by
  obtain ⟨m, hm⟩ := Option.isSome_iff_exists.mp hmsg
  unfold processPayloadBytes
  rw [hm]
  dsimp only
  rw [appendPayload_append]
  cases hfirst : appendPayload m s.basicHeader xs with
  | error e => rfl
  | ok m' =>
    -- the second piece finds the message as the first one has left it, and the same header
    have hmsg' : ({ s.setCurrentMsg (some m') with
        bytesNeeded := s.bytesNeeded - xs.length } : Processor).currentMsg = some m' :=
      s.currentMsg_setCurrentMsg (some m')
    have hbasic : (s.setCurrentMsg (some m')).basicHeader = s.basicHeader := by
      unfold setCurrentMsg
      split
      · rfl
      · rfl
    change (appendPayload m' s.basicHeader ys).map _ = Except.bind _ _
    dsimp only [Except.map, Except.bind]
    rw [hmsg']
    dsimp only
    rw [hbasic]
    cases appendPayload m' s.basicHeader ys with
    | error e => rfl
    | ok m'' =>
      unfold setCurrentMsg
      rw [List.length_append, ← Nat.sub_sub]
      cases s.currentIsControl with
      | true => rfl
      | false => rfl

theorem copyBasicHeaderBytes_readState (s : Processor) (xs : List UInt8) :
    (s.copyBasicHeaderBytes xs).2.state = s.state := by
  unfold copyBasicHeaderBytes
  split
  · rfl
  · split
    · rfl
    · split
      · rfl
      · rfl
    · split
      · rfl
      · rfl

theorem absorb_append (xs ys : List UInt8) (hs : s.Valid) (hready : s.state ≠ .ready)
    (hlength : xs.length + ys.length ≤ s.bytesNeeded) :
    s.absorb (xs ++ ys) = s.absorb xs >>= fun s' => s'.absorb ys := by
  -- the first piece does not leave the field, so that the second one is read the same way
  refine hs.cases ?_ ?_ ?_ ?_
  · intro hstate hneeded
    have hstate' : (s.copyBasicHeaderBytes xs).2.state = .headerBasic := by
      rw [copyBasicHeaderBytes_readState, hstate]
    rw [absorb_headerBasic hstate, absorb_headerBasic hstate,
      copyBasicHeaderBytes_append hneeded hlength]
    exact (absorb_headerBasic hstate').symm
  · intro hstate _
    have hstate' : (s.copyExtendedHeaderBytes xs).2.state = .headerExtended := hstate
    rw [absorb_headerExtended hstate, absorb_headerExtended hstate,
      copyExtendedHeaderBytes_append hs hstate hlength]
    exact (absorb_headerExtended hstate').symm
  · intro m hstate hm
    rw [absorb_application hstate, absorb_application hstate,
      processPayloadBytes_append xs ys (by rw [hm]; rfl)]
    cases hfirst : s.processPayloadBytes xs with
    | error e => rfl
    | ok s' =>
      have hstate' : s'.state = .application := by
        rw [(processPayloadBytes_state hfirst).1, hstate]
      exact (absorb_application hstate').symm
  · intro m hstate _
    exact absurd hstate hready

/-- A basic header takes what it needs. -/
theorem copyBasicHeaderBytes_fst (xs : List UInt8) (hneeded : s.bytesNeeded ≤ basicHeaderLength) :
    (s.copyBasicHeaderBytes xs).1 = min s.bytesNeeded xs.length := by
  unfold basicHeaderLength at hneeded
  unfold copyBasicHeaderBytes
  by_cases hzero : s.bytesNeeded = 0
  · simp [hzero]
  · rw [if_neg hzero]
    match xs with
    | [] => simp
    | [x] =>
      dsimp only [List.length_cons, List.length_nil]
      split <;> dsimp only <;> omega
    | x :: x' :: xs =>
      dsimp only [List.length_cons]
      split <;> dsimp only <;> omega

theorem copyBasicHeaderBytes_header (s : Processor) (xs : List UInt8) :
    (s.copyBasicHeaderBytes xs).2.extendedHeader = s.extendedHeader := by
  unfold copyBasicHeaderBytes
  split
  · rfl
  · split
    · rfl
    · split
      · rfl
      · rfl
    · split
      · rfl
      · rfl

theorem setCurrentMsg_extendedHeader (s : Processor) (m : Option MsgMetadata) :
    (s.setCurrentMsg m).extendedHeader = s.extendedHeader := by
  unfold setCurrentMsg
  split
  · rfl
  · rfl

/-- Behind payload bytes the header is the same, and there still is a message. -/
theorem processPayloadBytes_valid (hs : s.Valid) (hstate : s.state = .application)
    (h : s.processPayloadBytes xs = .ok s') : s'.Valid := by
  have hstate' := (processPayloadBytes_state h).1
  have hmsg : s.currentMsg.isSome = true := by
    have hvalid := hs.state
    rwa [hstate] at hvalid
  obtain ⟨m, hm⟩ := Option.isSome_iff_exists.mp hmsg
  unfold processPayloadBytes at h
  rw [hm] at h
  obtain ⟨m', -, hs'⟩ := map_ok h
  constructor
  · rw [← hs']
    exact (congrArg List.length (s.setCurrentMsg_extendedHeader _)).trans hs.header
  · rw [hstate', hstate]
    have hmsg' : s'.currentMsg = some m' := by
      rw [← hs']
      exact s.currentMsg_setCurrentMsg (some m')
    dsimp only
    rw [hmsg']
    rfl

/-- Behind some bytes of a field the rest of it is needed. -/
theorem absorb_valid (hs : s.Valid) (hready : s.state ≠ .ready)
    (hlength : xs.length ≤ s.bytesNeeded) (h : s.absorb xs = .ok s') :
    s'.Valid ∧ s'.state ≠ .ready ∧ s'.bytesNeeded = s.bytesNeeded - xs.length := by
  refine hs.cases ?_ ?_ ?_ ?_
  · intro hstate hneeded
    rw [absorb_headerBasic hstate] at h
    cases h
    have hstate' := s.copyBasicHeaderBytes_readState xs
    have hbytes : (s.copyBasicHeaderBytes xs).2.bytesNeeded = s.bytesNeeded - xs.length := by
      rw [(s.copyBasicHeaderBytes_state xs).2.1, copyBasicHeaderBytes_fst xs hneeded]
      omega
    have hheader := congrArg List.length (s.copyBasicHeaderBytes_header xs)
    refine ⟨⟨hheader.trans hs.header, ?_⟩, ?_, hbytes⟩
    · rw [hstate', hstate]
      dsimp only
      omega
    · rw [hstate', hstate]
      decide
  · intro hstate hroom
    rw [absorb_headerExtended hstate] at h
    cases h
    have hmin : min s.bytesNeeded xs.length = xs.length := Nat.min_eq_right hlength
    have hheader := hs.header
    unfold copyExtendedHeaderBytes
    dsimp only
    rw [hmin, List.take_length]
    -- the cursor moves on by as much as less is needed
    refine ⟨⟨?_, ?_⟩, ?_, rfl⟩
    · exact (length_copyTo (by omega)).trans hheader
    · rw [hstate]
      dsimp only
      omega
    · rw [hstate]
      decide
  · intro m hstate hm
    rw [absorb_application hstate] at h
    obtain ⟨hstate', hbytes⟩ := processPayloadBytes_state h
    refine ⟨processPayloadBytes_valid hs hstate h, ?_, hbytes⟩
    rw [hstate', hstate]
    decide
  · intro m hstate _
    exact absurd hstate hready

/-! ## The End of a Field -/

theorem getHeaderLen_le (h : BasicHeader) :
    getHeaderLen h - basicHeaderLength ≤ maxExtendedHeaderLength := by
  unfold getHeaderLen getMaskingKeyOffset basicHeaderLength maxExtendedHeaderLength
  split
  · split <;> omega
  · split
    · split <;> omega
    · split <;> omega

/-- Behind a header there is a message for the payload. -/
theorem extendedHeaderRead_valid (hs : s.Valid) (h : s.extendedHeaderRead = .ok s') :
    s'.Valid := by
  have hstate := (extendedHeaderRead_state h).1
  unfold extendedHeaderRead at h
  split at h
  · cases h
  dsimp only at h
  -- a frame of control opens a message of its own, and one of data opens one or goes on with it
  split at h
  · cases h
    exact ⟨hs.header, rfl⟩
  split at h
  all_goals
    split at h
    · cases h
    · cases h
      exact ⟨hs.header, rfl⟩

theorem resetHeaders_valid (s : Processor) : s.resetHeaders.Valid := ⟨rfl, le_rfl⟩

/-- The end of a field leads to one that needs something, or closer to the end of the frame. -/
theorem finish_valid (hs : s.Valid) (hready : s.state ≠ .ready) (hzero : s.bytesNeeded = 0)
    (h : s.finish = .ok s') : s'.Valid ∧ s'.rank < s.rank := by
  -- basic header, extended header, payload, message: the rank counts down from 3
  refine hs.cases ?_ ?_ ?_ ?_
  · intro hstate _
    unfold finish at h
    rw [hstate] at h
    obtain ⟨-, rfl⟩ := basicHeaderRead_cases h
    have hroom := getHeaderLen_le s.basicHeader
    have hrank := rank_headerExtended (s := { s with
      state := .headerExtended
      cursor := 0
      bytesNeeded := getHeaderLen s.basicHeader - basicHeaderLength }) rfl
    refine ⟨⟨hs.header, ?_⟩, ?_⟩
    · dsimp only
      omega
    · have hs3 : s.rank = 3 := by simp [rank, hstate, hzero]
      omega
  · intro hstate _
    unfold finish at h
    rw [hstate] at h
    have hrank := rank_application (extendedHeaderRead_state h).1
    have hs2 : s.rank = 2 := by simp [rank, hstate, hzero]
    exact ⟨extendedHeaderRead_valid hs h, by omega⟩
  · intro m hstate hm
    unfold finish at h
    rw [hstate] at h
    have hs1 : s.rank = 1 := by simp [rank, hstate, hzero]
    rw [hs1]
    -- the message is ready, or a fragment of it is through and the next header begins
    rcases payloadRead_cases h with rfl | rfl
    · refine ⟨⟨hs.header, ?_⟩, Nat.one_pos⟩
      change s.currentMsg.isSome = true
      rw [hm]
      rfl
    · exact ⟨s.resetHeaders_valid, Nat.one_pos⟩
  · intro m hstate _
    exact absurd hstate hready

theorem getMessage_ready {m : MsgMetadata} (hstate : s.state = .ready)
    (hm : s.currentMsg = some m) :
    s.getMessage = (some m.msg,
      (if m.msg.opcode.isControl then { s.setCurrentMsg none with controlMsg := none }
        else { s.setCurrentMsg none with dataMsg := none }).resetHeaders) := by
  unfold getMessage
  rw [if_pos hstate, hm]

/-- A message that is ready is there. -/
theorem getMessage_collect (hs : s.Valid) (hready : s.state = .ready) :
    s.getMessage = (some s.collect.1, s.collect.2) := by
  have hvalid := hs.state
  rw [hready] at hvalid
  obtain ⟨m, hm⟩ := Option.isSome_iff_exists.mp hvalid
  unfold collect
  rw [getMessage_ready hready hm]
  rfl

theorem collect_valid (hs : s.Valid) (hready : s.state = .ready) :
    s.collect.2.Valid ∧ s.collect.2.state ≠ .ready ∧ s.collect.2.bytesNeeded ≠ 0 := by
  have hvalid := hs.state
  rw [hready] at hvalid
  obtain ⟨m, hm⟩ := Option.isSome_iff_exists.mp hvalid
  unfold collect
  rw [getMessage_ready hready hm]
  exact ⟨resetHeaders_valid _, ReadState.noConfusion, Nat.succ_ne_zero 1⟩

/-- The processor as a reader of fields. -/
def frameReader : Reader Processor UInt8 ProcessorError Message where
  valid := Valid
  needed := bytesNeeded
  ready s := s.state = .ready
  absorb := absorb
  finish := finish
  collect := collect
  rank := rank
  absorb_nil := absorb_nil
  absorb_append xs ys hs hready := absorb_append xs ys hs (by simpa using hready)
  absorb_valid hs hready hlength h := by
    obtain ⟨hvalid, hready', hbytes⟩ := absorb_valid hs (by simpa using hready) hlength h
    exact ⟨hvalid, by simpa using hready', hbytes⟩
  finish_valid hs hready hzero h := by
    obtain ⟨hvalid, hrank⟩ := finish_valid hs (by simpa using hready) hzero h
    exact ⟨hvalid, fun hstop => absurd hrank hstop⟩
  collect_valid hs hready := by
    obtain ⟨hvalid, hready', hneeded⟩ := collect_valid hs (by simpa using hready)
    exact ⟨hvalid, by simpa using hready', hneeded⟩

theorem settled_iff :
    frameReader.Settled s ↔ s.Valid ∧ s.state ≠ .ready ∧ s.bytesNeeded ≠ 0 := by
  constructor
  · rintro ⟨hvalid, hready, hneeded⟩
    exact ⟨hvalid, by simpa [frameReader] using hready, hneeded⟩
  · rintro ⟨hvalid, hready, hneeded⟩
    exact ⟨hvalid, by simpa [frameReader] using hready, hneeded⟩

/-- Behind a field that has been settled, and the message if one is ready. -/
theorem settled_emit {s' : Processor} (hvalid : s.Valid)
    (hstop : s.state = .ready ∨ s.bytesNeeded ≠ 0)
    (h : (frameReader.emit (.ok s)).2 = .ok s') : frameReader.Settled s' := by
  refine Reader.settled_emit (fun t ht => ?_) h
  cases ht
  exact ⟨hvalid, hstop.imp_left fun hready => by simpa [frameReader] using hready⟩

/-- A new processor waits for the header of a frame. -/
theorem settled_fresh (isServer : Bool) : frameReader.Settled (fresh isServer) :=
  settled_iff.mpr ⟨⟨rfl, le_rfl⟩, ReadState.noConfusion, Nat.succ_ne_zero 1⟩

/-! ## `consume` -/

theorem copyBasicHeaderBytes_take (xs : List UInt8) (hneeded : s.bytesNeeded ≤ basicHeaderLength) :
    (s.copyBasicHeaderBytes (xs.take s.bytesNeeded)).2 = (s.copyBasicHeaderBytes xs).2 := by
  unfold basicHeaderLength at hneeded
  unfold copyBasicHeaderBytes
  by_cases hzero : s.bytesNeeded = 0
  · rw [if_pos hzero, if_pos hzero]
  · rw [if_neg hzero, if_neg hzero]
    -- a single byte is all of what is needed or all there is
    match xs with
    | [] => rw [List.take_nil]
    | [x] => rw [List.take_of_length_le (by rw [List.length_singleton]; omega)]
    | x :: x' :: xs =>
      by_cases htwo : s.bytesNeeded = 2
      · simp [htwo]
      · have hone : s.bytesNeeded = 1 := by omega
        simp [hone]

theorem copyExtendedHeaderBytes_take (xs : List UInt8) :
    (s.copyExtendedHeaderBytes (xs.take s.bytesNeeded)).2 = (s.copyExtendedHeaderBytes xs).2 := by
  have hmin : min s.bytesNeeded (xs.take s.bytesNeeded).length = min s.bytesNeeded xs.length := by
    rw [List.length_take]
    omega
  have htake : (xs.take s.bytesNeeded).take (min s.bytesNeeded xs.length) =
      xs.take (min s.bytesNeeded xs.length) := by
    rw [List.take_take]
    congr 1
    omega
  unfold copyExtendedHeaderBytes
  dsimp only
  rw [hmin, htake]

/-- A round absorbs what the field needs, and finishes it if that was all. -/
theorem consumeRound_eq (hs : s.Valid) (hready : s.state ≠ .ready) (buf : List UInt8) :
    s.consumeRound buf =
      s.absorb (buf.take s.bytesNeeded) >>= fun s' =>
        if 0 < s'.bytesNeeded then .ok (min s.bytesNeeded buf.length, s')
        else s'.finish.map (min s.bytesNeeded buf.length, ·) := by
  refine hs.cases ?_ ?_ ?_ ?_
  · intro hstate hneeded
    have hstate' := (s.copyBasicHeaderBytes_readState buf).trans hstate
    have hfinish : (s.copyBasicHeaderBytes buf).2.finish =
        (s.copyBasicHeaderBytes buf).2.basicHeaderRead := by
      unfold finish
      rw [hstate']
    rw [absorb_headerBasic hstate, copyBasicHeaderBytes_take buf hneeded]
    unfold consumeRound
    rw [hstate]
    dsimp only
    rw [copyBasicHeaderBytes_fst buf hneeded, ← hfinish]
    rfl
  · intro hstate _
    have hstate' : (s.copyExtendedHeaderBytes buf).2.state = .headerExtended := hstate
    have hfinish : (s.copyExtendedHeaderBytes buf).2.finish =
        (s.copyExtendedHeaderBytes buf).2.extendedHeaderRead := by
      unfold finish
      rw [hstate']
    rw [absorb_headerExtended hstate, copyExtendedHeaderBytes_take buf]
    unfold consumeRound
    rw [hstate]
    dsimp only
    rw [← hfinish]
    rfl
  · intro m hstate hm
    have htake : buf.take (min s.bytesNeeded buf.length) = buf.take s.bytesNeeded := by
      rw [← List.take_take, List.take_length]
    -- the source tests for an empty rest, which would change nothing
    have hpayload : (if 0 < min s.bytesNeeded buf.length then
        s.processPayloadBytes (buf.take (min s.bytesNeeded buf.length)) else .ok s) =
        s.processPayloadBytes (buf.take s.bytesNeeded) := by
      split
      case isTrue => rw [htake]
      case isFalse hnone =>
        have hempty : buf.take s.bytesNeeded = [] := by
          rw [← List.length_eq_zero_iff, List.length_take]
          omega
        rw [hempty, processPayloadBytes_nil hm]
    rw [absorb_application hstate]
    unfold consumeRound
    rw [hstate]
    dsimp only
    rw [hpayload]
    cases hfirst : s.processPayloadBytes (buf.take s.bytesNeeded) with
    | error e => rfl
    | ok s' =>
      have hfinish : s'.finish = s'.payloadRead := by
        unfold finish
        rw [(processPayloadBytes_state hfirst).1, hstate]
      change _ = if 0 < s'.bytesNeeded then _ else _
      rw [hfinish]
  · intro m hstate _
    exact absurd hstate hready

/-- `consume` goes on as long as a field can be read. -/
theorem consume_round (hs : s.Valid) (hready : s.state ≠ .ready) {buf : List UInt8}
    (hloop : buf ≠ [] ∨ s.bytesNeeded = 0) :
    s.consume buf = s.consumeRound buf >>= fun r =>
      (r.2.consume (buf.drop r.1)).map fun q => (r.1 + q.1, q.2) := by
  -- the loop is also left in the fatal state, in which no valid processor is
  have hfatal : s.state ≠ .fatalError := by
    intro hstate
    have hvalid := hs.state
    rw [hstate] at hvalid
    exact hvalid
  rw [consume, dif_pos ⟨hready, hfatal, hloop⟩]
  cases s.consumeRound buf with
  | error e => rfl
  | ok r => rfl

/-- It stops when a message is ready, or at the end of the buffer. -/
theorem consume_stop {buf : List UInt8}
    (h : s.state = .ready ∨ buf = [] ∧ s.bytesNeeded ≠ 0) : s.consume buf = .ok (0, s) := by
  rw [consume, dif_neg]
  rintro ⟨hready, -, hloop⟩
  rcases h with hstate | ⟨hempty, hneeded⟩
  · exact hready hstate
  · exact hloop.elim (fun hbuf => hbuf hempty) hneeded

/-- Fields that need nothing are finished first. -/
theorem consume_settle (hs : s.Valid) (buf : List UInt8) :
    s.consume buf = frameReader.settle s >>= fun s' => s'.consume buf := by
  -- no byte is read here: the induction is on the rank of the field
  induction hn : s.rank using Nat.strongRecOn generalizing s with
  | ind n ih =>
    by_cases hready : s.state = .ready
    · rw [Reader.settle_of_ready (by simpa [frameReader] using hready)]
      rfl
    by_cases hzero : s.bytesNeeded = 0
    · have hempty : buf.take s.bytesNeeded = [] := by rw [hzero, List.take_zero]
      rw [Reader.settle_of_zero hs (by simpa [frameReader] using hready) hzero,
        consume_round hs hready (Or.inr hzero), consumeRound_eq hs hready, hempty,
        absorb_nil hs]
      change (if 0 < s.bytesNeeded then _ else _) >>= _ = (s.finish >>= _) >>= _
      rw [if_neg (by omega), hzero, Nat.zero_min]
      cases hfinish : s.finish with
      | error e => rfl
      | ok s' =>
        -- the field behind it has a smaller rank, and may need nothing either
        obtain ⟨hvalid, hrank⟩ := finish_valid hs hready hzero hfinish
        have hrest := ih s'.rank (hn ▸ hrank) hvalid rfl
        change (s'.consume (buf.drop 0)).map _ = frameReader.settle s' >>= _
        rw [List.drop_zero, ← hrest]
        cases s'.consume buf with
        | error e => rfl
        | ok q => exact congrArg Except.ok (Prod.ext (Nat.zero_add _) rfl)
    · rw [Reader.settle_of_needed hzero]
      rfl

/-- **A field of a buffer**: it is absorbed as far as the buffer goes, and settled. -/
theorem consume_field (hs : frameReader.Settled s) {buf : List UInt8} (hbuf : buf ≠ []) :
    s.consume buf =
      (s.absorb (buf.take s.bytesNeeded) >>= frameReader.settle) >>= fun s' =>
        (s'.consume (buf.drop s.bytesNeeded)).map fun q =>
          (min s.bytesNeeded buf.length + q.1, q.2) := by
  obtain ⟨hvalid, hready, hneeded⟩ := settled_iff.mp hs
  have hlength : (buf.take s.bytesNeeded).length = min s.bytesNeeded buf.length :=
    List.length_take
  have hdrop : buf.drop (min s.bytesNeeded buf.length) = buf.drop s.bytesNeeded := by
    by_cases hle : s.bytesNeeded ≤ buf.length
    · rw [Nat.min_eq_left hle]
    · rw [Nat.min_eq_right (by omega), List.drop_length, List.drop_of_length_le (by omega)]
  rw [consume_round hvalid hready (Or.inl hbuf), consumeRound_eq hvalid hready]
  cases hfirst : s.absorb (buf.take s.bytesNeeded) with
  | error e => rfl
  | ok s' =>
    obtain ⟨hvalid', hready', hbytes⟩ := absorb_valid hvalid hready (by omega) hfirst
    change (if 0 < s'.bytesNeeded then _ else _) >>= _ = frameReader.settle s' >>= _
    by_cases hmore : 0 < s'.bytesNeeded
    · -- the buffer is used up
      rw [if_pos hmore, Reader.settle_of_needed (R := frameReader) (Nat.ne_of_gt hmore)]
      change (s'.consume (buf.drop (min s.bytesNeeded buf.length))).map _ =
        (s'.consume (buf.drop s.bytesNeeded)).map _
      rw [hdrop]
    · -- the field is complete, and its end may be that of others
      have hzero : s'.bytesNeeded = 0 := by omega
      rw [if_neg hmore, Reader.settle_of_zero (R := frameReader) hvalid'
        (by simpa [frameReader] using hready') hzero]
      change _ = (s'.finish >>= frameReader.settle) >>= _
      cases hfinish : s'.finish with
      | error e => rfl
      | ok s'' =>
        obtain ⟨hvalid'', -⟩ := finish_valid hvalid' hready' hzero hfinish
        change (s''.consume (buf.drop (min s.bytesNeeded buf.length))).map _ =
          frameReader.settle s'' >>= _
        rw [hdrop, consume_settle hvalid'']
        cases frameReader.settle s'' with
        | error e => rfl
        | ok t => rfl

/-- **A call of `consume`**: it reads up to the end of a message or of the buffer. -/
theorem consume_run (hs : frameReader.Settled s) {buf : List UInt8} (hbuf : buf ≠ []) :
    match s.consume buf with
    | .error e => frameReader.run s buf = ([], .error e)
    | .ok q =>
      0 < q.1 ∧ q.2.Valid ∧ (q.2.state = .ready ∨ q.2.bytesNeeded ≠ 0) ∧
        frameReader.run s (buf.take q.1) = frameReader.emit (.ok q.2) := by
  -- a call can be several fields: the induction is on the bytes
  induction hn : buf.length using Nat.strongRecOn generalizing s buf with
  | ind n ih =>
    obtain ⟨hvalid, hready, hneeded⟩ := settled_iff.mp hs
    have hpos : 0 < buf.length := List.length_pos_iff.mpr hbuf
    have hlength : (buf.take s.bytesNeeded).length ≤ s.bytesNeeded := List.length_take_le _ _
    have hrun := Reader.run_field hs hlength
    have hstop := fun u hu => Reader.absorb_settle_valid (t := u) hs hlength hu
    have hfield : frameReader.absorb s (buf.take s.bytesNeeded) =
      s.absorb (buf.take s.bytesNeeded) := rfl
    have htake : buf.take (min s.bytesNeeded buf.length) = buf.take s.bytesNeeded := by
      rw [← List.take_take, List.take_length]
    rw [consume_field hs hbuf]
    rw [hfield] at hrun hstop
    cases hsettle : s.absorb (buf.take s.bytesNeeded) >>= frameReader.settle with
    | error e =>
      -- the bytes behind the error are not looked at
      rw [hsettle] at hrun
      have hall := frameReader.run_append s (buf.take s.bytesNeeded) (buf.drop s.bytesNeeded)
      rw [List.take_append_drop, hrun] at hall
      exact hall
    | ok u =>
      rw [hsettle] at hrun
      obtain ⟨huvalid, hu⟩ := hstop u hsettle
      have hu' : u.state = .ready ∨ u.bytesNeeded ≠ 0 :=
        hu.imp_left fun h => by simpa [frameReader] using h
      dsimp only [bind, Except.bind]
      by_cases hend : u.state = .ready ∨ buf.drop s.bytesNeeded = []
      · -- a message is ready, or the buffer is used up
        have hconsume := consume_stop (hend.elim Or.inl fun hempty =>
          hu'.imp_right fun hneeded => ⟨hempty, hneeded⟩)
        rw [hconsume]
        refine ⟨?_, huvalid, hu', ?_⟩
        · change 0 < min s.bytesNeeded buf.length + 0
          omega
        · change frameReader.run s (buf.take (min s.bytesNeeded buf.length + 0)) = _
          rw [Nat.add_zero, htake, hrun]
      · -- another field begins
        obtain ⟨hwaits, hrest⟩ := not_or.mp hend
        have hle : s.bytesNeeded ≤ buf.length := by
          by_contra hgt
          exact hrest (List.drop_of_length_le (by omega))
        have hemit : frameReader.emit (.ok u) = ([], .ok u) :=
          if_neg (by simpa [frameReader] using hwaits)
        have hsettled := settled_iff.mpr ⟨huvalid, hwaits, hu'.resolve_left hwaits⟩
        have hih := ih _ (by rw [List.length_drop]; omega) hsettled hrest rfl
        -- no message ends with this field, so the run is that of the bytes behind it
        have hsplit : ∀ ys, frameReader.run s (buf.take s.bytesNeeded ++ ys) =
            frameReader.run u ys := by
          intro ys
          rw [frameReader.run_append, hrun, hemit]
          exact Result.andThen_of_ok u _
        cases hconsume : u.consume (buf.drop s.bytesNeeded) with
        | error e =>
          rw [hconsume] at hih
          have hall := hsplit (buf.drop s.bytesNeeded)
          rw [List.take_append_drop, hih] at hall
          exact hall
        | ok q =>
          rw [hconsume] at hih
          obtain ⟨hq, hqvalid, hqstop, hqrun⟩ := hih
          refine ⟨Nat.add_pos_right _ hq, hqvalid, hqstop, ?_⟩
          change frameReader.run s (buf.take (min s.bytesNeeded buf.length + q.1)) = _
          rw [Nat.min_eq_left hle, List.take_add, hsplit, hqrun]

/-! ## The Loop of `handle_read_frame` -/

section Dispatching

variable {τ : Type} (dispatch : Message → τ → τ × Bool)

/-- Messages are dispatched one after the other until an exception leaves one of them. -/
def dispatchAll : List Message → τ → τ × Bool
  | [], t => (t, false)
  | msg :: msgs, t =>
    match dispatch msg t with
    | (t', true) => (t', true)
    | (t', false) => dispatchAll msgs t'

/-- What is made of a stream: its messages are dispatched, and an error behind them counts if no
    exception came first. -/
def conclude (r : Result Processor ProcessorError Message) (t : τ) : τ × ReadEnd :=
  match dispatchAll dispatch r.1 t with
  | (t', true) => (t', .threw)
  | (t', false) =>
    match r.2 with
    | .error e => (t', .failed e)
    | .ok s => (t', .consumed s)

/-- What comes behind a part of the reading, if the reading goes on. -/
def andThenRead (r : τ × ReadEnd) (f : Processor → τ → τ × ReadEnd) : τ × ReadEnd :=
  match r.2 with
  | .consumed s => f s r.1
  | .failed e => (r.1, .failed e)
  | .threw => (r.1, .threw)

/-- Behind `consume` a message that is ready is collected and dispatched. -/
def collectRound (s : Processor) (t : τ) : τ × ReadEnd :=
  if s.state = .ready then
    match s.getMessage with
    | (none, s') => (t, .consumed s')
    | (some msg, s') =>
      match dispatch msg t with
      | (t', true) => (t', .threw)
      | (t', false) => (t', .consumed s')
  else (t, .consumed s)

/-- The rest of the loop behind `consume`. -/
def afterConsume (fuel : ℕ) (buf : List UInt8) (t : τ) :
    Except ProcessorError (ℕ × Processor) → τ × ReadEnd
  | .error e => (t, .failed e)
  | .ok q =>
    andThenRead (collectRound dispatch q.2 t) fun s t' =>
      readLoop dispatch fuel s (buf.drop q.1) t'

theorem dispatchAll_cons (msg : Message) (ms : List Message) (t : τ) :
    dispatchAll dispatch (msg :: ms) t =
      if (dispatch msg t).2 then ((dispatch msg t).1, true)
      else dispatchAll dispatch ms (dispatch msg t).1 := by
  rw [dispatchAll]
  cases dispatch msg t with
  | mk t' threw =>
    cases threw with
    | true => rfl
    | false => rfl

theorem dispatchAll_append (ms ms' : List Message) (t : τ) :
    dispatchAll dispatch (ms ++ ms') t =
      if (dispatchAll dispatch ms t).2 then dispatchAll dispatch ms t
      else dispatchAll dispatch ms' (dispatchAll dispatch ms t).1 := by
  induction ms generalizing t with
  | nil => rfl
  | cons msg ms ih =>
    rw [List.cons_append, dispatchAll_cons, dispatchAll_cons]
    -- an exception keeps all later messages from being dispatched
    by_cases hthrew : (dispatch msg t).2
    · rw [if_pos hthrew, if_pos hthrew, if_pos rfl]
    · rw [if_neg hthrew, if_neg hthrew, ih]

theorem conclude_fst (r : Result Processor ProcessorError Message) (t : τ) :
    (conclude dispatch r t).1 = (dispatchAll dispatch r.1 t).1 := by
  unfold conclude
  cases dispatchAll dispatch r.1 t with
  | mk t' threw =>
    cases threw with
    | true => rfl
    | false =>
      cases r.2 with
      | error e => rfl
      | ok s => rfl

/-- A stream without an error is not read as one. -/
theorem conclude_of_ok {r : Result Processor ProcessorError Message} {s : Processor}
    (h : r.2 = .ok s) (t : τ) (e : ProcessorError) : (conclude dispatch r t).2 ≠ .failed e := by
  unfold conclude
  rw [h]
  cases dispatchAll dispatch r.1 t with
  | mk t' threw =>
    cases threw with
    | true => exact ReadEnd.noConfusion
    | false => exact ReadEnd.noConfusion

theorem conclude_andThen (r : Result Processor ProcessorError Message)
    (f : Processor → Result Processor ProcessorError Message) (t : τ) :
    conclude dispatch (r.andThen f) t =
      andThenRead (conclude dispatch r t) fun s t' => conclude dispatch (f s) t' := by
  obtain ⟨msgs, e | s⟩ := r
  · unfold Result.andThen conclude
    dsimp only
    cases hall : dispatchAll dispatch msgs t with
    | mk t' threw =>
      cases threw with
      | true => rfl
      | false => rfl
  · unfold Result.andThen conclude
    dsimp only
    rw [dispatchAll_append]
    cases hall : dispatchAll dispatch msgs t with
    | mk t' threw =>
      cases threw with
      | true => rfl
      | false => rfl

/-- A loop over a buffer that is not empty begins with `consume`. -/
theorem readLoop_succ (fuel : ℕ) (s : Processor) {buf : List UInt8} (hbuf : buf ≠ []) (t : τ) :
    readLoop dispatch (fuel + 1) s buf t = afterConsume dispatch fuel buf t (s.consume buf) := by
  rw [readLoop, if_neg hbuf]
  cases s.consume buf with
  | error e => rfl
  | ok q =>
    unfold afterConsume collectRound
    dsimp only
    by_cases hready : q.2.state = .ready
    · rw [if_pos hready, if_pos hready]
      cases q.2.getMessage with
      | mk msg s' =>
        cases msg with
        | none => rfl
        | some msg =>
          dsimp only
          cases dispatch msg t with
          | mk t' threw =>
            cases threw with
            | true => rfl
            | false => rfl
    · rw [if_neg hready, if_neg hready]
      rfl

theorem readLoop_nil (fuel : ℕ) (s : Processor) (t : τ) :
    readLoop dispatch fuel s [] t = (t, .consumed s) := by
  cases fuel with
  | zero => rfl
  | succ fuel => exact if_pos rfl

theorem collectRound_eq (hs : Valid s) (t : τ) :
    collectRound dispatch s t = conclude dispatch (frameReader.emit (.ok s)) t := by
  by_cases hready : s.state = .ready
  · have hemit : frameReader.emit (.ok s) = ([s.collect.1], .ok s.collect.2) :=
      if_pos (by simpa [frameReader] using hready)
    unfold collectRound
    rw [hemit, if_pos hready, getMessage_collect hs hready]
    unfold conclude
    dsimp only
    rw [dispatchAll_cons]
    cases dispatch s.collect.1 t with
    | mk t' threw =>
      cases threw with
      | true => rfl
      | false => rfl
  · have hemit : frameReader.emit (.ok s) = ([], .ok s) :=
      if_neg (by simpa [frameReader] using hready)
    rw [hemit]
    exact if_neg hready

theorem conclude_consumed {r : Result Processor ProcessorError Message} {s' : Processor} {t t' : τ}
    (h : conclude dispatch r t = (t', .consumed s')) : r.2 = .ok s' := by
  unfold conclude at h
  cases hall : dispatchAll dispatch r.1 t with
  | mk t'' threw =>
    rw [hall] at h
    cases threw with
    | true => cases h
    | false =>
      cases hend : r.2 with
      | error e =>
        rw [hend] at h
        cases h
      | ok s'' =>
        rw [hend] at h
        cases h
        rfl

theorem andThenRead_congr {r : τ × ReadEnd} {f g : Processor → τ → τ × ReadEnd}
    (h : ∀ s t, r = (t, .consumed s) → f s t = g s t) : andThenRead r f = andThenRead r g := by
  obtain ⟨t, e⟩ := r
  cases e with
  | consumed s => exact h s t rfl
  | failed e => rfl
  | threw => rfl

/-- **The loop reads a stream**: with as much fuel as there are bytes it dispatches the messages of
    the stream. -/
theorem readLoop_eq {fuel : ℕ} {buf : List UInt8} (hs : frameReader.Settled s)
    (hfuel : buf.length ≤ fuel) (t : τ) :
    readLoop dispatch fuel s buf t = conclude dispatch (frameReader.run s buf) t := by
  -- a round takes one byte at least off the buffer, and one off the fuel
  induction fuel generalizing s buf t with
  | zero =>
    rw [List.length_eq_zero_iff.mp (Nat.le_zero.mp hfuel), readLoop_nil]
    rfl
  | succ fuel ih =>
    by_cases hbuf : buf = []
    · rw [hbuf, readLoop_nil]
      rfl
    have hconsume := consume_run hs hbuf
    rw [readLoop_succ dispatch fuel s hbuf]
    cases hround : s.consume buf with
    | error e =>
      rw [hround] at hconsume
      rw [hconsume]
      rfl
    | ok q =>
      rw [hround] at hconsume
      obtain ⟨hpos, hvalid, hstop, hrun⟩ := hconsume
      -- what `consume` has read means the message that is ready, if there is one
      have hsplit := frameReader.run_append s (buf.take q.1) (buf.drop q.1)
      rw [List.take_append_drop, hrun] at hsplit
      rw [hsplit, conclude_andThen, ← collectRound_eq dispatch hvalid]
      refine andThenRead_congr fun s' t' hcollect => ih ?_ ?_ t'
      · rw [collectRound_eq dispatch hvalid] at hcollect
        exact settled_emit hvalid hstop (conclude_consumed dispatch hcollect)
      · rw [List.length_drop]
        omega

/-- One read after the other. An error or an exception ends the reading: `read_frame` is not called
    behind it. -/
def readAll : Processor → τ → List (List UInt8) → τ × ReadEnd
  | s, t, [] => (t, .consumed s)
  | s, t, buf :: bufs =>
    match readLoop dispatch buf.length s buf t with
    | (t', .consumed s') => readAll s' t' bufs
    | r => r

/-- **Where the reads cut the stream does not matter.** -/
theorem readAll_eq (hs : frameReader.Settled s) (t : τ) (bufs : List (List UInt8)) :
    readAll dispatch s t bufs = conclude dispatch (frameReader.run s bufs.flatten) t := by
  induction bufs generalizing s t with
  | nil => rfl
  | cons buf bufs ih =>
    rw [List.flatten_cons, Reader.run_append, conclude_andThen]
    unfold readAll
    rw [readLoop_eq dispatch hs le_rfl]
    -- the next read goes on where this one stops, unless it ends in an error or an exception
    cases hrun : frameReader.run s buf with
    | mk msgs r =>
      unfold conclude
      dsimp only
      cases dispatchAll dispatch msgs t with
      | mk t' threw =>
        cases threw with
        | true => rfl
        | false =>
          cases r with
          | error e => rfl
          | ok s' =>
            have hs' : frameReader.Settled s' := Reader.settled_run hs (by rw [hrun])
            exact ih hs' t'

end Dispatching

/-- **Reads do not matter**: whatever the dispatch of a message does, a connection whose bytes come
    in any pieces dispatches what it would dispatch if they all came at once. -/
theorem readAll_flatten {τ : Type} (dispatch : Message → τ → τ × Bool) (isServer : Bool) (t : τ)
    (bufs : List (List UInt8)) :
    readAll dispatch (fresh isServer) t bufs =
      readLoop dispatch bufs.flatten.length (fresh isServer) bufs.flatten t := by
  rw [readAll_eq dispatch (settled_fresh isServer),
    readLoop_eq dispatch (settled_fresh isServer) le_rfl]

end Processor

end BallchasingReplayPlayer
