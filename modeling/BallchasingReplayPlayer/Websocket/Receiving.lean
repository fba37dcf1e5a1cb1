import Mathlib.Data.List.Infix
import BallchasingReplayPlayer.Websocket.Connection
import BallchasingReplayPlayer.Websocket.RoundTrip

/-!
# What a Connection Receives

Between a read and the rounds of its loop other threads send and close. What is collected is what
the bytes mean all the same, and what is collected of data is dispatched while the connection is
open.

## Layers

1. `SameReading`: a step that reads nothing
2. `ReadInvariant`: the bytes that have been consumed and the messages collected from them

## Main Results

- `collected_run`: what is collected in a run is what the bytes mean
- `dispatched_in_order`: messages of a client are dispatched in the order in which they end
-/

namespace BallchasingReplayPlayer

open BallchasingReplayPlayer.Frame Utf8Validator FieldReader Transition

open BallchasingReplayPlayer.Processor (OutMessage frameReader)

namespace Connection

variable {c c' : Connection}

/-! ## Steps That Do Not Read -/

/-- A step reads nothing, does not begin to read and does not open the connection. -/
structure SameReading (c c' : Connection) : Prop where
  processor : c'.processor = c.processor
  buffer : c'.buffer = c.buffer
  received : c'.received = c.received
  collected : c'.collected = c.collected
  dispatched : c'.dispatched = c.dispatched
  reading : c'.reading = true → c.reading = true
  opened : c'.state = .opened → c.state = .opened

theorem SameReading.refl (c : Connection) : SameReading c c := ⟨rfl, rfl, rfl, rfl, rfl, id, id⟩

theorem SameReading.trans {c'' : Connection} (h : SameReading c c') (h' : SameReading c' c'') :
    SameReading c c'' where
  processor := h'.processor.trans h.processor
  buffer := h'.buffer.trans h.buffer
  received := h'.received.trans h.received
  collected := h'.collected.trans h.collected
  dispatched := h'.dispatched.trans h.dispatched
  reading hreading := h.reading (h'.reading hreading)
  opened hopen := h.opened (h'.opened hopen)

theorem SameReading.terminate (c : Connection) : SameReading c c.terminate := by
  unfold Connection.terminate
  split
  · exact ⟨rfl, rfl, rfl, rfl, rfl, id, id⟩
  · exact ⟨rfl, rfl, rfl, rfl, rfl, id, fun h => by cases h⟩

theorem SameReading.pushes (c : Connection) (msg : OutMessage) :
    SameReading c (c.writePush msg).dispatchWrite := by
  rw [dispatchWrite_eq]
  exact ⟨rfl, rfl, rfl, rfl, rfl, id, id⟩

theorem ControlMove.reads (h : ControlMove c c') : SameReading c c' := by
  cases h with
  | none h =>
    rw [h]
    exact .refl c
  | answers payload h =>
    rw [h]
    exact ⟨rfl, rfl, rfl, rfl, rfl, id, id⟩
  | closes code reason m terminal clean hopen hprepare h =>
    rw [h]
    refine SameReading.trans ?_ (.pushes _ _)
    exact ⟨rfl, rfl, rfl, rfl, rfl, id, fun hopen => by cases hopen⟩
  | ends clean h =>
    rw [h]
    refine SameReading.trans ?_ (.terminate _)
    exact ⟨rfl, rfl, rfl, rfl, rfl, id, id⟩

/-- The messages that `dispatchMessage` hands to the message handler. -/
def handedOn (c : Connection) (msg : Message) : List Message :=
  if msg.opcode.isControl = false ∧ c.state = .opened then [msg] else []

/-- A message is collected, and handed on if it is one of data. -/
theorem dispatchMessage_reads (msg : Message) (threw : Bool) :
    SameReading { c with
      collected := c.collected ++ [msg]
      dispatched := c.dispatched ++ c.handedOn msg } (c.dispatchMessage msg threw) := by
  unfold dispatchMessage handedOn
  dsimp only
  cases hop : msg.opcode.isControl with
  | true =>
    rw [if_pos rfl, if_neg (fun h => Bool.noConfusion h.1), List.append_nil]
    exact (processControlFrame_moves msg).reads
  | false =>
    rw [if_neg Bool.false_ne_true]
    by_cases hopen : c.state = .opened
    · rw [if_pos hopen, if_pos ⟨rfl, hopen⟩]
      exact ⟨rfl, rfl, rfl, rfl, rfl, id, id⟩
    · rw [if_neg hopen, if_neg (fun h => hopen h.2), List.append_nil]
      exact .refl _

/-- **Inversion lemma**: a step is a read, a round of the loop or reads nothing. -/
theorem reads_next (c : Connection) (e : ConnectionEvent) :
    (∃ bytes, e = .read bytes) ∨ (∃ threw, e = .round threw) ∨ SameReading c (c.next e) := by
  cases e with
  | read bytes => exact Or.inl ⟨bytes, rfl⟩
  | round threw => exact Or.inr (Or.inl ⟨threw, rfl⟩)
  | call call =>
    refine Or.inr (Or.inr ?_)
    unfold next
    dsimp only
    split
    · exact ⟨rfl, rfl, rfl, rfl, rfl, id, id⟩
    · exact .refl _
  | push i =>
    refine Or.inr (Or.inr ?_)
    unfold next
    dsimp only
    split
    · exact .refl _
    · unfold push
      split
      · exact ⟨rfl, rfl, rfl, rfl, rfl, id, id⟩
      · refine SameReading.trans ?_ (.pushes _ _)
        exact ⟨rfl, rfl, rfl, rfl, rfl, id, id⟩
  | close code reason =>
    refine Or.inr (Or.inr ?_)
    unfold next
    dsimp only
    cases hclose : c.close code reason with
    | none => exact .refl _
    | some c' => exact (close_moves hclose).reads
  | writeFrame =>
    refine Or.inr (Or.inr ?_)
    unfold next writeFrame
    dsimp only
    split
    · exact ⟨rfl, rfl, rfl, rfl, rfl, id, id⟩
    split
    · exact ⟨rfl, rfl, rfl, rfl, rfl, id, id⟩
    · exact ⟨rfl, rfl, rfl, rfl, rfl, id, id⟩
  -- what was written may have been the last frame, or may have failed
  | handleWriteFrame fails =>
    have hended : SameReading c { c with currentMsgs := [] }.terminate := by
      refine SameReading.trans ?_ (.terminate _)
      exact ⟨rfl, rfl, rfl, rfl, rfl, id, id⟩
    refine Or.inr (Or.inr ?_)
    unfold next handleWriteFrame
    dsimp only
    split
    · exact hended
    split
    · exact hended
    · rw [dispatchWrite_eq]
      exact ⟨rfl, rfl, rfl, rfl, rfl, id, id⟩
  | readFails =>
    have hstops : SameReading c { c with reading := false } :=
      ⟨rfl, rfl, rfl, rfl, rfl, (fun h => Bool.noConfusion h), id⟩
    exact Or.inr (Or.inr (hstops.trans (.terminate _)))
  | closeTimeout => exact Or.inr (Or.inr (.terminate c))
  | closeHandler => exact Or.inr (Or.inr ⟨rfl, rfl, rfl, rfl, rfl, id, id⟩)

/-! ## What Has Been Read -/

/-- The bytes that have been read: consumed as far as the loop has come, or refused. -/
inductive Stream (c : Connection) : Prop
  | consumed (bytes : List UInt8) (hreceived : c.received = bytes ++ c.buffer)
      (hsettled : frameReader.Settled c.processor)
      (hrun : frameReader.run (.fresh true) bytes = (c.collected, .ok c.processor))
  | refused (e : ProcessorError) (hbuffer : c.buffer = []) (hreading : c.reading = false)
      (hrun : frameReader.run (.fresh true) c.received = (c.collected, .error e))

/-- A message for the message handler. -/
def isData (msg : Message) : Bool := !msg.opcode.isControl

/-- What a connection reads and what it makes of it. -/
structure ReadInvariant (c : Connection) : Prop where
  idle : c.reading = true → c.buffer = []
  stream : Stream c
  handed : c.dispatched <+: c.collected.filter isData
  opened : c.state = .opened → c.dispatched = c.collected.filter isData

theorem ReadInvariant.fresh : ReadInvariant Connection.fresh where
  idle _ := rfl
  stream := .consumed [] rfl (Processor.settled_fresh true) rfl
  handed := List.prefix_rfl
  opened _ := rfl

theorem ReadInvariant.same (hc : ReadInvariant c) (h : SameReading c c') : ReadInvariant c' where
  idle hreading := h.buffer.trans (hc.idle (h.reading hreading))
  stream := by
    cases hc.stream with
    | consumed bytes hreceived hsettled hrun =>
      refine .consumed bytes ?_ ?_ ?_
      · rw [h.received, h.buffer, hreceived]
      · rw [h.processor]
        exact hsettled
      · rw [h.collected, h.processor, hrun]
    | refused e hbuffer hreading hrun =>
      refine .refused e (h.buffer.trans hbuffer) ?_ ?_
      · cases hnow : c'.reading with
        | false => rfl
        | true => exact absurd (h.reading hnow) (by rw [hreading]; exact Bool.false_ne_true)
      · rw [h.received, h.collected, hrun]
  handed := by
    rw [h.dispatched, h.collected]
    exact hc.handed
  opened hopen := by
    rw [h.dispatched, h.collected]
    exact hc.opened (h.opened hopen)

theorem ReadInvariant.read (hc : ReadInvariant c) {bytes : List UInt8}
    (he : connectionMachine.enabled c (.read bytes)) : ReadInvariant (c.next (.read bytes)) := by
  have hreading : c.reading = true := he.2.1
  refine ⟨fun h => Bool.noConfusion h, ?_, hc.handed, hc.opened⟩
  -- the loop has come to the end of the last read before the next one is asked for
  cases hc.stream with
  | consumed consumed hreceived hsettled hrun =>
    rw [hc.idle hreading, List.append_nil] at hreceived
    exact .consumed consumed (congrArg (· ++ bytes) hreceived) hsettled hrun
  | refused e hbuffer hstopped hrun =>
    rw [hreading] at hstopped
    cases hstopped

/-- A message of data that is handed on is the last that has been collected. -/
theorem ReadInvariant.collect (hc : ReadInvariant c) (msg : Message) :
    c.dispatched ++ c.handedOn msg <+: (c.collected ++ [msg]).filter isData ∧
      (c.state = .opened →
        c.dispatched ++ c.handedOn msg = (c.collected ++ [msg]).filter isData) := by
  unfold handedOn
  rw [List.filter_append]
  by_cases hdata : msg.opcode.isControl = false
  · have hfilter : [msg].filter isData = [msg] := by simp [isData, hdata]
    rw [hfilter]
    by_cases hopen : c.state = .opened
    · rw [if_pos ⟨hdata, hopen⟩, hc.opened hopen]
      exact ⟨List.prefix_rfl, fun _ => rfl⟩
    · rw [if_neg (fun h => hopen h.2), List.append_nil]
      exact ⟨hc.handed.trans (List.prefix_append _ _), fun h => absurd h hopen⟩
  · have hfilter : [msg].filter isData = [] := by simpa [isData] using hdata
    rw [hfilter, if_neg (fun h => hdata h.1), List.append_nil, List.append_nil]
    exact ⟨hc.handed, hc.opened⟩

/-- Bytes that have been consumed are left behind. -/
theorem ReadInvariant.advance (bytes : List UInt8) {p : ℕ}
    (hreceived : c.received = bytes ++ c.buffer) (hsettled : frameReader.Settled c.processor)
    (hrun : frameReader.run (.fresh true) (bytes ++ c.buffer.take p) =
      (c.collected, .ok c.processor))
    (handed : c.dispatched <+: c.collected.filter isData)
    (opened : c.state = .opened → c.dispatched = c.collected.filter isData) :
    ReadInvariant (c.advance p) := by
  refine ⟨fun hreading => by simpa [Connection.advance] using hreading, ?_, handed, opened⟩
  refine .consumed (bytes ++ c.buffer.take p) ?_ hsettled hrun
  change c.received = bytes ++ c.buffer.take p ++ c.buffer.drop p
  rw [List.append_assoc, List.take_append_drop, hreceived]

/-- The loop comes to an error. -/
theorem ReadInvariant.refused (hc : ReadInvariant c) {bytes : List UInt8} {e : ProcessorError}
    (hreceived : c.received = bytes ++ c.buffer) (hbuffer : c.buffer ≠ [])
    (hrun : frameReader.run (.fresh true) bytes = (c.collected, .ok c.processor))
    (hconsume : frameReader.run c.processor c.buffer = ([], .error e)) :
    ReadInvariant (c.protocolError e) := by
  -- what is left of the buffer is given up before the connection is closed
  have hrefused : ReadInvariant { c with buffer := [] } := by
    refine ⟨fun _ => rfl, .refused e rfl ?_ ?_, hc.handed, hc.opened⟩
    · cases hnow : c.reading with
      | false => rfl
      | true => exact absurd (hc.idle hnow) hbuffer
    · change frameReader.run (.fresh true) c.received = _
      rw [hreceived, frameReader.run_append, hrun]
      unfold Result.andThen
      dsimp only
      rw [hconsume, List.append_nil]
  exact hrefused.same (protocolError_moves e).reads

/-- **A round of the loop**: what it consumes is read, up to the end of a message. -/
theorem ReadInvariant.round (hc : ReadInvariant c) {threw : Bool}
    (he : connectionMachine.enabled c (.round threw)) : ReadInvariant (c.round threw) := by
  have hbuffer : c.buffer ≠ [] := he.2
  cases hc.stream with
  -- no bytes are left behind an error, so the loop does not come here again
  | refused e hempty hstopped hrun => exact absurd hempty hbuffer
  | consumed bytes hreceived hsettled hrun =>
    have hconsume := Processor.consume_run hsettled hbuffer
    unfold Connection.round
    cases hround : c.processor.consume c.buffer with
    | error e =>
      rw [hround] at hconsume
      exact hc.refused hreceived hbuffer hrun hconsume
    | ok q =>
      obtain ⟨p, processor⟩ := q
      rw [hround] at hconsume
      obtain ⟨hpos, hvalid, hstop, hfield⟩ := hconsume
      have htaken := frameReader.run_append (.fresh true) bytes (c.buffer.take p)
      rw [hrun] at htaken
      unfold Result.andThen at htaken
      dsimp only at htaken hfield
      rw [hfield] at htaken
      dsimp only
      by_cases hready : processor.state = .ready
      · have hemit : frameReader.emit (.ok processor) =
            ([processor.collect.1], .ok processor.collect.2) :=
          if_pos (by simpa [frameReader] using hready)
        have hsettled' := Processor.settled_emit hvalid hstop (congrArg Prod.snd hemit)
        obtain ⟨handed, hopened⟩ := hc.collect processor.collect.1
        have hreads := dispatchMessage_reads (c := { c with processor := processor.collect.2 })
          processor.collect.1 threw
        rw [hemit] at htaken
        rw [if_pos hready, Processor.getMessage_collect hvalid hready]
        -- the message may be a frame of control that closes the connection
        refine ReadInvariant.advance bytes ?_ ?_ ?_ ?_ ?_
        · rw [hreads.received, hreads.buffer, hreceived]
        · rw [hreads.processor]
          exact hsettled'
        · rw [hreads.buffer, hreads.collected, hreads.processor]
          exact htaken
        · rw [hreads.dispatched, hreads.collected]
          exact handed
        · intro hopen
          rw [hreads.dispatched, hreads.collected]
          exact hopened (hreads.opened hopen)
      · have hemit : frameReader.emit (.ok processor) = ([], .ok processor) :=
          if_neg (by simpa [frameReader] using hready)
        have hsettled' := Processor.settled_emit hvalid hstop (congrArg Prod.snd hemit)
        rw [hemit, List.append_nil] at htaken
        rw [if_neg hready]
        exact ReadInvariant.advance (c := { c with processor := processor }) bytes hreceived
          hsettled' htaken hc.handed hc.opened

/-- **Step lemma**: every step keeps what has been read. -/
theorem ReadInvariant.next {e : ConnectionEvent} (hc : ReadInvariant c)
    (he : connectionMachine.enabled c e) : ReadInvariant (c.next e) := by
  rcases reads_next c e with ⟨bytes, rfl⟩ | ⟨threw, rfl⟩ | hsame
  · exact hc.read he
  · exact hc.round he
  · exact hc.same hsame

theorem ReadInvariant.exec {as : List ConnectionEvent} (hc : ReadInvariant c)
    (hl : connectionMachine.Legal c as) : ReadInvariant (connectionMachine.exec c as) :=
  Machine.exec_invariant (fun _ _ hc he => hc.next he) hc hl

/-! ## Main Results -/

/-- **What is collected**: at any moment of a run, the messages collected are the first of those
    that the bytes read mean, and all of them when no bytes wait for the loop; what has been handed
    on of data is the first of it, and all of it while the connection is open. -/
theorem collected_run {as : List ConnectionEvent} (hl : connectionMachine.Legal fresh as) :
    let c := connectionMachine.exec fresh as
    c.collected <+: (frameReader.run (.fresh true) c.received).1 ∧
      (c.buffer = [] → c.collected = (frameReader.run (.fresh true) c.received).1) ∧
      c.dispatched <+: c.collected.filter isData ∧
      (c.state = .opened → c.dispatched = c.collected.filter isData) := by
  intro c
  have hc : ReadInvariant c := ReadInvariant.fresh.exec hl
  refine ⟨?_, fun hbuffer => ?_, hc.handed, hc.opened⟩
  · cases hc.stream with
    | refused e hbuffer hstopped hrun =>
      rw [hrun]
    | consumed bytes hreceived hsettled hrun =>
      rw [hreceived, frameReader.run_append, hrun]
      exact List.prefix_append _ _
  · cases hc.stream with
    | refused e _ hstopped hrun => rw [hrun]
    | consumed bytes hreceived hsettled hrun =>
      rw [hreceived, hbuffer, List.append_nil, hrun]

/-- **Messages in order**: while a client writes messages, in any number of frames, what has been
    collected at any moment of a run is the first of them in the order in which they end, and all
    of them when everything has arrived and no bytes wait for the loop; and the message handler has
    been given those of data among them, unless the connection has been closed. -/
theorem dispatched_in_order {as : List ConnectionEvent}
    (hl : connectionMachine.Legal fresh as) (ts : List Processor.Transfer)
    (hreceived : (connectionMachine.exec fresh as).received <+:
      (ts.flatMap (·.frames)).flatMap (·.bytes true)) :
    let c := connectionMachine.exec fresh as
    c.collected <+: ts.flatMap (·.messages) ∧
      (c.buffer = [] → c.received = (ts.flatMap (·.frames)).flatMap (·.bytes true) →
        c.collected = ts.flatMap (·.messages)) ∧
      c.dispatched <+: c.collected.filter isData ∧
      (c.state = .opened → c.dispatched = c.collected.filter isData) := by
  intro c
  obtain ⟨hcollected, hall, handed, hopened⟩ := collected_run hl
  obtain ⟨hbegins, hfull, -⟩ :=
    Processor.run_of_beginning (Processor.assembleAll_transfers ts) hreceived
  -- the bytes received are no error, since those of all the messages are none
  exact ⟨hcollected.trans hbegins, fun hbuffer harrived => (hall hbuffer).trans (hfull harrived),
    handed, hopened⟩

/-- A text in two pieces and the ping between them arrive in three reads. -/
theorem dispatched_in_order_textAroundPing :
    let c := connectionMachine.exec fresh
      [.read [0x01, 0x81, 0x01, 0x02, 0x03], .round false,
        .read [0x04, 0x49, 0x89, 0x80, 0, 0, 0, 0, 0x80], .round false, .round false,
        .read [0x81, 0, 0, 0, 0, 0x69], .round false]
    c.collected = [⟨.ping, []⟩, ⟨.text, [0x48, 0x69]⟩] := by
  have hl : connectionMachine.Legal fresh
      [.read [0x01, 0x81, 0x01, 0x02, 0x03], .round false,
        .read [0x04, 0x49, 0x89, 0x80, 0, 0, 0, 0, 0x80], .round false, .round false,
        .read [0x81, 0, 0, 0, 0, 0x69], .round false] := by decide +kernel
  exact (dispatched_in_order hl [Processor.textAroundPing] (by decide +kernel)).2.1
    (by decide +kernel) (by decide +kernel)

end Connection

end BallchasingReplayPlayer
