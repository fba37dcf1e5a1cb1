import Mathlib.Data.List.Infix
import BallchasingReplayPlayer.Websocket.Connection
import BallchasingReplayPlayer.Websocket.RoundTrip

/-!
# What a Connection Sends

Frames are pushed by any thread and written by one, a bunch of them at a time and one write after
the other. None is lost, written twice or out of order, nothing is written behind a terminal frame,
and what is written the other side reads.

## Layers

1. `SendMove`: what a step does to the queue
2. `SendInvariant`: the queue, the write on its way and what has been written
3. `Crosses`: a frame that the other side reads as a message

## Main Results

- `sent_in_order`: in every run, frames are written in the order in which they are pushed
- `written_across`: what is written is read, whatever the reads
-/

namespace BallchasingReplayPlayer

open BallchasingReplayPlayer.Frame Utf8Validator FieldReader Transition

open BallchasingReplayPlayer.Processor (OutMessage)

namespace Connection

variable {c c' : Connection}

/-! ## Moves -/

/-- A step leaves the queue alone, and does not open the connection again. No calls come up but
    those that answer a ping. -/
structure SameQueue (c c' : Connection) : Prop where
  sendQueue : c'.sendQueue = c.sendQueue
  sendBufferSize : c'.sendBufferSize = c.sendBufferSize
  writeFlag : c'.writeFlag = c.writeFlag
  currentMsgs : c'.currentMsgs = c.currentMsgs
  posted : c'.posted = c.posted
  pushed : c'.pushed = c.pushed
  written : c'.written = c.written
  closed : c.state = .closed → c'.state = .closed
  pending : ∀ call ∈ c'.pending, call ∈ c.pending ∨ ∃ payload, call = .pong payload

/-- A message that is pushed is that of a call, or a close frame. -/
inductive Origin (c : Connection) (msg : OutMessage) : Prop
  | call (call : PendingCall) (hmem : call ∈ c.pending) (hprepare : call.prepare = .ok msg)
  | close (code : CloseStatus.Value) (reason : List UInt8) (m : OutMessage) (terminal : Bool)
      (hprepare : prepareClose code reason = .ok m) (hmsg : msg = { m with terminal := terminal })

/-- What a step can do to the queue, unless it is a call, `write_frame` or its handler. -/
inductive SendMove (c c' : Connection) : Prop
  | same (h : SameQueue c c')
  | pushes (c₁ : Connection) (msg : OutMessage) (horigin : Origin c msg) (h : SameQueue c c₁)
      (h' : SameQueue (c₁.writePush msg).dispatchWrite c')

theorem SameQueue.refl (c : Connection) : SameQueue c c :=
  ⟨rfl, rfl, rfl, rfl, rfl, rfl, rfl, id, fun _ => Or.inl⟩

theorem SameQueue.trans {c'' : Connection} (h : SameQueue c c') (h' : SameQueue c' c'') :
    SameQueue c c'' where
  sendQueue := h'.sendQueue.trans h.sendQueue
  sendBufferSize := h'.sendBufferSize.trans h.sendBufferSize
  writeFlag := h'.writeFlag.trans h.writeFlag
  currentMsgs := h'.currentMsgs.trans h.currentMsgs
  posted := h'.posted.trans h.posted
  pushed := h'.pushed.trans h.pushed
  written := h'.written.trans h.written
  closed hclosed := h'.closed (h.closed hclosed)
  pending call hcall := (h'.pending call hcall).elim (h.pending call) Or.inr

theorem SameQueue.terminate (c : Connection) : SameQueue c c.terminate := by
  unfold Connection.terminate
  split
  · exact ⟨rfl, rfl, rfl, rfl, rfl, rfl, rfl, id, fun _ => Or.inl⟩
  · exact ⟨rfl, rfl, rfl, rfl, rfl, rfl, rfl, fun _ => rfl, fun _ => Or.inl⟩

/-- A move behind which the queue stays as it is. -/
theorem SendMove.andSame {c'' : Connection} (h : SendMove c c') (h' : SameQueue c' c'') :
    SendMove c c'' := by
  cases h with
  | same hsame => exact .same (hsame.trans h')
  | pushes c₁ msg horigin hsame hpush => exact .pushes c₁ msg horigin hsame (hpush.trans h')

/-- A move before which the queue stays as it is, and the calls that wait. -/
theorem SendMove.ofSame {c₀ : Connection} (h₀ : SameQueue c₀ c) (hpending : c.pending ⊆ c₀.pending)
    (h : SendMove c c') : SendMove c₀ c' := by
  cases h with
  | same hsame => exact .same (h₀.trans hsame)
  | pushes c₁ msg horigin hsame hpush =>
    refine .pushes c₁ msg ?_ (h₀.trans hsame) hpush
    cases horigin with
    | call call hmem hprepare => exact .call call (hpending hmem) hprepare
    | close code reason m terminal hprepare hmsg =>
      exact .close code reason m terminal hprepare hmsg

theorem ControlMove.sends (h : ControlMove c c') : SendMove c c' := by
  cases h with
  | none h =>
    rw [h]
    exact .same (.refl c)
  | answers payload h =>
    rw [h]
    refine .same ⟨rfl, rfl, rfl, rfl, rfl, rfl, rfl, id, fun call hcall => ?_⟩
    exact (List.mem_append.mp hcall).imp_right fun h => ⟨_, List.mem_singleton.mp h⟩
  | closes code reason m terminal clean hopen hprepare h =>
    rw [h]
    refine .pushes { c with
      state := .closing
      wasClean := clean
      timer := true } _ (.close code reason m terminal hprepare rfl) ?_ (.refl _)
    exact ⟨rfl, rfl, rfl, rfl, rfl, rfl, rfl, fun hclosed => absurd hclosed hopen,
      fun _ => Or.inl⟩
  | ends clean h =>
    rw [h]
    refine .same (SameQueue.trans ?_ (.terminate _))
    exact ⟨rfl, rfl, rfl, rfl, rfl, rfl, rfl, id, fun _ => Or.inl⟩

theorem dispatchMessage_move (msg : Message) (threw : Bool) :
    SendMove c (c.dispatchMessage msg threw) := by
  unfold dispatchMessage
  dsimp only
  split
  · have hsame : SameQueue c { c with collected := c.collected ++ [msg] } :=
      ⟨rfl, rfl, rfl, rfl, rfl, rfl, rfl, id, fun _ => Or.inl⟩
    exact SendMove.ofSame hsame (fun _ h => h) (processControlFrame_moves msg).sends
  split
  · exact .same ⟨rfl, rfl, rfl, rfl, rfl, rfl, rfl, id, fun _ => Or.inl⟩
  · exact .same ⟨rfl, rfl, rfl, rfl, rfl, rfl, rfl, id, fun _ => Or.inl⟩

theorem protocolError_move (e : ProcessorError) : SendMove c (c.protocolError e) := by
  have hsame : SameQueue c { c with buffer := [] } :=
    ⟨rfl, rfl, rfl, rfl, rfl, rfl, rfl, id, fun _ => Or.inl⟩
  exact SendMove.ofSame hsame (fun _ h => h) (protocolError_moves e).sends

theorem round_move (threw : Bool) : SendMove c (c.round threw) := by
  unfold round
  split
  · exact protocolError_move _
  split
  · split
    · exact .same ⟨rfl, rfl, rfl, rfl, rfl, rfl, rfl, id, fun _ => Or.inl⟩
    case h_2 msg processor' _ =>
      have hsame : SameQueue c { c with processor := processor' } :=
        ⟨rfl, rfl, rfl, rfl, rfl, rfl, rfl, id, fun _ => Or.inl⟩
      refine (SendMove.ofSame hsame (fun _ h => h) (dispatchMessage_move msg threw)).andSame ?_
      exact ⟨rfl, rfl, rfl, rfl, rfl, rfl, rfl, id, fun _ => Or.inl⟩
  · exact .same ⟨rfl, rfl, rfl, rfl, rfl, rfl, rfl, id, fun _ => Or.inl⟩

/-- The first part of a call leaves everything alone but the calls that wait. -/
theorem call_next (c : Connection) (call : PendingCall) :
    c.next (.call call) = c ∨
      c.next (.call call) = { c with pending := c.pending ++ [call] } := by
  unfold next
  dsimp only
  split
  · exact Or.inr rfl
  · exact Or.inl rfl

/-- **Inversion lemma**: a step writes, ends a write, begins a call, pushes one message or leaves
    the queue alone. -/
theorem sendMove_next (c : Connection) (e : ConnectionEvent) :
    e = .writeFrame ∨ (∃ fails, e = .handleWriteFrame fails) ∨ (∃ call, e = .call call) ∨
      SendMove c (c.next e) := by
  cases e with
  | writeFrame => exact Or.inl rfl
  | handleWriteFrame fails => exact Or.inr (Or.inl ⟨fails, rfl⟩)
  | call call => exact Or.inr (Or.inr (Or.inl ⟨call, rfl⟩))
  | push i =>
    refine Or.inr (Or.inr (Or.inr ?_))
    unfold next
    dsimp only
    split
    · exact .same (.refl _)
    case h_2 call hcall =>
      have hsame : SameQueue c { c with pending := c.pending.eraseIdx i } :=
        ⟨rfl, rfl, rfl, rfl, rfl, rfl, rfl, id, fun _ h => Or.inl (List.mem_of_mem_eraseIdx h)⟩
      unfold push
      split
      · exact .same hsame
      case h_2 msg hprepare =>
        exact .pushes _ msg (.call call (List.mem_of_getElem? hcall) hprepare) hsame (.refl _)
  | close code reason =>
    refine Or.inr (Or.inr (Or.inr ?_))
    unfold next
    dsimp only
    cases hclose : c.close code reason with
    | none => exact .same (.refl _)
    | some c' => exact (close_moves hclose).sends
  | read bytes =>
    refine Or.inr (Or.inr (Or.inr (.same ?_)))
    exact ⟨rfl, rfl, rfl, rfl, rfl, rfl, rfl, id, fun _ => Or.inl⟩
  | readFails =>
    have hsame : SameQueue c { c with reading := false } :=
      ⟨rfl, rfl, rfl, rfl, rfl, rfl, rfl, id, fun _ => Or.inl⟩
    exact Or.inr (Or.inr (Or.inr (.same (hsame.trans (.terminate _)))))
  | round threw => exact Or.inr (Or.inr (Or.inr (round_move threw)))
  | closeTimeout => exact Or.inr (Or.inr (Or.inr (.same (.terminate c))))
  | closeHandler =>
    refine Or.inr (Or.inr (Or.inr (.same ?_)))
    exact ⟨rfl, rfl, rfl, rfl, rfl, rfl, rfl, id, fun _ => Or.inl⟩

/-- `write_frame` pushes nothing, and leaves the calls alone. -/
theorem writeFrame_keeps (c : Connection) :
    c.writeFrame.pushed = c.pushed ∧ c.writeFrame.pending = c.pending := by
  unfold writeFrame
  dsimp only
  split
  · exact ⟨rfl, rfl⟩
  split
  · exact ⟨rfl, rfl⟩
  · exact ⟨rfl, rfl⟩

/-! ## The Queue -/

/-- The queue between those who push and the one who writes. -/
structure SendInvariant (c : Connection) : Prop where
  pushed : c.pushed = c.written ++ c.sendQueue
  size : c.sendBufferSize = (c.sendQueue.map (·.payload.length)).sum
  flight : c.currentMsgs ≠ [] → c.writeFlag = true
  current : c.currentMsgs <:+ c.written
  resting : c.writeFlag = true → c.currentMsgs ≠ [] ∨ c.state = .closed
  waiting : c.sendQueue ≠ [] → c.writeFlag = true ∨ 0 < c.posted
  terminal : ∀ msg ∈ c.written, msg.terminal = true →
    c.writeFlag = true ∧ c.written.getLast? = some msg

theorem SendInvariant.fresh : SendInvariant Connection.fresh where
  pushed := rfl
  size := rfl
  flight h := absurd rfl h
  current := List.suffix_rfl
  resting h := by cases h
  waiting h := absurd rfl h
  terminal _ h := by cases h

theorem SendInvariant.same (hc : SendInvariant c) (h : SameQueue c c') : SendInvariant c' where
  pushed := by rw [h.pushed, h.written, h.sendQueue, hc.pushed]
  size := by rw [h.sendBufferSize, h.sendQueue, hc.size]
  flight := by
    rw [h.currentMsgs, h.writeFlag]
    exact hc.flight
  current := by
    rw [h.currentMsgs, h.written]
    exact hc.current
  resting hflag := by
    rw [h.writeFlag] at hflag
    rw [h.currentMsgs]
    exact (hc.resting hflag).imp_right h.closed
  waiting := by
    rw [h.sendQueue, h.writeFlag, h.posted]
    exact hc.waiting
  terminal := by
    rw [h.written, h.writeFlag]
    exact hc.terminal

theorem SendInvariant.pushes (hc : SendInvariant c) (msg : OutMessage) :
    SendInvariant (c.writePush msg).dispatchWrite := by
  rw [dispatchWrite_eq]
  refine ⟨?_, ?_, hc.flight, hc.current, hc.resting, fun _ => ?_, hc.terminal⟩
  · change c.pushed ++ [msg] = c.written ++ (c.sendQueue ++ [msg])
    rw [hc.pushed, List.append_assoc]
  · change c.sendBufferSize + msg.payload.length = ((c.sendQueue ++ [msg]).map _).sum
    rw [hc.size, List.map_append, List.sum_append]
    rfl
  · change c.writeFlag = true ∨ 0 < if !c.writeFlag ∧ c.sendQueue ++ [msg] ≠ [] then _ else _
    cases hflag : c.writeFlag with
    | true => exact Or.inl rfl
    | false =>
      rw [if_pos ⟨rfl, by simp⟩]
      exact Or.inr (Nat.succ_pos _)

/-- The messages that are written together: a terminal one is the last. -/
theorem writePops_spec (msgs : List OutMessage) :
    (writePops msgs).1 ++ (writePops msgs).2 = msgs ∧
      ((writePops msgs).1 = [] → msgs = []) ∧
      ∀ msg ∈ (writePops msgs).1, msg.terminal = true →
        (writePops msgs).1.getLast? = some msg := by
  induction msgs with
  | nil => simp [writePops]
  | cons msg msgs ih =>
    obtain ⟨happend, hnil, hlast⟩ := ih
    unfold writePops
    split
    case isTrue hterminal =>
      refine ⟨rfl, fun h => absurd h (List.cons_ne_nil _ _), fun msg' hmem _ => ?_⟩
      rw [List.mem_singleton.mp hmem]
      rfl
    case isFalse hterminal =>
      dsimp only
      refine ⟨congrArg (msg :: ·) happend, fun h => absurd h (List.cons_ne_nil _ _), ?_⟩
      intro msg' hmem hterminal'
      rcases List.mem_cons.mp hmem with rfl | hmem'
      · exact absurd hterminal' hterminal
      · rw [List.getLast?_cons_of_ne_nil (List.ne_nil_of_mem hmem')]
        exact hlast msg' hmem' hterminal'

theorem SendInvariant.writeFrame (hc : SendInvariant c) :
    SendInvariant { c with posted := c.posted - 1 }.writeFrame := by
  obtain ⟨happend, hnil, hlast⟩ := writePops_spec c.sendQueue
  -- nothing changes while a write is on its way, and nothing is written if nothing waits
  unfold Connection.writeFrame
  dsimp only
  by_cases hflag : c.writeFlag = true
  · rw [if_pos hflag]
    exact ⟨hc.pushed, hc.size, hc.flight, hc.current, hc.resting, fun _ => Or.inl hflag,
      hc.terminal⟩
  · rw [if_neg hflag]
    have hnone : ∀ msg ∈ c.written, msg.terminal ≠ true :=
      fun msg hmem hterminal => hflag (hc.terminal msg hmem hterminal).1
    split
    case isTrue hempty =>
      refine ⟨hc.pushed, hc.size, hc.flight, hc.current, hc.resting, fun hqueue => ?_,
        hc.terminal⟩
      exact absurd (hnil hempty) hqueue
    case isFalse hready =>
      refine ⟨?_, ?_, fun _ => rfl, List.suffix_append _ _, fun _ => Or.inl hready,
        fun _ => Or.inl rfl, ?_⟩
      · dsimp only
        rw [List.append_assoc, happend, hc.pushed]
      · dsimp only
        have hsum := congrArg (fun msgs => (msgs.map (·.payload.length)).sum) happend
        simp only [List.map_append, List.sum_append] at hsum
        rw [hc.size, ← hsum]
        exact Nat.add_sub_cancel_left _ _
      · intro msg hmem hterminal
        refine ⟨rfl, ?_⟩
        dsimp only at hmem ⊢
        rcases List.mem_append.mp hmem with hmem | hmem
        · exact absurd hterminal (hnone msg hmem)
        · rw [List.getLast?_append_of_ne_nil _ hready]
          exact hlast msg hmem hterminal

theorem SendInvariant.handleWriteFrame (hc : SendInvariant c) (hflight : c.currentMsgs ≠ [])
    (fails : Bool) : SendInvariant (c.handleWriteFrame fails) := by
  have hflag := hc.flight hflight
  -- a write that fails and one of a terminal frame end the connection alike
  have hended : SendInvariant { c with currentMsgs := [] }.terminate := by
    have hclosed : { c with currentMsgs := [] }.terminate.state = .closed := by
      unfold Connection.terminate
      split
      case isTrue hclosed => exact hclosed
      case isFalse => rfl
    have hsame := SameQueue.terminate { c with currentMsgs := [] }
    refine ⟨?_, ?_, ?_, ?_, fun _ => Or.inr hclosed, fun _ => Or.inl ?_, ?_⟩
    · rw [hsame.pushed, hsame.written, hsame.sendQueue]
      exact hc.pushed
    · rw [hsame.sendBufferSize, hsame.sendQueue]
      exact hc.size
    · rw [hsame.currentMsgs]
      exact fun h => absurd rfl h
    · rw [hsame.currentMsgs]
      exact List.nil_suffix
    · rw [hsame.writeFlag]
      exact hflag
    · rw [hsame.written, hsame.writeFlag]
      exact hc.terminal
  unfold Connection.handleWriteFrame
  dsimp only
  split
  · exact hended
  split
  · exact hended
  case isFalse hterminal =>
    have hnone : ∀ msg ∈ c.written, msg.terminal ≠ true := by
      -- a terminal frame is the last that has been written, so the last of the current ones
      intro msg hmem hterm
      obtain ⟨xs, hxs⟩ := hc.current
      have hlast := (hc.terminal msg hmem hterm).2
      rw [← hxs, List.getLast?_append_of_ne_nil _ hflight] at hlast
      rw [hlast] at hterminal
      exact hterminal hterm
    rw [dispatchWrite_eq]
    refine ⟨hc.pushed, hc.size, fun h => absurd rfl h, List.nil_suffix, ?_,
      fun hqueue => Or.inr ?_, fun msg hmem hterm => absurd hterm (hnone msg hmem)⟩
    · intro h
      cases h
    dsimp only
    rw [if_pos ⟨rfl, hqueue⟩]
    exact Nat.succ_pos _

/-- **Step lemma**: every step keeps the queue. -/
theorem SendInvariant.next {e : ConnectionEvent} (hc : SendInvariant c)
    (he : connectionMachine.enabled c e) : SendInvariant (c.next e) := by
  rcases sendMove_next c e with rfl | ⟨fails, rfl⟩ | ⟨call, rfl⟩ | hmove
  -- a write begins, and the flag is taken
  · exact hc.writeFrame
  · exact hc.handleWriteFrame he.2 fails
  · rcases call_next c call with h | h
    · rw [h]
      exact hc
    · rw [h]
      exact ⟨hc.pushed, hc.size, hc.flight, hc.current, hc.resting, hc.waiting, hc.terminal⟩
  · cases hmove with
    | same hsame => exact hc.same hsame
    | pushes c₁ msg _ hsame hpush => exact ((hc.same hsame).pushes msg).same hpush

/-- The handler of a write neither pushes nor writes, and brings up no calls. -/
theorem handleWriteFrame_keeps (c : Connection) (fails : Bool) :
    (c.handleWriteFrame fails).pushed = c.pushed ∧
      (c.handleWriteFrame fails).written = c.written ∧
        ∀ call ∈ (c.handleWriteFrame fails).pending,
          call ∈ c.pending ∨ ∃ payload, call = .pong payload := by
  have hterminate := SameQueue.terminate { c with currentMsgs := [] }
  unfold handleWriteFrame
  dsimp only
  split
  · exact ⟨hterminate.pushed, hterminate.written, hterminate.pending⟩
  split
  · exact ⟨hterminate.pushed, hterminate.written, hterminate.pending⟩
  · rw [dispatchWrite_eq]
    exact ⟨rfl, rfl, fun _ => Or.inl⟩

/-- Only `write_frame` writes, and only when no write is on its way. -/
theorem written_next (c : Connection) (e : ConnectionEvent) :
    (c.next e).written = c.written ∨
      c.writeFlag = false ∧ c.written <+: (c.next e).written := by
  rcases sendMove_next c e with rfl | ⟨fails, rfl⟩ | ⟨call, rfl⟩ | hmove
  · unfold next writeFrame
    dsimp only
    by_cases hflag : c.writeFlag = true
    · rw [if_pos hflag]
      exact Or.inl rfl
    rw [if_neg hflag]
    split
    · exact Or.inl rfl
    · exact Or.inr ⟨by simpa using hflag, List.prefix_append _ _⟩
  · exact Or.inl (handleWriteFrame_keeps c fails).2.1
  · rcases call_next c call with h | h
    · exact Or.inl (by rw [h])
    · exact Or.inl (by rw [h])
  · cases hmove with
    | same hsame => exact Or.inl hsame.written
    | pushes c₁ msg _ hsame hpush =>
      rw [dispatchWrite_eq] at hpush
      exact Or.inl (hpush.written.trans hsame.written)

theorem pushed_next (c : Connection) (e : ConnectionEvent) : c.pushed <+: (c.next e).pushed := by
  rcases sendMove_next c e with rfl | ⟨fails, rfl⟩ | ⟨call, rfl⟩ | hmove
  · refine ⟨[], (List.append_nil _).trans ?_⟩
    exact (writeFrame_keeps { c with posted := c.posted - 1 }).1.symm
  · exact ⟨[], (List.append_nil _).trans (handleWriteFrame_keeps c fails).1.symm⟩
  · rcases call_next c call with h | h
    · rw [h]
    · rw [h]
  · cases hmove with
    | same hsame =>
      rw [hsame.pushed]
    | pushes c₁ msg _ hsame hpush =>
      rw [dispatchWrite_eq] at hpush
      rw [hpush.pushed, ← hsame.pushed]
      exact List.prefix_append _ _

/-- A terminal frame has been written. -/
def Finished (c : Connection) : Prop := ∃ msg ∈ c.written, msg.terminal = true

theorem SendInvariant.exec {as : List ConnectionEvent} (hc : SendInvariant c)
    (hl : connectionMachine.Legal c as) : SendInvariant (connectionMachine.exec c as) :=
  Machine.exec_invariant (fun _ _ hc he => hc.next he) hc hl

/-- **Run lemma**: what has been written and pushed stays, and behind a terminal frame nothing is
    written. -/
theorem history_exec {as : List ConnectionEvent} (hc : SendInvariant c)
    (hl : connectionMachine.Legal c as) :
    c.written <+: (connectionMachine.exec c as).written ∧
      c.pushed <+: (connectionMachine.exec c as).pushed ∧
      (c.Finished → (connectionMachine.exec c as).written = c.written) := by
  induction as generalizing c with
  | nil => exact ⟨List.prefix_rfl, List.prefix_rfl, fun _ => rfl⟩
  | cons e as ih =>
    obtain ⟨hwritten, hpushed, hfinished⟩ := ih (hc.next hl.1) hl.2
    have hpush := pushed_next c e
    rcases written_next c e with hsame | ⟨hflag, hgrows⟩
    · refine ⟨hsame ▸ hwritten, hpush.trans hpushed, fun hend => ?_⟩
      have hend' : (c.next e).Finished := by
        unfold Finished
        rw [hsame]
        exact hend
      exact (hfinished hend').trans hsame
    · refine ⟨hgrows.trans hwritten, hpush.trans hpushed, ?_⟩
      -- behind a terminal frame the flag stays taken
      rintro ⟨msg, hmem, hterminal⟩
      have hbusy := (hc.terminal msg hmem hterminal).1
      rw [hflag] at hbusy
      cases hbusy

/-- **Frames in order**: at any moment of a run, what has been pushed has been written, in the
    order in which it was pushed, or waits; while something waits a write is on its way or posted,
    unless the connection is closed; and nothing is written behind a terminal frame. -/
theorem sent_in_order {as bs : List ConnectionEvent}
    (hl : connectionMachine.Legal fresh (as ++ bs)) :
    let c := connectionMachine.exec fresh as
    let c' := connectionMachine.exec fresh (as ++ bs)
    c.pushed = c.written ++ c.sendQueue ∧
      c.sendBufferSize = (c.sendQueue.map (·.payload.length)).sum ∧
      (c.sendQueue ≠ [] → c.currentMsgs ≠ [] ∨ 0 < c.posted ∨ c.state = .closed) ∧
      c.pushed <+: c'.pushed ∧ c.written <+: c'.written ∧
      (c.Finished → c'.written = c.written) := by
  intro c c'
  obtain ⟨hlas, hlbs⟩ := Machine.along_append.mp hl
  have hc : SendInvariant c := SendInvariant.fresh.exec hlas
  obtain ⟨hwritten, hpushed, hfinished⟩ := history_exec hc hlbs
  have hexec : c' = connectionMachine.exec c bs := Machine.exec_append _ _ _ _
  rw [← hexec] at hwritten hpushed hfinished
  refine ⟨hc.pushed, hc.size, fun hqueue => ?_, hpushed, hwritten, hfinished⟩
  rcases hc.waiting hqueue with hflag | hposted
  · rcases hc.resting hflag with hflight | hclosed
    · exact Or.inl hflight
    · exact Or.inr (Or.inr hclosed)
  · exact Or.inr (Or.inl hposted)

/-- A text on its way, and a ping behind it. -/
theorem sent_in_order_textThenPing :
    let c := connectionMachine.exec fresh
      [.call (.send .text [0x48, 0x69]), .push 0, .writeFrame, .call (.ping []), .push 0]
    c.pushed = c.written ++ c.sendQueue ∧ c.written ≠ [] ∧ c.sendQueue ≠ [] := by
  have hl : connectionMachine.Legal fresh
      ([.call (.send .text [0x48, 0x69]), .push 0, .writeFrame, .call (.ping []), .push 0] ++
        [.handleWriteFrame false]) := by decide
  exact ⟨(sent_in_order hl).1, by decide, by decide⟩

/-! ## What the Other Side Reads -/

/-- A call whose message the other side does not refuse: a message of data of an opcode it knows,
    and no longer than it reads. -/
def Carried : PendingCall → Prop
  | .send op payload =>
    (op = .text ∨ op = .binary) ∧ payload.length ≤ BallchasingReplayPlayer.maxMessageSize
  | .ping _ | .pong _ => True

/-- A frame that the other side reads as a message. -/
def Crosses (msg : OutMessage) : Prop :=
  ∃ f : Processor.SentFrame, msg.bytes = f.bytes false ∧
    Processor.assemble none f = ([⟨msg.opcode, msg.payload⟩], .ok none)

/-- A frame of control that can be prepared crosses. -/
theorem crosses_control {op : Opcode} {payload : List UInt8} {msg : OutMessage}
    (hop : op = .close ∨ op = .ping ∨ op = .pong)
    (h : Processor.prepareControl true op payload 0 = .ok msg) : Crosses msg := by
  unfold Processor.prepareControl at h
  split at h
  · cases h
  split at h
  · cases h
  case isFalse hshort =>
    cases h
    let frame : Processor.ControlFrame := ⟨op, payload, 0, hop, Nat.not_lt.mp hshort⟩
    exact ⟨frame.frame, rfl, Processor.assemble_control frame⟩

/-- A message of data that is carried crosses. -/
theorem crosses_data {op : Opcode} {payload : List UInt8} {msg : OutMessage}
    (hcarried : Carried (.send op payload))
    (h : Processor.prepareDataFrame true op payload true 0 = .ok msg) : Crosses msg := by
  obtain ⟨hop, hsmall⟩ := hcarried
  unfold Processor.prepareDataFrame at h
  split at h
  · cases h
  split at h
  · cases h
  case isFalse hvalid =>
    cases h
    have hvalid' : op = .text → validate payload = true := by
      intro htext
      by_contra hinvalid
      exact hvalid ⟨htext, by simpa using hinvalid⟩
    let piece : Processor.Piece :=
      ⟨[], payload, 0, Nat.lt_of_le_of_lt hsmall (by decide)⟩
    let transfer : Processor.Transfer :=
      ⟨op, piece, [], hop, by simpa using hsmall, by simpa using hvalid'⟩
    have hassemble := Processor.assembleAll_transfer transfer
    refine ⟨piece.frame op true, rfl, ?_⟩
    unfold Processor.Transfer.frames Processor.Transfer.messages at hassemble
    simp only [transfer, piece, List.map_nil, List.nil_append, List.isEmpty_nil,
      Processor.continued, Processor.assembleAll_cons, List.flatMap_cons, List.flatMap_nil,
      List.append_nil] at hassemble
    exact (Result.andThen_ok _).symm.trans hassemble

theorem crosses_call {call : PendingCall} {msg : OutMessage} (hcarried : Carried call)
    (h : call.prepare = .ok msg) : Crosses msg := by
  cases call with
  | send op payload => exact crosses_data hcarried h
  | ping payload => exact crosses_control (Or.inr (Or.inl rfl)) h
  | pong payload => exact crosses_control (Or.inr (Or.inr rfl)) h

theorem crosses_close {code : CloseStatus.Value} {reason : List UInt8} {msg : OutMessage}
    (h : prepareClose code reason = .ok msg) : Crosses msg := by
  unfold prepareClose at h
  split at h
  · cases h
  split at h
  · cases h
  split at h
  · cases h
  split at h
  · cases h
  · exact crosses_control (Or.inl rfl) h

theorem Origin.crosses {msg : OutMessage} (h : Origin c msg)
    (hcarried : ∀ call ∈ c.pending, Carried call) : Crosses msg := by
  cases h with
  | call call hmem hprepare => exact crosses_call (hcarried call hmem) hprepare
  | close code reason m terminal hprepare hmsg =>
    obtain ⟨f, hbytes, hassemble⟩ := crosses_close hprepare
    exact ⟨f, hmsg ▸ hbytes, hmsg ▸ hassemble⟩

/-- What waits is carried, and what has been pushed crosses. -/
structure CarriedInvariant (c : Connection) : Prop where
  pending : ∀ call ∈ c.pending, Carried call
  pushed : ∀ msg ∈ c.pushed, Crosses msg

/-- An event that is no call, or one whose message is carried. -/
def CarriedEvent : ConnectionEvent → Prop
  | .call call => Carried call
  | _ => True

theorem CarriedInvariant.fresh : CarriedInvariant Connection.fresh where
  pending _ h := by cases h
  pushed _ h := by cases h

/-- Nothing is pushed, and no calls come up but those that answer a ping. -/
theorem CarriedInvariant.same (hc : CarriedInvariant c) (hpushed : c'.pushed = c.pushed)
    (hpending : ∀ call ∈ c'.pending, call ∈ c.pending ∨ ∃ payload, call = .pong payload) :
    CarriedInvariant c' where
  pending call hcall := by
    rcases hpending call hcall with hmem | ⟨payload, rfl⟩
    · exact hc.pending call hmem
    · trivial
  pushed := by
    rw [hpushed]
    exact hc.pushed

theorem CarriedInvariant.pushes {msg : OutMessage} (hc : CarriedInvariant c)
    (hmsg : Crosses msg) : CarriedInvariant (c.writePush msg).dispatchWrite := by
  rw [dispatchWrite_eq]
  refine ⟨hc.pending, fun msg' hmem => ?_⟩
  rcases List.mem_append.mp hmem with hmem | hmem
  · exact hc.pushed msg' hmem
  · rw [List.mem_singleton.mp hmem]
    exact hmsg

/-- **Step lemma**: whatever is pushed crosses if the calls are carried. -/
theorem CarriedInvariant.next {e : ConnectionEvent} (hc : CarriedInvariant c)
    (he : CarriedEvent e) : CarriedInvariant (c.next e) := by
  rcases sendMove_next c e with rfl | ⟨fails, rfl⟩ | ⟨call, rfl⟩ | hmove
  · obtain ⟨hpushed, hpending⟩ := writeFrame_keeps { c with posted := c.posted - 1 }
    -- what is written has been pushed before
    exact hc.same hpushed fun call hcall => Or.inl (hpending ▸ hcall)
  · obtain ⟨hpushed, _, hpending⟩ := handleWriteFrame_keeps c fails
    exact hc.same hpushed hpending
  · rcases call_next c call with h | h
    · rw [h]
      exact hc
    · rw [h]
      refine ⟨fun call' hmem => ?_, hc.pushed⟩
      rcases List.mem_append.mp hmem with hmem | hmem
      · exact hc.pending call' hmem
      · rw [List.mem_singleton.mp hmem]
        exact he
  · cases hmove with
    | same hsame => exact hc.same hsame.pushed hsame.pending
    | pushes c₁ msg horigin hsame hpush =>
      have hc₁ := (hc.same hsame.pushed hsame.pending).pushes (horigin.crosses hc.pending)
      exact hc₁.same hpush.pushed hpush.pending

/-- A frame as the other side hands it on. -/
def messageOf (msg : OutMessage) : Message := ⟨msg.opcode, msg.payload⟩

/-- Frames that cross make their messages. -/
theorem crossing_frames (msgs : List OutMessage) (h : ∀ msg ∈ msgs, Crosses msg) :
    ∃ fs : List Processor.SentFrame,
      msgs.flatMap (·.bytes) = fs.flatMap (·.bytes false) ∧
        Processor.assembleAll none fs = (msgs.map messageOf, .ok none) := by
  induction msgs with
  | nil => exact ⟨[], rfl, rfl⟩
  | cons msg msgs ih =>
    rw [List.forall_mem_cons] at h
    obtain ⟨f, hbytes, hassemble⟩ := h.1
    obtain ⟨fs, hbytes', hassemble'⟩ := ih h.2
    refine ⟨f :: fs, ?_, ?_⟩
    · rw [List.flatMap_cons, List.flatMap_cons, hbytes, hbytes']
    · rw [Processor.assembleAll_cons, hassemble]
      unfold Result.andThen
      dsimp only
      rw [hassemble']
      rfl

/-- **What is written is read**: at any moment of a run whose calls are carried, a client that has
    read some of what has been written, through reads that cut it anywhere, has dispatched the
    first of the messages, all of them if it has read everything, and has not failed to read. -/
theorem written_across {τ : Type} (dispatch : Message → τ → τ × Bool) (t : τ)
    {as : List ConnectionEvent} (hl : connectionMachine.Legal fresh as)
    (hcarried : ∀ e ∈ as, CarriedEvent e) (bufs : List (List UInt8))
    (hbufs : bufs.flatten <+: (connectionMachine.exec fresh as).written.flatMap (·.bytes)) :
    let written := (connectionMachine.exec fresh as).written
    ∃ msgs, msgs <+: written.map messageOf ∧
      (bufs.flatten = written.flatMap (·.bytes) → msgs = written.map messageOf) ∧
      (Processor.readAll dispatch (.fresh false) t bufs).1 =
        (Processor.dispatchAll dispatch msgs t).1 ∧
      ∀ e, (Processor.readAll dispatch (.fresh false) t bufs).2 ≠ .failed e := by
  intro written
  have hsend : SendInvariant (connectionMachine.exec fresh as) := SendInvariant.fresh.exec hl
  have hc : CarriedInvariant (connectionMachine.exec fresh as) :=
    Machine.exec_invariant (fun _ _ hc he => hc.next he) CarriedInvariant.fresh
      (Machine.along_of_mem (fun e he _ => hcarried e he) _)
  have hcross : ∀ msg ∈ written, Crosses msg := by
    intro msg hmem
    refine hc.pushed msg ?_
    rw [hsend.pushed]
    exact List.mem_append_left _ hmem
  obtain ⟨fs, hbytes, hassemble⟩ := crossing_frames written hcross
  -- what the reads have brought is the beginning of a stream without an error
  obtain ⟨hbegins, hall, s, hs⟩ := Processor.run_of_beginning hassemble (hbytes ▸ hbufs)
  rw [Processor.readAll_eq dispatch (Processor.settled_fresh false)]
  exact ⟨_, hbegins, fun hfull => hall (hfull.trans hbytes), Processor.conclude_fst dispatch _ t,
    Processor.conclude_of_ok dispatch hs t⟩

/-- A client reads a text and the ping behind it in three reads. -/
theorem written_across_textThenPing :
    (Processor.readAll (fun msg msgs => (msgs ++ [msg], false)) (.fresh false) []
      [[0x81, 0x02, 0x48], [0x69, 0x89], [0]]).1 = [⟨.text, [0x48, 0x69]⟩, ⟨.ping, []⟩] := by
  have hl : connectionMachine.Legal fresh [.call (.send .text [0x48, 0x69]), .call (.ping []),
    .push 0, .push 0, .writeFrame] := by decide
  obtain ⟨msgs, _, hall, hread, _⟩ := written_across (fun msg msgs => (msgs ++ [msg], false))
    [] hl (by simp [CarriedEvent, Carried]; decide) [[0x81, 0x02, 0x48], [0x69, 0x89], [0]]
    (by decide)
  rw [hread, hall (by decide)]
  rfl

end Connection

end BallchasingReplayPlayer
