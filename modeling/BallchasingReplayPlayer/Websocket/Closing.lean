import BallchasingReplayPlayer.Websocket.Connection

/-!
# The End of a Connection

A connection that has been asked to close sends a close frame and waits for that of the other side,
with a timer. Its socket is shut down behind that, and then its close handler is called. All of this
is about runs in which the calls of other threads come between the steps of `run()`: a `terminate`
in the middle of a `close` would be undone by it, and the connection would end twice.

## Layers

1. `LifeMove`: what a step does to the life of a connection
2. `EndInvariant`: what is left before the close handler

## Main Results

- `closing_ends`: a connection that is closing hands nothing on and can end, with or without an
  answer
-/

namespace BallchasingReplayPlayer

open Transition

namespace Connection

open BallchasingReplayPlayer.Processor (OutMessage)

variable {c c' : Connection}

/-! ## Moves -/

/-- A step leaves the life of a connection as it is. -/
structure SameLife (c c' : Connection) : Prop where
  state : c'.state = c.state
  shuttingDown : c'.shuttingDown = c.shuttingDown
  closeHandlerCalls : c'.closeHandlerCalls = c.closeHandlerCalls
  dispatched : c'.dispatched = c.dispatched
  timer : c'.state = .closing → c'.timer = c.timer

/-- What a step can do to the life of a connection, unless it is the close handler. -/
inductive LifeMove (c c' : Connection) : Prop
  | same (h : SameLife c c')
  | message (msg : Message) (hopen : c.state = .opened)
      (h : SameLife { c with dispatched := c.dispatched ++ [msg] } c')
  | closes (hopen : c.state ≠ .closed) 
      (h : SameLife { c with state := .closing, timer := true } c')
  | terminate (hopen : c.state ≠ .closed)
      (h : SameLife { c with state := .closed, shuttingDown := true } c')

theorem SameLife.refl (c : Connection) : SameLife c c := ⟨rfl, rfl, rfl, rfl, fun _ => rfl⟩

theorem SameLife.trans {c'' : Connection} (h : SameLife c c') (h' : SameLife c' c'') :
    SameLife c c'' where
  state := h'.state.trans h.state
  shuttingDown := h'.shuttingDown.trans h.shuttingDown
  closeHandlerCalls := h'.closeHandlerCalls.trans h.closeHandlerCalls
  dispatched := h'.dispatched.trans h.dispatched
  timer hclosing := (h'.timer hclosing).trans (h.timer (h'.state ▸ hclosing))

theorem SameLife.pushes (c : Connection) (msg : OutMessage) :
    SameLife c (c.writePush msg).dispatchWrite := by
  rw [dispatchWrite_eq]
  exact ⟨rfl, rfl, rfl, rfl, fun _ => rfl⟩

/-- A move between two steps that leave the life as it is. -/
theorem LifeMove.between {c₀ c'' : Connection} (h₀ : SameLife c₀ c) (h : LifeMove c c')
    (h' : SameLife c' c'') : LifeMove c₀ c'' := by
  -- the parts of the state that the moves set are those that the steps around them keep
  cases h with
  | same h => exact .same (h₀.trans (h.trans h'))
  | message msg hopen h =>
    refine .message msg (h₀.state ▸ hopen) (SameLife.trans ?_ (h.trans h'))
    exact ⟨h₀.state, h₀.shuttingDown, h₀.closeHandlerCalls,
      congrArg (· ++ [msg]) h₀.dispatched, h₀.timer⟩
  | closes hopen h =>
    refine .closes (h₀.state ▸ hopen) (SameLife.trans ?_ (h.trans h'))
    exact ⟨rfl, h₀.shuttingDown, h₀.closeHandlerCalls, h₀.dispatched, fun _ => rfl⟩
  | terminate hopen h =>
    refine .terminate (h₀.state ▸ hopen) (SameLife.trans ?_ (h.trans h'))
    exact ⟨rfl, rfl, h₀.closeHandlerCalls, h₀.dispatched, fun h => by cases h⟩

theorem terminate_lives (c : Connection) : LifeMove c c.terminate := by
  unfold Connection.terminate
  split
  case isTrue hclosed =>
    -- only the timer of a connection that is closed already is cancelled
    refine .same ⟨rfl, rfl, rfl, rfl, fun hclosing => ?_⟩
    cases hclosed.symm.trans hclosing
  case isFalse hopen => exact .terminate hopen ⟨rfl, rfl, rfl, rfl, fun h => by cases h⟩

theorem ControlMove.lives (h : ControlMove c c') : LifeMove c c' := by
  cases h with
  | none h =>
    rw [h]
    exact .same (.refl c)
  | answers payload h =>
    rw [h]
    exact .same ⟨rfl, rfl, rfl, rfl, fun _ => rfl⟩
  | closes code reason m terminal clean hopen hprepare h =>
    rw [h]
    refine .closes hopen (SameLife.trans ?_ (.pushes _ _))
    exact ⟨rfl, rfl, rfl, rfl, fun _ => rfl⟩
  | ends clean h =>
    rw [h]
    have hsame : SameLife c { c with wasClean := clean } := ⟨rfl, rfl, rfl, rfl, fun _ => rfl⟩
    exact LifeMove.between hsame (terminate_lives _) (.refl _)

theorem dispatchMessage_lives (msg : Message) (threw : Bool) :
    LifeMove c (c.dispatchMessage msg threw) := by
  unfold dispatchMessage
  dsimp only
  split
  · have hsame : SameLife c { c with collected := c.collected ++ [msg] } := ⟨rfl, rfl, rfl, rfl, fun _ => rfl⟩
    exact LifeMove.between hsame (processControlFrame_moves msg).lives (.refl _)
  split
  case isTrue hopen => exact .message msg hopen ⟨rfl, rfl, rfl, rfl, fun _ => rfl⟩
  case isFalse => exact .same ⟨rfl, rfl, rfl, rfl, fun _ => rfl⟩

theorem round_lives (threw : Bool) : LifeMove c (c.round threw) := by
  unfold round
  split
  · have hsame : SameLife c { c with buffer := [] } := ⟨rfl, rfl, rfl, rfl, fun _ => rfl⟩
    exact LifeMove.between hsame (protocolError_moves _).lives (.refl _)
  split
  · split
    · exact .same ⟨rfl, rfl, rfl, rfl, fun _ => rfl⟩
    case h_2 msg processor' _ =>
      have hsame : SameLife c { c with processor := processor' } := ⟨rfl, rfl, rfl, rfl, fun _ => rfl⟩
      exact LifeMove.between hsame (dispatchMessage_lives msg threw) ⟨rfl, rfl, rfl, rfl, fun _ => rfl⟩
  · exact .same ⟨rfl, rfl, rfl, rfl, fun _ => rfl⟩

/-- **Inversion lemma**: a step is the close handler, or moves the life of a connection. -/
theorem lives_next (c : Connection) (e : ConnectionEvent) :
    e = .closeHandler ∨ LifeMove c (c.next e) := by
  cases e with
  | closeHandler => exact Or.inl rfl
  | call call =>
    refine Or.inr (.same ?_)
    unfold next
    dsimp only
    split
    · exact ⟨rfl, rfl, rfl, rfl, fun _ => rfl⟩
    · exact .refl _
  | push i =>
    refine Or.inr (.same ?_)
    unfold next
    dsimp only
    split
    · exact .refl _
    · unfold push
      split
      · exact ⟨rfl, rfl, rfl, rfl, fun _ => rfl⟩
      · refine SameLife.trans ?_ (.pushes _ _)
        exact ⟨rfl, rfl, rfl, rfl, fun _ => rfl⟩
  | close code reason =>
    refine Or.inr ?_
    unfold next
    dsimp only
    cases hclose : c.close code reason with
    | none => exact .same (.refl _)
    | some c' => exact (close_moves hclose).lives
  | writeFrame =>
    refine Or.inr (.same ?_)
    unfold next writeFrame
    dsimp only
    split
    · exact ⟨rfl, rfl, rfl, rfl, fun _ => rfl⟩
    split
    · exact ⟨rfl, rfl, rfl, rfl, fun _ => rfl⟩
    · exact ⟨rfl, rfl, rfl, rfl, fun _ => rfl⟩
  -- a write that fails ends the connection, and so does one that was the last
  | handleWriteFrame fails =>
    have hsame : SameLife c { c with currentMsgs := [] } := ⟨rfl, rfl, rfl, rfl, fun _ => rfl⟩
    have hended := LifeMove.between hsame (terminate_lives _) (.refl _)
    refine Or.inr ?_
    unfold next handleWriteFrame
    dsimp only
    split
    · exact hended
    split
    · exact hended
    · rw [dispatchWrite_eq]
      exact .same ⟨rfl, rfl, rfl, rfl, fun _ => rfl⟩
  | read bytes => exact Or.inr (.same ⟨rfl, rfl, rfl, rfl, fun _ => rfl⟩)
  | readFails =>
    have hsame : SameLife c { c with reading := false } := ⟨rfl, rfl, rfl, rfl, fun _ => rfl⟩
    exact Or.inr (LifeMove.between hsame (terminate_lives _) (.refl _))
  | round threw => exact Or.inr (round_lives threw)
  | closeTimeout => exact Or.inr (terminate_lives c)

/-! ## The End -/

/-- A connection that is closing has a timer, and the shutdown of its socket is what the close
    handler waits for. -/
structure EndInvariant (c : Connection) : Prop where
  before : c.state ≠ .closed → c.closeHandlerCalls = 0
  timer : c.state = .closing → c.timer = true
  shutting : c.shuttingDown = true → c.state = .closed ∧ c.closeHandlerCalls = 0
  ended : c.state = .closed → c.shuttingDown = true ∨ c.closeHandlerCalls = 1

theorem EndInvariant.fresh : EndInvariant Connection.fresh where
  before _ := rfl
  timer h := by cases h
  shutting h := by cases h
  ended h := by cases h

theorem SameLife.ends (h : SameLife c c') (hc : EndInvariant c) : EndInvariant c' where
  before := by
    rw [h.state, h.closeHandlerCalls]
    exact hc.before
  timer hclosing := (h.timer hclosing).trans (hc.timer (h.state ▸ hclosing))
  shutting := by
    rw [h.shuttingDown, h.state, h.closeHandlerCalls]
    exact hc.shutting
  ended := by
    rw [h.state, h.shuttingDown, h.closeHandlerCalls]
    exact hc.ended

/-- **Step lemma**: the close handler is called behind the end of a connection, once. -/
theorem EndInvariant.next {e : ConnectionEvent} (hc : EndInvariant c)
    (he : connectionMachine.enabled c e) : EndInvariant (c.next e) := by
  rcases lives_next c e with rfl | hmove
  · obtain ⟨hclosed, hcalls⟩ := hc.shutting he.2
    refine ⟨fun hopen => absurd hclosed hopen, hc.timer, fun h => Bool.noConfusion h, fun _ => ?_⟩
    exact Or.inr (congrArg (· + 1) hcalls)
  · cases hmove with
    | same h => exact h.ends hc
    | message msg hopen h => exact h.ends ⟨hc.before, hc.timer, hc.shutting, hc.ended⟩
    | closes hopen h =>
      have hcalls := hc.before hopen
      -- a close frame sets the timer, and no socket is shut down before the end
      refine h.ends ⟨fun _ => hcalls, fun _ => rfl, fun hshut => ?_, (fun h => by cases h)⟩
      exact absurd (hc.shutting hshut).1 hopen
    | terminate hopen h =>
      have hcalls := hc.before hopen
      exact h.ends ⟨fun _ => hcalls, (fun h => by cases h), fun _ => ⟨rfl, hcalls⟩,
        fun _ => Or.inl rfl⟩

theorem EndInvariant.exec {as : List ConnectionEvent} (hc : EndInvariant c)
    (hl : connectionMachine.Legal c as) : EndInvariant (connectionMachine.exec c as) :=
  Machine.exec_invariant (fun _ _ hc he => hc.next he) hc hl

/-- A connection that is not open stays so, and hands nothing on. -/
theorem notOpen_next (e : ConnectionEvent) (hopen : c.state ≠ .opened) :
    (c.next e).state ≠ .opened ∧ (c.next e).dispatched = c.dispatched := by
  rcases lives_next c e with rfl | hmove
  · exact ⟨hopen, rfl⟩
  · cases hmove with
    | same h => exact ⟨h.state ▸ hopen, h.dispatched⟩
    | message msg hopen' h => exact absurd hopen' hopen
    | closes _ h =>
      rw [h.state]
      exact ⟨SessionState.noConfusion, h.dispatched⟩
    | terminate _ h =>
      rw [h.state]
      exact ⟨SessionState.noConfusion, h.dispatched⟩

theorem notOpen_exec (as : List ConnectionEvent) (hopen : c.state ≠ .opened) :
    (connectionMachine.exec c as).state ≠ .opened ∧
      (connectionMachine.exec c as).dispatched = c.dispatched := by
  induction as generalizing c with
  | nil => exact ⟨hopen, rfl⟩
  | cons e as ih =>
    obtain ⟨hstate, hdispatched⟩ := notOpen_next e hopen
    obtain ⟨hstate', hdispatched'⟩ := ih hstate
    exact ⟨hstate', hdispatched'.trans hdispatched⟩

/-- Without the other side a connection that is closing comes to its close handler. -/
theorem EndInvariant.exists_end (hc : EndInvariant c) (hrunning : c.running = true)
    (hopen : c.state ≠ .opened) (hcalls : c.closeHandlerCalls = 0) :
    ∃ es, (∀ e ∈ es, e = .closeTimeout ∨ e = .closeHandler) ∧ connectionMachine.Legal c es ∧
      (connectionMachine.exec c es).closeHandlerCalls = 1 := by
  cases hstate : c.state with
  | opened => exact absurd hstate hopen
  | closing =>
    have hterminate : c.terminate =
        { c with timer := false, state := .closed, shuttingDown := true } := by
      refine if_neg ?_
      rw [hstate]
      exact SessionState.noConfusion
    -- the timer fires, and the socket is shut down
    refine ⟨[.closeTimeout, .closeHandler], by simp, ⟨⟨hrunning, hc.timer hstate⟩, ?_, trivial⟩, ?_⟩
    · change c.terminate.running = true ∧ c.terminate.shuttingDown = true
      rw [hterminate]
      exact ⟨hrunning, rfl⟩
    · change c.terminate.closeHandlerCalls + 1 = 1
      rw [hterminate]
      exact congrArg (· + 1) hcalls
  | closed =>
    have hshutting := (hc.ended hstate).resolve_right (by rw [hcalls]; exact Nat.zero_ne_one)
    exact ⟨[.closeHandler], by simp, ⟨⟨hrunning, hshutting⟩, trivial⟩,
      congrArg (· + 1) hcalls⟩

/-- **Closing ends**: in every run in which the calls of other threads come between the steps of
    `run()`, the close handler is called at most once; from any moment on at which the connection
    is not open, no message is handed on; and as long as `run()` goes on and the handler has not
    been called, the timer and the shutdown of the socket alone lead to it, whatever the other
    side does or leaves undone. -/
theorem closing_ends {as bs : List ConnectionEvent}
    (hl : connectionMachine.Legal fresh (as ++ bs)) :
    let c := connectionMachine.exec fresh as
    let c' := connectionMachine.exec fresh (as ++ bs)
    c'.closeHandlerCalls ≤ 1 ∧
      (c.state ≠ .opened → c'.state ≠ .opened ∧ c'.dispatched = c.dispatched) ∧
      (c.running = true → c.state ≠ .opened → c.closeHandlerCalls = 0 →
        ∃ es, (∀ e ∈ es, e = .closeTimeout ∨ e = .closeHandler) ∧
          connectionMachine.Legal c es ∧
          (connectionMachine.exec c es).closeHandlerCalls = 1) := by
  intro c c'
  have hc : EndInvariant c := EndInvariant.fresh.exec (Machine.along_append.mp hl).1
  have hc' : EndInvariant c' := EndInvariant.fresh.exec hl
  refine ⟨?_, fun hopen => ?_, hc.exists_end⟩
  · by_cases hclosed : c'.state = .closed
    · rcases hc'.ended hclosed with hshutting | hcalls
      · rw [(hc'.shutting hshutting).2]
        exact Nat.zero_le 1
      · exact Nat.le_of_eq hcalls
    · rw [hc'.before hclosed]
      exact Nat.zero_le 1
  · have hexec : c' = connectionMachine.exec c bs := Machine.exec_append _ _ _ _
    rw [hexec]
    exact notOpen_exec bs hopen

/-- The program asks the connection to close, and no answer comes. -/
theorem closing_ends_unanswered :
    let c := connectionMachine.exec fresh [.close CloseStatus.normal [], .writeFrame]
    ∃ es, connectionMachine.Legal c es ∧ (connectionMachine.exec c es).closeHandlerCalls = 1 := by
  have hl : connectionMachine.Legal fresh
      ([.close CloseStatus.normal [], .writeFrame] ++ [.handleWriteFrame false]) := by
    decide +kernel
  obtain ⟨es, _, hlegal, hcalls⟩ := (closing_ends hl).2.2 (by decide +kernel) (by decide +kernel)
    (by decide +kernel)
  exact ⟨es, hlegal, hcalls⟩

end Connection

end BallchasingReplayPlayer
