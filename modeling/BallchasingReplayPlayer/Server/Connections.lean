import BallchasingReplayPlayer.Lib.Simulation
import BallchasingReplayPlayer.Server.Clients
import BallchasingReplayPlayer.Websocket.Closing

/-!
# Connections Below the Server

The server's machine knows of a connection whether it is open and what messages come. A connection
of websocketpp does no more than that machine allows, whatever frames come and whatever threads
send.

## Layers

1. `conMachine`: the life of a connection, as the server sees it
2. `lifeSimulation`: a connection lives it, and `conSteps` says what each of its steps is there
3. `Serves`: the server's machine lets it

## Main Results

- `connection_served`: a run of a connection is the run `servedRun` of the server, from the end of
  its handshake
-/

namespace BallchasingReplayPlayer

open LexicalPath Transition

/-! ## Life of a Connection -/

/-- A connection behind its handshake, with the messages it has handed on. -/
structure ConLife where
  state : ConState
  dispatched : List Message

/-- What the server sees of a connection. -/
inductive ConEvent where
  | message (msg : Message)
  | closes
  | terminate
  | closeHandler

namespace ConLife

def next (l : ConLife) : ConEvent → ConLife
  | .message msg => { l with dispatched := l.dispatched ++ [msg] }
  | .closes => { l with state := .closing }
  | .terminate => { l with state := .closed }
  | .closeHandler => { l with state := .expired }

def guard (l : ConLife) : ConEvent → Prop
  | .message _ | .closes => l.state = .opened
  | .terminate => l.state = .opened ∨ l.state = .closing
  | .closeHandler => l.state = .closed

end ConLife

/-- The life of a connection, from the end of its handshake to that of its handle. -/
def conMachine : Machine ConLife ConEvent where
  enabled l e := l.guard e
  next l e := l.next e

namespace Connection

variable {c c' : Connection}

/-- Where a connection is in its life. -/
def conState (c : Connection) : ConState :=
  match c.state with
  | .opened => .opened
  | .closing => .closing
  | .closed => if c.closeHandlerCalls = 0 then .closed else .expired

def life (c : Connection) : ConLife := ⟨c.conState, c.dispatched⟩

/-! ## A Connection Lives -/

theorem SameLife.life (h : SameLife c c') : c'.life = c.life := by
  unfold Connection.life conState
  rw [h.state, h.closeHandlerCalls, h.dispatched]

/-- What the server sees of a change of `m_state`. -/
def stateSteps : SessionState → SessionState → List ConEvent
  | .opened, .closing => [.closes]
  | .opened, .closed | .closing, .closed => [.terminate]
  | .opened, .opened | .closing, .opened | .closing, .closing | .closed, _ => []

/-- What the server sees of a step: the message that is handed on, what becomes of the state, and
    the close handler. -/
def conSteps (c : Connection) : ConnectionEvent → List ConEvent
  | .closeHandler => [.closeHandler]
  | e =>
    ((c.next e).dispatched.drop c.dispatched.length).map .message ++
      stateSteps c.state (c.next e).state

theorem conSteps_of_ne {e : ConnectionEvent} (h : e ≠ .closeHandler) :
    conSteps c e = ((c.next e).dispatched.drop c.dispatched.length).map ConEvent.message ++
      stateSteps c.state (c.next e).state := by
  cases e with
  | closeHandler => exact absurd rfl h
  | _ => rfl

theorem conState_opened (h : c.state = .opened) : c.conState = .opened := by
  unfold conState
  rw [h]

theorem conState_closing (h : c.state = .closing) : c.conState = .closing := by
  unfold conState
  rw [h]

/-- What the server sees of a step is a step of the life of the connection, to where the connection
    is behind it. -/
theorem lives_conSteps {e : ConnectionEvent} (hc : EndInvariant c)
    (he : connectionMachine.enabled c e) :
    conMachine.Legal c.life (conSteps c e) ∧
      conMachine.exec c.life (conSteps c e) = (c.next e).life := by
  rcases eq_or_ne e .closeHandler with rfl | hne
  · obtain ⟨hclosed, hcalls⟩ := hc.shutting he.2
    have hstate : c.conState = .closed := by
      unfold conState
      rw [hclosed, hcalls]
      rfl
    refine ⟨⟨hstate, trivial⟩, ?_⟩
    change (⟨.expired, c.dispatched⟩ : ConLife) = ⟨(c.next .closeHandler).conState, c.dispatched⟩
    unfold conState next
    dsimp only
    rw [hclosed, hcalls]
    rfl
  have hmove := (lives_next c e).resolve_left hne
  rw [conSteps_of_ne hne]
  cases hmove with
  | same h =>
    rw [h.dispatched, h.state, List.drop_length, h.life]
    cases c.state <;> exact ⟨trivial, rfl⟩
  | message msg hopen h =>
    have hdispatched : (c.next e).dispatched = c.dispatched ++ [msg] := h.dispatched
    have hstate : (c.next e).state = c.state := h.state
    rw [hdispatched, hstate, List.drop_left, hopen, h.life]
    exact ⟨⟨conState_opened hopen, trivial⟩, rfl⟩
  | closes hopen h =>
    have hdispatched : (c.next e).dispatched = c.dispatched := h.dispatched
    have hstate : (c.next e).state = .closing := h.state
    rw [hdispatched, hstate, List.drop_length, h.life]
    cases hbefore : c.state with
    | closed => exact absurd hbefore hopen
    | opened => exact ⟨⟨conState_opened hbefore, trivial⟩, rfl⟩
    | closing =>
      -- the close frame of the other side has come with an invalid code: a second answer
      have hlife : c.conState = .closing := conState_closing hbefore
      exact ⟨trivial, congrArg (ConLife.mk · c.dispatched) hlife⟩
  | terminate hopen h =>
    have hdispatched : (c.next e).dispatched = c.dispatched := h.dispatched
    have hstate : (c.next e).state = .closed := h.state
    have hcalls := hc.before hopen
    have hend : (c.next e).life = ⟨.closed, c.dispatched⟩ := by
      rw [h.life]
      change (⟨conState _, c.dispatched⟩ : ConLife) = ⟨.closed, c.dispatched⟩
      unfold conState
      dsimp only
      rw [hcalls]
      rfl
    rw [hdispatched, hstate, List.drop_length, hend]
    cases hbefore : c.state with
    | closed => exact absurd hbefore hopen
    | opened => exact ⟨⟨Or.inl (conState_opened hbefore), trivial⟩, rfl⟩
    | closing => exact ⟨⟨Or.inr (conState_closing hbefore), trivial⟩, rfl⟩

/-- No exception leaves the message handler. -/
def HandlerReturns (_ : Connection) : ConnectionEvent → Prop
  | .round threw => threw = false
  | _ => True

/-- **Refinement**: a connection whose handler returns lives its life, step by step. -/
def lifeSimulation : Simulation connectionMachine conMachine where
  Inv := EndInvariant
  ok := HandlerReturns
  abs := life
  emit := conSteps
  keeps _ _ hc he _ := hc.next he
  legal _ _ hc he _ := (lives_conSteps hc he).1
  commutes _ _ hc he _ := (lives_conSteps hc he).2

end Connection

/-! ## The Server Lets It -/

section Serving

variable {App Msg Ev : Type} (service : Service App Msg Ev) (handle : ClientHandle)
  (decode : Message → Msg)

/-- What the server does about a connection. -/
def conServerEvent : ConEvent → ServerEvent Msg Ev
  | .message msg => .message handle (decode msg)
  | .closes => .clientCloses handle
  | .terminate => .terminate handle
  | .closeHandler => .closeHandler handle

/-- A server inside `run()` that has served a connection since it was in `s₀`. -/
structure Serves (s₀ s : ServerState App Msg) (l : ConLife) : Prop where
  alive : s.destroyed = false ∧ s.terminated = none
  running : s.serverThread = some .inRun
  conn : s.conns handle = l.state
  others : ∀ handle', handle' ≠ handle → s.conns handle' = s₀.conns handle'
  delivered : s.delivered = s₀.delivered ++ l.dispatched.map fun msg => (handle, decode msg)

variable {service handle decode} {s₀ s : ServerState App Msg} {l : ConLife}

/-- The connection changes its state, and nothing else that counts changes. -/
theorem Serves.setConn (hs : Serves handle decode s₀ s l) (state : ConState) :
    Serves handle decode s₀ (s.setConn handle state) { l with state := state } where
  alive := hs.alive
  running := hs.running
  conn := by
    unfold ServerState.setConn
    dsimp only
    rw [Function.update_self]
  others handle' hne := by
    unfold ServerState.setConn
    dsimp only
    rw [Function.update_of_ne hne]
    exact hs.others handle' hne
  delivered := hs.delivered

/-- **Step lemma**: what happens to a connection can happen on the server, and does the same
    there, as long as the handler does not throw. -/
theorem Serves.next (hs : Serves handle decode s₀ s l) {e : ConEvent}
    (he : conMachine.enabled l e)
    (hreturns : HandlersReturnFor service handle s (conServerEvent handle decode e)) :
    (serverMachine service).enabled s (conServerEvent handle decode e) ∧
      Serves handle decode s₀
        ((serverMachine service).next s (conServerEvent handle decode e))
        (conMachine.next l e) := by
  cases e with
  | message msg =>
    have hopen : s.conns handle = .opened := hs.conn.trans he
    -- an exception would end `run()`, and with it all that the server does
    have hthrew : (onMessage service handle (decode msg) s.messageHandlers s.app).2.2 = false :=
      hreturns rfl
    refine ⟨⟨hs.alive.1, hs.alive.2, hs.running, hopen⟩, ?_⟩
    change Serves handle decode s₀ (s.message service handle (decode msg)) _
    unfold ServerState.message
    cases hcall : onMessage service handle (decode msg) s.messageHandlers s.app with
    | mk n rest =>
      obtain ⟨app, threw⟩ := rest
      rw [hcall] at hthrew
      obtain rfl : threw = false := hthrew
      refine ⟨hs.alive, hs.running, hs.conn, hs.others, ?_⟩
      change s.delivered ++ [(handle, decode msg)] =
        s₀.delivered ++ (l.dispatched ++ [msg]).map _
      rw [hs.delivered, List.map_append, List.append_assoc]
      rfl
  | closes => exact ⟨⟨hs.alive.1, hs.alive.2, hs.running, hs.conn.trans he⟩, hs.setConn .closing⟩
  | terminate =>
    have hopen : (s.conns handle).isOpen = true ∨ s.conns handle = .closing := by
      rw [hs.conn]
      exact he.imp_left fun hopened => by rw [hopened]; rfl
    exact ⟨⟨hs.alive.1, hs.alive.2, hs.running, hopen⟩, hs.setConn .closed⟩
  | closeHandler =>
    have hend := hs.setConn .expired
    refine ⟨⟨hs.alive.1, hs.alive.2, hs.running, hs.conn.trans he⟩, ?_⟩
    exact ⟨hend.alive, hend.running, hend.conn, hend.others, hend.delivered⟩

theorem Serves.exec (hs : Serves handle decode s₀ s l) {es : List ConEvent}
    (hl : conMachine.Legal l es)
    (hreturns : (serverMachine service).Along (HandlersReturnFor service handle) s
      (es.map (conServerEvent handle decode))) :
    (serverMachine service).Legal s (es.map (conServerEvent handle decode)) ∧
      Serves handle decode s₀
        ((serverMachine service).exec s (es.map (conServerEvent handle decode)))
        (conMachine.exec l es) := by
  induction es generalizing s l with
  | nil => exact ⟨trivial, hs⟩
  | cons e es ih =>
    -- the server is behind the step what the connection is behind it
    obtain ⟨henabled, hnext⟩ := hs.next hl.1 hreturns.1
    obtain ⟨hlegal, hend⟩ := ih hnext hl.2 hreturns.2
    exact ⟨⟨henabled, hlegal⟩, hend⟩

variable (service handle decode) in
/-- The run of the server that a run of one of its connections stands for. -/
def servedRun (as : List ConnectionEvent) : List (ServerEvent Msg Ev) :=
  (Connection.lifeSimulation.trace .fresh as).map (conServerEvent handle decode)

variable (service handle decode) in
/-- **A connection below the server**: what a connection does from the end of its handshake, as
    long as the handlers return for its messages, is what the server's machine does about it, step
    by step: the steps the connection stands for are steps of the server, they leave the connection
    where it is in its life and the others where they were, and they deliver the messages the
    connection has handed on. -/
theorem connection_served
    (halive : s.destroyed = false ∧ s.terminated = none) (hrun : s.serverThread = some .inRun)
    (hconn : s.conns handle = .opened) {as : List ConnectionEvent}
    (hl : connectionMachine.Legal .fresh as)
    (hok : connectionMachine.Along Connection.HandlerReturns .fresh as)
    (hreturns : (serverMachine service).Along (HandlersReturnFor service handle) s
      (servedRun handle decode as)) :
    let bs : List (ServerEvent Msg Ev) := servedRun handle decode as
    let s' := (serverMachine service).exec s bs
    let c := connectionMachine.exec .fresh as
    (serverMachine service).Legal s bs ∧ s'.conns handle = c.conState ∧
      (∀ handle', handle' ≠ handle → s'.conns handle' = s.conns handle') ∧
      s'.delivered = s.delivered ++ c.dispatched.map fun msg => (handle, decode msg) := by
  intro bs s' c
  have hlife := Connection.lifeSimulation.legal_trace Connection.EndInvariant.fresh hl hok
  have hend := Connection.lifeSimulation.exec_trace Connection.EndInvariant.fresh hl hok
  have hs : Serves handle decode s s Connection.fresh.life :=
    ⟨halive, hrun, hconn, fun _ _ => rfl, (List.append_nil _).symm⟩
  obtain ⟨hlegal, hserves⟩ := hs.exec hlife hreturns
  rw [show conMachine.exec Connection.fresh.life _ = c.life from hend] at hserves
  exact ⟨hlegal, hserves.conn, hserves.others, hserves.delivered⟩

/-- A text arrives and the client goes away. -/
theorem connection_served_text :
    let as := [.read [0x81, 0x81, 0, 0, 0, 0, 0x48], .round false, .readFails, .closeHandler]
    let s := (serverMachine Service.silent).exec (.constructed Unit ())
      [.startAsync, .lock, .initAsio none, .setHandlers, .reset false, .listen false,
        .startAccept false, .enterRun, .accept 1, .handshakeDone 1]
    let bs : List (ServerEvent Unit Empty) := servedRun 1 (fun _ => ()) as
    let s' := (serverMachine Service.silent).exec s bs
    let c := connectionMachine.exec .fresh as
    (serverMachine Service.silent).Legal s bs ∧ s'.conns 1 = c.conState ∧
      (∀ handle', handle' ≠ 1 → s'.conns handle' = s.conns handle') ∧
      s'.delivered = s.delivered ++ c.dispatched.map fun _ => (1, ()) := by
  have hl : connectionMachine.Legal .fresh
      [.read [0x81, 0x81, 0, 0, 0, 0, 0x48], .round false, .readFails, .closeHandler] := by
    decide +kernel
  exact connection_served Service.silent 1 (fun _ => ()) (by decide) rfl rfl hl
    ⟨trivial, rfl, trivial, trivial, trivial⟩ (by decide +kernel)

end Serving

end BallchasingReplayPlayer
