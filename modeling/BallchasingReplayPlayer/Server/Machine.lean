import Mathlib.Logic.Function.Basic
import BallchasingReplayPlayer.Lib.Machine
import BallchasingReplayPlayer.Plugin.State

/-!
# The Websocket Server

`WsServer` as a machine of two threads and any number of clients. The control thread starts
and shuts down the server; the server thread runs `StartWebSocketServer`, and inside
`run()` it handles what the connections do.

The two threads share `ws_connections_`, which nothing locks, and the loop of
`ShutdownWebSocketServer` walks it with an iterator that the handlers of the server thread can
leave behind. What the two do to one connection is taken one after the other: `close` is a
single step, so no `terminate` of the server thread, which takes no lock either, lies between
the state test of `close` and what `close` does behind it.

## Layers

1. `Service` — what a registered message handler does, and what else changes its state
2. `ServerState` — the members of `WsServer`, the endpoint and the two program counters
3. `serverMachine` — the atomic steps, in any order

## Source

- `WsServer::StartWebSocketServer` ↔ `lock` to `runThrows`
- `WsServer::ShutdownWebSocketServer`, `~WsServer` ↔ `shutdown` to `destroyMembers`; the loop
  ↔ `advance`, `closeClient`
- `WsServer::OnMessage`, `OnClientConnected`, `OnClientDisconnected` ↔ `message`,
  `handshakeDone`, `closeHandler`
-/

namespace BallchasingReplayPlayer

open LexicalPath Transition

/-! ## Handlers -/

/-- The state behind the message handlers: what handling a message does to it, and whether
    an exception leaves the handler; and the steps it takes on its own. -/
structure Service (App Msg Ev : Type) where
  handle : App → ClientHandle → Msg → App × Bool
  background : Machine App Ev

/-- A handler that does nothing. -/
def Service.silent : Service Unit Unit Empty where
  handle app _ _ := (app, false)
  background := { enabled := fun _ _ => False, next := fun app _ => app }

/-- A handler that throws, whatever the message. -/
def Service.failing : Service Unit Unit Empty where
  handle app _ _ := (app, true)
  background := { enabled := fun _ _ => False, next := fun app _ => app }

instance (app : Unit) (e : Empty) : Decidable (Service.silent.background.enabled app e) :=
  inferInstanceAs (Decidable False)

instance (app : Unit) (e : Empty) : Decidable (Service.failing.background.enabled app e) :=
  inferInstanceAs (Decidable False)

/-- The key `InitWsServer` registers its handler under. -/
def handlerKey : Text := "UniqueKeyDoesntMatter".toList

/-- `insert_or_assign` on the keys of `message_handlers_`. -/
def insertOrAssign (key : Text) (keys : List Text) : List Text :=
  if key ∈ keys then keys else keys ++ [key]

/-- `OnMessage`: the handlers are called one after the other until one throws. The result is
    the number of calls, the state behind them and whether one threw. -/
def onMessage {App Msg Ev : Type} (service : Service App Msg Ev) (handle : ClientHandle)
    (message : Msg) : List Text → App → ℕ × App × Bool
  | [], app => (0, app, false)
  | _ :: keys, app =>
    match service.handle app handle message with
    | (app', true) => (1, app', true)
    | (app', false) =>
      let (n, rest) := onMessage service handle message keys app'
      (n + 1, rest)

/-- A single handler is called once, whether it throws or not. -/
theorem onMessage_singleton {App Msg Ev : Type} (service : Service App Msg Ev)
    (handle : ClientHandle) (msg : Msg) (key : Text) (app : App) :
    onMessage service handle msg [key] app =
      (1, (service.handle app handle msg).1, (service.handle app handle msg).2) := by
  unfold onMessage
  cases hcall : service.handle app handle msg with
  | mk app' threw =>
    cases threw with
    | true => rfl
    | false => rfl

/-! ## State -/

/-- Where the server thread is in `StartWebSocketServer`: what it has done last. -/
inductive Pc where
  | entry
  | locked
  | asioInitialized
  | handlersSet
  | endpointReset
  | listening
  | accepting
  | inRun
  | returned
deriving DecidableEq, Repr

/-- The guard on `server_running_mutex_` lives from the first statement to the last. -/
def Pc.holdsMutex : Pc → Bool
  | .entry | .returned => false
  | _ => true

/-- `listen` has returned. -/
def Pc.pastListen : Pc → Bool
  | .listening | .accepting | .inRun | .returned => true
  | _ => false

/-- Where the control thread is: outside `ShutdownWebSocketServer`, at one of its steps, or
    behind it in `~WsServer`. The iterator of the loop is to be moved on from the element
    `after`, or from in front of the first one, or it stands on the element of a `handle` whose
    connection is to be closed. -/
inductive Control where
  | idle
  | stopping
  | advancing (after : Option ClientHandle)
  | closing (handle : ClientHandle)
  | waiting
  | joining
  | leaving
deriving DecidableEq, Repr

/-- A connection, from its acceptance to the end of its handle. An exception that leaves the
    message handler leaves it `unread`: it is open, but nothing reads from it again. -/
inductive ConState where
  | absent
  | handshake
  | opened
  | unread
  | closing
  | closed
  | expired
deriving DecidableEq, Repr

/-- `m_state == session::state::open` -/
def ConState.isOpen : ConState → Bool
  | .opened | .unread => true
  | .absent | .handshake | .closing | .closed | .expired => false

/-- What makes the program call `std::terminate`, or takes its meaning away: the iterator of
    the close loop is used when its element has been erased. -/
inductive Termination where
  | assignedOver
  | destroyedJoinable
  | exceptionInDestructor
  | danglingIterator
deriving DecidableEq, Repr

/-- The members of `WsServer`, its endpoint and its threads. `serverThread` is `none` while
    `server_thread_` is not joinable. `runEntered`, the counts and the two message lists
    record what has happened; no code reads them. -/
structure ServerState (App Msg : Type) where
  control : Control
  inDestructor : Bool
  mayStart : Bool
  destroyed : Bool
  terminated : Option Termination
  shutdownThrew : Bool
  serverThread : Option Pc
  threadsStarted : ℕ
  threadsJoined : ℕ
  listening : Bool
  runEntered : Bool
  conns : ClientHandle → ConState
  accepted : List ClientHandle
  wsConnections : List ClientHandle
  messageHandlers : List Text
  delivered : List (ClientHandle × Msg)
  handled : List (ClientHandle × Msg)
  app : App

/-- A `WsServer` right after its construction. -/
def ServerState.constructed {App : Type} (Msg : Type) (app : App) : ServerState App Msg where
  control := .idle
  inDestructor := false
  mayStart := true
  destroyed := false
  terminated := none
  shutdownThrew := false
  serverThread := none
  threadsStarted := 0
  threadsJoined := 0
  listening := false
  runEntered := false
  conns := fun _ => .absent
  accepted := []
  wsConnections := []
  messageHandlers := []
  delivered := []
  handled := []
  app := app

/-! ## Steps -/

/-- The atomic steps of the control thread, of the server thread outside `run()`, of
    `run()`, and of the state behind the handlers. -/
inductive ServerEvent (Msg Ev : Type) where
  | startAsync
  | addMessageHandler
  | shutdown
  | destructor
  | stopListening
  | advance (after : Option ClientHandle)
  | closeClient (handle : ClientHandle)
  | lockMutex
  | join
  | destroyMembers
  | lock
  | initAsio (code : Option ℤ)
  | setHandlers
  | reset (throws : Bool)
  | listen (throws : Bool)
  | startAccept (throws : Bool)
  | enterRun
  | runReturns
  | runThrows
  | accept (handle : ClientHandle)
  | handshakeDone (handle : ClientHandle)
  | handshakeFailed (handle : ClientHandle)
  | message (handle : ClientHandle) (msg : Msg)
  | clientCloses (handle : ClientHandle)
  | terminate (handle : ClientHandle)
  | closeHandler (handle : ClientHandle)
  | released (handle : ClientHandle)
  | background (e : Ev)

/-- The element behind the one the iterator stands on, or the first one: `ws_connections_` is
    walked in the order of its handles. -/
def nextHandle (after : Option ClientHandle) (wsConnections : List ClientHandle) :
    Option ClientHandle :=
  (wsConnections.filter fun handle => after.all (· < handle)).min?

namespace ServerState

variable {App Msg Ev : Type}

/-- The server thread gets to `pc`. -/
def goTo (s : ServerState App Msg) (pc : Pc) : ServerState App Msg :=
  { s with serverThread := some pc }

/-- A call of `StartWebSocketServer` throws, and a catch block ends the thread, or it
    returns and the thread gets to `pc`. -/
def goToUnless (s : ServerState App Msg) (throws : Bool) (pc : Pc) : ServerState App Msg :=
  s.goTo (if throws then .returned else pc)

/-- A connection changes its state. -/
def setConn (s : ServerState App Msg) (handle : ClientHandle) (state : ConState) :
    ServerState App Msg :=
  { s with conns := Function.update s.conns handle state }

/-- `ShutdownWebSocketServer` returns, to its caller or in `~WsServer`. -/
def shutdownReturns (s : ServerState App Msg) : ServerState App Msg :=
  if s.inDestructor then { s with control := .leaving }
  else { s with control := .idle, mayStart := true }

/-- An exception leaves `ShutdownWebSocketServer`. A destructor does not let it pass. -/
def shutdownThrows (s : ServerState App Msg) : ServerState App Msg :=
  { s with
    control := .idle
    shutdownThrew := true
    terminated := if s.inDestructor then some .exceptionInDestructor else s.terminated }

/-- `if (ws_server_.is_listening())` -/
def shutdownBegins (s : ServerState App Msg) : ServerState App Msg :=
  if s.listening then { s with control := .stopping } else s.shutdownReturns

/-- `server_thread_ = std::thread{...}` -/
def startAsync (s : ServerState App Msg) : ServerState App Msg :=
  if s.serverThread.isSome then { s with terminated := some .assignedOver }
  else
    { s with
      serverThread := some .entry
      threadsStarted := s.threadsStarted + 1
      mayStart := false
      runEntered := false }

/-- The loop uses its iterator, whose element has been erased. What the program does from here on
    is not defined. -/
def iteratorDangles (s : ServerState App Msg) : ServerState App Msg :=
  { s with control := .idle, terminated := some .danglingIterator }

/-- `begin()` or `++it` of the loop. An iterator whose element has been erased since cannot be
    moved on. -/
def advance (s : ServerState App Msg) (after : Option ClientHandle) : ServerState App Msg :=
  if ∀ handle ∈ after, handle ∈ s.wsConnections then
    match nextHandle after s.wsConnections with
    | none => { s with control := .waiting }
    | some handle => { s with control := .closing handle }
  else s.iteratorDangles

/-- The iterator gets to the end or to the next element, or it has lost its own. -/
@[elab_as_elim]
theorem advance_cases {motive : ServerState App Msg → Prop} {s : ServerState App Msg}
    {after : Option ClientHandle}
    (through : nextHandle after s.wsConnections = none → motive { s with control := .waiting })
    (comes : ∀ handle, nextHandle after s.wsConnections = some handle →
      motive { s with control := .closing handle })
    (dangles : ¬ (∀ handle ∈ after, handle ∈ s.wsConnections) → motive s.iteratorDangles) :
    motive (s.advance after) := by
  unfold advance
  split
  case isTrue =>
    cases hnext : nextHandle after s.wsConnections with
    | none => exact through hnext
    | some handle => exact comes handle hnext
  case isFalse herased => exact dangles herased

/-- The body of the loop, which reads the element of the iterator: `get_con_from_hdl` throws on
    an expired handle, and `close` unless the connection is open. -/
def closeClient (s : ServerState App Msg) (handle : ClientHandle) : ServerState App Msg :=
  if handle ∈ s.wsConnections then
    if (s.conns handle).isOpen then
      { s.setConn handle .closing with control := .advancing (some handle) }
    else s.shutdownThrows
  else s.iteratorDangles

/-- The body of the loop asks an open connection to close, or throws, or its element is gone. -/
@[elab_as_elim]
theorem closeClient_cases {motive : ServerState App Msg → Prop} {s : ServerState App Msg}
    {handle : ClientHandle}
    (asks : handle ∈ s.wsConnections → (s.conns handle).isOpen = true →
      motive { s.setConn handle .closing with control := .advancing (some handle) })
    (throws : (s.conns handle).isOpen = false → motive s.shutdownThrows)
    (dangles : handle ∉ s.wsConnections → motive s.iteratorDangles) :
    motive (s.closeClient handle) := by
  unfold closeClient
  split
  case isTrue htracked =>
    split
    case isTrue hopen => exact asks htracked hopen
    case isFalse hclosed => exact throws (by simpa using hclosed)
  case isFalse herased => exact dangles herased

/-- `server_thread_.join()`, which throws if there is no thread to join. -/
def join (s : ServerState App Msg) : ServerState App Msg :=
  if s.serverThread.isSome then
    { s with serverThread := none, threadsJoined := s.threadsJoined + 1 }.shutdownReturns
  else s.shutdownThrows

/-- The members of `WsServer` are destroyed, `server_thread_` among them. -/
def destroyMembers (s : ServerState App Msg) : ServerState App Msg :=
  if s.serverThread.isSome then { s with terminated := some .destroyedJoinable }
  else { s with destroyed := true }

/-- A message is handled inside `run()`, which lets an exception pass. The read that was being
    handled is not started again then, and `OnClientDisconnected` is not called. -/
def message (s : ServerState App Msg) (service : Service App Msg Ev) (handle : ClientHandle)
    (msg : Msg) : ServerState App Msg :=
  let (n, app, threw) := onMessage service handle msg s.messageHandlers s.app
  { s with
    delivered := s.delivered ++ [(handle, msg)]
    handled := s.handled ++ List.replicate n (handle, msg)
    app := app
    serverThread := if threw then some .returned else s.serverThread
    conns := if threw then Function.update s.conns handle .unread else s.conns }

/-- The state after a step. -/
def next (service : Service App Msg Ev) (s : ServerState App Msg) :
    ServerEvent Msg Ev → ServerState App Msg
  | .startAsync => s.startAsync
  | .addMessageHandler =>
    { s with messageHandlers := insertOrAssign handlerKey s.messageHandlers }
  | .shutdown => s.shutdownBegins
  | .destructor => { s with inDestructor := true }.shutdownBegins
  | .stopListening => { s with listening := false, control := .advancing none }
  | .advance after => s.advance after
  | .closeClient handle => s.closeClient handle
  | .lockMutex => { s with control := .joining }
  | .join => s.join
  | .destroyMembers => s.destroyMembers
  | .lock => s.goTo .locked
  -- the error code 9 says that asio has been initialised before
  | .initAsio code => s.goToUnless (code.any (· ≠ 9)) .asioInitialized
  | .setHandlers => s.goTo .handlersSet
  | .reset throws => s.goToUnless throws .endpointReset
  | .listen throws =>
    { s.goToUnless throws .listening with listening := s.listening || !throws }
  | .startAccept throws => s.goToUnless throws .accepting
  | .enterRun => { s.goTo .inRun with runEntered := true }
  | .runReturns => s.goTo .returned
  -- the catch blocks lie outside `run()`
  | .runThrows => s.goTo .returned
  | .accept handle => { s.setConn handle .handshake with accepted := handle :: s.accepted }
  -- `OnClientConnected`
  | .handshakeDone handle =>
    { s.setConn handle .opened with wsConnections := s.wsConnections.insert handle }
  | .handshakeFailed handle => s.setConn handle .expired
  | .message handle msg => s.message service handle msg
  | .clientCloses handle => s.setConn handle .closing
  | .terminate handle => s.setConn handle .closed
  -- `OnClientDisconnected`
  | .closeHandler handle =>
    { s.setConn handle .expired with
      wsConnections := s.wsConnections.filter (· ≠ handle) }
  -- the last pointer to a connection that nothing reads from: its handle expires, and stays
  -- in `ws_connections_`
  | .released handle => s.setConn handle .expired
  | .background e => { s with app := service.background.next s.app e }

/-- When a step can be taken in a program that is still running. `run()` returns when it has
    nothing left to wait for: no acceptor, and no connection. -/
def guard (service : Service App Msg Ev) (s : ServerState App Msg) :
    ServerEvent Msg Ev → Prop
  | .startAsync => s.control = .idle ∧ s.inDestructor = false ∧ s.mayStart = true
  -- `InitWsServer` calls it behind `StartWebSocketServerAsync`
  | .addMessageHandler => s.control = .idle ∧ s.inDestructor = false ∧ 0 < s.threadsStarted
  | .shutdown => s.control = .idle ∧ s.inDestructor = false
  | .destructor => s.control = .idle ∧ s.inDestructor = false
  | .stopListening => s.control = .stopping
  | .advance after => s.control = .advancing after
  | .closeClient handle => s.control = .closing handle
  -- the server thread holds `server_running_mutex_` as long as it is in its `try` block
  | .lockMutex => s.control = .waiting ∧ s.serverThread.any Pc.holdsMutex = false
  | .join => s.control = .joining ∧ (s.serverThread = none ∨ s.serverThread = some .returned)
  | .destroyMembers => s.control = .leaving
  -- a shutdown holds the mutex until it has joined
  | .lock => s.serverThread = some .entry ∧ s.control ≠ .joining
  | .initAsio _ => s.serverThread = some .locked
  | .setHandlers => s.serverThread = some .asioInitialized
  | .reset _ => s.serverThread = some .handlersSet
  -- an endpoint that is listening already cannot listen again
  | .listen throws =>
    s.serverThread = some .endpointReset ∧ (throws = false → s.listening = false)
  | .startAccept _ => s.serverThread = some .listening
  | .enterRun => s.serverThread = some .accepting
  | .runReturns =>
    s.serverThread = some .inRun ∧ s.listening = false ∧
      ∀ handle ∈ s.accepted, s.conns handle = .expired
  | .runThrows => s.serverThread = some .inRun
  | .accept handle =>
    s.serverThread = some .inRun ∧ s.listening = true ∧ s.conns handle = .absent
  | .handshakeDone handle => s.serverThread = some .inRun ∧ s.conns handle = .handshake
  | .handshakeFailed handle => s.serverThread = some .inRun ∧ s.conns handle = .handshake
  -- frames are read from open connections only
  | .message handle _ => s.serverThread = some .inRun ∧ s.conns handle = .opened
  | .clientCloses handle => s.serverThread = some .inRun ∧ s.conns handle = .opened
  | .terminate handle =>
    s.serverThread = some .inRun ∧
      ((s.conns handle).isOpen = true ∨ s.conns handle = .closing)
  | .closeHandler handle => s.serverThread = some .inRun ∧ s.conns handle = .closed
  -- at once, unless an answer that is still being written keeps the connection
  | .released handle => s.conns handle = .unread
  | .background e => service.background.enabled s.app e

end ServerState

/-- The server, its clients and the state behind its handlers, one step after the other. -/
def serverMachine {App Msg Ev : Type} (service : Service App Msg Ev) :
    Machine (ServerState App Msg) (ServerEvent Msg Ev) where
  enabled s e := s.destroyed = false ∧ s.terminated = none ∧ s.guard service e
  next s e := s.next service e

section Decidability

variable {App Msg Ev : Type} (service : Service App Msg Ev)
  [∀ app e, Decidable (service.background.enabled app e)]

instance ServerState.decidableGuard (s : ServerState App Msg) :
    ∀ e, Decidable (s.guard service e)
  | .startAsync | .addMessageHandler => inferInstanceAs (Decidable (_ ∧ _ ∧ _))
  | .runReturns => inferInstanceAs (Decidable (_ ∧ _ ∧ ∀ handle ∈ s.accepted, _))
  | .accept _ => inferInstanceAs (Decidable (_ ∧ _ ∧ _))
  | .listen _ => inferInstanceAs (Decidable (_ ∧ (_ → _)))
  | .lock => inferInstanceAs (Decidable (_ ∧ _ ≠ _))
  | .join | .terminate _ => inferInstanceAs (Decidable (_ ∧ (_ ∨ _)))
  | .shutdown | .destructor | .lockMutex => inferInstanceAs (Decidable (_ ∧ _))
  | .handshakeDone _ | .handshakeFailed _ | .message _ _ | .clientCloses _ | .closeHandler _ =>
    inferInstanceAs (Decidable (_ ∧ _))
  | .stopListening | .advance _ | .closeClient _ | .destroyMembers =>
    inferInstanceAs (Decidable (_ = _))
  | .initAsio _ | .setHandlers | .reset _ | .startAccept _ | .enterRun | .runThrows
  | .released _ => inferInstanceAs (Decidable (_ = _))
  | .background e => inferInstanceAs (Decidable (service.background.enabled s.app e))

instance (s : ServerState App Msg) (e : ServerEvent Msg Ev) :
    Decidable ((serverMachine service).enabled s e) :=
  inferInstanceAs (Decidable (_ ∧ _ ∧ s.guard service e))

end Decidability

end BallchasingReplayPlayer
