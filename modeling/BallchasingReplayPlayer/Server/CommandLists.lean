import BallchasingReplayPlayer.Plugin.CommandList
import BallchasingReplayPlayer.Server.System

/-!
# Command Lists in the Whole Program

The server with the handler that keeps its command lists on the heap. Without the heap it is the
server of the other modules, and between two steps the heap is as it was when the plugin was
loaded.

## Layers

1. `ServiceRefinement` — a handler that does what another one does, on a larger state
2. `serviceSimulation` — the server in front of it
3. `ListsPassed` — what every run keeps of the heap

## Main Result

- `commandLists_of_system`: no command list is leaked, deleted twice or used when it is gone
-/

namespace BallchasingReplayPlayer

open LexicalPath ScopedHeap Transition

/-! ## Handlers on a Larger State -/

/-- The two services do the same to the part of the state that `abs` keeps. -/
structure ServiceRefinement {App App' Msg Ev : Type} (service : Service App Msg Ev)
    (plain : Service App' Msg Ev) where
  abs : App → App'
  handle : ∀ app handle msg, plain.handle (abs app) handle msg =
    (abs (service.handle app handle msg).1, (service.handle app handle msg).2)
  enabled : ∀ app e, service.background.enabled app e → plain.background.enabled (abs app) e
  next : ∀ app e, plain.background.next (abs app) e = abs (service.background.next app e)

namespace ServerState

variable {App App' Msg Ev : Type}

/-- The server, with a part of the state behind its handlers. -/
def mapApp (f : App → App') (s : ServerState App Msg) : ServerState App' Msg where
  control := s.control
  inDestructor := s.inDestructor
  mayStart := s.mayStart
  destroyed := s.destroyed
  terminated := s.terminated
  shutdownThrew := s.shutdownThrew
  serverThread := s.serverThread
  threadsStarted := s.threadsStarted
  threadsJoined := s.threadsJoined
  listening := s.listening
  runEntered := s.runEntered
  conns := s.conns
  accepted := s.accepted
  wsConnections := s.wsConnections
  messageHandlers := s.messageHandlers
  delivered := s.delivered
  handled := s.handled
  app := f s.app

variable (f : App → App') (s : ServerState App Msg)

theorem mapApp_startAsync : (s.mapApp f).startAsync = s.startAsync.mapApp f := by
  unfold startAsync
  cases h : s.serverThread.isSome with
  | true => simp [mapApp, h]
  | false => simp [mapApp, h]

theorem mapApp_shutdownReturns : (s.mapApp f).shutdownReturns = s.shutdownReturns.mapApp f := by
  unfold shutdownReturns
  cases h : s.inDestructor with
  | true => simp [mapApp, h]
  | false => simp [mapApp, h]

theorem mapApp_shutdownBegins : (s.mapApp f).shutdownBegins = s.shutdownBegins.mapApp f := by
  unfold shutdownBegins
  rw [mapApp_shutdownReturns]
  cases h : s.listening with
  | true => simp [mapApp, h]
  | false => simp [mapApp, h]

theorem mapApp_iteratorDangles : (s.mapApp f).iteratorDangles = s.iteratorDangles.mapApp f := rfl

theorem mapApp_advance (after : Option ClientHandle) :
    (s.mapApp f).advance after = (s.advance after).mapApp f := by
  have hset : (s.mapApp f).wsConnections = s.wsConnections := rfl
  unfold advance
  rw [hset, mapApp_iteratorDangles]
  split
  · cases nextHandle after s.wsConnections with
    | none => rfl
    | some handle => rfl
  · rfl

theorem mapApp_shutdownThrows : (s.mapApp f).shutdownThrows = s.shutdownThrows.mapApp f := rfl

theorem mapApp_closeClient (handle : ClientHandle) :
    (s.mapApp f).closeClient handle = (s.closeClient handle).mapApp f := by
  have hset : (s.mapApp f).wsConnections = s.wsConnections := rfl
  have hconns : (s.mapApp f).conns = s.conns := rfl
  unfold closeClient
  rw [hset, hconns, mapApp_iteratorDangles, mapApp_shutdownThrows]
  split
  · split
    · rfl
    · rfl
  · rfl

theorem mapApp_join : (s.mapApp f).join = s.join.mapApp f := by
  unfold join
  rw [mapApp_shutdownThrows]
  cases h : s.serverThread.isSome with
  | true =>
    have hreturns := mapApp_shutdownReturns f
      { s with serverThread := none, threadsJoined := s.threadsJoined + 1 }
    simpa [mapApp, h] using hreturns
  | false => simp [mapApp, h]

theorem mapApp_destroyMembers : (s.mapApp f).destroyMembers = s.destroyMembers.mapApp f := by
  unfold destroyMembers
  cases h : s.serverThread.isSome with
  | true => simp [mapApp, h]
  | false => simp [mapApp, h]

end ServerState

section

variable {App App' Msg Ev : Type} {service : Service App Msg Ev} {plain : Service App' Msg Ev}
  (refines : ServiceRefinement service plain)

/-- The handlers are called as often, and one throws when the other does. -/
theorem ServiceRefinement.onMessage (handle : ClientHandle) (msg : Msg) (keys : List Text)
    (app : App) :
    onMessage plain handle msg keys (refines.abs app) =
      let (n, app', threw) := onMessage service handle msg keys app
      (n, refines.abs app', threw) := by
  induction keys generalizing app with
  | nil => rfl
  | cons key keys ih =>
    unfold BallchasingReplayPlayer.onMessage
    rw [refines.handle]
    rcases service.handle app handle msg with ⟨app', _ | _⟩
    · dsimp only
      rw [ih]
    · rfl

theorem ServiceRefinement.guard {s : ServerState App Msg} {e : ServerEvent Msg Ev}
    (h : s.guard service e) : (s.mapApp refines.abs).guard plain e := by
  cases e with
  | background e => exact refines.enabled s.app e h
  | _ => exact h

theorem ServiceRefinement.mapApp_next (s : ServerState App Msg) (e : ServerEvent Msg Ev) :
    (s.mapApp refines.abs).next plain e = (s.next service e).mapApp refines.abs := by
  cases e with
  | startAsync => exact s.mapApp_startAsync refines.abs
  | shutdown => exact s.mapApp_shutdownBegins refines.abs
  | destructor =>
    exact ServerState.mapApp_shutdownBegins refines.abs { s with inDestructor := true }
  | advance after => exact s.mapApp_advance refines.abs after
  | closeClient handle => exact s.mapApp_closeClient refines.abs handle
  | join => exact s.mapApp_join refines.abs
  | destroyMembers => exact s.mapApp_destroyMembers refines.abs
  | message handle msg =>
    have hcalls := refines.onMessage handle msg s.messageHandlers s.app
    simp only [ServerState.next, ServerState.message, ServerState.mapApp, hcalls]
  | background e =>
    simp only [ServerState.next, ServerState.mapApp, refines.next]
  | _ => rfl

/-- **Refinement**: the server in front of the one handler takes the steps of the server in front
    of the other. -/
def serviceSimulation : Simulation (serverMachine service) (serverMachine plain) where
  Inv _ := True
  ok _ _ := True
  abs s := s.mapApp refines.abs
  emit _ e := [e]
  keeps _ _ _ _ _ := trivial
  legal _ _ _ he _ := ⟨⟨he.1, he.2.1, refines.guard he.2.2⟩, trivial⟩
  commutes s e _ _ _ := refines.mapApp_next s e

/-- Its run has the same steps. -/
theorem trace_serviceSimulation (s : ServerState App Msg) (as : List (ServerEvent Msg Ev)) :
    (serviceSimulation refines).trace s as = as := by
  induction as generalizing s with
  | nil => rfl
  | cons e as ih =>
    rw [Simulation.trace, ih]
    rfl

end

/-! ## The Heap -/

/-- The plugin's handler, with its command lists on the heap. -/
def heapService (sdk : BakkesMod) (allocator : Allocator) :
    Service (PluginState × Heap CommandList) ClientMessage PluginEvent where
  handle s handle message :=
    match onWebSocketMessageOnHeap sdk allocator handle message s with
    | .ok _ s' => (s', false)
    | .error _ s' => (s', true)
  background :=
    { enabled := fun s e => e.isRequest = false ∧ s.1.enabled e
      next := fun s e => (s.1.next sdk e, s.2) }

instance (sdk : BakkesMod) (allocator : Allocator) (s : PluginState × Heap CommandList)
    (e : PluginEvent) : Decidable ((heapService sdk allocator).background.enabled s e) :=
  inferInstanceAs (Decidable (_ ∧ s.1.enabled e))

/-- The message is parsed, so there is a command list to delete. -/
def parsed (message : ClientHandle × ClientMessage) : Bool :=
  !message.2.throws 0 .parseConsoleInput

/-- The state of the server with the heap behind it. -/
abbrev HeapServer := ServerState (PluginState × Heap CommandList) ClientMessage

section

variable {sdk : BakkesMod} {allocator : Allocator}

theorem heapService_handle (app : PluginState × Heap CommandList) (handle : ClientHandle)
    (message : ClientMessage) :
    (heapService sdk allocator).handle app handle message =
      let result := onWebSocketMessage sdk handle message app.1
      ((finalState result, if parsed (handle, message) then app.2.passed else app.2),
        threw result) := by
  obtain ⟨s, h⟩ := app
  have hheap : (if message.throws 0 .parseConsoleInput then h else h.passed) =
      if parsed (handle, message) then h.passed else h := by
    unfold parsed
    cases message.throws 0 .parseConsoleInput with
    | true => rfl
    | false => rfl
  simp only [heapService, onWebSocketMessageOnHeap_eq, hheap, lift]
  cases onWebSocketMessage sdk handle message s with
  | ok _ s' => rfl
  | error _ s' => rfl

/-- Without the heap, it is the handler of `pluginService`. -/
def heapRefinement (sdk : BakkesMod) (allocator : Allocator) :
    ServiceRefinement (heapService sdk allocator) (pluginService sdk) where
  abs := Prod.fst
  handle app handle msg := by rw [heapService_handle]; rfl
  enabled _ _ h := h
  next _ _ := rfl

/-- The heap is as it was: no cell is live, none was used when it was gone, and there has been
    one list for each message parsed. -/
structure ListsPassed (s : HeapServer) : Prop where
  cells : s.app.2.cells = []
  faults : s.app.2.faults = 0
  allocated : s.app.2.allocated = s.handled.countP parsed

variable (sdk allocator) in
/-- A call of the handler adds a list that has passed, if the message is parsed. -/
theorem heap_handle (app : PluginState × Heap CommandList) (handle : ClientHandle)
    (message : ClientMessage) :
    let heap := ((heapService sdk allocator).handle app handle message).1.2
    heap.cells = app.2.cells ∧ heap.faults = app.2.faults ∧
      heap.allocated = app.2.allocated + [(handle, message)].countP parsed := by
  rw [heapService_handle]
  dsimp only
  cases hparsed : parsed (handle, message) with
  | true => exact ⟨rfl, rfl, by simp [hparsed, Heap.passed]⟩
  | false => exact ⟨rfl, rfl, by simp [hparsed]⟩

theorem ListsPassed.message {s : HeapServer} (h : ListsPassed s) (hsole : SoleHandler s)
    (handle : ClientHandle) (message : ClientMessage) :
    ListsPassed (s.message (heapService sdk allocator) handle message) := by
  obtain ⟨hcells, hfaults, hallocated⟩ :=
    heap_handle sdk allocator s.app handle message
  unfold ServerState.message
  rcases hsole with hnone | hone
  · rw [hnone]
    exact ⟨h.cells, h.faults, by simpa [onMessage] using h.allocated⟩
  · rw [hone, onMessage_singleton]
    refine ⟨hcells.trans h.cells, hfaults.trans h.faults, hallocated.trans ?_⟩
    rw [h.allocated]
    exact List.countP_append.symm

/-- **Step lemma**: between two steps, the heap is as it was. -/
theorem ListsPassed.next {s : HeapServer} (h : ListsPassed s) (hsole : SoleHandler s)
    (e : PluginServerEvent) : ListsPassed (s.next (heapService sdk allocator) e) := by
  by_cases hmessage : e.isMessage = true
  · cases e with
    | message handle message => exact h.message hsole handle message
    | _ => cases hmessage
  · have hother : e.isMessage = false := by simpa using hmessage
    have hheap : (s.next (heapService sdk allocator) e).app.2 = s.app.2 := by
      cases e with
      | message handle message => cases hother
      | background e => rfl
      | _ => rw [app_next rfl rfl]
    constructor
    · rw [hheap]
      exact h.cells
    · rw [hheap]
      exact h.faults
    · rw [hheap, (messages_next hother).2]
      exact h.allocated

end

section

variable (sdk : BakkesMod) (allocator : Allocator) (bringWindowToFront : Bool)
  (start : Path → Option Body) {as : List PluginServerEvent}

/-- The program as it is loaded, with an empty heap. -/
abbrev loadedHeapServer : HeapServer :=
  .constructed ClientMessage (.loaded bringWindowToFront start, .empty CommandList)

/-- **Command lists in the whole program**: whatever the threads and the clients do, and whatever
    the handlers throw, the program does what it does without a heap; at every moment between
    two steps no command list is left on it, every list was deleted once, and none was used when
    it was gone. There has been one list for each message handled that could be parsed. -/
theorem commandLists_of_system
    (hl : (serverMachine (heapService sdk allocator)).Legal
      (loadedHeapServer bringWindowToFront start) as) :
    let server := (serverMachine (heapService sdk allocator)).exec
      (loadedHeapServer bringWindowToFront start) as
    (serverMachine (pluginService sdk)).Legal (loadedServer bringWindowToFront start) as ∧
      (serverMachine (pluginService sdk)).exec (loadedServer bringWindowToFront start) as =
        server.mapApp Prod.fst ∧
      server.app.2.cells = [] ∧ server.app.2.faults = 0 ∧
      server.app.2.allocated = server.handled.countP parsed ∧
      server.app.2.released = server.app.2.allocated := by
  intro server
  have hany := Machine.along_of_forall (M := serverMachine (heapService sdk allocator))
    (R := fun _ _ => True) (fun _ _ => trivial) (loadedHeapServer bringWindowToFront start) as
  have hlegal := Simulation.legal_trace (S := serviceSimulation (heapRefinement sdk allocator))
    trivial hl hany
  have hexec := Simulation.exec_trace (S := serviceSimulation (heapRefinement sdk allocator))
    trivial hl hany
  rw [trace_serviceSimulation] at hlegal hexec
  have hpassed : SoleHandler server ∧ ListsPassed server :=
    Machine.exec_invariant (I := fun s => SoleHandler s ∧ ListsPassed s)
      (fun s e hs _ => ⟨hs.1.next, hs.2.next hs.1 e⟩) ⟨Or.inl rfl, rfl, rfl, rfl⟩ hany
  obtain ⟨-, hcells, hfaults, hallocated⟩ := hpassed
  refine ⟨hlegal, hexec, hcells, hfaults, hallocated, ?_⟩
  rw [server.app.2.balance, hcells]
  rfl

/-- One client asks whether the plugin is there, another one's download throws. -/
theorem commandLists_of_system_threeExits :
    let run : List PluginServerEvent := oneClient ++ [.accept 1, .handshakeDone 1,
      .message 0 ⟨"ballchasing_viewer available;ballchasing_viewer ab".toList, fun _ => noThrow⟩,
      .message 0 ⟨"ballchasing_viewer ab;other ab".toList, fun _ => noThrow⟩,
      .message 1 ⟨"ballchasing_viewer cd".toList, fun _ => (· = .createDirectories)⟩]
    let server := (serverMachine (heapService .simple .behind)).exec
      (loadedHeapServer true fun _ => none) run
    (serverMachine (pluginService .simple)).Legal (loadedServer true fun _ => none) run ∧
      (serverMachine (pluginService .simple)).exec (loadedServer true fun _ => none) run =
        server.mapApp Prod.fst ∧
      server.app.2.cells = [] ∧ server.app.2.faults = 0 ∧
      server.app.2.allocated = server.handled.countP parsed ∧
      server.app.2.released = server.app.2.allocated :=
  commandLists_of_system .simple .behind true (fun _ => none) (by decide +kernel)

end

end BallchasingReplayPlayer
