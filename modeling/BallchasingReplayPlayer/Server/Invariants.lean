import BallchasingReplayPlayer.Server.Machine

/-!
# Invariants of the Server

What every run of the server keeps, whatever its clients and handlers do.

## Layers

1. `SameControl`, `SameClients` — what a thread leaves alone
2. `SoleHandler` — the handlers a message can find
3. `ServerInvariant` — the flags of the endpoint and the two program counters fit together
-/

namespace BallchasingReplayPlayer

open LexicalPath Transition

section

variable {App Msg Ev : Type} {service : Service App Msg Ev} {s : ServerState App Msg}
  {e : ServerEvent Msg Ev}

/-! ## Control Steps and the Others -/

/-- The step is one of the control thread. -/
def ServerEvent.isControl : ServerEvent Msg Ev → Bool
  | .startAsync | .addMessageHandler | .shutdown | .destructor | .stopListening | .advance _
  | .closeClient _ | .lockMutex | .join | .destroyMembers => true
  | _ => false

/-- Two states agree on what only the control thread changes. -/
structure SameControl (s s' : ServerState App Msg) : Prop where
  control : s'.control = s.control
  inDestructor : s'.inDestructor = s.inDestructor
  mayStart : s'.mayStart = s.mayStart
  destroyed : s'.destroyed = s.destroyed
  terminated : s'.terminated = s.terminated
  shutdownThrew : s'.shutdownThrew = s.shutdownThrew
  joinable : s'.serverThread.isSome = s.serverThread.isSome
  threadsStarted : s'.threadsStarted = s.threadsStarted
  threadsJoined : s'.threadsJoined = s.threadsJoined
  messageHandlers : s'.messageHandlers = s.messageHandlers

theorem SameControl.goTo {pc : Pc} (h : s.serverThread = some pc) (pc' : Pc) :
    SameControl s (s.goTo pc') :=
  ⟨rfl, rfl, rfl, rfl, rfl, rfl, by simp [ServerState.goTo, h], rfl, rfl, rfl⟩

theorem SameControl.message {pc : Pc} (h : s.serverThread = some pc)
    (service : Service App Msg Ev) (handle : ClientHandle) (msg : Msg) :
    SameControl s (s.message service handle msg) := by
  refine ⟨rfl, rfl, rfl, rfl, rfl, rfl, ?_, rfl, rfl, rfl⟩
  unfold ServerState.message
  dsimp only
  split
  · rw [h]
    rfl
  · rfl

/-- **Frame lemma**: only the control thread starts and joins threads, destroys the server
    and adds handlers. -/
theorem sameControl_next (he : (serverMachine service).enabled s e)
    (hc : e.isControl = false) : SameControl s (s.next service e) := by
  obtain ⟨-, -, hg⟩ := he
  cases e with
  | startAsync | addMessageHandler | shutdown | destructor | stopListening | advance _
  | closeClient _ | lockMutex | join | destroyMembers => cases hc
  | lock => exact .goTo hg.1 _
  | initAsio code => exact .goTo hg _
  | setHandlers => exact .goTo hg _
  | reset throws => exact .goTo hg _
  | listen throws =>
    exact ⟨rfl, rfl, rfl, rfl, rfl, rfl, (SameControl.goTo hg.1 _).joinable, rfl, rfl, rfl⟩
  | startAccept throws => exact .goTo hg _
  | enterRun =>
    exact ⟨rfl, rfl, rfl, rfl, rfl, rfl, (SameControl.goTo hg _).joinable, rfl, rfl, rfl⟩
  | runReturns => exact .goTo hg.1 _
  | runThrows => exact .goTo hg _
  | message handle msg => exact .message hg.1 service handle msg
  | accept _ | handshakeDone _ | handshakeFailed _ | clientCloses _ | terminate _
  | closeHandler _ | released _ | background _ =>
    exact ⟨rfl, rfl, rfl, rfl, rfl, rfl, rfl, rfl, rfl, rfl⟩

/-- Two states agree on the clients, their messages and the handlers. -/
structure SameClients (s s' : ServerState App Msg) : Prop where
  conns : s'.conns = s.conns
  accepted : s'.accepted = s.accepted
  wsConnections : s'.wsConnections = s.wsConnections
  messageHandlers : s'.messageHandlers = s.messageHandlers
  delivered : s'.delivered = s.delivered
  handled : s'.handled = s.handled

theorem SameClients.startAsync (s : ServerState App Msg) : SameClients s s.startAsync := by
  unfold ServerState.startAsync
  split
  · exact ⟨rfl, rfl, rfl, rfl, rfl, rfl⟩
  · exact ⟨rfl, rfl, rfl, rfl, rfl, rfl⟩

theorem SameClients.shutdownReturns (s : ServerState App Msg) :
    SameClients s s.shutdownReturns := by
  unfold ServerState.shutdownReturns
  split
  · exact ⟨rfl, rfl, rfl, rfl, rfl, rfl⟩
  · exact ⟨rfl, rfl, rfl, rfl, rfl, rfl⟩

theorem SameClients.shutdownBegins (s : ServerState App Msg) :
    SameClients s s.shutdownBegins := by
  unfold ServerState.shutdownBegins
  split
  · exact ⟨rfl, rfl, rfl, rfl, rfl, rfl⟩
  · exact .shutdownReturns s

/-- The iterator of the loop is the control thread's own. -/
theorem SameClients.advance (s : ServerState App Msg) (after : Option ClientHandle) :
    SameClients s (s.advance after) :=
  ServerState.advance_cases (fun _ => ⟨rfl, rfl, rfl, rfl, rfl, rfl⟩)
    (fun _ _ => ⟨rfl, rfl, rfl, rfl, rfl, rfl⟩) (fun _ => ⟨rfl, rfl, rfl, rfl, rfl, rfl⟩)

theorem SameClients.join (s : ServerState App Msg) : SameClients s s.join := by
  unfold ServerState.join
  split
  · have hsame := SameClients.shutdownReturns
      { s with serverThread := none, threadsJoined := s.threadsJoined + 1 }
    exact ⟨hsame.conns, hsame.accepted, hsame.wsConnections, hsame.messageHandlers,
      hsame.delivered, hsame.handled⟩
  · exact ⟨rfl, rfl, rfl, rfl, rfl, rfl⟩

theorem SameClients.destroyMembers (s : ServerState App Msg) :
    SameClients s s.destroyMembers := by
  unfold ServerState.destroyMembers
  split
  · exact ⟨rfl, rfl, rfl, rfl, rfl, rfl⟩
  · exact ⟨rfl, rfl, rfl, rfl, rfl, rfl⟩

/-! ## Messages -/

/-- The step delivers a message. -/
def ServerEvent.isMessage : ServerEvent Msg Ev → Bool
  | .message _ _ => true
  | _ => false

/-- **Frame lemma**: nothing is delivered or handled by other steps. -/
theorem messages_next (h : e.isMessage = false) :
    (s.next service e).delivered = s.delivered ∧ (s.next service e).handled = s.handled := by
  cases e with
  | message handle msg => cases h
  | startAsync => exact ⟨(SameClients.startAsync s).delivered, (SameClients.startAsync s).handled⟩
  | shutdown =>
    exact ⟨(SameClients.shutdownBegins s).delivered, (SameClients.shutdownBegins s).handled⟩
  | destructor =>
    have hsame := SameClients.shutdownBegins { s with inDestructor := true }
    exact ⟨hsame.delivered, hsame.handled⟩
  | advance after =>
    exact ⟨(SameClients.advance s after).delivered, (SameClients.advance s after).handled⟩
  | closeClient handle =>
    simp only [ServerState.next]
    exact ServerState.closeClient_cases (fun _ _ => ⟨rfl, rfl⟩) (fun _ => ⟨rfl, rfl⟩)
      (fun _ => ⟨rfl, rfl⟩)
  | join => exact ⟨(SameClients.join s).delivered, (SameClients.join s).handled⟩
  | destroyMembers =>
    exact ⟨(SameClients.destroyMembers s).delivered, (SameClients.destroyMembers s).handled⟩
  | _ => exact ⟨rfl, rfl⟩

/-- The step is one of the state behind the handlers. -/
def ServerEvent.isBackground : ServerEvent Msg Ev → Bool
  | .background _ => true
  | _ => false

/-- **Frame lemma**: only messages and the state behind the handlers itself change that
    state. -/
theorem app_next (hmessage : e.isMessage = false) (hbackground : e.isBackground = false) :
    (s.next service e).app = s.app := by
  have hreturns : ∀ s : ServerState App Msg, s.shutdownReturns.app = s.app := by
    intro s
    unfold ServerState.shutdownReturns
    split
    · rfl
    · rfl
  have hbegins : ∀ s : ServerState App Msg, s.shutdownBegins.app = s.app := by
    intro s
    unfold ServerState.shutdownBegins
    split
    · rfl
    · exact hreturns s
  cases e with
  | message handle msg => cases hmessage
  | background e => cases hbackground
  | startAsync =>
    simp only [ServerState.next, ServerState.startAsync]
    split
    · rfl
    · rfl
  | shutdown => exact hbegins s
  | destructor => exact hbegins _
  | advance after =>
    simp only [ServerState.next]
    exact ServerState.advance_cases (fun _ => rfl) (fun _ _ => rfl) (fun _ => rfl)
  | closeClient handle =>
    simp only [ServerState.next]
    exact ServerState.closeClient_cases (fun _ _ => rfl) (fun _ => rfl) (fun _ => rfl)
  | join =>
    simp only [ServerState.next, ServerState.join]
    split
    · exact hreturns _
    · rfl
  | destroyMembers =>
    simp only [ServerState.next, ServerState.destroyMembers]
    split
    · rfl
    · rfl
  | _ => rfl

/-- `message_handlers_` holds no handler but the one of `InitWsServer`. -/
def SoleHandler (s : ServerState App Msg) : Prop :=
  s.messageHandlers = [] ∨ s.messageHandlers = [handlerKey]

theorem SoleHandler.same (h : SoleHandler s) {s' : ServerState App Msg}
    (hsame : s'.messageHandlers = s.messageHandlers) : SoleHandler s' := by
  unfold SoleHandler
  rw [hsame]
  exact h

/-- **Step lemma**: registering the handler again replaces it. -/
theorem SoleHandler.next (h : SoleHandler s) : SoleHandler (s.next service e) := by
  cases e with
  | addMessageHandler =>
    right
    show insertOrAssign handlerKey s.messageHandlers = [handlerKey]
    unfold insertOrAssign
    rcases h with hnone | hone
    · simp [hnone]
    · simp [hone]
  | startAsync => exact h.same (SameClients.startAsync s).messageHandlers
  | shutdown => exact h.same (SameClients.shutdownBegins s).messageHandlers
  | destructor => exact h.same (SameClients.shutdownBegins _).messageHandlers
  | advance after => exact h.same (SameClients.advance s after).messageHandlers
  | closeClient handle =>
    simp only [ServerState.next]
    exact ServerState.closeClient_cases (fun _ _ => h) (fun _ => h) (fun _ => h)
  | join => exact h.same (SameClients.join s).messageHandlers
  | destroyMembers => exact h.same (SameClients.destroyMembers s).messageHandlers
  | _ => exact h

/-! ## Endpoint and Threads -/

/-- The control thread is inside `ShutdownWebSocketServer`, behind its test. -/
def Control.inShutdown : Control → Bool
  | .stopping | .advancing _ | .closing _ | .waiting | .joining => true
  | .idle | .leaving => false

/-- The control thread has stopped listening. -/
def Control.afterStop : Control → Bool
  | .advancing _ | .closing _ | .waiting | .joining => true
  | .idle | .stopping | .leaving => false

/-- How the two program counters and the flags of the endpoint fit together: the endpoint
    listens from a `listen` of the server thread to the `stop_listening` of a shutdown, and
    `run()` is entered only behind both `listen` and `start_accept`. -/
structure Coherent (control : Control) (thread : Option Pc) (listening entered : Bool) :
    Prop where
  listens : control = .stopping → listening = true
  stopped : control.afterStop = true → listening = false
  started : listening = true ∨ control.inShutdown = true →
    ∃ pc, thread = some pc ∧ pc.pastListen = true
  entered : entered = true → ∀ pc, thread = some pc → pc = .inRun ∨ pc = .returned

/-- The server is coherent. -/
abbrev ServerInvariant (s : ServerState App Msg) : Prop :=
  Coherent s.control s.serverThread s.listening s.runEntered

section Coherence

variable {control : Control} {thread : Option Pc} {listening entered : Bool} {pc : Pc}

/-- Before `listen` returns, nobody listens and no shutdown is under way. -/
theorem Coherent.early (h : Coherent control thread listening entered) (hpc : thread = some pc)
    (hearly : pc.pastListen = false) :
    listening = false ∧ control.inShutdown = false ∧ entered = false := by
  have hnot : ¬ (listening = true ∨ control.inShutdown = true) := by
    intro hor
    obtain ⟨pc', hpc', hpast⟩ := h.started hor
    cases hpc.symm.trans hpc'
    exact absurd (hearly.symm.trans hpast) Bool.false_ne_true
  obtain ⟨hlisten, hshutdown⟩ := not_or.mp hnot
  refine ⟨by simpa using hlisten, by simpa using hshutdown, ?_⟩
  by_contra hentered
  rcases h.entered (by simpa using hentered) pc hpc with rfl | rfl
  · cases hearly
  · cases hearly

/-- Outside a shutdown and without listening, nothing else is required of a thread. -/
theorem Coherent.outside (hcontrol : control.inShutdown = false) (hlisten : listening = false)
    (hentered : entered = true → ∀ pc, thread = some pc → pc = .inRun ∨ pc = .returned) :
    Coherent control thread listening entered where
  listens := by
    intro hstop
    rw [hstop] at hcontrol
    cases hcontrol
  stopped := fun _ => hlisten
  started := by
    intro hor
    rcases hor with hor | hor
    · exact absurd (hlisten.symm.trans hor) Bool.false_ne_true
    · exact absurd (hcontrol.symm.trans hor) Bool.false_ne_true
  entered := hentered

/-- The thread moves on in front of `listen`, or ends there. -/
theorem Coherent.goTo_early (h : Coherent control thread listening entered)
    (hpc : thread = some pc) (hearly : pc.pastListen = false) (pc' : Pc) :
    Coherent control (some pc') listening entered := by
  obtain ⟨hlisten, hshutdown, rfl⟩ := h.early hpc hearly
  exact .outside hshutdown hlisten (fun hrun => absurd hrun Bool.false_ne_true)

/-- The thread moves on behind `listen`. -/
theorem Coherent.goTo_late (h : Coherent control thread listening entered) {pc' : Pc}
    (hpast : pc'.pastListen = true) {entered' : Bool}
    (hentered : entered' = true → pc' = .inRun ∨ pc' = .returned) :
    Coherent control (some pc') listening entered' := by
  refine ⟨h.listens, h.stopped, fun _ => ⟨pc', rfl, hpast⟩, ?_⟩
  intro hrun pc hpc
  cases hpc
  exact hentered hrun

theorem Coherent.listen (h : Coherent control thread listening entered)
    (hpc : thread = some .endpointReset) (throws : Bool) :
    Coherent control (some (if throws then .returned else .listening)) (listening || !throws)
      entered := by
  obtain ⟨rfl, hshutdown, rfl⟩ := h.early hpc rfl
  cases throws with
  | true => exact .outside hshutdown rfl (fun hrun => absurd hrun Bool.false_ne_true)
  | false =>
    refine ⟨fun _ => rfl, ?_, fun _ => ⟨.listening, rfl, rfl⟩,
      fun hrun => absurd hrun Bool.false_ne_true⟩
    intro hafter
    cases control <;> simp [Control.afterStop, Control.inShutdown] at hafter hshutdown

/-- A shutdown moves on behind `stop_listening`. -/
theorem Coherent.move (h : Coherent control thread listening entered)
    (hafter : control.afterStop = true) {control' : Control}
    (hafter' : control'.afterStop = true) : Coherent control' thread listening entered := by
  refine ⟨?_, fun _ => h.stopped hafter, ?_, h.entered⟩
  · intro hstop
    rw [hstop] at hafter'
    cases hafter'
  · intro _
    apply h.started
    cases control <;> simp [Control.afterStop, Control.inShutdown] at hafter ⊢

/-- A shutdown is left behind `stop_listening`. -/
theorem Coherent.leave (h : Coherent control thread listening entered)
    (hafter : control.afterStop = true) {control' : Control}
    (hout : control'.inShutdown = false) : Coherent control' thread listening entered := by
  exact .outside hout (h.stopped hafter) h.entered

end Coherence

theorem ServerInvariant.shutdownReturns (h : ServerInvariant s)
    (hlisten : s.listening = false) : ServerInvariant s.shutdownReturns := by
  unfold ServerState.shutdownReturns
  split
  · exact .outside rfl hlisten h.entered
  · exact .outside rfl hlisten h.entered

theorem ServerInvariant.shutdownBegins (h : ServerInvariant s) :
    ServerInvariant s.shutdownBegins := by
  unfold ServerState.shutdownBegins
  by_cases hlisten : s.listening = true
  · rw [if_pos hlisten]
    exact ⟨fun _ => hlisten, fun hafter => absurd hafter Bool.false_ne_true,
      fun _ => h.started (Or.inl hlisten), h.entered⟩
  · rw [if_neg hlisten]
    exact h.shutdownReturns (by simpa using hlisten)

theorem ServerInvariant.shutdownThrows (h : ServerInvariant s)
    (hafter : s.control.afterStop = true) : ServerInvariant s.shutdownThrows :=
  h.leave hafter rfl

theorem ServerInvariant.stopListening (h : ServerInvariant s) (hcontrol : s.control = .stopping) :
    Coherent (.advancing none) s.serverThread false s.runEntered := by
  have hstarted := h.started (Or.inr (by rw [hcontrol]; rfl))
  exact ⟨by simp, fun _ => rfl, fun _ => hstarted, h.entered⟩

theorem ServerInvariant.startAsync (h : ServerInvariant s) (hcontrol : s.control = .idle) :
    ServerInvariant s.startAsync := by
  unfold ServerState.startAsync
  split
  · exact h
  · rename_i hthread
    have hlisten : s.listening = false := by
      by_contra hlisten
      obtain ⟨pc, hpc, -⟩ := h.started (Or.inl (by simpa using hlisten))
      simp [hpc] at hthread
    have hidle : s.control.inShutdown = false := by
      rw [hcontrol]
      rfl
    exact .outside hidle hlisten (fun hrun => absurd hrun Bool.false_ne_true)

theorem ServerInvariant.advance (h : ServerInvariant s) {after : Option ClientHandle}
    (hcontrol : s.control = .advancing after) : ServerInvariant (s.advance after) := by
  have hafter : s.control.afterStop = true := by
    rw [hcontrol]
    rfl
  exact ServerState.advance_cases (fun _ => h.move hafter rfl) (fun _ _ => h.move hafter rfl)
    (fun _ => h.leave hafter rfl)

theorem ServerInvariant.closeClient (h : ServerInvariant s) {handle : ClientHandle}
    (hcontrol : s.control = .closing handle) : ServerInvariant (s.closeClient handle) := by
  have hafter : s.control.afterStop = true := by
    rw [hcontrol]
    rfl
  exact ServerState.closeClient_cases (fun _ _ => h.move hafter rfl)
    (fun _ => h.shutdownThrows hafter) (fun _ => h.leave hafter rfl)

theorem ServerInvariant.join (h : ServerInvariant s) (hcontrol : s.control = .joining) :
    ServerInvariant s.join := by
  have hafter : s.control.afterStop = true := by
    rw [hcontrol]
    rfl
  have hlisten := h.stopped hafter
  unfold ServerState.join
  split
  · unfold ServerState.shutdownReturns
    split
    · exact .outside rfl hlisten (fun _ _ hpc => by cases hpc)
    · exact .outside rfl hlisten (fun _ _ hpc => by cases hpc)
  · exact h.shutdownThrows hafter

theorem ServerInvariant.destroyMembers (h : ServerInvariant s) :
    ServerInvariant s.destroyMembers := by
  unfold ServerState.destroyMembers
  split
  · exact h
  · exact h

theorem ServerInvariant.message (h : ServerInvariant s) (service : Service App Msg Ev)
    (handle : ClientHandle) (msg : Msg) :
    ServerInvariant (s.message service handle msg) := by
  unfold ServerState.message
  dsimp only
  split
  · exact h.goTo_late rfl (fun _ => Or.inr rfl)
  · exact h

/-- **Step lemma**: every step keeps the server coherent. -/
theorem ServerInvariant.next (h : ServerInvariant s) (he : (serverMachine service).enabled s e) :
    ServerInvariant (s.next service e) := by
  obtain ⟨-, -, hg⟩ := he
  cases e with
  | startAsync => exact h.startAsync hg.1
  | addMessageHandler => exact h
  | shutdown => exact h.shutdownBegins
  | destructor => exact ServerInvariant.shutdownBegins h
  | stopListening => exact h.stopListening hg
  | advance after => exact h.advance hg
  | closeClient handle => exact h.closeClient hg
  | lockMutex =>
    have hafter : s.control.afterStop = true := by
      rw [hg.1]
      rfl
    exact h.move hafter rfl
  | join => exact h.join hg.1
  | destroyMembers => exact h.destroyMembers
  -- the server thread in front of `listen`
  | lock => exact h.goTo_early hg.1 rfl _
  | initAsio code => exact h.goTo_early hg rfl _
  | setHandlers => exact h.goTo_early hg rfl _
  | reset throws => exact h.goTo_early hg rfl _
  | listen throws => exact h.listen hg.1 throws
  -- and behind it
  | startAccept throws =>
    have hentered : s.runEntered = true → False := by
      intro hrun
      rcases h.entered hrun _ hg with hpc | hpc
      · cases hpc
      · cases hpc
    cases throws with
    | true => exact h.goTo_late rfl (fun hrun => (hentered hrun).elim)
    | false => exact h.goTo_late rfl (fun hrun => (hentered hrun).elim)
  | enterRun => exact h.goTo_late rfl (fun _ => Or.inl rfl)
  | runReturns => exact h.goTo_late rfl (fun _ => Or.inr rfl)
  | runThrows => exact h.goTo_late rfl (fun _ => Or.inr rfl)
  | message handle msg => exact h.message service handle msg
  | accept _ | handshakeDone _ | handshakeFailed _ | clientCloses _ | terminate _
  | closeHandler _ | released _ | background _ => exact h

theorem ServerInvariant.constructed (app : App) :
    ServerInvariant (ServerState.constructed Msg app) :=
  .outside rfl rfl (fun hrun => absurd hrun Bool.false_ne_true)

end

end BallchasingReplayPlayer
