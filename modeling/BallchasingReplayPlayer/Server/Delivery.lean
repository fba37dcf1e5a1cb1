import BallchasingReplayPlayer.Lib.Simulation
import BallchasingReplayPlayer.Server.Invariants

/-!
# Delivery of Messages

The server thread may listen, accept and read before the thread that started it has come to
`AddMessageHandler`. A message that arrives by then finds no handler in the map.

## Main Results

- `handled_calls`: the messages that count as handled are the calls of the handler
- `deliveredOnce_iff`: the runs in which every message is handled exactly once
-/

namespace BallchasingReplayPlayer

open LexicalPath Transition

section

variable {App Msg Ev : Type} {service : Service App Msg Ev} {s : ServerState App Msg}
  {e : ServerEvent Msg Ev}

/-! ## Calls of the Handler -/

/-- What changes the state behind the handlers: a call for a message, or a step of its own. -/
inductive ServiceStep (Msg Ev : Type) where
  | call (handle : ClientHandle) (msg : Msg)
  | background (e : Ev)

/-- The message the handler is called for. -/
def ServiceStep.message? : ServiceStep Msg Ev → Option (ClientHandle × Msg)
  | .call handle msg => some (handle, msg)
  | .background _ => none

/-- The state behind the handlers on its own, without a server. -/
def Service.machine (service : Service App Msg Ev) : Machine App (ServiceStep Msg Ev) where
  enabled
    | _, .call _ _ => True
    | app, .background e => service.background.enabled app e
  next
    | app, .call handle msg => (service.handle app handle msg).1
    | app, .background e => service.background.next app e

/-- What a step of the server does to the state behind the handlers. -/
def serviceSteps (service : Service App Msg Ev) (s : ServerState App Msg) :
    ServerEvent Msg Ev → List (ServiceStep Msg Ev)
  | .message handle msg =>
    List.replicate (onMessage service handle msg s.messageHandlers s.app).1 (.call handle msg)
  | .background e => [.background e]
  | _ => []

/-- `onMessage` counts its calls: the state behind it is what so many calls leave. -/
theorem exec_calls (service : Service App Msg Ev) (handle : ClientHandle) (msg : Msg)
    (keys : List Text) (app : App) :
    service.machine.exec app
        (List.replicate (onMessage service handle msg keys app).1 (.call handle msg)) =
      (onMessage service handle msg keys app).2.1 := by
  induction keys generalizing app with
  | nil => rfl
  | cons key keys ih =>
    unfold onMessage
    cases hcall : service.handle app handle msg with
    | mk app' threw =>
      have hfirst : service.machine.next app (.call handle msg) = app' := by
        simp only [Service.machine, hcall]
      cases threw with
      | true => exact hfirst
      | false =>
        dsimp only
        rw [List.replicate_succ, Machine.exec_cons, hfirst]
        exact ih app'

/-- **Refinement**: the steps of the server are calls of the handler, as far as the state behind
    it can tell. -/
def callSimulation (service : Service App Msg Ev) :
    Simulation (serverMachine service) service.machine where
  Inv _ := True
  ok _ _ := True
  abs s := s.app
  emit := serviceSteps service
  keeps _ _ _ _ _ := trivial
  legal s e _ he _ := by
    cases e with
    | message handle msg =>
      exact Machine.along_of_mem (fun b hb _ => by rw [List.eq_of_mem_replicate hb]; trivial) _
    | background e => exact ⟨he.2.2, trivial⟩
    | _ => trivial
  commutes s e _ _ _ := by
    cases e with
    | message handle msg => exact exec_calls service handle msg s.messageHandlers s.app
    | background e => rfl
    | _ => exact (app_next (e := _) rfl rfl).symm

/-- What a step adds to `handled` are the messages of its calls. -/
theorem handled_serviceSteps (e : ServerEvent Msg Ev) :
    (s.next service e).handled =
      s.handled ++ (serviceSteps service s e).filterMap ServiceStep.message? := by
  cases e with
  | message handle msg =>
    have hcalls : ∀ n, (List.replicate n (ServiceStep.call handle msg : ServiceStep Msg Ev)).filterMap
        ServiceStep.message? = List.replicate n (handle, msg) := by
      intro n
      induction n with
      | zero => rfl
      | succ n ih =>
        rw [List.replicate_succ, List.filterMap_cons, ih]
        rfl
    exact congrArg (s.handled ++ ·) (hcalls _).symm
  | _ => exact (messages_next (e := _) rfl).2.trans (List.append_nil _).symm

/-! ## Delivery -/

/-- The messages passed to the plugin are those websocketpp delivered, each of them once and
    in their order. -/
def DeliveredOnce (s : ServerState App Msg) : Prop := s.handled = s.delivered

/-- A message finds a handler. -/
def FindsHandler (s : ServerState App Msg) (e : ServerEvent Msg Ev) : Prop :=
  e.isMessage = true → s.messageHandlers ≠ []

instance (s : ServerState App Msg) (e : ServerEvent Msg Ev) : Decidable (FindsHandler s e) :=
  inferInstanceAs (Decidable (_ → _ ≠ _))

/-- Every message so far was handled once, and the map holds no handler but the one of
    `InitWsServer`. -/
structure DeliveryInvariant (s : ServerState App Msg) : Prop where
  once : DeliveredOnce s
  handlers : SoleHandler s

theorem DeliveryInvariant.message (h : DeliveryInvariant s) (handle : ClientHandle) (msg : Msg)
    (hfinds : s.messageHandlers ≠ []) : DeliveryInvariant (s.message service handle msg) := by
  have hkey : s.messageHandlers = [handlerKey] := h.handlers.resolve_left hfinds
  refine ⟨?_, h.handlers⟩
  unfold DeliveredOnce ServerState.message
  rw [hkey, onMessage_singleton]
  exact congrArg (· ++ [(handle, msg)]) h.once

/-- A message without a handler is delivered, and that is all. -/
theorem not_deliveredOnce_message (h : DeliveredOnce s) (handle : ClientHandle) (msg : Msg)
    (hnone : s.messageHandlers = []) : ¬ DeliveredOnce (s.message service handle msg) := by
  unfold DeliveredOnce ServerState.message
  rw [hnone]
  intro heq
  have hlength := congrArg List.length heq
  simp [onMessage, show s.handled = s.delivered from h] at hlength

/-- **Step lemma**: a message that finds a handler is handled once. -/
theorem DeliveryInvariant.next (h : DeliveryInvariant s) (hok : FindsHandler s e) :
    DeliveryInvariant (s.next service e) := by
  by_cases hmessage : e.isMessage = true
  · cases e with
    | message handle msg => exact h.message handle msg (hok rfl)
    | _ => cases hmessage
  · have hframe : (s.next service e).delivered = s.delivered ∧
        (s.next service e).handled = s.handled := messages_next (by simpa using hmessage)
    obtain ⟨hdelivered, hhandled⟩ := hframe
    refine ⟨?_, h.handlers.next⟩
    unfold DeliveredOnce
    rw [hdelivered, hhandled]
    exact h.once

end

/-- **Handled messages are calls of the handler**: in every run, the messages that count as
    handled are those the handler was called for, once for each call and in their order, and the
    state behind it is what these calls and its own steps leave. -/
theorem handled_calls {App Msg Ev : Type} (service : Service App Msg Ev) (s : ServerState App Msg)
    {as : List (ServerEvent Msg Ev)} (hl : (serverMachine service).Legal s as) :
    let steps := (callSimulation service).trace s as
    let server := (serverMachine service).exec s as
    service.machine.Legal s.app steps ∧ server.app = service.machine.exec s.app steps ∧
      server.handled = s.handled ++ steps.filterMap ServiceStep.message? := by
  intro steps server
  have hok : (serverMachine service).Along (callSimulation service).ok s as :=
    Machine.along_of_forall (fun _ _ => trivial) s as
  refine ⟨(callSimulation service).legal_trace trivial hl hok,
    ((callSimulation service).exec_trace trivial hl hok).symm, ?_⟩
  clear hok hl
  induction as generalizing s with
  | nil => exact (List.append_nil _).symm
  | cons e as ih =>
    have hrest := ih (s.next service e)
    show ((serverMachine service).exec (s.next service e) as).handled = s.handled ++
      (serviceSteps service s e ++ (callSimulation service).trace (s.next service e) as).filterMap
        ServiceStep.message?
    rw [hrest, handled_serviceSteps e, List.filterMap_append, List.append_assoc]

/-- **Every message is handled exactly once** in every state of a run iff no message of the
    run comes before the handler. -/
theorem deliveredOnce_iff {App Msg Ev : Type} (service : Service App Msg Ev) (app : App)
    {as : List (ServerEvent Msg Ev)}
    (hl : (serverMachine service).Legal (.constructed Msg app) as) :
    (serverMachine service).Throughout DeliveredOnce (.constructed Msg app) as ↔
      (serverMachine service).Along FindsHandler (.constructed Msg app) as := by
  have hconstructed : DeliveryInvariant (ServerState.constructed Msg app) := by
    refine ⟨?_, Or.inl rfl⟩
    unfold DeliveredOnce
    rfl
  apply Machine.throughout_iff_along (I := DeliveryInvariant) _ _ _ hconstructed hl
  · exact fun s h => h.once
  · exact fun s e h _ hfinds => h.next hfinds
  · intro s e h _ hbad
    obtain ⟨hmessage, hnone⟩ := Classical.not_imp.mp hbad
    cases e with
    | message handle msg =>
      exact not_deliveredOnce_message h.once handle msg (not_not.mp hnone)
    | _ => cases hmessage

/-- The handler is registered before the server thread starts to listen. -/
theorem deliveredOnce_handlerFirst :
    (serverMachine .silent).Throughout DeliveredOnce (.constructed Unit ())
      [.startAsync, .addMessageHandler, .lock, .initAsio none, .setHandlers, .reset false,
        .listen false, .startAccept false, .enterRun, .accept 0, .handshakeDone 0,
        .message 0 ()] :=
  (deliveredOnce_iff .silent () (by decide)).mpr (by decide)

/-- A client connects and sends a message before the loading thread registers the handler. -/
theorem message_dropped :
    let run := [.startAsync, .lock, .initAsio none, .setHandlers, .reset false, .listen false,
      .startAccept false, .enterRun, .accept 0, .handshakeDone 0, .message 0 (),
      .addMessageHandler]
    (serverMachine .silent).Legal (.constructed Unit ()) run ∧
      ((serverMachine .silent).exec (.constructed Unit ()) run).delivered = [(0, ())] ∧
      ((serverMachine .silent).exec (.constructed Unit ()) run).handled = [] ∧
      ¬ DeliveredOnce ((serverMachine .silent).exec (.constructed Unit ()) run) :=
  ⟨by decide, rfl, rfl, by unfold DeliveredOnce; decide⟩

end BallchasingReplayPlayer
