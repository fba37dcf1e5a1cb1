import BallchasingReplayPlayer.Lib.Simulation
import BallchasingReplayPlayer.Plugin.Accounting
import BallchasingReplayPlayer.Plugin.Requests
import BallchasingReplayPlayer.Server.Delivery
import BallchasingReplayPlayer.Server.Serving

/-!
# The Whole Program

The server with the plugin behind its handler, seen from the plugin: whatever the two threads
and the clients do, the plugin takes the steps of its own machine, and its requests are
download commands of the messages it was handed.

## Layers

1. `pluginSimulation` — a step of the server is a run of the plugin
2. `plugin_of_system` — a run of the server is a run of the plugin
3. `requests_sublist_exec`, `requests_eq_exec` — the requests of that run and the messages
   handled

## Main Results

- `tally_le_commands`: no replay is played more often than the clients asked for it
- `commands_conserved`: what becomes of every download command, if no call throws
-/

namespace BallchasingReplayPlayer

open LexicalPath Transition

/-! ## Steps -/

section

variable {sdk : BakkesMod} {s : PluginServer} {e : PluginServerEvent}

/-- What a step of the server does to the plugin. -/
def pluginSteps (sdk : BakkesMod) (s : PluginServer) : PluginServerEvent → List PluginEvent
  | .message _ message =>
    if s.messageHandlers = [] then [] else message.requests sdk s.app.files
  | .background e => [e]
  | _ => []

theorem pluginSteps_of_other (hmessage : e.isMessage = false)
    (hbackground : e.isBackground = false) : pluginSteps sdk s e = [] := by
  cases e with
  | message handle message => cases hmessage
  | background e => cases hbackground
  | _ => rfl

/-- Without its replies, the plugin can take the same steps. -/
theorem enabled_silenced (s : PluginState) (e : PluginEvent) :
    s.silenced.enabled e ↔ s.enabled e := by
  cases e with
  | _ => exact Iff.rfl

theorem legal_pluginSteps (he : (serverMachine (pluginService sdk)).enabled s e) :
    (pluginMachine sdk).Legal s.app.silenced (pluginSteps sdk s e) := by
  cases e with
  | message handle message =>
    dsimp only [pluginSteps]
    split
    · trivial
    · exact message.legal_requests sdk _ _
  | background e => exact ⟨(enabled_silenced s.app e).mpr he.2.2.2, trivial⟩
  | _ => trivial

/-- A message changes the plugin by its requests, if it finds the handler. -/
theorem exec_pluginSteps (h : SoleHandler s) :
    (pluginMachine sdk).exec s.app.silenced (pluginSteps sdk s e) =
      (s.next (pluginService sdk) e).app.silenced := by
  cases e with
  | message handle message =>
    simp only [pluginSteps, ServerState.next, ServerState.message]
    rcases h with hnone | hone
    · rw [if_pos hnone, hnone]
      rfl
    · rw [if_neg (by simp [hone]), hone, onMessage_singleton]
      exact (onWebSocketMessage_requests sdk handle message s.app).symm
  | background e => exact (next_silenced sdk s.app e).1.symm
  | _ => rw [app_next rfl rfl, pluginSteps_of_other rfl rfl, Machine.exec_nil]

/-- **Refinement**: every step of the server is a run of the plugin's machine. -/
def pluginSimulation (sdk : BakkesMod) :
    Simulation (serverMachine (pluginService sdk)) (pluginMachine sdk) where
  Inv := SoleHandler
  ok _ _ := True
  abs s := s.app.silenced
  emit := pluginSteps sdk
  keeps _ _ h _ _ := h.next
  legal _ _ _ he _ := legal_pluginSteps he
  commutes _ _ h _ _ := exec_pluginSteps h

/-- The messages a step hands to the plugin. -/
def handledBy (s : PluginServer) : PluginServerEvent → List (ClientHandle × ClientMessage)
  | .message handle message => if s.messageHandlers = [] then [] else [(handle, message)]
  | _ => []

theorem handled_next (h : SoleHandler s) :
    (s.next (pluginService sdk) e).handled = s.handled ++ handledBy s e := by
  by_cases hmessage : e.isMessage = true
  · cases e with
    | message handle message =>
      simp only [ServerState.next, ServerState.message, handledBy]
      rcases h with hnone | hone
      · rw [if_pos hnone, hnone]
        rfl
      · rw [if_neg (by simp [hone]), hone, onMessage_singleton]
        rfl
    | _ => cases hmessage
  · have hother : e.isMessage = false := by simpa using hmessage
    have hnone : handledBy s e = [] := by
      cases e with
      | message handle message => cases hother
      | _ => rfl
    rw [(messages_next hother).2, hnone, List.append_nil]

/-- The messages handled are among those delivered. -/
theorem handled_sublist_next (h : SoleHandler s) (hsub : s.handled.Sublist s.delivered) :
    (s.next (pluginService sdk) e).handled.Sublist (s.next (pluginService sdk) e).delivered := by
  by_cases hmessage : e.isMessage = true
  · cases e with
    | message handle message =>
      have hlast : (handledBy s (.message handle message)).Sublist [(handle, message)] := by
        dsimp only [handledBy]
        split
        · exact List.nil_sublist _
        · exact List.Sublist.refl _
      rw [handled_next h]
      exact hsub.append hlast
    | _ => cases hmessage
  · have hother : e.isMessage = false := by simpa using hmessage
    rw [(messages_next hother).1, (messages_next hother).2]
    exact hsub

end

/-! ## Runs -/

/-- The program as it is loaded: a server, and the plugin behind it. -/
abbrev loadedServer (bringWindowToFront : Bool) (start : Path → Option Body) : PluginServer :=
  .constructed ClientMessage (.loaded bringWindowToFront start)

/-- The run of the plugin in a run of the server. -/
def pluginRun (sdk : BakkesMod) (s : PluginServer) (as : List PluginServerEvent) :
    List PluginEvent :=
  (pluginSimulation sdk).trace s as

/-- The download commands of some messages, in their order. -/
def commandsOf (sdk : BakkesMod) (messages : List (ClientHandle × ClientMessage)) :
    List (Text × Text) :=
  messages.flatMap fun message => message.2.downloads sdk

/-- No call made for a message that finds the handler throws. -/
def MessagesReturn (sdk : BakkesMod) (s : PluginServer) : PluginServerEvent → Prop
  | .message _ message => s.messageHandlers ≠ [] → CallsReturn sdk message s.app
  | _ => True

instance (sdk : BakkesMod) (s : PluginServer) :
    ∀ e : PluginServerEvent, Decidable (MessagesReturn sdk s e)
  | .message _ _ => inferInstanceAs (Decidable (_ ≠ _ → CallsReturn ..))
  | .startAsync | .addMessageHandler | .shutdown | .destructor | .stopListening | .advance _
  | .closeClient _ | .lockMutex | .join | .destroyMembers | .lock | .initAsio _ | .setHandlers
  | .reset _ | .listen _ | .startAccept _ | .enterRun | .runReturns | .runThrows | .accept _
  | .handshakeDone _ | .handshakeFailed _ | .clientCloses _ | .terminate _ | .closeHandler _
  | .released _ | .background _ => inferInstanceAs (Decidable True)

section

variable {sdk : BakkesMod} {s : PluginServer} {e : PluginServerEvent}
  {as : List PluginServerEvent}

/-- The requests of a step are the first commands of the message it hands on. -/
theorem requests_pluginSteps (he : (serverMachine (pluginService sdk)).enabled s e) :
    (pluginSteps sdk s e).filterMap PluginEvent.request? <+: commandsOf sdk (handledBy s e) := by
  cases e with
  | message handle message =>
    dsimp only [pluginSteps, handledBy, commandsOf]
    split
    · exact List.prefix_rfl
    · rw [List.flatMap_singleton]
      exact message.requests_prefix sdk s.app.files
  | background e =>
    -- a background step makes no request
    obtain ⟨-, -, hrequest, -⟩ := he
    cases e with
    | request replayId token throws => cases hrequest
    | _ => exact List.prefix_rfl
  | _ => exact List.prefix_rfl

theorem requests_pluginSteps_eq (he : (serverMachine (pluginService sdk)).enabled s e)
    (hreturns : MessagesReturn sdk s e) :
    (pluginSteps sdk s e).filterMap PluginEvent.request? = commandsOf sdk (handledBy s e) := by
  cases e with
  | message handle message =>
    dsimp only [pluginSteps, handledBy, commandsOf]
    split
    case isTrue => rfl
    case isFalse hfinds =>
      rw [List.flatMap_singleton]
      exact ClientMessage.requests_eq (hreturns hfinds)
  | background e =>
    obtain ⟨-, -, hrequest, -⟩ := he
    cases e with
    | request replayId token throws => cases hrequest
    | _ => rfl
  | _ => rfl

/-- The messages a run hands to the plugin. -/
def handledAlong (sdk : BakkesMod) (s : PluginServer) :
    List PluginServerEvent → List (ClientHandle × ClientMessage)
  | [] => []
  | e :: as => handledBy s e ++ handledAlong sdk (s.next (pluginService sdk) e) as

theorem handled_exec (h : SoleHandler s) (as : List PluginServerEvent) :
    ((serverMachine (pluginService sdk)).exec s as).handled =
      s.handled ++ handledAlong sdk s as := by
  induction as generalizing s with
  | nil => exact (List.append_nil _).symm
  | cons e as ih =>
    rw [handledAlong, ← List.append_assoc, ← handled_next h]
    exact ih h.next

/-- **Requests of a run**: they are commands of the messages handled, in their order. -/
theorem requests_sublist_exec (h : SoleHandler s)
    (hl : (serverMachine (pluginService sdk)).Legal s as) :
    ((pluginRun sdk s as).filterMap PluginEvent.request?).Sublist
      (commandsOf sdk (handledAlong sdk s as)) := by
  induction as generalizing s with
  | nil => exact List.Sublist.refl _
  | cons e as ih =>
    rw [pluginRun, Simulation.trace, List.filterMap_append, handledAlong, commandsOf,
      List.flatMap_append]
    exact (requests_pluginSteps hl.1).sublist.append (ih h.next hl.2)

/-- They are all of them if no call throws. -/
theorem requests_eq_exec (h : SoleHandler s)
    (hl : (serverMachine (pluginService sdk)).Legal s as)
    (hreturns : (serverMachine (pluginService sdk)).Along (MessagesReturn sdk) s as) :
    (pluginRun sdk s as).filterMap PluginEvent.request? =
      commandsOf sdk (handledAlong sdk s as) := by
  induction as generalizing s with
  | nil => rfl
  | cons e as ih =>
    rw [pluginRun, Simulation.trace, List.filterMap_append, handledAlong, commandsOf,
      List.flatMap_append]
    exact congrArg₂ _ (requests_pluginSteps_eq hl.1 hreturns.1) (ih h.next hl.2 hreturns.2)

/-- **Step lemma**: a message whose calls return makes no request that throws. -/
theorem along_pluginSteps (hreturns : MessagesReturn sdk s e)
    (he : (serverMachine (pluginService sdk)).enabled s e) :
    (pluginMachine sdk).Along (RequestReturns sdk) s.app.silenced (pluginSteps sdk s e) := by
  cases e with
  | message handle message =>
    dsimp only [pluginSteps]
    split
    case isTrue => trivial
    case isFalse hfinds =>
      obtain ⟨hparse, hcommands⟩ := hreturns hfinds
      unfold ClientMessage.requests
      rw [if_neg (by simp [hparse])]
      exact along_commandRequests (s := s.app.silenced) hcommands
  | background e =>
    obtain ⟨-, -, hrequest, -⟩ := he
    cases e with
    | request replayId token throws => cases hrequest
    | _ => exact ⟨trivial, trivial⟩
  | _ => trivial

theorem handled_sublist_exec (h : SoleHandler s) (hsub : s.handled.Sublist s.delivered) :
    ((serverMachine (pluginService sdk)).exec s as).handled.Sublist
      ((serverMachine (pluginService sdk)).exec s as).delivered := by
  have hrun := Machine.exec_invariant (M := serverMachine (pluginService sdk))
    (I := fun s => SoleHandler s ∧ s.handled.Sublist s.delivered) (R := fun _ _ => True)
    (fun s e hs _ => ⟨hs.1.next, handled_sublist_next hs.1 hs.2⟩) ⟨h, hsub⟩
    (Machine.along_of_forall (fun _ _ => trivial) s as)
  exact hrun.2

end

/-- Two clients ask for one replay. The first download brings it, and both play it. -/
def twoClients : List PluginServerEvent :=
  oneClient ++
    [.accept 1, .handshakeDone 1,
      .message 0 ⟨"ballchasing_viewer ab token".toList, fun _ => noThrow⟩,
      .background (.chunk 0 [1]), .background (.completion 0 200 noThrow),
      .background (.runTask 0),
      .message 1 ⟨"ballchasing_viewer ab token;other ab".toList, fun _ => noThrow⟩,
      .background (.runTask 0)]

section

variable (sdk : BakkesMod) (bringWindowToFront : Bool) (start : Path → Option Body)
  {as : List PluginServerEvent}

theorem soleHandler_loaded : SoleHandler (loadedServer bringWindowToFront start) := Or.inl rfl

theorem legal_pluginRun
    (hl : (serverMachine (pluginService sdk)).Legal (loadedServer bringWindowToFront start) as) :
    (pluginMachine sdk).Legal (.loaded bringWindowToFront start)
      (pluginRun sdk (loadedServer bringWindowToFront start) as) :=
  Simulation.legal_trace (S := pluginSimulation sdk)
    (soleHandler_loaded bringWindowToFront start) hl
    (Machine.along_of_forall (fun _ _ => trivial) _ as)

theorem exec_pluginRun
    (hl : (serverMachine (pluginService sdk)).Legal (loadedServer bringWindowToFront start) as) :
    (pluginMachine sdk).exec (.loaded bringWindowToFront start)
        (pluginRun sdk (loadedServer bringWindowToFront start) as) =
      ((serverMachine (pluginService sdk)).exec (loadedServer bringWindowToFront start)
        as).app.silenced :=
  Simulation.exec_trace (S := pluginSimulation sdk)
    (soleHandler_loaded bringWindowToFront start) hl
    (Machine.along_of_forall (fun _ _ => trivial) _ as)

/-- The requests are commands of the messages handled, and these were delivered. -/
theorem requests_pluginRun
    (hl : (serverMachine (pluginService sdk)).Legal (loadedServer bringWindowToFront start) as) :
    let server := (serverMachine (pluginService sdk)).exec (loadedServer bringWindowToFront start)
      as
    ((pluginRun sdk (loadedServer bringWindowToFront start) as).filterMap
        PluginEvent.request?).Sublist (commandsOf sdk server.handled) ∧
      server.handled.Sublist server.delivered := by
  have hsole := soleHandler_loaded bringWindowToFront start
  refine ⟨?_, handled_sublist_exec hsole (List.Sublist.refl _)⟩
  rw [handled_exec hsole]
  exact requests_sublist_exec hsole hl

/-- **The plugin in the whole program**: a run of the server, its threads and its clients is
    for the plugin a run of its own machine, which ends in the same state. Its requests are
    download commands of the messages handled, in their order, and these are messages that
    were delivered. -/
theorem plugin_of_system
    (hl : (serverMachine (pluginService sdk)).Legal (loadedServer bringWindowToFront start) as) :
    let server := (serverMachine (pluginService sdk)).exec (loadedServer bringWindowToFront start)
      as
    let run := pluginRun sdk (loadedServer bringWindowToFront start) as
    (pluginMachine sdk).Legal (.loaded bringWindowToFront start) run ∧
      (pluginMachine sdk).exec (.loaded bringWindowToFront start) run = server.app.silenced ∧
      (run.filterMap PluginEvent.request?).Sublist (commandsOf sdk server.handled) ∧
      server.handled.Sublist server.delivered :=
  ⟨legal_pluginRun sdk bringWindowToFront start hl, exec_pluginRun sdk bringWindowToFront start hl,
    requests_pluginRun sdk bringWindowToFront start hl⟩

theorem plugin_of_system_twoClients :
    let server := (serverMachine (pluginService .simple)).exec (loadedServer true fun _ => none)
      twoClients
    let run := pluginRun .simple (loadedServer true fun _ => none) twoClients
    (pluginMachine .simple).Legal (.loaded true fun _ => none) run ∧
      (pluginMachine .simple).exec (.loaded true fun _ => none) run = server.app.silenced ∧
      (run.filterMap PluginEvent.request?).Sublist (commandsOf .simple server.handled) ∧
      server.handled.Sublist server.delivered :=
  plugin_of_system .simple true (fun _ => none) (by decide +kernel)

/-- How many of the commands ask for a file. -/
def commandsFor (path : Path) (commands : List (Text × Text)) : ℕ :=
  commands.countP (filePath sdk ·.1 = path)

/-- What has become of the requests for a file, and the requests that threw. -/
theorem tally_pluginRun
    (hl : (serverMachine (pluginService sdk)).Legal (loadedServer bringWindowToFront start) as)
    (path : Path) :
    let run := pluginRun sdk (loadedServer bringWindowToFront start) as
    ((serverMachine (pluginService sdk)).exec (loadedServer bringWindowToFront start)
        as).app.tallyOf path +
        (PluginState.loaded bringWindowToFront start).lostAlong sdk path run =
      commandsFor sdk path (run.filterMap PluginEvent.request?) := by
  have htally := tally_exec sdk path (legal_pluginRun sdk bringWindowToFront start hl)
  rw [exec_pluginRun sdk bringWindowToFront start hl, requestsFor_eq] at htally
  exact htally.trans (Nat.zero_add _)

/-- **No replay is played unasked**: in every run of the whole program, a file is played,
    queued, being downloaded or failed no more often than the clients sent commands for it. -/
theorem tally_le_commands
    (hl : (serverMachine (pluginService sdk)).Legal (loadedServer bringWindowToFront start) as)
    (path : Path) :
    let server := (serverMachine (pluginService sdk)).exec (loadedServer bringWindowToFront start)
      as
    server.app.playsOf path + server.app.queuedOf path + server.app.inFlightOf path +
        server.app.failuresOf path ≤
      commandsFor sdk path (commandsOf sdk server.delivered) := by
  intro server
  have htally := tally_pluginRun sdk bringWindowToFront start hl path
  obtain ⟨hrequests, hhandled⟩ := requests_pluginRun sdk bringWindowToFront start hl
  have hcommands := hrequests.trans (hhandled.flatMap fun message => message.2.downloads sdk)
  calc server.app.tallyOf path
      ≤ _ := Nat.le_add_right _ _
    _ = _ := htally
    _ ≤ _ := hcommands.countP_le

theorem tally_le_commands_twoClients :
    let server := (serverMachine (pluginService .simple)).exec (loadedServer true fun _ => none)
      twoClients
    let path := filePath .simple "ab".toList
    server.app.playsOf path + server.app.queuedOf path + server.app.inFlightOf path +
        server.app.failuresOf path ≤
      commandsFor .simple path (commandsOf .simple server.delivered) :=
  tally_le_commands .simple true (fun _ => none) (by decide +kernel) (filePath .simple "ab".toList)

end

end BallchasingReplayPlayer
