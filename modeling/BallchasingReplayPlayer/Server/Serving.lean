import BallchasingReplayPlayer.Plugin.Messages
import BallchasingReplayPlayer.Server.Invariants

/-!
# Serving Clients

The server with the plugin behind its handler. The catch blocks of `StartWebSocketServer` lie
outside `run()`, so an exception that leaves `OnWebSocketMessage` ends the server thread,
and the endpoint goes on listening.

## Main Result

- `serving_iff`: the runs in which a listening endpoint is served
-/

namespace BallchasingReplayPlayer

open LexicalPath Transition

/-! ## The Plugin Behind the Server -/

/-- The plugin's handler, and what happens to its downloads, tasks and drawables while no
    message is handled. -/
def pluginService (sdk : BakkesMod) : Service PluginState ClientMessage PluginEvent where
  handle s handle message :=
    let result := onWebSocketMessage sdk handle message s
    (finalState result, threw result)
  background :=
    { enabled := fun s e => e.isRequest = false ∧ s.enabled e
      next := PluginState.next sdk }

instance (sdk : BakkesMod) (s : PluginState) (e : PluginEvent) :
    Decidable ((pluginService sdk).background.enabled s e) :=
  inferInstanceAs (Decidable (_ ∧ s.enabled e))

/-- The state of the server with the plugin behind it. -/
abbrev PluginServer := ServerState PluginState ClientMessage

/-- The steps of the server with the plugin behind it. -/
abbrev PluginServerEvent := ServerEvent ClientMessage PluginEvent

section

variable {sdk : BakkesMod} {s : PluginServer} {e : PluginServerEvent}

/-- While the endpoint listens and `run()` has been entered, the server thread is in it. -/
def Serving (s : PluginServer) : Prop :=
  s.listening = true → s.runEntered = true → s.serverThread = some .inRun

/-- While the endpoint listens, no call made for a message throws, and `run()` raises nothing
    of its own. -/
def HandlersReturn (sdk : BakkesMod) (s : PluginServer) : PluginServerEvent → Prop
  | .message _ message =>
    s.listening = true → s.messageHandlers ≠ [] → CallsReturn sdk message s.app
  | .runThrows => s.listening = false
  | _ => True

instance (sdk : BakkesMod) (s : PluginServer) :
    ∀ e : PluginServerEvent, Decidable (HandlersReturn sdk s e)
  | .message _ _ => inferInstanceAs (Decidable (_ → _ ≠ _ → CallsReturn ..))
  | .runThrows => inferInstanceAs (Decidable (_ = _))
  | .startAsync | .addMessageHandler | .shutdown | .destructor | .stopListening | .advance _
  | .closeClient _ | .lockMutex | .join | .destroyMembers | .lock | .initAsio _ | .setHandlers
  | .reset _ | .listen _ | .startAccept _ | .enterRun | .runReturns | .accept _
  | .handshakeDone _ | .handshakeFailed _ | .clientCloses _ | .terminate _ | .closeHandler _
  | .released _ | .background _ => inferInstanceAs (Decidable True)

/-- The part of the invariant about the thread and `run()`. -/
structure ServingPart (thread : Option Pc) (listening entered : Bool) : Prop where
  serving : listening = true → entered = true → thread = some .inRun
  entered : thread = some .inRun → entered = true

/-- What runs whose handlers return keep. -/
structure ServingInvariant (s : PluginServer) : Prop where
  coherent : ServerInvariant s
  handler : SoleHandler s
  part : ServingPart s.serverThread s.listening s.runEntered

/-- A message whose calls return, or that finds no handler, leaves the thread where it is. -/
theorem message_keeps_thread (hsole : SoleHandler s) (handle : ClientHandle)
    {message : ClientMessage}
    (hok : s.messageHandlers ≠ [] → CallsReturn sdk message s.app) :
    (s.message (pluginService sdk) handle message).serverThread = s.serverThread := by
  unfold ServerState.message
  rcases hsole with hnone | hone
  · rw [hnone]
    rfl
  · have hreturns : threw (onWebSocketMessage sdk handle message s.app) = false :=
      (onWebSocketMessage_not_threw_iff ..).mpr (hok (by simp [hone]))
    rw [hone, onMessage_singleton]
    simp [pluginService, hreturns]

/-- A message with a call that throws ends the thread. -/
theorem message_ends_thread (hsole : SoleHandler s) (handle : ClientHandle)
    {message : ClientMessage} (hfinds : s.messageHandlers ≠ [])
    (hbad : ¬ CallsReturn sdk message s.app) :
    (s.message (pluginService sdk) handle message).serverThread = some .returned := by
  have hthrows : threw (onWebSocketMessage sdk handle message s.app) = true := by
    by_contra hreturns
    exact hbad ((onWebSocketMessage_not_threw_iff ..).mp (by simpa using hreturns))
  unfold ServerState.message
  rw [hsole.resolve_left hfinds, onMessage_singleton]
  simp [pluginService, hthrows]

/-! ## Steps -/

theorem ServingPart.quiet {thread : Option Pc} {listening entered : Bool}
    (hlisten : listening = false) (hentered : thread = some .inRun → entered = true) :
    ServingPart thread listening entered :=
  ⟨fun hl => absurd (hlisten.symm.trans hl) Bool.false_ne_true, hentered⟩

/-- In front of `enterRun` nothing is asked of the thread. -/
theorem ServingPart.early {thread : Option Pc} {listening entered : Bool}
    (hentered : entered = false) (hthread : thread ≠ some .inRun) :
    ServingPart thread listening entered :=
  ⟨fun _ hrun => absurd (hentered.symm.trans hrun) Bool.false_ne_true,
    fun hin => absurd hin hthread⟩

/-- The catch blocks and the statements in front of `run()` do not lead into it. -/
theorem unless_ne_inRun (pc : Pc) (hpc : pc ≠ .inRun) (throws : Bool) :
    some (if throws then .returned else pc) ≠ some .inRun := by
  intro heq
  cases throws with
  | true => cases heq
  | false => exact hpc (Option.some.inj heq)

theorem ServingPart.shutdownBegins
    (h : ServingPart s.serverThread s.listening s.runEntered) :
    ServingPart s.shutdownBegins.serverThread s.shutdownBegins.listening
      s.shutdownBegins.runEntered := by
  unfold ServerState.shutdownBegins ServerState.shutdownReturns
  split
  · exact h
  · split
    · exact h
    · exact h

theorem ServingInvariant.part_next (h : ServingInvariant s)
    (he : (serverMachine (pluginService sdk)).enabled s e) (hok : HandlersReturn sdk s e) :
    ServingPart (s.next (pluginService sdk) e).serverThread
      (s.next (pluginService sdk) e).listening (s.next (pluginService sdk) e).runEntered := by
  obtain ⟨-, -, hg⟩ := he
  cases e with
  | startAsync =>
    simp only [ServerState.next, ServerState.startAsync]
    split
    · exact h.part
    · exact .early rfl (by simp)
  | shutdown => exact h.part.shutdownBegins
  | destructor => exact ServingPart.shutdownBegins h.part
  | stopListening => exact .quiet rfl h.part.entered
  | advance after =>
    simp only [ServerState.next]
    exact ServerState.advance_cases (fun _ => h.part) (fun _ _ => h.part) (fun _ => h.part)
  | closeClient handle =>
    simp only [ServerState.next]
    exact ServerState.closeClient_cases (fun _ _ => h.part) (fun _ => h.part) (fun _ => h.part)
  | join =>
    have hlisten := h.coherent.stopped (by rw [hg.1]; rfl)
    simp only [ServerState.next, ServerState.join, ServerState.shutdownReturns]
    split
    · split
      · exact .quiet hlisten (by simp)
      · exact .quiet hlisten (by simp)
    · exact h.part
  | destroyMembers =>
    simp only [ServerState.next, ServerState.destroyMembers]
    split
    · exact h.part
    · exact h.part
  | lock => exact .early (h.coherent.early hg.1 rfl).2.2 (fun hin => by cases hin)
  | initAsio code =>
    exact .early (h.coherent.early hg rfl).2.2 (unless_ne_inRun .asioInitialized (by simp) _)
  | setHandlers => exact .early (h.coherent.early hg rfl).2.2 (fun hin => by cases hin)
  | reset throws =>
    exact .early (h.coherent.early hg rfl).2.2 (unless_ne_inRun .endpointReset (by simp) throws)
  | listen throws =>
    exact .early (h.coherent.early hg.1 rfl).2.2 (unless_ne_inRun .listening (by simp) throws)
  | startAccept throws =>
    -- `run()` cannot have been entered by a thread that still has to accept
    have hnot : s.runEntered = false := by
      by_contra hentered
      rcases h.coherent.entered (by simpa using hentered) _ hg with hpc | hpc
      · cases hpc
      · cases hpc
    exact .early hnot (unless_ne_inRun .accepting (by simp) throws)
  | enterRun => exact ⟨fun _ _ => rfl, fun _ => rfl⟩
  | runReturns => exact .quiet hg.2.1 (fun hin => by cases hin)
  | runThrows => exact .quiet hok (fun hin => by cases hin)
  | message handle message =>
    -- an exception while nobody listens ends a server that is shutting down anyway
    by_cases hlisten : s.listening = true
    · have hthread := message_keeps_thread h.handler handle (hok hlisten)
      refine ⟨fun _ hentered => hthread.trans (h.part.serving hlisten hentered), ?_⟩
      intro hin
      exact h.part.entered (hthread.symm.trans hin)
    · have hquiet : s.listening = false := by simpa using hlisten
      exact .quiet hquiet (fun _ => h.part.entered hg.1)
  | _ => exact h.part

/-- **Step lemma**: handlers that return keep the server serving. -/
theorem ServingInvariant.next (h : ServingInvariant s)
    (he : (serverMachine (pluginService sdk)).enabled s e) (hok : HandlersReturn sdk s e) :
    ServingInvariant (s.next (pluginService sdk) e) :=
  ⟨h.coherent.next he, h.handler.next, h.part_next he hok⟩

theorem ServingInvariant.constructed (app : PluginState) :
    ServingInvariant (ServerState.constructed ClientMessage app) :=
  ⟨.constructed app, Or.inl rfl,
    ⟨by simp [ServerState.constructed], by simp [ServerState.constructed]⟩⟩

/-- An exception that leaves a handler, or `run()` itself, leaves an endpoint that listens
    without a thread. -/
theorem ServingInvariant.not_serving_next (h : ServingInvariant s)
    (he : (serverMachine (pluginService sdk)).enabled s e) (hbad : ¬ HandlersReturn sdk s e) :
    ¬ Serving (s.next (pluginService sdk) e) := by
  obtain ⟨-, -, hg⟩ := he
  intro hserving
  cases e with
  | message handle message =>
    simp only [HandlersReturn, Classical.not_imp] at hbad
    obtain ⟨hlisten, hfinds, hthrows⟩ := hbad
    have hreturned := message_ends_thread h.handler handle hfinds hthrows
    have hin := hserving hlisten (h.part.entered hg.1)
    cases hreturned.symm.trans hin
  | runThrows =>
    have hlisten : s.listening = true := by simpa [HandlersReturn] using hbad
    have hin := hserving hlisten (h.part.entered hg)
    cases hin
  | _ => exact hbad trivial

end

/-- **A listening endpoint is served** in every state of a run iff, while it listens, no call
    made for a message of the run throws, and `run()` raises nothing of its own. -/
theorem serving_iff (sdk : BakkesMod) (app : PluginState) {as : List PluginServerEvent}
    (hl : (serverMachine (pluginService sdk)).Legal (.constructed ClientMessage app) as) :
    (serverMachine (pluginService sdk)).Throughout Serving (.constructed ClientMessage app) as ↔
      (serverMachine (pluginService sdk)).Along (HandlersReturn sdk)
        (.constructed ClientMessage app) as := by
  apply Machine.throughout_iff_along (I := ServingInvariant) _ _ _ (.constructed app) hl
  · exact fun s h => h.part.serving
  · exact fun s e h he hreturns => h.next he hreturns
  · exact fun s e h he hbad => h.not_serving_next he hbad

/-- The server and its handler, up to an open connection. -/
def oneClient : List PluginServerEvent :=
  [.startAsync, .addMessageHandler, .lock, .initAsio none, .setHandlers, .reset false,
    .listen false, .startAccept false, .enterRun, .accept 0, .handshakeDone 0]

/-- A client asks for a replay and gets an answer. -/
theorem serving_download :
    (serverMachine (pluginService .simple)).Throughout Serving
      (.constructed ClientMessage (.loaded true fun _ => none))
      (oneClient ++
        [.message 0 ⟨"ballchasing_viewer ab token".toList, fun _ => noThrow⟩]) :=
  (serving_iff .simple (.loaded true fun _ => none) (by decide +kernel)).mpr (by decide +kernel)

/-- The folder of the cache cannot be created: one client's message ends the service for
    everybody. -/
theorem listening_without_thread :
    let message : ClientMessage :=
      ⟨"ballchasing_viewer ab token".toList, fun _ call => call == .createDirectories⟩
    let run := oneClient ++ [.accept 1, .handshakeDone 1, .message 0 message]
    let server := (serverMachine (pluginService .simple)).exec
      (.constructed ClientMessage (.loaded true fun _ => none)) run
    (serverMachine (pluginService .simple)).Legal
        (.constructed ClientMessage (.loaded true fun _ => none)) run ∧
      server.listening = true ∧ server.runEntered = true ∧
      server.serverThread = some .returned ∧ server.conns 1 = .opened :=
  ⟨by decide +kernel, by decide +kernel, by decide +kernel, by decide +kernel, by decide +kernel⟩

end BallchasingReplayPlayer
