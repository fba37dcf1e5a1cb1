import BallchasingReplayPlayer.Server.Termination

/-!
# Between Two Runs of the Server

`StartWebSocketServerAsync` may be called again once a shutdown has joined the server thread.
The members it finds then are those of a server that was never started: nothing listens, and no
client is left in `ws_connections_`, unless an exception has left `run()`. A message handler that
throws leaves its client there for good.

## Layers

1. `RestInvariant` — connections live as long as `run()` does
2. `runReturns_of_left` — how the thread leaves `run()`

## Main Result

- `joined_leaves_no_client`: what a server finds that is started again
-/

namespace BallchasingReplayPlayer

open Transition

/-- The connection was never accepted, or its handle has expired. -/
def ConState.isGone : ConState → Bool
  | .absent | .expired => true
  | .handshake | .opened | .unread | .closing | .closed => false

theorem ConState.not_isGone_of_isLive {state : ConState} (h : state.isLive = true) :
    ¬ state.isGone = true := by
  cases state <;> simp [ConState.isLive, ConState.isGone] at h ⊢

section

variable {App Msg Ev : Type} {service : Service App Msg Ev} {s : ServerState App Msg}
  {e : ServerEvent Msg Ev} {as : List (ServerEvent Msg Ev)}

/-- No exception leaves `run()`: none of a handler, and none of its own. -/
def RunReturns (service : Service App Msg Ev) (s : ServerState App Msg) :
    ServerEvent Msg Ev → Prop
  | .message handle msg => (onMessage service handle msg s.messageHandlers s.app).2.2 = false
  | .runThrows => False
  | _ => True

instance (service : Service App Msg Ev) (s : ServerState App Msg) :
    ∀ e : ServerEvent Msg Ev, Decidable (RunReturns service s e)
  | .message _ _ => inferInstanceAs (Decidable (_ = _))
  | .runThrows => inferInstanceAs (Decidable False)
  | .startAsync | .addMessageHandler | .shutdown | .destructor | .stopListening | .advance _
  | .closeClient _ | .lockMutex | .join | .destroyMembers | .lock | .initAsio _ | .setHandlers
  | .reset _ | .listen _ | .startAccept _ | .enterRun | .runReturns | .accept _
  | .handshakeDone _ | .handshakeFailed _ | .clientCloses _ | .terminate _ | .closeHandler _
  | .released _ | .background _ => inferInstanceAs (Decidable True)

/-- A run that no exception leaves is one in which every client's handler returns. -/
theorem handlersReturnFor_of_runReturns (h : RunReturns service s e) (handle : ClientHandle) :
    HandlersReturnFor service handle s e := by
  cases e with
  | message handle' msg => exact fun _ => h
  | _ => trivial

/-! ## Leaving `run()` -/

theorem serverThread_shutdownReturns (s : ServerState App Msg) :
    s.shutdownReturns.serverThread = s.serverThread := by
  unfold ServerState.shutdownReturns
  split
  · rfl
  · rfl

theorem serverThread_shutdownBegins (s : ServerState App Msg) :
    s.shutdownBegins.serverThread = s.serverThread := by
  unfold ServerState.shutdownBegins
  split
  · rfl
  · exact serverThread_shutdownReturns s

/-- **Inversion lemma**: the thread leaves `run()` when it returns, and in no other way. -/
theorem runReturns_of_left (h : StopInvariant s) (he : (serverMachine service).enabled s e)
    (hok : RunReturns service s e) (hin : s.serverThread = some .inRun)
    (hleft : (s.next service e).serverThread ≠ some .inRun) : e = .runReturns := by
  obtain ⟨-, -, hg⟩ := he
  have hstays : (s.next service e).serverThread = s.serverThread → e = .runReturns :=
    fun hsame => absurd (hsame.trans hin) hleft
  cases e with
  | runReturns => rfl
  | runThrows => exact hok.elim
  | message handle msg =>
    apply hstays
    simp only [ServerState.next, ServerState.message]
    rw [show (onMessage service handle msg s.messageHandlers s.app).2.2 = false from hok]
    rfl
  | startAsync =>
    apply hstays
    simp only [ServerState.next, ServerState.startAsync]
    rw [if_pos (by rw [hin]; rfl)]
  | shutdown => exact hstays (serverThread_shutdownBegins s)
  | destructor => exact hstays (serverThread_shutdownBegins _)
  | advance after =>
    apply hstays
    simp only [ServerState.next]
    exact ServerState.advance_cases (fun _ => rfl) (fun _ _ => rfl) (fun _ => rfl)
  | closeClient handle =>
    apply hstays
    simp only [ServerState.next]
    exact ServerState.closeClient_cases (fun _ _ => rfl) (fun _ => rfl) (fun _ => rfl)
  | join =>
    -- a shutdown joins a thread that has returned
    have hreturned := h.joining hg.1
    rw [hin] at hreturned
    cases hreturned
  | destroyMembers =>
    apply hstays
    simp only [ServerState.next, ServerState.destroyMembers]
    split
    · rfl
    · rfl
  -- the steps in front of `run()`
  | lock | listen _ =>
    have hpc := hg.1
    rw [hin] at hpc
    cases hpc
  | initAsio _ | setHandlers | reset _ | startAccept _ | enterRun =>
    rw [show s.serverThread = _ from hg] at hin
    cases hin
  | _ => exact hstays rfl

/-! ## Connections Outside `run()` -/

/-- What runs keep in which `run()` only returns. -/
structure RestInvariant (s : ServerState App Msg) : Prop where
  stop : StopInvariant s
  attended : ∀ handle, Attended handle s
  gone : s.serverThread ≠ some .inRun → ∀ handle, (s.conns handle).isGone = true

/-- A connection that is gone stays so outside `run()`. -/
theorem isGone_next (he : (serverMachine service).enabled s e)
    (hout : s.serverThread ≠ some .inRun) {handle : ClientHandle}
    (hgone : (s.conns handle).isGone = true) :
    ((s.next service e).conns handle).isGone = true := by
  have hmove := conMove_next he handle
  generalize s.conns handle = before at hmove hgone
  generalize (s.next service e).conns handle = after at hmove ⊢
  cases hmove with
  | stays _ _ => exact hgone
  | accepted => exact absurd he.2.2.1 hout
  | failed | expired | released => rfl
  | asked hstate => exact absurd hgone (ConState.not_isGone_of_isLive
      (ConState.isLive_of_canEnd (Or.inl hstate)))
  | ended hstate => exact absurd hgone (ConState.not_isGone_of_isLive
      (ConState.isLive_of_canEnd hstate))
  | _ => cases hgone

/-- **Step lemma**: connections end before `run()` returns. -/
theorem RestInvariant.next (h : RestInvariant s) (he : (serverMachine service).enabled s e)
    (hok : RunReturns service s e) : RestInvariant (s.next service e) := by
  refine ⟨h.stop.next he,
    fun handle => (h.attended handle).next he (handlersReturnFor_of_runReturns hok handle), ?_⟩
  intro hout handle
  by_cases hin : s.serverThread = some .inRun
  · obtain rfl := runReturns_of_left h.stop he hok hin hout
    -- every accepted connection has expired, the others were never accepted
    obtain ⟨-, -, -, -, hexpired⟩ := he
    show (s.conns handle).isGone = true
    by_cases habsent : s.conns handle = .absent
    · rw [habsent]
      rfl
    · rw [hexpired handle (h.stop.accepted handle habsent)]
      rfl
  · exact isGone_next he hin (h.gone hin handle)

theorem RestInvariant.constructed (app : App) :
    RestInvariant (ServerState.constructed Msg app) :=
  ⟨.constructed app, fun handle => .constructed handle app, fun _ _ => rfl⟩

/-- Without a thread nobody listens. -/
theorem not_listening_of_joined (h : ServerInvariant s) (hjoined : s.serverThread = none) :
    s.listening = false := by
  by_contra hlistening
  obtain ⟨pc, hpc, -⟩ := h.started (Or.inl (by simpa using hlistening))
  rw [hjoined] at hpc
  cases hpc

end

section

variable {App Msg Ev : Type} (service : Service App Msg Ev) (app : App)
  {as : List (ServerEvent Msg Ev)}

/-- **A server that has been joined is one that can be started**: in every run in which no
    exception leaves `run()`, however often the server is started and shut down, whenever
    `server_thread_` is not joinable the endpoint does not listen, `ws_connections_` is empty,
    and every client that connected has been reported to both handlers. -/
theorem joined_leaves_no_client
    (hl : (serverMachine service).Legal (.constructed Msg app) as)
    (hok : (serverMachine service).Along (RunReturns service) (.constructed Msg app) as)
    (hjoined : ((serverMachine service).exec (.constructed Msg app) as).serverThread = none) :
    let server := (serverMachine service).exec (.constructed Msg app) as
    server.listening = false ∧ server.wsConnections = [] ∧
      ∀ handle, opensIn handle as = closesIn handle as ∧ (server.conns handle).isGone = true := by
  intro server
  have hrest : RestInvariant server :=
    Machine.Legal.invariant (fun _ _ hs he hstep => hs.next he hstep) (.constructed app) hl hok
  have hgone := hrest.gone (by rw [show server.serverThread = none from hjoined]; simp)
  -- whoever is tracked is live, and nobody is
  have huntracked : ∀ handle, handle ∉ server.wsConnections := fun handle hmem =>
    ConState.not_isGone_of_isLive ((hrest.attended handle).live hmem) (hgone handle)
  refine ⟨not_listening_of_joined hrest.stop.coherent hjoined,
    List.eq_nil_iff_forall_not_mem.mpr huntracked, ?_⟩
  intro handle
  have hcount : 0 + opensIn handle as = server.tracks handle + closesIn handle as :=
    tracks_exec (.constructed app) hl handle
  rw [ServerState.tracks, if_neg (huntracked handle)] at hcount
  exact ⟨by simpa using hcount, hgone handle⟩

/-- Two clients in the first run of the server; one of them leaves, one is asked to. Then the
    server is started and shut down once more. -/
theorem joined_leaves_no_client_twice :
    let run : List (ServerEvent Unit Empty) := startUp ++ [.accept 0, .accept 1,
      .handshakeDone 0, .handshakeDone 1, .message 1 (), .clientCloses 0, .terminate 0,
      .closeHandler 0, .shutdown, .stopListening, .advance none, .closeClient 1,
      .advance (some 1), .terminate 1, .closeHandler 1, .runReturns, .lockMutex, .join] ++
      startUp ++ [.accept 2, .handshakeFailed 2, .shutdown, .stopListening, .advance none,
        .runReturns, .lockMutex, .join]
    let server := (serverMachine .silent).exec (.constructed Unit ()) run
    server.listening = false ∧ server.wsConnections = [] ∧
      ∀ handle, opensIn handle run = closesIn handle run ∧
        (server.conns handle).isGone = true :=
  joined_leaves_no_client .silent () (by decide) (by decide) (by decide)

end

end BallchasingReplayPlayer
