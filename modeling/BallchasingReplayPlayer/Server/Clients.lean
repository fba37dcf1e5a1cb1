import BallchasingReplayPlayer.Server.Shutdown

/-!
# The Clients of the Server

`ws_connections_` is kept by two handlers: `OnClientConnected` inserts a handle and
`OnClientDisconnected` erases it. Messages and the loop of `ShutdownWebSocketServer` come to
clients in between. A client whose message handler throws stays in `ws_connections_`: its
connection is dropped without its close handler, and its handle expires there.

## Layers

1. `ConMove` — what an event does to one connection
2. `Tracks` — `ws_connections_` holds the connections whose close handler is still to come
3. `HandlersReturnFor` — the clients whose handles do not expire there

## Main Results

- `handlers_paired`: how often the two handlers are called for a client
- `comesTo_between_handlers`: when a client is served or asked to close
-/

namespace BallchasingReplayPlayer

open LexicalPath Transition

/-! ## Connections -/

/-- The open handler has been called for the connection, and the close handler has not. -/
def ConState.isLive : ConState → Bool
  | .opened | .unread | .closing | .closed => true
  | .absent | .handshake | .expired => false

/-- The open handler may still be called for the connection. -/
def ConState.mayOpen : ConState → Bool
  | .absent | .handshake => true
  | .opened | .unread | .closing | .closed | .expired => false

/-- A connection that is open, or closing, can be ended. -/
theorem ConState.isLive_of_canEnd {state : ConState}
    (h : state.isOpen = true ∨ state = .closing) : state.isLive = true := by
  cases state <;> simp [ConState.isOpen, ConState.isLive] at h ⊢

theorem ConState.ne_absent_of_isLive {state : ConState} (h : state.isLive = true) :
    state ≠ .absent := by
  intro habsent
  rw [habsent] at h
  cases h

section

variable {App Msg Ev : Type} {service : Service App Msg Ev} {s : ServerState App Msg}
  {e : ServerEvent Msg Ev} {as : List (ServerEvent Msg Ev)}

/-- The step calls `OnClientConnected` for a client. -/
def ServerEvent.opens (handle : ClientHandle) : ServerEvent Msg Ev → Bool
  | .handshakeDone handle' => handle' = handle
  | _ => false

/-- The step calls `OnClientDisconnected` for a client. -/
def ServerEvent.closes (handle : ClientHandle) : ServerEvent Msg Ev → Bool
  | .closeHandler handle' => handle' = handle
  | _ => false

/-- What an event does to the connection of a client. -/
inductive ConMove (handle : ClientHandle) : ServerEvent Msg Ev → ConState → ConState → Prop
  | stays {e : ServerEvent Msg Ev} {state : ConState} (hopens : e.opens handle = false)
      (hcloses : e.closes handle = false) : ConMove handle e state state
  | accepted : ConMove handle (.accept handle) .absent .handshake
  | opened : ConMove handle (.handshakeDone handle) .handshake .opened
  | failed : ConMove handle (.handshakeFailed handle) .handshake .expired
  | asked {state : ConState} (hstate : state.isOpen = true) :
      ConMove handle (.closeClient handle) state .closing
  | left : ConMove handle (.clientCloses handle) .opened .closing
  | threw (msg : Msg) : ConMove handle (.message handle msg) .opened .unread
  | ended {state : ConState} (hstate : state.isOpen = true ∨ state = .closing) :
      ConMove handle (.terminate handle) state .closed
  | expired : ConMove handle (.closeHandler handle) .closed .expired
  | released : ConMove handle (.released handle) .unread .expired

/-- An event that sets one connection moves that one only. -/
theorem ConMove.setConn {conns : ClientHandle → ConState} {handle' : ClientHandle}
    {state : ConState} (hmove : ConMove handle' e (conns handle') state)
    (hopens : ∀ handle, handle ≠ handle' → e.opens handle = false)
    (hcloses : ∀ handle, handle ≠ handle' → e.closes handle = false) (handle : ClientHandle) :
    ConMove handle e (conns handle) (Function.update conns handle' state handle) := by
  by_cases heq : handle = handle'
  · subst heq
    rw [Function.update_self]
    exact hmove
  · rw [Function.update_of_ne heq]
    exact .stays (hopens handle heq) (hcloses handle heq)

/-- A step that leaves the clients alone moves none of them. -/
theorem ConMove.same {s' : ServerState App Msg} (hsame : SameClients s s')
    (hopens : ∀ handle, e.opens handle = false) (hcloses : ∀ handle, e.closes handle = false)
    (handle : ClientHandle) : ConMove handle e (s.conns handle) (s'.conns handle) := by
  rw [hsame.conns]
  exact .stays (hopens handle) (hcloses handle)

/-- **Inversion lemma**: every step moves a connection along its life, or leaves it. -/
theorem conMove_next (he : (serverMachine service).enabled s e) (handle : ClientHandle) :
    ConMove handle e (s.conns handle) ((s.next service e).conns handle) := by
  obtain ⟨-, -, hg⟩ := he
  cases e with
  | startAsync => exact .same (.startAsync s) (fun _ => rfl) (fun _ => rfl) handle
  | shutdown => exact .same (.shutdownBegins s) (fun _ => rfl) (fun _ => rfl) handle
  | destructor =>
    have hsame := SameClients.shutdownBegins { s with inDestructor := true }
    exact .same hsame (fun _ => rfl) (fun _ => rfl) handle
  | advance after => exact .same (.advance s after) (fun _ => rfl) (fun _ => rfl) handle
  -- the loop changes the connection it stands on, unless it throws or has lost its element
  | closeClient handle' =>
    simp only [ServerState.next]
    refine ServerState.closeClient_cases ?_ (fun _ => .stays rfl rfl) (fun _ => .stays rfl rfl)
    exact fun _ hopen => .setConn (.asked hopen) (fun _ _ => rfl) (fun _ _ => rfl) handle
  | join => exact .same (.join s) (fun _ => rfl) (fun _ => rfl) handle
  | destroyMembers => exact .same (.destroyMembers s) (fun _ => rfl) (fun _ => rfl) handle
  | accept handle' =>
    exact .setConn (hg.2.2 ▸ .accepted) (fun _ _ => rfl) (fun _ _ => rfl) handle
  | handshakeDone handle' =>
    refine .setConn (hg.2 ▸ .opened) (fun other hne => ?_) (fun _ _ => rfl) handle
    simpa [ServerEvent.opens] using hne.symm
  | handshakeFailed handle' =>
    exact .setConn (hg.2 ▸ .failed) (fun _ _ => rfl) (fun _ _ => rfl) handle
  | message handle' msg =>
    simp only [ServerState.next, ServerState.message]
    split
    · exact .setConn (hg.2 ▸ .threw msg) (fun _ _ => rfl) (fun _ _ => rfl) handle
    · exact .stays rfl rfl
  | clientCloses handle' =>
    exact .setConn (hg.2 ▸ .left) (fun _ _ => rfl) (fun _ _ => rfl) handle
  | terminate handle' =>
    exact .setConn (.ended hg.2) (fun _ _ => rfl) (fun _ _ => rfl) handle
  | closeHandler handle' =>
    refine .setConn (hg.2 ▸ .expired) (fun _ _ => rfl) (fun other hne => ?_) handle
    simpa [ServerEvent.closes] using hne.symm
  | released handle' =>
    exact .setConn (hg ▸ .released) (fun _ _ => rfl) (fun _ _ => rfl) handle
  | _ => exact .stays rfl rfl

/-! ## Tracked Clients -/

/-- `ws_connections_` holds every connection between its two handlers, and none that may still be
    opened; and it holds each of them once. -/
structure Tracks (s : ServerState App Msg) : Prop where
  nodup : s.wsConnections.Nodup
  tracked : ∀ handle, (s.conns handle).isLive = true → handle ∈ s.wsConnections
  opened : ∀ handle ∈ s.wsConnections, (s.conns handle).mayOpen = false

/-- Only the two handlers change `ws_connections_`. -/
theorem wsConnections_next (e : ServerEvent Msg Ev) :
    (s.next service e).wsConnections =
      match e with
      | .handshakeDone handle => s.wsConnections.insert handle
      | .closeHandler handle => s.wsConnections.filter (· ≠ handle)
      | _ => s.wsConnections := by
  cases e with
  | startAsync => exact (SameClients.startAsync s).wsConnections
  | shutdown => exact (SameClients.shutdownBegins s).wsConnections
  | destructor =>
    exact (SameClients.shutdownBegins { s with inDestructor := true }).wsConnections
  | advance after => exact (SameClients.advance s after).wsConnections
  | closeClient handle =>
    simp only [ServerState.next]
    exact ServerState.closeClient_cases (fun _ _ => rfl) (fun _ => rfl) (fun _ => rfl)
  | join => exact (SameClients.join s).wsConnections
  | destroyMembers => exact (SameClients.destroyMembers s).wsConnections
  | _ => rfl

/-- A client is tracked behind a step if the step opens it, or does not close it. -/
theorem mem_wsConnections_next (handle : ClientHandle) :
    handle ∈ (s.next service e).wsConnections ↔
      e.opens handle = true ∨ (handle ∈ s.wsConnections ∧ e.closes handle = false) := by
  rw [wsConnections_next]
  cases e with
  | handshakeDone handle' =>
    simp [ServerEvent.opens, ServerEvent.closes, @eq_comm _ handle handle']
  | closeHandler handle' =>
    simp [ServerEvent.opens, ServerEvent.closes, @eq_comm _ handle handle']
  | _ => simp [ServerEvent.opens, ServerEvent.closes]

/-- A connection that is live behind a step was so before, or the step opens it. -/
theorem isLive_next (he : (serverMachine service).enabled s e) {handle : ClientHandle}
    (hlive : ((s.next service e).conns handle).isLive = true) :
    e.opens handle = true ∨ ((s.conns handle).isLive = true ∧ e.closes handle = false) := by
  have hmove := conMove_next he handle
  generalize s.conns handle = before at hmove
  generalize (s.next service e).conns handle = after at hmove hlive
  cases hmove with
  | stays _ hcloses => exact Or.inr ⟨hlive, hcloses⟩
  | opened => exact Or.inl (by simp [ServerEvent.opens])
  | asked hstate => exact Or.inr ⟨ConState.isLive_of_canEnd (Or.inl hstate), rfl⟩
  | ended hstate => exact Or.inr ⟨ConState.isLive_of_canEnd hstate, rfl⟩
  | left | threw _ => exact Or.inr ⟨rfl, rfl⟩
  | accepted | failed | expired | released => cases hlive

/-- A connection that may be opened behind a step could be so before. -/
theorem mayOpen_of_next (he : (serverMachine service).enabled s e) {handle : ClientHandle}
    (hmay : ((s.next service e).conns handle).mayOpen = true) :
    e.opens handle = false ∧ (s.conns handle).mayOpen = true := by
  have hmove := conMove_next he handle
  generalize s.conns handle = before at hmove
  generalize (s.next service e).conns handle = after at hmove hmay
  cases hmove with
  | stays hopens _ => exact ⟨hopens, hmay⟩
  | accepted => exact ⟨rfl, rfl⟩
  | _ => cases hmay

/-- **Step lemma**: the two handlers keep `ws_connections_` in step with the connections. -/
theorem Tracks.next (h : Tracks s) (he : (serverMachine service).enabled s e) :
    Tracks (s.next service e) := by
  refine ⟨?_, ?_, ?_⟩
  · rw [wsConnections_next]
    cases e with
    | handshakeDone handle => exact h.nodup.insert
    | closeHandler handle => exact h.nodup.filter _
    | _ => exact h.nodup
  · intro handle hlive
    rw [mem_wsConnections_next]
    exact (isLive_next he hlive).imp_right fun hbefore => ⟨h.tracked handle hbefore.1, hbefore.2⟩
  · intro handle hmem
    by_contra hmay
    obtain ⟨hopens, hbefore⟩ := mayOpen_of_next he (by simpa using hmay)
    rcases mem_wsConnections_next handle |>.mp hmem with hopened | ⟨htracked, -⟩
    · exact absurd (hopens.symm.trans hopened) Bool.false_ne_true
    · exact absurd ((h.opened handle htracked).symm.trans hbefore) Bool.false_ne_true

theorem Tracks.constructed (app : App) : Tracks (ServerState.constructed Msg app) :=
  ⟨List.nodup_nil, by simp [ServerState.constructed, ConState.isLive],
    by simp [ServerState.constructed]⟩

theorem Tracks.exec (h : Tracks s) (hl : (serverMachine service).Legal s as) :
    Tracks ((serverMachine service).exec s as) :=
  Machine.exec_invariant (fun _ _ hs he => hs.next he) h hl

/-! ## Calls of the Handlers -/

/-- How often the client is in `ws_connections_`, which is a set. -/
def ServerState.tracks (s : ServerState App Msg) (handle : ClientHandle) : ℕ :=
  if handle ∈ s.wsConnections then 1 else 0

/-- **Step lemma**: the open handler adds a client to `ws_connections_` that is not there, the
    close handler takes one away that is. -/
theorem tracks_next (h : Tracks s) (he : (serverMachine service).enabled s e)
    (handle : ClientHandle) :
    s.tracks handle + (e.opens handle).toNat =
      (s.next service e).tracks handle + (e.closes handle).toNat := by
  unfold ServerState.tracks
  rw [if_congr (mem_wsConnections_next handle) rfl rfl]
  by_cases hopens : e.opens handle = true
  · -- its handshake has just ended, so it was not there
    have hnew : handle ∉ s.wsConnections := by
      intro hmem
      have hmay := h.opened handle hmem
      cases e with
      | handshakeDone handle' =>
        have heq : handle' = handle := by simpa [ServerEvent.opens] using hopens
        rw [← heq, show s.conns handle' = .handshake from he.2.2.2] at hmay
        cases hmay
      | _ => cases hopens
    have hcloses : e.closes handle = false := by
      cases e with
      | handshakeDone handle' => rfl
      | _ => cases hopens
    simp [hopens, hnew, hcloses]
  · by_cases hcloses : e.closes handle = true
    · -- its close handler was still to come, so it was there
      have hold : handle ∈ s.wsConnections := by
        cases e with
        | closeHandler handle' =>
          have heq : handle' = handle := by simpa [ServerEvent.closes] using hcloses
          apply h.tracked
          rw [← heq, show s.conns handle' = .closed from he.2.2.2]
          rfl
        | _ => cases hcloses
      simp [hopens, hcloses, hold]
    · simp [hopens, hcloses]

/-- A connection is opened only while it may still be, and never again. -/
theorem mayOpen_next (he : (serverMachine service).enabled s e) (handle : ClientHandle) :
    ((s.next service e).conns handle).mayOpen.toNat + (e.opens handle).toNat ≤
      (s.conns handle).mayOpen.toNat := by
  have hmove := conMove_next he handle
  generalize s.conns handle = before at hmove
  generalize (s.next service e).conns handle = after at hmove
  cases hmove with
  | stays hopens hcloses => simp [hopens]
  | _ => simp [ServerEvent.opens, ConState.mayOpen]

/-- How often a run calls the open handler for a client. -/
def opensIn (handle : ClientHandle) (as : List (ServerEvent Msg Ev)) : ℕ :=
  as.countP (ServerEvent.opens handle)

/-- How often a run calls the close handler for a client. -/
def closesIn (handle : ClientHandle) (as : List (ServerEvent Msg Ev)) : ℕ :=
  as.countP (ServerEvent.closes handle)

/-- **Run lemma**: a client that is tracked at the end of a run was tracked, or its open handler
    was called once more than its close handler. -/
theorem tracks_exec (h : Tracks s) (hl : (serverMachine service).Legal s as)
    (handle : ClientHandle) :
    s.tracks handle + opensIn handle as =
      ((serverMachine service).exec s as).tracks handle + closesIn handle as := by
  induction as generalizing s with
  | nil => rfl
  | cons e as ih =>
    have hstep := tracks_next h hl.1 handle
    have hrest : (s.next service e).tracks handle + opensIn handle as =
        ((serverMachine service).exec (s.next service e) as).tracks handle +
          closesIn handle as := ih (h.next hl.1) hl.2
    rw [opensIn, closesIn, Machine.countP_cons_toNat, Machine.countP_cons_toNat]
    show _ = ((serverMachine service).exec (s.next service e) as).tracks handle + _
    unfold opensIn closesIn at hrest
    omega

/-- The open handler is called once at most. -/
theorem opensIn_le (hl : (serverMachine service).Legal s as) (handle : ClientHandle) :
    opensIn handle as ≤ (s.conns handle).mayOpen.toNat := by
  have hrank := Machine.Legal.countP_add_le (M := serverMachine service) (I := fun _ => True)
    (fun s => (s.conns handle).mayOpen.toNat) (ServerEvent.opens handle)
    (fun _ _ _ _ _ => trivial) (fun _ _ _ he _ => mayOpen_next he handle) trivial hl
    (Machine.along_of_forall (fun _ _ => trivial) s as)
  exact (Nat.le_add_right _ _).trans hrank

/-! ## Handlers That Return -/

/-- The handler of a message of this client does not throw. -/
def HandlersReturnFor (service : Service App Msg Ev) (handle : ClientHandle)
    (s : ServerState App Msg) : ServerEvent Msg Ev → Prop
  | .message handle' msg =>
    handle' = handle → (onMessage service handle' msg s.messageHandlers s.app).2.2 = false
  | _ => True

instance (service : Service App Msg Ev) (handle : ClientHandle) (s : ServerState App Msg) :
    ∀ e : ServerEvent Msg Ev, Decidable (HandlersReturnFor service handle s e)
  | .message _ _ => inferInstanceAs (Decidable (_ → _ = _))
  | .startAsync | .addMessageHandler | .shutdown | .destructor | .stopListening | .advance _
  | .closeClient _ | .lockMutex | .join | .destroyMembers | .lock | .initAsio _ | .setHandlers
  | .reset _ | .listen _ | .startAccept _ | .enterRun | .runReturns | .runThrows | .accept _
  | .handshakeDone _ | .handshakeFailed _ | .clientCloses _ | .terminate _ | .closeHandler _
  | .released _ | .background _ => inferInstanceAs (Decidable True)

/-- A connection that is read from, and tracked for no longer than that. -/
structure Attended (handle : ClientHandle) (s : ServerState App Msg) : Prop where
  read : s.conns handle ≠ .unread
  live : handle ∈ s.wsConnections → (s.conns handle).isLive = true

/-- **Step lemma**: a client whose handler returns is attended to. -/
theorem Attended.next {handle : ClientHandle} (h : Attended handle s)
    (he : (serverMachine service).enabled s e) (hok : HandlersReturnFor service handle s e) :
    Attended handle (s.next service e) := by
  have hmove := conMove_next he handle
  have hmem : handle ∈ (s.next service e).wsConnections ↔ _ := mem_wsConnections_next handle
  obtain ⟨hread, hlive⟩ := h
  -- the one way to lose a connection without its close handler is not taken
  have hthrew : ∀ msg, e = .message handle msg →
      (s.next service e).conns handle = s.conns handle := by
    intro msg heq
    subst heq
    simp only [ServerState.next, ServerState.message]
    rw [show (onMessage service handle msg s.messageHandlers s.app).2.2 = false from hok rfl]
    rfl
  refine ⟨?_, fun htracked => ?_⟩
  · generalize hbefore : s.conns handle = before at hmove hread hthrew
    generalize hafter : (s.next service e).conns handle = after at hmove hthrew ⊢
    cases hmove with
    | stays _ _ => exact hread
    | threw msg => exact absurd (hthrew msg rfl) (by simp)
    | _ => simp
  · have hold := hmem.mp htracked
    generalize hbefore : s.conns handle = before at hmove hread hthrew hlive
    generalize hafter : (s.next service e).conns handle = after at hmove hthrew ⊢
    cases hmove with
    | stays hopens _ =>
      rcases hold with hopened | ⟨hbefore, -⟩
      · exact absurd (hopens.symm.trans hopened) Bool.false_ne_true
      · exact hlive hbefore
    | threw msg => exact absurd (hthrew msg rfl) (by simp)
    | released => exact absurd rfl hread
    | expired =>
      rcases hold with hopened | ⟨-, hcloses⟩
      · cases hopened
      · simp [ServerEvent.closes] at hcloses
    | accepted | failed =>
      rcases hold with hopened | ⟨hbefore, -⟩
      · cases hopened
      · cases hlive hbefore
    | _ => rfl

theorem Attended.constructed (handle : ClientHandle) (app : App) :
    Attended handle (ServerState.constructed Msg app) :=
  ⟨by simp [ServerState.constructed], by simp [ServerState.constructed]⟩

/-- The step handles a message of a client, or the loop is at its element, which is still
    there. -/
def ComesTo (s : ServerState App Msg) (handle : ClientHandle) : ServerEvent Msg Ev → Prop
  | .message handle' _ => handle' = handle
  | .closeClient handle' => handle' = handle ∧ handle ∈ s.wsConnections
  | _ => False

/-- What comes to a client finds it tracked. -/
theorem tracked_of_comesTo (h : Tracks s) (he : (serverMachine service).enabled s e)
    {handle : ClientHandle} (hcomes : ComesTo s handle e) : handle ∈ s.wsConnections := by
  obtain ⟨-, -, hg⟩ := he
  cases e with
  | message handle' msg =>
    have hopened : s.conns handle = .opened := (show handle' = handle from hcomes) ▸ hg.2
    exact h.tracked handle (by rw [hopened]; rfl)
  | closeClient handle' => exact hcomes.2
  | _ => exact hcomes.elim

end

section

variable {App Msg Ev : Type} (service : Service App Msg Ev) (app : App)
  {as : List (ServerEvent Msg Ev)}

/-- **The two handlers are paired**: in every run, the open handler is called at most once for
    a client and the close handler at most as often, and `ws_connections_` holds exactly the
    clients for which only the first has been called, each of them once. -/
theorem handlers_paired (hl : (serverMachine service).Legal (.constructed Msg app) as)
    (handle : ClientHandle) :
    let server := (serverMachine service).exec (.constructed Msg app) as
    opensIn handle as ≤ 1 ∧
      opensIn handle as =
        closesIn handle as + (if handle ∈ server.wsConnections then 1 else 0) ∧
      server.wsConnections.Nodup := by
  intro server
  have htracks : Tracks server := (Tracks.constructed app).exec hl
  have hcount : 0 + opensIn handle as = server.tracks handle + closesIn handle as :=
    tracks_exec (.constructed app) hl handle
  refine ⟨opensIn_le hl handle, ?_, htracks.nodup⟩
  rw [Nat.zero_add, Nat.add_comm] at hcount
  exact hcount

/-- One client comes and goes while another one stays. -/
theorem handlers_paired_twoClients :
    let run : List (ServerEvent Unit Empty) := startUp ++ [.accept 0, .accept 1,
      .handshakeDone 1, .handshakeDone 0, .message 0 (), .clientCloses 0, .terminate 0,
      .closeHandler 0]
    let server := (serverMachine .silent).exec (.constructed Unit ()) run
    opensIn 1 run ≤ 1 ∧
      opensIn 1 run = closesIn 1 run + (if 1 ∈ server.wsConnections then 1 else 0) ∧
      server.wsConnections.Nodup :=
  handlers_paired .silent () (by decide) 1

end

end BallchasingReplayPlayer
