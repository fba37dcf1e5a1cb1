import BallchasingReplayPlayer.Server.Invariants

/-!
# Shutting Down With Clients

The loop of `ShutdownWebSocketServer` asks the tracked connections to close, one after the
other. Tracked connections need not be open any more, connections in their handshake are not
tracked yet, and the close handler may erase the element that the iterator of the loop stands
on.

## Main Results

- `nextHandle_eq_some`, `nextHandle_eq_none`: where the iterator gets to
- `runCanEnd_iff`: `run()` can end without its clients iff no connection is open
- `shutdownClean_of_shutdownSafe`: which runs ask every open connection to close, let no
  exception out and keep the iterator valid
-/

namespace BallchasingReplayPlayer

open LexicalPath Transition

/-! ## The Loop -/

theorem nextHandle_eq_some {after : Option ClientHandle} {wsConnections : List ClientHandle}
    {handle : ClientHandle} (h : nextHandle after wsConnections = some handle) :
    handle ∈ wsConnections ∧
      ∀ other ∈ wsConnections, after.all (· < other) = true → handle ≤ other := by
  obtain ⟨hmem, hleast⟩ := List.min?_eq_some_iff.mp h
  refine ⟨List.mem_of_mem_filter hmem, ?_⟩
  intro other hother hafter
  exact hleast other (List.mem_filter.mpr ⟨hother, hafter⟩)

theorem nextHandle_eq_none {after : Option ClientHandle} {wsConnections : List ClientHandle}
    (h : nextHandle after wsConnections = none) :
    ∀ other ∈ wsConnections, after.all (· < other) = false := by
  intro other hother
  have hnil := List.min?_eq_none_iff.mp h
  by_contra hafter
  have hmem : other ∈ wsConnections.filter fun handle => after.all (· < handle) :=
    List.mem_filter.mpr ⟨hother, by simpa using hafter⟩
  rw [hnil] at hmem
  cases hmem

/-- The loop has not begun, or it will still come to this handle. -/
def Control.stillVisits : Control → ClientHandle → Bool
  | .advancing after, handle => after.all (· < handle)
  | .closing current, handle => current ≤ handle
  | .waiting, _ | .joining, _ => false
  | .idle, _ | .stopping, _ | .leaving, _ => true

section

variable {App Msg Ev : Type} {service : Service App Msg Ev} {s : ServerState App Msg}
  {e : ServerEvent Msg Ev}

/-- The iterator has not lost its element when it is moved on, the loop comes to open
    connections only, and no handshake ends on a connection the loop has passed. -/
def ShutdownSafe (s : ServerState App Msg) : ServerEvent Msg Ev → Prop
  | .advance after => ∀ handle ∈ after, handle ∈ s.wsConnections
  | .closeClient handle => (s.conns handle).isOpen = true
  | .handshakeDone handle => s.control.stillVisits handle = true
  | _ => True

instance (s : ServerState App Msg) : ∀ e : ServerEvent Msg Ev, Decidable (ShutdownSafe s e)
  | .advance _ => inferInstanceAs (Decidable (∀ handle ∈ _, _))
  | .closeClient _ | .handshakeDone _ => inferInstanceAs (Decidable (_ = true))
  | .startAsync | .addMessageHandler | .shutdown | .destructor | .stopListening | .lockMutex
  | .join | .destroyMembers | .lock | .initAsio _ | .setHandlers | .reset _ | .listen _
  | .startAccept _ | .enterRun | .runReturns | .runThrows | .accept _ | .handshakeFailed _
  | .message _ _ | .clientCloses _ | .terminate _ | .closeHandler _ | .released _
  | .background _ => inferInstanceAs (Decidable True)

/-- The open connections of a state are tracked, and the loop will come to them. -/
structure Reaches (control : Control) (conns : ClientHandle → ConState)
    (wsConnections : List ClientHandle) : Prop where
  tracked : ∀ handle, (conns handle).isOpen = true → handle ∈ wsConnections
  ahead : ∀ handle, (conns handle).isOpen = true → control.stillVisits handle = true

/-! ## Connections -/

section Reaching

variable {control : Control} {conns : ClientHandle → ConState}
  {wsConnections : List ClientHandle} {handle : ClientHandle} {state : ConState}

/-- A state that no connection has is not brought in by another one. -/
theorem update_ne {bad : ConState} (hstate : state ≠ bad) {other : ClientHandle}
    (hother : conns other ≠ bad) : Function.update conns handle state other ≠ bad := by
  by_cases heq : other = handle
  · rw [heq, Function.update_self]
    exact hstate
  · rw [Function.update_of_ne heq]
    exact hother

/-- A connection that is not opened needs nothing. -/
theorem Reaches.update (h : Reaches control conns wsConnections) (handle : ClientHandle)
    (hstate : state.isOpen = true → (conns handle).isOpen = true) :
    Reaches control (Function.update conns handle state) wsConnections := by
  have hold : ∀ other, (Function.update conns handle state other).isOpen = true →
      (conns other).isOpen = true := by
    intro other hother
    by_cases heq : other = handle
    · rw [heq, Function.update_self] at hother
      exact heq ▸ hstate hother
    · rwa [Function.update_of_ne heq] at hother
  exact ⟨fun other hother => h.tracked other (hold other hother),
    fun other hother => h.ahead other (hold other hother)⟩

/-- The open handler tracks a connection the loop has not passed. -/
theorem Reaches.insert (h : Reaches control conns wsConnections)
    (hvisits : control.stillVisits handle = true) :
    Reaches control (Function.update conns handle .opened) (wsConnections.insert handle) := by
  refine ⟨?_, ?_⟩
  · intro other hother
    by_cases heq : other = handle
    · exact heq ▸ List.mem_insert_self
    · rw [Function.update_of_ne heq] at hother
      exact List.mem_insert_of_mem (h.tracked other hother)
  · intro other hother
    by_cases heq : other = handle
    · exact heq ▸ hvisits
    · rw [Function.update_of_ne heq] at hother
      exact h.ahead other hother

/-- The close handler forgets a connection that is not open. -/
theorem Reaches.erase (h : Reaches control conns wsConnections)
    (hclosed : (conns handle).isOpen = false) :
    Reaches control conns (wsConnections.filter (· ≠ handle)) := by
  refine ⟨?_, h.ahead⟩
  intro other hother
  have hne : other ≠ handle := by
    intro heq
    rw [heq, hclosed] at hother
    cases hother
  exact List.mem_filter.mpr ⟨h.tracked other hother, by simpa using hne⟩

/-- Outside the loop everything is still to come. -/
theorem Reaches.outside (h : Reaches control conns wsConnections) {control' : Control}
    (hvisits : ∀ handle, control'.stillVisits handle = true) :
    Reaches control' conns wsConnections :=
  ⟨h.tracked, fun handle _ => hvisits handle⟩

/-- The iterator gets to the next element, and the open connections are there or behind it. -/
theorem Reaches.comes {after : Option ClientHandle}
    (h : Reaches (.advancing after) conns wsConnections)
    (hnext : nextHandle after wsConnections = some handle) :
    Reaches (.closing handle) conns wsConnections := by
  obtain ⟨-, hleast⟩ := nextHandle_eq_some hnext
  refine ⟨h.tracked, ?_⟩
  intro other hother
  -- the iterator takes the least handle in front of it, so the others come later
  have hle := hleast other (h.tracked other hother) (h.ahead other hother)
  exact decide_eq_true hle

/-- The loop closes the connection it stands on, and the open ones are behind it. -/
theorem Reaches.closeClient (h : Reaches (.closing handle) conns wsConnections) :
    Reaches (.advancing (some handle)) (Function.update conns handle .closing) wsConnections := by
  have hclosed : Reaches (.closing handle) (Function.update conns handle .closing)
      wsConnections := h.update handle (fun hopen => by cases hopen)
  refine ⟨hclosed.tracked, ?_⟩
  intro other hother
  have hle : handle ≤ other := of_decide_eq_true (hclosed.ahead other hother)
  have hne : handle ≠ other := by
    intro heq
    rw [heq, Function.update_self] at hother
    cases hother
  simpa [Control.stillVisits] using lt_of_le_of_ne hle hne

/-- When the loop is through, no connection is open. -/
theorem Reaches.waiting {after : Option ClientHandle}
    (h : Reaches (.advancing after) conns wsConnections)
    (hnext : nextHandle after wsConnections = none) :
    Reaches .waiting conns wsConnections := by
  refine ⟨h.tracked, ?_⟩
  intro handle hopen
  -- an open connection is tracked and in front of the loop, which has nothing left there
  have hbehind := nextHandle_eq_none hnext handle (h.tracked handle hopen)
  exact absurd (hbehind.symm.trans (h.ahead handle hopen)) Bool.false_ne_true

end Reaching

/-! ## Steps -/

/-- What the loop has done so far and the open connections, without the coherence of the
    threads. -/
structure ShutdownPart (s : ServerState App Msg) : Prop where
  returned : s.shutdownThrew = false
  iterates : s.terminated ≠ some .danglingIterator
  reaches : Reaches s.control s.conns s.wsConnections

theorem ShutdownPart.shutdownReturns (h : ShutdownPart s) : ShutdownPart s.shutdownReturns := by
  unfold ServerState.shutdownReturns
  split
  · exact ⟨h.returned, h.iterates, h.reaches.outside fun _ => rfl⟩
  · exact ⟨h.returned, h.iterates, h.reaches.outside fun _ => rfl⟩

theorem ShutdownPart.shutdownBegins (h : ShutdownPart s) : ShutdownPart s.shutdownBegins := by
  unfold ServerState.shutdownBegins
  split
  · exact ⟨h.returned, h.iterates, h.reaches.outside fun _ => rfl⟩
  · exact h.shutdownReturns

theorem ShutdownPart.advance (h : ShutdownPart s) {after : Option ClientHandle}
    (hcontrol : s.control = .advancing after)
    (hok : ∀ handle ∈ after, handle ∈ s.wsConnections) : ShutdownPart (s.advance after) := by
  have hreaches := h.reaches
  rw [hcontrol] at hreaches
  refine ServerState.advance_cases ?_ ?_ ?_
  · exact fun hnext => ⟨h.returned, h.iterates, hreaches.waiting hnext⟩
  · exact fun handle hnext => ⟨h.returned, h.iterates, hreaches.comes hnext⟩
  · exact fun herased => absurd hok herased

theorem ShutdownPart.closeClient (h : ShutdownPart s) {handle : ClientHandle}
    (hcontrol : s.control = .closing handle) (hok : (s.conns handle).isOpen = true) :
    ShutdownPart (s.closeClient handle) := by
  have hreaches := h.reaches
  rw [hcontrol] at hreaches
  refine ServerState.closeClient_cases ?_ ?_ ?_
  · exact fun _ _ => ⟨h.returned, h.iterates, hreaches.closeClient⟩
  · exact fun hclosed => absurd (hclosed.symm.trans hok) Bool.false_ne_true
  · exact fun herased => absurd (hreaches.tracked handle hok) herased

/-- A coherent server has a thread to join. -/
theorem ShutdownPart.join (h : ShutdownPart s) (hcoherent : ServerInvariant s)
    (hcontrol : s.control = .joining) : ShutdownPart s.join := by
  obtain ⟨pc, hpc, -⟩ := hcoherent.started (Or.inr (by rw [hcontrol]; rfl))
  unfold ServerState.join
  rw [if_pos (by simp [hpc])]
  exact ShutdownPart.shutdownReturns ⟨h.returned, h.iterates, h.reaches⟩

/-- An exception leaves the connection of its message open, and where it was. -/
theorem ShutdownPart.message (h : ShutdownPart s) (service : Service App Msg Ev)
    {handle : ClientHandle} (hopen : s.conns handle = .opened) (msg : Msg) :
    ShutdownPart (s.message service handle msg) := by
  refine ⟨h.returned, h.iterates, ?_⟩
  unfold ServerState.message
  dsimp only
  split
  · exact h.reaches.update handle (fun _ => by rw [hopen]; rfl)
  · exact h.reaches

theorem ShutdownPart.next (h : ShutdownPart s) (hcoherent : ServerInvariant s)
    (he : (serverMachine service).enabled s e) (hok : ShutdownSafe s e) :
    ShutdownPart (s.next service e) := by
  obtain ⟨-, -, hg⟩ := he
  have hconn : ∀ (handle : ClientHandle) {state : ConState}, state.isOpen = false →
      Reaches s.control (Function.update s.conns handle state) s.wsConnections :=
    fun handle _ hstate => h.reaches.update handle (fun hopen => by rw [hstate] at hopen; cases hopen)
  cases e with
  | startAsync =>
    simp only [ServerState.next, ServerState.startAsync]
    split
    · exact ⟨h.returned, by simp, h.reaches⟩
    · exact ⟨h.returned, h.iterates, h.reaches⟩
  | shutdown => exact h.shutdownBegins
  | destructor => exact ShutdownPart.shutdownBegins ⟨h.returned, h.iterates, h.reaches⟩
  | stopListening => exact ⟨h.returned, h.iterates, h.reaches.outside fun _ => rfl⟩
  | advance after => exact h.advance hg hok
  | closeClient handle => exact h.closeClient hg hok
  | lockMutex =>
    have hreaches := h.reaches
    rw [hg.1] at hreaches
    exact ⟨h.returned, h.iterates, hreaches.tracked, hreaches.ahead⟩
  | join => exact h.join hcoherent hg.1
  | destroyMembers =>
    simp only [ServerState.next, ServerState.destroyMembers]
    split
    · exact ⟨h.returned, by simp, h.reaches⟩
    · exact ⟨h.returned, h.iterates, h.reaches⟩
  -- connections
  | accept handle => exact ⟨h.returned, h.iterates, hconn handle rfl⟩
  | handshakeDone handle => exact ⟨h.returned, h.iterates, h.reaches.insert hok⟩
  | handshakeFailed handle => exact ⟨h.returned, h.iterates, hconn handle rfl⟩
  | message handle msg => exact h.message service hg.2 msg
  | clientCloses handle => exact ⟨h.returned, h.iterates, hconn handle rfl⟩
  | terminate handle => exact ⟨h.returned, h.iterates, hconn handle rfl⟩
  | closeHandler handle =>
    have hexpired : (Function.update s.conns handle .expired handle).isOpen = false := by
      rw [Function.update_self]
      rfl
    exact ⟨h.returned, h.iterates, Reaches.erase (hconn handle rfl) hexpired⟩
  | released handle => exact ⟨h.returned, h.iterates, hconn handle rfl⟩
  | _ => exact ⟨h.returned, h.iterates, h.reaches⟩

/-! ## The End of `run()` -/

/-- The steps of `run()` that need no client: the timers of the two handshakes, the close
    handler, and its return. -/
def WithoutClient (s : ServerState App Msg) : ServerEvent Msg Ev → Prop
  | .terminate handle => s.conns handle = .closing
  | .handshakeFailed _ | .closeHandler _ | .runReturns => True
  | _ => False

/-- Whatever the clients do, `run()` can get to its end. -/
def RunCanEnd (service : Service App Msg Ev) (s : ServerState App Msg) : Prop :=
  ∃ bs, (serverMachine service).Along WithoutClient s bs ∧
    (serverMachine service).Legal s (bs ++ [.runReturns])

/-- Two states agree on everything but connections. -/
structure SameRun (s s' : ServerState App Msg) : Prop where
  destroyed : s'.destroyed = s.destroyed
  terminated : s'.terminated = s.terminated
  serverThread : s'.serverThread = s.serverThread
  listening : s'.listening = s.listening
  accepted : s'.accepted = s.accepted

theorem SameRun.trans {s₁ s₂ s₃ : ServerState App Msg} (h : SameRun s₁ s₂) (h' : SameRun s₂ s₃) :
    SameRun s₁ s₃ :=
  ⟨h'.destroyed.trans h.destroyed, h'.terminated.trans h.terminated,
    h'.serverThread.trans h.serverThread, h'.listening.trans h.listening,
    h'.accepted.trans h.accepted⟩

/-- The server is in `run()` and alive. -/
structure Running (s : ServerState App Msg) : Prop where
  destroyed : s.destroyed = false
  terminated : s.terminated = none
  inRun : s.serverThread = some .inRun

theorem Running.same (h : Running s) {s' : ServerState App Msg} (hsame : SameRun s s') :
    Running s' :=
  ⟨hsame.destroyed.trans h.destroyed, hsame.terminated.trans h.terminated,
    hsame.serverThread.trans h.inRun⟩

/-- A connection that is not open gets to its end without its client. -/
theorem exists_run_expired (service : Service App Msg Ev) (hrun : Running s)
    {handle : ClientHandle} (hopen : (s.conns handle).isOpen = false)
    (hknown : s.conns handle ≠ .absent) :
    ∃ bs, (serverMachine service).Along WithoutClient s bs ∧ (serverMachine service).Legal s bs ∧
      SameRun s ((serverMachine service).exec s bs) ∧
      ((serverMachine service).exec s bs).conns = Function.update s.conns handle .expired := by
  obtain ⟨hlive, halive, hin⟩ := hrun
  have henabled : ∀ b : ServerEvent Msg Ev, s.guard service b →
      (serverMachine service).enabled s b := fun b hb => ⟨hlive, halive, hb⟩
  cases hstate : s.conns handle with
  | absent => exact absurd hstate hknown
  | opened | unread =>
    rw [hstate] at hopen
    cases hopen
  | handshake =>
    refine ⟨[.handshakeFailed handle], ⟨trivial, trivial⟩, ?_, ⟨rfl, rfl, rfl, rfl, rfl⟩, rfl⟩
    exact ⟨henabled _ ⟨hin, hstate⟩, trivial⟩
  -- a close handshake the client does not answer times out
  | closing =>
    refine ⟨[.terminate handle, .closeHandler handle], ⟨hstate, trivial, trivial⟩, ?_,
      ⟨rfl, rfl, rfl, rfl, rfl⟩, ?_⟩
    · refine ⟨henabled _ ⟨hin, Or.inr hstate⟩, ⟨hlive, halive, hin, ?_⟩, trivial⟩
      exact Function.update_self ..
    · exact Function.update_idem ..
  | closed =>
    refine ⟨[.closeHandler handle], ⟨trivial, trivial⟩, ?_, ⟨rfl, rfl, rfl, rfl, rfl⟩, rfl⟩
    exact ⟨henabled _ ⟨hin, hstate⟩, trivial⟩
  | expired =>
    refine ⟨[], trivial, trivial, ⟨rfl, rfl, rfl, rfl, rfl⟩, ?_⟩
    rw [Machine.exec_nil, ← hstate, Function.update_eq_self]

/-- So do all connections of a list, one after the other. -/
theorem exists_run_allExpired (service : Service App Msg Ev) (handles : List ClientHandle)
    {s : ServerState App Msg} (hrun : Running s)
    (hopen : ∀ handle ∈ handles, (s.conns handle).isOpen = false)
    (hknown : ∀ handle ∈ handles, s.conns handle ≠ .absent) :
    ∃ bs, (serverMachine service).Along WithoutClient s bs ∧ (serverMachine service).Legal s bs ∧
      SameRun s ((serverMachine service).exec s bs) ∧
      ∀ handle, handle ∈ handles ∨ s.conns handle = .expired →
        ((serverMachine service).exec s bs).conns handle = .expired := by
  induction handles generalizing s with
  | nil =>
    refine ⟨[], trivial, trivial, ⟨rfl, rfl, rfl, rfl, rfl⟩, ?_⟩
    intro handle hhandle
    exact hhandle.resolve_left List.not_mem_nil
  | cons first rest ih =>
    -- the run that ends the first connection changes no other
    obtain ⟨bs, hbs, hlegal, hsame, hconns⟩ := exists_run_expired service hrun
      (hopen first List.mem_cons_self) (hknown first List.mem_cons_self)
    have hrestOpen : ∀ handle ∈ rest,
        (((serverMachine service).exec s bs).conns handle).isOpen = false := by
      intro handle hh
      rw [hconns]
      by_cases heq : handle = first
      · rw [heq, Function.update_self]
        rfl
      · rw [Function.update_of_ne heq]
        exact hopen handle (List.mem_cons_of_mem first hh)
    have hrestKnown : ∀ handle ∈ rest,
        ((serverMachine service).exec s bs).conns handle ≠ .absent := by
      intro handle hh
      rw [hconns]
      exact update_ne (by simp) (hknown handle (List.mem_cons_of_mem first hh))
    obtain ⟨cs, hcs, hlegal', hsame', hexpired⟩ := ih (hrun.same hsame) hrestOpen hrestKnown
    refine ⟨bs ++ cs, Machine.along_append.mpr ⟨hbs, hcs⟩,
      Machine.along_append.mpr ⟨hlegal, hlegal'⟩, ?_, ?_⟩
    · rw [Machine.exec_append]
      exact hsame.trans hsame'
    · intro handle hhandle
      rw [Machine.exec_append]
      apply hexpired
      by_cases hmem : handle ∈ rest
      · exact Or.inl hmem
      · right
        rw [hconns]
        by_cases heq : handle = first
        · rw [heq, Function.update_self]
        · rw [Function.update_of_ne heq]
          rcases hhandle with hhandle | hhandle
          · exact absurd hhandle (by simp [heq, hmem])
          · exact hhandle

/-- Every accepted connection has a state. -/
def AcceptedKnown (s : ServerState App Msg) : Prop :=
  ∀ handle ∈ s.accepted, s.conns handle ≠ .absent

/-- An open connection stays as it is, as long as nothing comes from its client. -/
theorem conns_withoutClient (he : (serverMachine service).enabled s e) (hfree : WithoutClient s e)
    {handle : ClientHandle} (hopen : (s.conns handle).isOpen = true) :
    (s.next service e).conns handle = s.conns handle ∧
      (s.next service e).accepted = s.accepted := by
  obtain ⟨-, -, hg⟩ := he
  have hother : ∀ {handle' : ClientHandle} {before : ConState} (after : ConState),
      s.conns handle' = before → before.isOpen = false →
      Function.update s.conns handle' after handle = s.conns handle := by
    intro handle' before after hbefore hclosed
    refine Function.update_of_ne ?_ after s.conns
    intro heq
    rw [heq, hbefore, hclosed] at hopen
    cases hopen
  cases e with
  | terminate handle' => exact ⟨hother .closed hfree rfl, rfl⟩
  | handshakeFailed handle' => exact ⟨hother .expired hg.2 rfl, rfl⟩
  | closeHandler handle' => exact ⟨hother .expired hg.2 rfl, rfl⟩
  | runReturns => exact ⟨rfl, rfl⟩
  | _ => exact hfree.elim

/-- A connection that is open keeps `run()` going. -/
theorem not_runCanEnd_of_isOpen (handle : ClientHandle) (hmem : handle ∈ s.accepted)
    (hopen : (s.conns handle).isOpen = true) : ¬ RunCanEnd service s := by
  intro h
  obtain ⟨bs, hbs, hl⟩ := h
  induction bs generalizing s with
  | nil =>
    -- `run()` returns when all handles have expired
    obtain ⟨⟨-, -, -, -, hexpired⟩, -⟩ := hl
    rw [hexpired handle hmem] at hopen
    cases hopen
  | cons b bs ih =>
    obtain ⟨hconns, haccepted⟩ := conns_withoutClient hl.1 hbs.1 hopen
    have hmem' : handle ∈ (s.next service b).accepted := haccepted ▸ hmem
    have hopen' : ((s.next service b).conns handle).isOpen = true := hconns ▸ hopen
    exact ih hmem' hopen' hbs.2 hl.2

/-- **Progress**: a `run()` that nobody listens behind can end without its clients iff no
    connection it has accepted is open. -/
theorem runCanEnd_iff (service : Service App Msg Ev) (hrun : Running s)
    (hlisten : s.listening = false) (hknown : AcceptedKnown s) :
    RunCanEnd service s ↔ ∀ handle ∈ s.accepted, (s.conns handle).isOpen = false := by
  constructor
  · intro h handle hmem
    by_contra hopen
    exact not_runCanEnd_of_isOpen handle hmem (by simpa using hopen) h
  · intro hopen
    obtain ⟨bs, hbs, hlegal, hsame, hexpired⟩ :=
      exists_run_allExpired service s.accepted hrun hopen hknown
    refine ⟨bs, hbs, Machine.along_append.mpr ⟨hlegal, ?_, trivial⟩⟩
    obtain ⟨hlive, halive, hin⟩ := hrun.same hsame
    refine ⟨hlive, halive, hin, hsame.listening.trans hlisten, ?_⟩
    intro handle hhandle
    rw [hsame.accepted] at hhandle
    exact hexpired handle (Or.inl hhandle)

/-! ## Whole Runs -/

/-- No exception has left `ShutdownWebSocketServer`, and its iterator was never used without
    its element; and once it waits for the server thread, every connection that was open has
    been asked to close, so that `run()` can end however long the clients would stay. -/
structure ShutdownClean (service : Service App Msg Ev) (s : ServerState App Msg) : Prop where
  returned : s.shutdownThrew = false
  iterates : s.terminated ≠ some .danglingIterator
  asked : s.control = .waiting ∨ s.control = .joining → ∀ handle, (s.conns handle).isOpen = false
  ends : s.control = .waiting → Running s → RunCanEnd service s

/-- What runs of safe steps keep. -/
structure ShutdownInvariant (s : ServerState App Msg) : Prop where
  coherent : ServerInvariant s
  part : ShutdownPart s
  known : AcceptedKnown s

theorem ShutdownInvariant.clean (h : ShutdownInvariant s) : ShutdownClean service s := by
  have hasked : s.control = .waiting ∨ s.control = .joining →
      ∀ handle, (s.conns handle).isOpen = false := by
    intro hcontrol handle
    by_contra hopen
    have hahead := h.part.reaches.ahead handle (by simpa using hopen)
    rcases hcontrol with hcontrol | hcontrol
    · rw [hcontrol] at hahead
      cases hahead
    · rw [hcontrol] at hahead
      cases hahead
  refine ⟨h.part.returned, h.part.iterates, hasked, ?_⟩
  intro hwaiting hrun
  have hlisten := h.coherent.stopped (by rw [hwaiting]; rfl)
  exact (runCanEnd_iff service hrun hlisten h.known).mpr
    (fun handle _ => hasked (Or.inl hwaiting) handle)

theorem AcceptedKnown.setConn (h : AcceptedKnown s) (handle : ClientHandle) {state : ConState}
    (hstate : state ≠ .absent) : AcceptedKnown (s.setConn handle state) := by
  intro other hother
  exact update_ne hstate (h other hother)

theorem AcceptedKnown.same (h : AcceptedKnown s) {s' : ServerState App Msg}
    (hsame : SameClients s s') : AcceptedKnown s' := by
  unfold AcceptedKnown
  rw [hsame.accepted, hsame.conns]
  exact h

theorem AcceptedKnown.message (h : AcceptedKnown s) (service : Service App Msg Ev)
    (handle : ClientHandle) (msg : Msg) : AcceptedKnown (s.message service handle msg) := by
  unfold ServerState.message
  dsimp only
  split
  · exact fun other hother => update_ne (by simp) (h other hother)
  · exact h

theorem AcceptedKnown.next (h : AcceptedKnown s) : AcceptedKnown (s.next service e) := by
  cases e with
  | startAsync => exact h.same (.startAsync s)
  | shutdown => exact h.same (.shutdownBegins s)
  | destructor =>
    have hin : AcceptedKnown { s with inDestructor := true } := h
    exact hin.same (.shutdownBegins _)
  | advance after => exact h.same (.advance s after)
  | closeClient handle =>
    simp only [ServerState.next]
    exact ServerState.closeClient_cases (fun _ _ => h.setConn handle (by simp)) (fun _ => h)
      (fun _ => h)
  | join => exact h.same (.join s)
  | destroyMembers => exact h.same (.destroyMembers s)
  | accept handle =>
    have hset : AcceptedKnown (s.setConn handle .handshake) := h.setConn handle (by simp)
    intro other hother
    rcases List.mem_cons.mp hother with rfl | hother
    · show Function.update s.conns other .handshake other ≠ .absent
      rw [Function.update_self]
      simp
    · exact hset other hother
  | handshakeDone handle => exact h.setConn handle (by simp)
  | handshakeFailed handle => exact h.setConn handle (by simp)
  | clientCloses handle => exact h.setConn handle (by simp)
  | terminate handle => exact h.setConn handle (by simp)
  | closeHandler handle => exact h.setConn handle (by simp)
  | released handle => exact h.setConn handle (by simp)
  | message handle msg => exact h.message service handle msg
  | _ => exact h

/-- **Step lemma**: safe steps keep a shutdown clean. -/
theorem ShutdownInvariant.next (h : ShutdownInvariant s)
    (he : (serverMachine service).enabled s e) (hok : ShutdownSafe s e) :
    ShutdownInvariant (s.next service e) :=
  ⟨h.coherent.next he, h.part.next h.coherent he hok, h.known.next⟩

theorem ShutdownInvariant.constructed (app : App) :
    ShutdownInvariant (ServerState.constructed Msg app) :=
  ⟨.constructed app, ⟨rfl, by simp [ServerState.constructed],
    by simp [ServerState.constructed, ConState.isOpen],
    by simp [ServerState.constructed, ConState.isOpen]⟩,
    by simp [AcceptedKnown, ServerState.constructed]⟩

end

/-- **Shutdowns are clean** in every run whose close loops never lose the element they stand on
    and come to open connections only, and in which no handshake ends behind the loop. -/
theorem shutdownClean_of_shutdownSafe {App Msg Ev : Type} (service : Service App Msg Ev)
    (app : App) {as : List (ServerEvent Msg Ev)}
    (hl : (serverMachine service).Legal (.constructed Msg app) as)
    (hok : (serverMachine service).Along ShutdownSafe (.constructed Msg app) as) :
    (serverMachine service).Throughout (ShutdownClean service) (.constructed Msg app) as := by
  apply Machine.Legal.throughout (I := ShutdownInvariant) _ _ (.constructed app) hl hok
  · exact fun s h => h.clean
  · exact fun s e h he hsafe => h.next he hsafe

/-- The server thread on its way into `run()`, its handler registered. -/
def startUp : List (ServerEvent Unit Empty) :=
  [.startAsync, .addMessageHandler, .lock, .initAsio none, .setHandlers, .reset false,
    .listen false, .startAccept false, .enterRun]

/-- A client whose connection is open is asked to close, and the server ends. -/
theorem shutdownClean_oneClient :
    (serverMachine .silent).Throughout (ShutdownClean .silent) (.constructed Unit ())
      (startUp ++ [.accept 0, .handshakeDone 0, .destructor, .stopListening, .advance none,
        .closeClient 0, .advance (some 0), .terminate 0, .closeHandler 0, .runReturns,
        .lockMutex, .join, .destroyMembers]) :=
  shutdownClean_of_shutdownSafe .silent () (by decide) (by decide)

/-- A client that is closing makes `close` throw out of the destructor, and so does the handle
    of a connection whose message handler has thrown; a handshake that ends behind the loop
    leaves a connection open that nobody asked to close, and `run()` cannot end without its
    client; and a client that is disconnected right behind `close` takes the element away that
    the loop stands on. -/
theorem shutdown_throws_and_leaves_open :
    let closing := startUp ++ [.accept 0, .handshakeDone 0, .clientCloses 0, .destructor,
      .stopListening, .advance none, .closeClient 0]
    let expired := startUp ++ [.accept 0, .handshakeDone 0, .message 0 (), .released 0,
      .destructor, .stopListening, .advance none, .closeClient 0]
    let late := startUp ++ [.accept 0, .destructor, .stopListening, .advance none,
      .handshakeDone 0]
    let erased := startUp ++ [.accept 0, .handshakeDone 0, .destructor, .stopListening,
      .advance none, .closeClient 0, .terminate 0, .closeHandler 0, .advance (some 0)]
    ((serverMachine .silent).Legal (.constructed Unit ()) closing ∧
      ((serverMachine .silent).exec (.constructed Unit ()) closing).shutdownThrew = true ∧
      ((serverMachine .silent).exec (.constructed Unit ()) closing).terminated =
        some .exceptionInDestructor) ∧
    ((serverMachine .failing).Legal (.constructed Unit ()) expired ∧
      ((serverMachine .failing).exec (.constructed Unit ()) expired).shutdownThrew = true) ∧
    ((serverMachine .silent).Legal (.constructed Unit ()) late ∧
      ((serverMachine .silent).exec (.constructed Unit ()) late).control = .waiting ∧
      ((serverMachine .silent).exec (.constructed Unit ()) late).conns 0 = .opened ∧
      ¬ RunCanEnd .silent ((serverMachine .silent).exec (.constructed Unit ()) late)) ∧
    (serverMachine .silent).Legal (.constructed Unit ()) erased ∧
      ((serverMachine .silent).exec (.constructed Unit ()) erased).terminated =
        some .danglingIterator :=
  ⟨⟨by decide, by decide, by decide⟩, ⟨by decide, by decide⟩,
    ⟨by decide, by decide, by decide,
      not_runCanEnd_of_isOpen 0 (by decide) (by decide)⟩, by decide, by decide⟩

end BallchasingReplayPlayer
