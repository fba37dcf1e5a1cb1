import Mathlib.Algebra.Order.BigOperators.Group.List
import BallchasingReplayPlayer.Server.Clients

/-!
# The End of a Shutdown

Once `stop_listening` has been called, the loop, the server thread and the connections have a
bounded number of steps left. Messages and what happens in the plugin are not counted; the
connections they belong to are. Whether the next of these steps comes is another question: a
connection that is open and that nobody has asked to close stays as long as its client.

## Layers

1. `StopInvariant` — what every run keeps about a shutdown that has stopped listening
2. `ServerState.stepsLeft` — a rank that every step of the server lowers
3. `exists_enabled_of_stopped` — there is a next step that needs no client

## Main Results

- `shutdown_bounded`: how many steps of the server lie inside a shutdown
- `shutdown_ends`: behind runs of safe steps, a shutdown gets to its end without its clients
-/

namespace BallchasingReplayPlayer

open LexicalPath Transition

section

variable {App Msg Ev : Type} {service : Service App Msg Ev} {s : ServerState App Msg}
  {e : ServerEvent Msg Ev} {as : List (ServerEvent Msg Ev)}

/-! ## A Shutdown That Has Stopped Listening -/

/-- Only `accept` adds to the connections the endpoint knows. -/
theorem accepted_next (e : ServerEvent Msg Ev) :
    (s.next service e).accepted =
      match e with
      | .accept handle => handle :: s.accepted
      | _ => s.accepted := by
  cases e with
  | startAsync => exact (SameClients.startAsync s).accepted
  | shutdown => exact (SameClients.shutdownBegins s).accepted
  | destructor => exact (SameClients.shutdownBegins { s with inDestructor := true }).accepted
  | advance after => exact (SameClients.advance s after).accepted
  | closeClient handle =>
    simp only [ServerState.next]
    exact ServerState.closeClient_cases (fun _ _ => rfl) (fun _ => rfl) (fun _ => rfl)
  | join => exact (SameClients.join s).accepted
  | destroyMembers => exact (SameClients.destroyMembers s).accepted
  | _ => rfl

/-- What every run keeps about the end of a shutdown. -/
structure StopInvariant (s : ServerState App Msg) : Prop where
  coherent : ServerInvariant s
  tracks : Tracks s
  accepted : ∀ handle, s.conns handle ≠ .absent → handle ∈ s.accepted
  alive : s.control.afterStop = true → s.destroyed = false ∧ s.terminated = none
  joining : s.control = .joining → s.serverThread = some .returned

/-- Every connection has been accepted. -/
theorem StopInvariant.accepted_next (h : StopInvariant s)
    (he : (serverMachine service).enabled s e) (handle : ClientHandle)
    (hknown : (s.next service e).conns handle ≠ .absent) :
    handle ∈ (s.next service e).accepted := by
  have hmove := conMove_next he handle
  rw [BallchasingReplayPlayer.accepted_next]
  have hsub : s.conns handle ≠ .absent → handle ∈ (match e with
      | .accept handle => handle :: s.accepted
      | _ => s.accepted) := by
    intro hbefore
    have hmem := h.accepted handle hbefore
    cases e with
    | accept handle' => exact List.mem_cons_of_mem _ hmem
    | _ => exact hmem
  generalize s.conns handle = before at hmove hsub
  generalize (s.next service e).conns handle = after at hmove hknown
  cases hmove with
  | stays _ _ => exact hsub hknown
  | accepted => exact List.mem_cons_self ..
  | asked hstate =>
    exact hsub (ConState.ne_absent_of_isLive (ConState.isLive_of_canEnd (Or.inl hstate)))
  | ended hstate => exact hsub (ConState.ne_absent_of_isLive (ConState.isLive_of_canEnd hstate))
  | _ => exact hsub (by simp)

/-- A shutdown that returns or throws is over. -/
theorem afterStop_shutdownReturns (s : ServerState App Msg) :
    s.shutdownReturns.control.afterStop = false := by
  unfold ServerState.shutdownReturns
  split
  · rfl
  · rfl

theorem afterStop_shutdownBegins (s : ServerState App Msg) :
    s.shutdownBegins.control.afterStop = false := by
  unfold ServerState.shutdownBegins
  split
  · rfl
  · exact afterStop_shutdownReturns s

theorem afterStop_join (s : ServerState App Msg) : s.join.control.afterStop = false := by
  unfold ServerState.join
  split
  · exact afterStop_shutdownReturns _
  · rfl

theorem control_startAsync (s : ServerState App Msg) : s.startAsync.control = s.control := by
  unfold ServerState.startAsync
  split
  · rfl
  · rfl

theorem control_destroyMembers (s : ServerState App Msg) :
    s.destroyMembers.control = s.control := by
  unfold ServerState.destroyMembers
  split
  · rfl
  · rfl

/-- Nothing ends the program in the middle of a shutdown. -/
theorem alive_next (he : (serverMachine service).enabled s e)
    (hafter : (s.next service e).control.afterStop = true) :
    (s.next service e).destroyed = false ∧ (s.next service e).terminated = none := by
  by_cases hcontrol : e.isControl = true
  · obtain ⟨hlive, halive, hg⟩ := he
    cases e with
    | startAsync =>
      have hidle : (s.next service .startAsync).control = .idle :=
        (control_startAsync s).trans hg.1
      rw [hidle] at hafter
      cases hafter
    | shutdown =>
      exact absurd ((afterStop_shutdownBegins s).symm.trans hafter) Bool.false_ne_true
    | destructor =>
      exact absurd ((afterStop_shutdownBegins _).symm.trans hafter) Bool.false_ne_true
    | advance after =>
      revert hafter
      simp only [ServerState.next]
      exact ServerState.advance_cases (fun _ _ => ⟨hlive, halive⟩)
        (fun _ _ _ => ⟨hlive, halive⟩) (fun _ hafter => by cases hafter)
    | closeClient handle =>
      revert hafter
      simp only [ServerState.next]
      exact ServerState.closeClient_cases (fun _ _ _ => ⟨hlive, halive⟩)
        (fun _ hafter => by cases hafter) (fun _ hafter => by cases hafter)
    | join => exact absurd ((afterStop_join s).symm.trans hafter) Bool.false_ne_true
    | destroyMembers =>
      have hleaving : (s.next service .destroyMembers).control = .leaving :=
        (control_destroyMembers s).trans hg
      rw [hleaving] at hafter
      cases hafter
    | addMessageHandler | stopListening | lockMutex => exact ⟨hlive, halive⟩
    | _ => cases hcontrol
  · have hsame := sameControl_next he (by simpa using hcontrol)
    exact ⟨hsame.destroyed.trans he.1, hsame.terminated.trans he.2.1⟩

/-- A server thread behind `listen` that does not hold the mutex is at its end. -/
theorem returned_of_unlocked {pc : Pc} (hpast : pc.pastListen = true)
    (hfree : pc.holdsMutex = false) : pc = .returned := by
  cases pc <;> simp [Pc.pastListen, Pc.holdsMutex] at hpast hfree ⊢

/-- The control thread has one way to the join, which is through the mutex. -/
theorem eq_lockMutex_of_joining (he : (serverMachine service).enabled s e)
    (hcontrol : e.isControl = true) (hjoining : (s.next service e).control = .joining) :
    e = .lockMutex := by
  have hafter : (s.next service e).control.afterStop = true := by
    rw [hjoining]
    rfl
  obtain ⟨-, -, hg⟩ := he
  cases e with
  | lockMutex => rfl
  | startAsync =>
    have hidle : (s.next service .startAsync).control = .idle :=
      (control_startAsync s).trans hg.1
    rw [hidle] at hjoining
    cases hjoining
  | shutdown =>
    exact absurd ((afterStop_shutdownBegins s).symm.trans hafter) Bool.false_ne_true
  | destructor =>
    exact absurd ((afterStop_shutdownBegins _).symm.trans hafter) Bool.false_ne_true
  | advance after =>
    revert hjoining
    simp only [ServerState.next]
    exact ServerState.advance_cases (fun _ hjoining => by cases hjoining)
      (fun _ _ hjoining => by cases hjoining) (fun _ hjoining => by cases hjoining)
  | closeClient handle =>
    revert hjoining
    simp only [ServerState.next]
    exact ServerState.closeClient_cases (fun _ _ hjoining => by cases hjoining)
      (fun _ hjoining => by cases hjoining) (fun _ hjoining => by cases hjoining)
  | join => exact absurd ((afterStop_join s).symm.trans hafter) Bool.false_ne_true
  | destroyMembers =>
    have hleaving : (s.next service .destroyMembers).control = .leaving :=
      (control_destroyMembers s).trans hg
    rw [hleaving] at hjoining
    cases hjoining
  | addMessageHandler =>
    rw [show (s.next service .addMessageHandler).control = s.control from rfl, hg.1] at hjoining
    cases hjoining
  | stopListening => cases hjoining
  | _ => cases hcontrol

/-- A shutdown that may join has found the server thread at its end. -/
theorem StopInvariant.joining_next (h : StopInvariant s)
    (he : (serverMachine service).enabled s e)
    (hjoining : (s.next service e).control = .joining) :
    (s.next service e).serverThread = some .returned := by
  by_cases hcontrol : e.isControl = true
  · obtain rfl := eq_lockMutex_of_joining he hcontrol hjoining
    obtain ⟨-, -, hwaiting, hfree⟩ := he
    have hinside : s.control.inShutdown = true := by
      rw [hwaiting]
      rfl
    -- the mutex is free, so the server thread has left its `try` block
    obtain ⟨pc, hpc, hpast⟩ := h.coherent.started (Or.inr hinside)
    rw [hpc] at hfree
    show s.serverThread = _
    rw [hpc, returned_of_unlocked hpast (by simpa using hfree)]
  · -- the thread has nothing left to do
    have hsame := sameControl_next he (by simpa using hcontrol)
    have hreturned := h.joining (hsame.control.symm.trans hjoining)
    obtain ⟨-, -, hg⟩ := he
    cases e with
    | background _ | released _ => exact hreturned
    | accept handle => exact absurd (hreturned.symm.trans hg.1) (by simp)
    | lock | handshakeDone _ | handshakeFailed _ | message _ _ | clientCloses _ | terminate _
    | closeHandler _ | runReturns | listen _ =>
      exact absurd (hreturned.symm.trans hg.1) (by simp)
    | initAsio _ | setHandlers | reset _ | startAccept _ | enterRun | runThrows =>
      exact absurd (hreturned.symm.trans hg) (by simp)
    | _ => exact absurd rfl hcontrol

/-- **Step lemma**: every step keeps a shutdown in order. -/
theorem StopInvariant.next (h : StopInvariant s) (he : (serverMachine service).enabled s e) :
    StopInvariant (s.next service e) where
  coherent := h.coherent.next he
  tracks := h.tracks.next he
  accepted := h.accepted_next he
  alive := alive_next he
  joining := h.joining_next he

theorem StopInvariant.constructed (app : App) :
    StopInvariant (ServerState.constructed Msg app) where
  coherent := .constructed app
  tracks := .constructed app
  accepted := fun _ hknown => absurd rfl hknown
  alive := fun hafter => absurd hafter Bool.false_ne_true
  joining := fun hjoining => by cases hjoining

/-! ## The Steps Left -/

/-- The steps a connection can still take. -/
def ConState.stepsLeft : ConState → ℕ
  | .handshake => 5
  | .opened => 4
  | .unread => 3
  | .closing => 2
  | .closed => 1
  | .absent | .expired => 0

/-- The steps the server thread can still take behind `listen`. -/
def Pc.stepsLeft : Pc → ℕ
  | .listening => 3
  | .accepting => 2
  | .inRun => 1
  | .entry | .locked | .asioInitialized | .handlersSet | .endpointReset | .returned => 0

/-- The steps the shutdown can still take: two for every connection the iterator has not got to,
    one for the connection it stands on, the end of the loop, the mutex and the join. -/
def Control.stepsLeft (accepted : List ClientHandle) : Control → ℕ
  | .advancing after => 2 * accepted.countP (fun handle => after.all (· < handle)) + 3
  | .closing current => 2 * accepted.countP (fun handle => current < handle) + 4
  | .waiting => 2
  | .joining => 1
  | .idle | .stopping | .leaving => 0

/-- What is left for the server thread. -/
def ServerState.threadLeft (s : ServerState App Msg) : ℕ :=
  (s.serverThread.map Pc.stepsLeft).getD 0

/-- What is left for the connections. -/
def ServerState.connsLeft (s : ServerState App Msg) : ℕ :=
  (s.accepted.map fun handle => (s.conns handle).stepsLeft).sum

/-- What is left of a shutdown that has stopped listening. -/
def ServerState.stepsLeft (s : ServerState App Msg) : ℕ :=
  s.control.stepsLeft s.accepted + s.threadLeft + s.connsLeft

/-- The step is one of the server, of its threads and of its connections: no message, and
    nothing that happens in the state behind the handlers. -/
def ServerEvent.isWork (e : ServerEvent Msg Ev) : Bool := !e.isMessage && !e.isBackground

theorem ConState.closing_stepsLeft_lt {state : ConState} (h : state.isOpen = true) :
    ConState.closing.stepsLeft < state.stepsLeft := by
  cases state <;> simp [ConState.isOpen, ConState.stepsLeft] at h ⊢

theorem ConState.closed_stepsLeft_lt {state : ConState}
    (h : state.isOpen = true ∨ state = .closing) :
    ConState.closed.stepsLeft < state.stepsLeft := by
  cases state <;> simp [ConState.isOpen, ConState.stepsLeft] at h ⊢

/-- A connection that moves on takes steps off the sum. -/
theorem sum_stepsLeft_update {accepted : List ClientHandle} {conns : ClientHandle → ConState}
    {handle : ClientHandle} {state : ConState} (hmem : handle ∈ accepted)
    (hless : state.stepsLeft < (conns handle).stepsLeft) :
    (accepted.map fun other => (Function.update conns handle state other).stepsLeft).sum <
      (accepted.map fun other => (conns other).stepsLeft).sum := by
  apply List.sum_lt_sum
  · intro other _
    by_cases heq : other = handle
    · rw [heq, Function.update_self]
      exact hless.le
    · rw [Function.update_of_ne heq]
  · exact ⟨handle, hmem, by rwa [Function.update_self]⟩

/-- The loop comes to handles in front of it. -/
theorem ahead_of_nextHandle {wsConnections : List ClientHandle} {after : Option ClientHandle}
    {handle : ClientHandle} (hnext : nextHandle after wsConnections = some handle) :
    after.all (· < handle) = true := by
  have hmem := (List.min?_eq_some_iff.mp hnext).1
  exact (List.mem_filter.mp hmem).2

/-- Where the iterator gets to, it has one connection less in front of it. -/
theorem stepsLeft_closing {accepted wsConnections : List ClientHandle}
    {after : Option ClientHandle} {handle : ClientHandle}
    (hnext : nextHandle after wsConnections = some handle) (hmem : handle ∈ accepted) :
    (Control.closing handle).stepsLeft accepted < (Control.advancing after).stepsLeft accepted := by
  have hahead := ahead_of_nextHandle hnext
  -- what is in front of the iterator behind the step was so before
  have hmono : ∀ other, decide (handle < other) = true → after.all (· < other) = true := by
    intro other hother
    have hless : handle < other := by simpa using hother
    cases after with
    | none => rfl
    | some last =>
      have hlast : last < handle := by simpa using hahead
      simpa using hlast.trans hless
  obtain ⟨l₁, l₂, rfl⟩ := List.append_of_mem hmem
  have hbefore := List.countP_mono_left (l := l₁) fun other _ => hmono other
  have hbehind := List.countP_mono_left (l := l₂) fun other _ => hmono other
  have hfirst : (handle :: l₂).countP (fun other => after.all (· < other)) =
      l₂.countP (fun other => after.all (· < other)) + 1 := List.countP_cons_of_pos hahead
  simp only [Control.stepsLeft, List.countP_append]
  rw [List.countP_cons_of_neg (by simp), hfirst]
  omega

/-- A step of the server thread alone. -/
theorem stepsLeft_goTo {pc : Pc} (hpc : s.serverThread = some pc) (pc' : Pc) :
    (s.goTo pc').stepsLeft + pc.stepsLeft = s.stepsLeft + pc'.stepsLeft := by
  have hthread : s.threadLeft = pc.stepsLeft := by
    unfold ServerState.threadLeft
    rw [hpc]
    rfl
  unfold ServerState.stepsLeft
  rw [hthread]
  show s.control.stepsLeft s.accepted + pc'.stepsLeft + s.connsLeft + pc.stepsLeft = _
  omega

/-- A step of one connection alone. -/
theorem stepsLeft_setConn {handle : ClientHandle} {state : ConState} (hmem : handle ∈ s.accepted)
    (hless : state.stepsLeft < (s.conns handle).stepsLeft) :
    (s.setConn handle state).stepsLeft < s.stepsLeft :=
  Nat.add_lt_add_left (sum_stepsLeft_update hmem hless) _

/-- A message takes no step of the server, unless an exception ends the thread. -/
theorem stepsLeft_message (service : Service App Msg Ev) {handle : ClientHandle}
    (hopened : s.conns handle = .opened) (msg : Msg) :
    (s.message service handle msg).stepsLeft ≤ s.stepsLeft := by
  unfold ServerState.message
  dsimp only
  split
  · -- the exception moves its connection on as well
    have hconns : (s.setConn handle .unread).connsLeft ≤ s.connsLeft := by
      apply List.sum_le_sum
      intro other _
      show (Function.update s.conns handle .unread other).stepsLeft ≤ _
      by_cases heq : other = handle
      · rw [heq, Function.update_self, hopened]
        decide
      · rw [Function.update_of_ne heq]
    show s.control.stepsLeft s.accepted + 0 + (s.setConn handle .unread).connsLeft ≤ _
    unfold ServerState.stepsLeft
    omega
  · exact le_rfl

theorem stepsLeft_advance (h : StopInvariant s) {after : Option ClientHandle}
    (hcontrol : s.control = .advancing after) : (s.advance after).stepsLeft < s.stepsLeft := by
  have hleft : s.stepsLeft =
      (Control.advancing after).stepsLeft s.accepted + s.threadLeft + s.connsLeft := by
    rw [← hcontrol]
    rfl
  have hrounds : 3 ≤ (Control.advancing after).stepsLeft s.accepted := Nat.le_add_left ..
  rw [hleft]
  refine ServerState.advance_cases ?_ ?_ ?_
  · intro _
    show 2 + s.threadLeft + s.connsLeft < _
    omega
  · intro handle hnext
    -- what the iterator gets to has been opened, and so accepted
    have hmay := h.tracks.opened handle (nextHandle_eq_some hnext).1
    have hmem : handle ∈ s.accepted := by
      apply h.accepted
      intro habsent
      rw [habsent] at hmay
      cases hmay
    have hround := stepsLeft_closing hnext hmem
    show (Control.closing handle).stepsLeft s.accepted + s.threadLeft + s.connsLeft < _
    omega
  · intro _
    show 0 + s.threadLeft + s.connsLeft < _
    omega

theorem stepsLeft_closeClient (h : StopInvariant s) {handle : ClientHandle}
    (hcontrol : s.control = .closing handle) : (s.closeClient handle).stepsLeft < s.stepsLeft := by
  have hleft : s.stepsLeft =
      (Control.closing handle).stepsLeft s.accepted + s.threadLeft + s.connsLeft := by
    rw [← hcontrol]
    rfl
  have hrounds : 4 ≤ (Control.closing handle).stepsLeft s.accepted := Nat.le_add_left ..
  rw [hleft]
  refine ServerState.closeClient_cases ?_ ?_ ?_
  · intro _ hopen
    have hmem : handle ∈ s.accepted :=
      h.accepted handle (ConState.ne_absent_of_isLive (ConState.isLive_of_canEnd (Or.inl hopen)))
    have hconn : (s.setConn handle .closing).connsLeft < s.connsLeft :=
      sum_stepsLeft_update hmem (ConState.closing_stepsLeft_lt hopen)
    have hround : (Control.advancing (some handle)).stepsLeft s.accepted + 1 =
        (Control.closing handle).stepsLeft s.accepted := rfl
    show (Control.advancing (some handle)).stepsLeft s.accepted + s.threadLeft +
      (s.setConn handle .closing).connsLeft < _
    omega
  · intro _
    show 0 + s.threadLeft + s.connsLeft < _
    omega
  · intro _
    show 0 + s.threadLeft + s.connsLeft < _
    omega

theorem stepsLeft_shutdownReturns (s : ServerState App Msg) :
    s.shutdownReturns.stepsLeft = s.threadLeft + s.connsLeft := by
  unfold ServerState.shutdownReturns
  split
  · exact congrArg (· + s.connsLeft) (Nat.zero_add s.threadLeft)
  · exact congrArg (· + s.connsLeft) (Nat.zero_add s.threadLeft)

theorem stepsLeft_join (h : StopInvariant s) (hcontrol : s.control = .joining) :
    s.join.stepsLeft < s.stepsLeft := by
  have hreturned := h.joining hcontrol
  unfold ServerState.join
  rw [if_pos (by simp [hreturned]), stepsLeft_shutdownReturns]
  show 0 + s.connsLeft < s.stepsLeft
  unfold ServerState.stepsLeft
  rw [hcontrol]
  show _ < 1 + _ + _
  omega

/-- The thread is behind `listen` while a shutdown is under way. -/
theorem StopInvariant.not_early (h : StopInvariant s) (hafter : s.control.afterStop = true)
    {pc : Pc} (hpc : s.serverThread = some pc) (hearly : pc.pastListen = false) : False := by
  have hinside : s.control.inShutdown = true := by
    cases hcontrol : s.control <;> simp [Control.afterStop, Control.inShutdown, hcontrol] at hafter ⊢
  exact absurd ((h.coherent.early hpc hearly).2.1.symm.trans hinside) Bool.false_ne_true

/-- **Step lemma**: behind `stop_listening`, every step of the server takes one off what is
    left, and no message adds to it. -/
theorem stepsLeft_next (h : StopInvariant s) (he : (serverMachine service).enabled s e)
    (hafter : s.control.afterStop = true) :
    (s.next service e).stepsLeft + e.isWork.toNat ≤ s.stepsLeft := by
  obtain ⟨-, -, hg⟩ := he
  -- a connection that is not absent has been accepted, and moving it on is one step
  have hconn : ∀ {handle : ClientHandle} {before after : ConState}, s.conns handle = before →
      before ≠ .absent → after.stepsLeft < before.stepsLeft →
      (s.setConn handle after).stepsLeft < s.stepsLeft := by
    intro handle before after hbefore hne hless
    exact stepsLeft_setConn (h.accepted handle (hbefore ▸ hne)) (hbefore ▸ hless)
  cases e with
  | startAsync | addMessageHandler | shutdown | destructor =>
    rw [hg.1] at hafter
    cases hafter
  | stopListening | destroyMembers =>
    rw [show s.control = _ from hg] at hafter
    cases hafter
  | advance after => exact stepsLeft_advance h hg
  | closeClient handle => exact stepsLeft_closeClient h hg
  | lockMutex =>
    show 1 + s.threadLeft + s.connsLeft + 1 ≤ s.control.stepsLeft s.accepted + _ + _
    rw [hg.1]
    show _ ≤ 2 + _ + _
    omega
  | join => exact stepsLeft_join h hg.1
  -- the server thread is behind `listen`
  | lock | listen _ => exact (h.not_early hafter hg.1 rfl).elim
  | initAsio _ | setHandlers | reset _ => exact (h.not_early hafter hg rfl).elim
  | startAccept throws =>
    have hgo := stepsLeft_goTo hg (if throws then .returned else .accepting)
    have hless : (if throws then Pc.returned else .accepting).stepsLeft + 1 ≤
        Pc.listening.stepsLeft := by
      cases throws <;> decide
    show (s.goTo (if throws then .returned else .accepting)).stepsLeft + 1 ≤ s.stepsLeft
    omega
  | enterRun =>
    have hgo : (s.goTo .inRun).stepsLeft + 2 = s.stepsLeft + 1 := stepsLeft_goTo hg .inRun
    show (s.goTo .inRun).stepsLeft + 1 ≤ s.stepsLeft
    omega
  | runReturns => exact (stepsLeft_goTo hg.1 .returned).le
  | runThrows => exact (stepsLeft_goTo hg .returned).le
  -- and connections only come to their end
  | accept handle =>
    exact absurd ((h.coherent.stopped hafter).symm.trans hg.2.1) Bool.false_ne_true
  | handshakeDone handle => exact hconn hg.2 (by simp) (by decide)
  | handshakeFailed handle => exact hconn hg.2 (by simp) (by decide)
  | clientCloses handle => exact hconn hg.2 (by simp) (by decide)
  | terminate handle =>
    exact hconn rfl (ConState.ne_absent_of_isLive (ConState.isLive_of_canEnd hg.2))
      (ConState.closed_stepsLeft_lt hg.2)
  | closeHandler handle => exact hconn hg.2 (by simp) (by decide)
  | released handle => exact hconn hg (by simp) (by decide)
  | message handle msg => exact stepsLeft_message service hg.2 msg
  | background e => exact le_rfl

/-! ## Progress -/

/-- A step of the server that waits for no client. -/
def NeedsNoClient (s : ServerState App Msg) : ServerEvent Msg Ev → Prop
  | .advance _ | .closeClient _ | .lockMutex | .join | .startAccept _ | .enterRun => True
  | e => WithoutClient s e

theorem needsNoClient_of_withoutClient (h : WithoutClient s e) : NeedsNoClient s e := by
  cases e with
  | handshakeFailed _ | terminate _ | closeHandler _ | runReturns => exact h
  | _ => exact h.elim

theorem isWork_of_needsNoClient (h : NeedsNoClient s e) : e.isWork = true := by
  cases e with
  | message _ _ | background _ => exact h.elim
  | _ => rfl

/-- A `run()` that can end has a next step. -/
theorem exists_enabled_of_runCanEnd (h : RunCanEnd service s) :
    ∃ b : ServerEvent Msg Ev, NeedsNoClient s b ∧ (serverMachine service).enabled s b := by
  obtain ⟨bs, hbs, hl⟩ := h
  cases bs with
  | nil => exact ⟨.runReturns, trivial, hl.1⟩
  | cons b bs => exact ⟨b, needsNoClient_of_withoutClient hbs.1, hl.1⟩

/-- **Progress**: behind `stop_listening`, a clean shutdown has a next step that waits for no
    client. -/
theorem exists_enabled_of_stopped (h : StopInvariant s) (hclean : ShutdownClean service s)
    (hafter : s.control.afterStop = true) :
    ∃ b : ServerEvent Msg Ev, NeedsNoClient s b ∧ (serverMachine service).enabled s b := by
  obtain ⟨hlive, halive⟩ := h.alive hafter
  cases hcontrol : s.control with
  | advancing after => exact ⟨.advance after, trivial, hlive, halive, hcontrol⟩
  | closing handle => exact ⟨.closeClient handle, trivial, hlive, halive, hcontrol⟩
  | joining =>
    exact ⟨.join, trivial, hlive, halive, hcontrol, Or.inr (h.joining hcontrol)⟩
  | waiting =>
    obtain ⟨pc, hpc, hpast⟩ := h.coherent.started (Or.inr (by rw [hcontrol]; rfl))
    cases pc with
    | listening => exact ⟨.startAccept false, trivial, hlive, halive, hpc⟩
    | accepting => exact ⟨.enterRun, trivial, hlive, halive, hpc⟩
    | inRun => exact exists_enabled_of_runCanEnd (hclean.ends hcontrol ⟨hlive, halive, hpc⟩)
    | returned =>
      refine ⟨.lockMutex, trivial, hlive, halive, hcontrol, ?_⟩
      rw [hpc]
      rfl
    | _ => cases hpast
  | _ =>
    rw [hcontrol] at hafter
    cases hafter

/-- The loop is over, and the shutdown is not. -/
def Control.behindLoop : Control → Bool
  | .waiting | .joining => true
  | .idle | .stopping | .advancing _ | .closing _ | .leaving => false

/-- A step that needs no client is safe, unless it is the loop's last because it fails. -/
theorem shutdownSafe_of_needsNoClient (he : (serverMachine service).enabled s e)
    (hfree : NeedsNoClient s e)
    (hstays : s.control.behindLoop = true ∨ (s.next service e).control.afterStop = true) :
    ShutdownSafe s e := by
  obtain ⟨-, -, hg⟩ := he
  cases e with
  | advance after =>
    rw [show s.control = .advancing after from hg] at hstays
    have hafter := hstays.resolve_left Bool.false_ne_true
    by_contra hunsafe
    have herased : ¬ (∀ handle ∈ after, handle ∈ s.wsConnections) := hunsafe
    simp only [ServerState.next, ServerState.advance] at hafter
    rw [if_neg herased] at hafter
    cases hafter
  | closeClient handle =>
    rw [show s.control = .closing handle from hg] at hstays
    have hafter := hstays.resolve_left Bool.false_ne_true
    revert hafter
    simp only [ServerState.next]
    refine ServerState.closeClient_cases ?_ ?_ ?_
    · exact fun _ hopen _ => hopen
    · exact fun _ hafter => by cases hafter
    · exact fun _ hafter => by cases hafter
  | handshakeDone handle => exact hfree.elim
  | _ => trivial

/-- Behind the loop, a step that needs no client leads on to the join, and out of it. -/
theorem behindLoop_next (he : (serverMachine service).enabled s e) (hfree : NeedsNoClient s e)
    (hbehind : s.control.behindLoop = true)
    (hafter : (s.next service e).control.afterStop = true) :
    (s.next service e).control.behindLoop = true := by
  obtain ⟨-, -, hg⟩ := he
  cases e with
  | advance _ | closeClient _ =>
    rw [show s.control = _ from hg] at hbehind
    cases hbehind
  | join => exact absurd ((afterStop_join s).symm.trans hafter) Bool.false_ne_true
  | lockMutex => rfl
  | startAccept _ | enterRun | handshakeFailed _ | terminate _ | closeHandler _ | runReturns =>
    exact hbehind
  | _ => exact hfree.elim

/-- **Progress of a shutdown**: behind safe steps it gets to its end without its clients. The
    induction is on the steps that are left. -/
theorem exists_run_over (h : StopInvariant s) (hsafe : ShutdownInvariant s)
    (hafter : s.control.afterStop = true) :
    ∃ bs : List (ServerEvent Msg Ev), (serverMachine service).Along NeedsNoClient s bs ∧
      (serverMachine service).Legal s bs ∧
      ((serverMachine service).exec s bs).control.afterStop = false ∧
      (s.control.behindLoop = true →
        ((serverMachine service).exec s bs).shutdownThrew = false) := by
  induction hn : s.stepsLeft using Nat.strong_induction_on generalizing s with
  | _ n ih =>
    have hclean : ShutdownClean service s := hsafe.clean
    obtain ⟨b, hfree, hb⟩ := exists_enabled_of_stopped h hclean hafter
    have hless := stepsLeft_next h hb hafter
    rw [isWork_of_needsNoClient hfree, Bool.toNat_true] at hless
    by_cases hstays : (s.next service b).control.afterStop = true
    · have hnext : ShutdownInvariant (s.next service b) :=
        hsafe.next hb (shutdownSafe_of_needsNoClient hb hfree (Or.inr hstays))
      obtain ⟨bs, hbs, hlegal, hover, hreturned⟩ :=
        ih (s.next service b).stepsLeft (by omega) (h.next hb) hnext hstays rfl
      exact ⟨b :: bs, ⟨hfree, hbs⟩, ⟨hb, hlegal⟩, hover,
        fun hbehind => hreturned (behindLoop_next hb hfree hbehind hstays)⟩
    · have hover : (s.next service b).control.afterStop = false := by simpa using hstays
      refine ⟨[b], ⟨hfree, trivial⟩, ⟨hb, trivial⟩, hover, ?_⟩
      intro hbehind
      exact (hsafe.next hb (shutdownSafe_of_needsNoClient hb hfree (Or.inl hbehind))).part.returned

/-! ## Whole Runs -/

/-- The step is taken in a shutdown that has stopped listening. -/
def InsideShutdown (s : ServerState App Msg) (_ : ServerEvent Msg Ev) : Prop :=
  s.control.afterStop = true

instance (s : ServerState App Msg) (e : ServerEvent Msg Ev) : Decidable (InsideShutdown s e) :=
  inferInstanceAs (Decidable (_ = _))

/-- A few steps for every connection, and some for the threads. -/
theorem stepsLeft_le (s : ServerState App Msg) : s.stepsLeft ≤ 7 * s.accepted.length + 7 := by
  have hcontrol : s.control.stepsLeft s.accepted ≤ 2 * s.accepted.length + 4 := by
    cases s.control with
    | advancing after =>
      have hcount := List.countP_le_length (p := fun handle => after.all (· < handle))
        (l := s.accepted)
      simp only [Control.stepsLeft]
      omega
    | closing current =>
      have hcount := List.countP_le_length (p := fun handle => decide (current < handle))
        (l := s.accepted)
      simp only [Control.stepsLeft]
      omega
    | _ => simp [Control.stepsLeft]
  have hthread : s.threadLeft ≤ 3 := by
    unfold ServerState.threadLeft
    cases s.serverThread with
    | none => exact Nat.zero_le 3
    | some pc => cases pc <;> decide
  have hconns : s.connsLeft ≤ s.accepted.length * 5 := by
    have hall : ∀ n ∈ s.accepted.map (fun handle => (s.conns handle).stepsLeft), n ≤ 5 := by
      intro n hn
      obtain ⟨handle, -, rfl⟩ := List.mem_map.mp hn
      cases s.conns handle <;> decide
    simpa [ServerState.connsLeft] using List.sum_le_card_nsmul _ 5 hall
  unfold ServerState.stepsLeft
  omega

theorem StopInvariant.exec (h : StopInvariant s) (hl : (serverMachine service).Legal s as) :
    StopInvariant ((serverMachine service).exec s as) :=
  Machine.exec_invariant (fun _ _ hs he => hs.next he) h hl

/-- **Run lemma**: a run inside a shutdown takes no more steps than are left. -/
theorem countP_isWork_le (h : StopInvariant s) (hl : (serverMachine service).Legal s as)
    (hinside : (serverMachine service).Along InsideShutdown s as) :
    as.countP ServerEvent.isWork ≤ s.stepsLeft := by
  have hrank := Machine.Legal.countP_add_le ServerState.stepsLeft ServerEvent.isWork
    (fun _ _ hs he _ => hs.next he) (fun _ _ hs he hafter => stepsLeft_next hs he hafter) h hl
    hinside
  exact (Nat.le_add_right _ _).trans hrank

end

section

variable {App Msg Ev : Type} (service : Service App Msg Ev) (app : App)
  {as bs : List (ServerEvent Msg Ev)}

/-- **The steps of a shutdown are bounded**: from any state with `stop_listening` behind it, a run
    that stays in the shutdown takes at most seven steps for every connection accepted so far
    and seven for the threads, whatever the clients do. Messages, and what happens behind the
    handlers, are not counted; nor is it said that the next step comes. -/
theorem shutdown_bounded
    (hl : (serverMachine service).Legal (.constructed Msg app) (as ++ bs))
    (hinside : (serverMachine service).Along InsideShutdown
      ((serverMachine service).exec (.constructed Msg app) as) bs) :
    bs.countP ServerEvent.isWork ≤
      7 * ((serverMachine service).exec (.constructed Msg app) as).accepted.length + 7 := by
  obtain ⟨has, hbs⟩ := Machine.along_append.mp hl
  exact (countP_isWork_le ((StopInvariant.constructed app).exec has) hbs hinside).trans
    (stepsLeft_le _)

/-- Two clients, one of them still in its handshake, when the shutdown begins. -/
theorem shutdown_bounded_twoClients :
    let before : List (ServerEvent Unit Empty) := startUp ++ [.accept 0, .handshakeDone 0,
      .accept 1, .destructor, .stopListening]
    let inside : List (ServerEvent Unit Empty) := [.message 0 (), .advance none,
      .handshakeDone 1, .message 1 (), .closeClient 0, .advance (some 0), .closeClient 1,
      .terminate 0, .advance (some 1), .closeHandler 0, .terminate 1, .closeHandler 1,
      .runReturns, .lockMutex, .join]
    inside.countP ServerEvent.isWork ≤
      7 * ((serverMachine .silent).exec (.constructed Unit ()) before).accepted.length + 7 :=
  shutdown_bounded .silent () (by decide) (by decide)

/-- **A shutdown needs no client**: behind every run whose close loops never lose the element
    they stand on and come to open connections only, and in which no handshake ends behind the
    loop, a shutdown with `stop_listening` behind it gets to its end by steps that need no
    client, and returns if its loop is over; and it has a bounded number of steps left. -/
theorem shutdown_ends (hl : (serverMachine service).Legal (.constructed Msg app) as)
    (hok : (serverMachine service).Along ShutdownSafe (.constructed Msg app) as)
    (hafter : ((serverMachine service).exec (.constructed Msg app) as).control.afterStop = true) :
    let server := (serverMachine service).exec (.constructed Msg app) as
    (∃ bs : List (ServerEvent Msg Ev), (serverMachine service).Along NeedsNoClient server bs ∧
      (serverMachine service).Legal server bs ∧
      ((serverMachine service).exec server bs).control.afterStop = false ∧
      (server.control.behindLoop = true →
        ((serverMachine service).exec server bs).shutdownThrew = false)) ∧
    ∀ bs, (serverMachine service).Legal server bs →
      (serverMachine service).Along InsideShutdown server bs →
      bs.countP ServerEvent.isWork ≤ 7 * server.accepted.length + 7 := by
  intro server
  have hstop : StopInvariant server := (StopInvariant.constructed app).exec hl
  have hsafe : ShutdownInvariant server :=
    Machine.Legal.invariant (fun _ _ hs he hstep => hs.next he hstep) (.constructed app) hl hok
  refine ⟨exists_run_over hstop hsafe hafter, ?_⟩
  intro bs hbs hinside
  exact (countP_isWork_le hstop hbs hinside).trans (stepsLeft_le _)

theorem shutdown_ends_waiting :
    let server := (serverMachine .silent).exec (.constructed Unit ())
      (startUp ++ [.accept 0, .handshakeDone 0, .accept 1, .destructor, .stopListening,
        .advance none, .closeClient 0, .advance (some 0)])
    (∃ bs : List (ServerEvent Unit Empty), (serverMachine .silent).Along NeedsNoClient server bs ∧
      (serverMachine .silent).Legal server bs ∧
      ((serverMachine .silent).exec server bs).control.afterStop = false ∧
      (server.control.behindLoop = true →
        ((serverMachine .silent).exec server bs).shutdownThrew = false)) ∧
    ∀ bs, (serverMachine .silent).Legal server bs →
      (serverMachine .silent).Along InsideShutdown server bs →
      bs.countP ServerEvent.isWork ≤ 7 * server.accepted.length + 7 :=
  shutdown_ends .silent () (by decide) (by decide) (by decide)

end

end BallchasingReplayPlayer
