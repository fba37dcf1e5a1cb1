import BallchasingReplayPlayer.Server.Invariants

/-!
# The Server Thread

Whether `ShutdownWebSocketServer` joins the server thread is decided by `is_listening()`, a
flag the server thread sets on its way and never sets when it fails. A shutdown that does
not find it set leaves a joinable thread behind, for the next start to assign over or for
the destructor to destroy.

## Main Result

- `threadsJoined_of_shutdownsFindListening`: which runs join every thread they start
-/

namespace BallchasingReplayPlayer

open LexicalPath Transition

section

variable {App Msg Ev : Type} {service : Service App Msg Ev} {s : ServerState App Msg}
  {e : ServerEvent Msg Ev}

/-- `server_thread_.joinable()`. -/
def ServerState.joinable (s : ServerState App Msg) : Bool := s.serverThread.isSome

/-- No joinable thread was assigned over or destroyed, and a destroyed server has joined
    every thread it started. -/
structure ThreadsJoined (s : ServerState App Msg) : Prop where
  notAssignedOver : s.terminated ≠ some .assignedOver
  notDestroyed : s.terminated ≠ some .destroyedJoinable
  joined : s.destroyed = true → s.threadsJoined = s.threadsStarted

/-- The step calls `ShutdownWebSocketServer`, on its own or in `~WsServer`. -/
def ServerEvent.callsShutdown : ServerEvent Msg Ev → Bool
  | .shutdown | .destructor => true
  | _ => false

/-- A shutdown that has a thread to join finds the endpoint listening. -/
def ShutdownFindsListening (s : ServerState App Msg) (e : ServerEvent Msg Ev) : Prop :=
  e.callsShutdown = true → s.joinable = true → s.listening = true

instance (s : ServerState App Msg) (e : ServerEvent Msg Ev) :
    Decidable (ShutdownFindsListening s e) :=
  inferInstanceAs (Decidable (_ → _ → _))

/-- No thread is joinable where a new one may be started or the members are destroyed. -/
structure ThreadsInvariant (s : ServerState App Msg) : Prop extends ThreadsJoined s where
  fresh : s.mayStart = true → s.joinable = false
  left : s.control = .leaving → s.joinable = false
  count : s.threadsStarted = s.threadsJoined + if s.joinable then 1 else 0

/-- Steps outside the control thread change nothing of this. -/
theorem ThreadsInvariant.same (h : ThreadsInvariant s) {s' : ServerState App Msg}
    (hsame : SameControl s s') : ThreadsInvariant s' := by
  have hjoinable : s'.joinable = s.joinable := hsame.joinable
  refine ⟨⟨?_, ?_, ?_⟩, ?_, ?_, ?_⟩
  · rw [hsame.terminated]
    exact h.notAssignedOver
  · rw [hsame.terminated]
    exact h.notDestroyed
  · rw [hsame.destroyed, hsame.threadsJoined, hsame.threadsStarted]
    exact h.joined
  · rw [hsame.mayStart, hjoinable]
    exact h.fresh
  · rw [hsame.control, hjoinable]
    exact h.left
  · rw [hsame.threadsStarted, hsame.threadsJoined, hjoinable]
    exact h.count

theorem ThreadsInvariant.startAsync (h : ThreadsInvariant s) (hlive : s.destroyed = false)
    (hmay : s.mayStart = true) (hcontrol : s.control = .idle) :
    ThreadsInvariant s.startAsync := by
  have hfresh : s.serverThread.isSome = false := h.fresh hmay
  have hcount : s.threadsStarted = s.threadsJoined := by
    simpa [ServerState.joinable, hfresh] using h.count
  unfold ServerState.startAsync
  -- there is no thread to assign over
  rw [if_neg (by simp [hfresh])]
  refine ⟨⟨h.notAssignedOver, h.notDestroyed, ?_⟩, by simp, ?_, ?_⟩
  · intro hdestroyed
    exact absurd (hlive.symm.trans hdestroyed) Bool.false_ne_true
  · intro hleaving
    rw [show s.control = .leaving from hleaving] at hcontrol
    cases hcontrol
  · simp [ServerState.joinable, hcount]

theorem ThreadsInvariant.shutdownReturns (h : ThreadsInvariant s) (hjoined : s.joinable = false) :
    ThreadsInvariant s.shutdownReturns := by
  unfold ServerState.shutdownReturns
  split
  · exact ⟨⟨h.notAssignedOver, h.notDestroyed, h.joined⟩, h.fresh, fun _ => hjoined,
      h.count⟩
  · exact ⟨⟨h.notAssignedOver, h.notDestroyed, h.joined⟩, fun _ => hjoined, by simp, h.count⟩

theorem ThreadsInvariant.shutdownThrows (h : ThreadsInvariant s) :
    ThreadsInvariant s.shutdownThrows := by
  have hcause : ∀ cause, cause ≠ .exceptionInDestructor → s.terminated ≠ some cause →
      s.shutdownThrows.terminated ≠ some cause := by
    intro cause hne hold
    simp only [ServerState.shutdownThrows]
    split
    · intro heq
      exact hne (Option.some.inj heq).symm
    · exact hold
  exact ⟨⟨hcause _ (by simp) h.notAssignedOver, hcause _ (by simp) h.notDestroyed, h.joined⟩,
    h.fresh, (fun hleaving => by cases hleaving), h.count⟩

theorem ThreadsInvariant.iteratorDangles (h : ThreadsInvariant s) :
    ThreadsInvariant s.iteratorDangles :=
  ⟨⟨by simp [ServerState.iteratorDangles], by simp [ServerState.iteratorDangles], h.joined⟩,
    h.fresh, (fun hleaving => by cases hleaving), h.count⟩

theorem ThreadsInvariant.shutdownBegins (h : ThreadsInvariant s)
    (hok : s.joinable = true → s.listening = true) : ThreadsInvariant s.shutdownBegins := by
  unfold ServerState.shutdownBegins
  split
  · exact ⟨⟨h.notAssignedOver, h.notDestroyed, h.joined⟩, h.fresh, by simp, h.count⟩
  · -- nobody listens, so there is no thread to lose
    rename_i hlisten
    apply h.shutdownReturns
    by_contra hjoinable
    exact hlisten (hok (by simpa using hjoinable))

theorem ThreadsInvariant.join (h : ThreadsInvariant s) : ThreadsInvariant s.join := by
  unfold ServerState.join
  split
  · rename_i hsome
    have hcount : s.threadsStarted = s.threadsJoined + 1 := by
      simpa [ServerState.joinable, hsome] using h.count
    apply ThreadsInvariant.shutdownReturns
    · exact ⟨⟨h.notAssignedOver, h.notDestroyed, fun _ => hcount.symm⟩, fun _ => rfl,
        fun _ => rfl, hcount⟩
    · rfl
  · exact h.shutdownThrows

theorem ThreadsInvariant.destroyMembers (h : ThreadsInvariant s)
    (hcontrol : s.control = .leaving) : ThreadsInvariant s.destroyMembers := by
  have hjoined : s.serverThread.isSome = false := h.left hcontrol
  have hcount : s.threadsStarted = s.threadsJoined := by
    simpa [ServerState.joinable, hjoined] using h.count
  unfold ServerState.destroyMembers
  rw [if_neg (by simp [hjoined])]
  exact ⟨⟨h.notAssignedOver, h.notDestroyed, fun _ => hcount.symm⟩, h.fresh, h.left, h.count⟩

/-- **Step lemma**: shutdowns that find the endpoint listening lose no thread. -/
theorem ThreadsInvariant.next (h : ThreadsInvariant s) (he : (serverMachine service).enabled s e)
    (hok : ShutdownFindsListening s e) : ThreadsInvariant (s.next service e) := by
  by_cases hc : e.isControl = true
  · obtain ⟨hlive, -, hg⟩ := he
    cases e with
    | startAsync => exact h.startAsync hlive hg.2.2 hg.1
    | addMessageHandler =>
      exact ⟨⟨h.notAssignedOver, h.notDestroyed, h.joined⟩, h.fresh, h.left, h.count⟩
    | shutdown => exact h.shutdownBegins (hok rfl)
    | destructor =>
      have hin : ThreadsInvariant { s with inDestructor := true } :=
        ⟨⟨h.notAssignedOver, h.notDestroyed, h.joined⟩, h.fresh, h.left, h.count⟩
      exact hin.shutdownBegins (hok rfl)
    | stopListening =>
      exact ⟨⟨h.notAssignedOver, h.notDestroyed, h.joined⟩, h.fresh,
        (fun hleaving => by cases hleaving), h.count⟩
    | advance after =>
      simp only [ServerState.next]
      apply ServerState.advance_cases
      · intro _
        exact ⟨⟨h.notAssignedOver, h.notDestroyed, h.joined⟩, h.fresh, by simp, h.count⟩
      · intro _ _
        exact ⟨⟨h.notAssignedOver, h.notDestroyed, h.joined⟩, h.fresh, by simp, h.count⟩
      · exact fun _ => h.iteratorDangles
    | closeClient handle =>
      simp only [ServerState.next]
      apply ServerState.closeClient_cases
      · intro _ _
        exact ⟨⟨h.notAssignedOver, h.notDestroyed, h.joined⟩, h.fresh, by simp, h.count⟩
      · exact fun _ => h.shutdownThrows
      · exact fun _ => h.iteratorDangles
    | lockMutex =>
      exact ⟨⟨h.notAssignedOver, h.notDestroyed, h.joined⟩, h.fresh,
        (fun hleaving => by cases hleaving), h.count⟩
    | join => exact h.join
    | destroyMembers => exact h.destroyMembers hg
    | _ => cases hc
  · exact h.same (sameControl_next he (by simpa using hc))

theorem ThreadsInvariant.constructed (app : App) :
    ThreadsInvariant (ServerState.constructed Msg app) :=
  ⟨⟨by simp [ServerState.constructed], by simp [ServerState.constructed],
    by simp [ServerState.constructed]⟩, fun _ => rfl, by simp [ServerState.constructed], rfl⟩

end

/-- **Every thread is joined** in every run whose shutdowns find the endpoint listening while
    there is a thread to join: none is assigned over, none is destroyed, and the destroyed
    server has joined all it started. -/
theorem threadsJoined_of_shutdownsFindListening {App Msg Ev : Type}
    (service : Service App Msg Ev) (app : App) {as : List (ServerEvent Msg Ev)}
    (hl : (serverMachine service).Legal (.constructed Msg app) as)
    (hok : (serverMachine service).Along ShutdownFindsListening (.constructed Msg app) as) :
    (serverMachine service).Throughout ThreadsJoined (.constructed Msg app) as := by
  apply Machine.Legal.throughout (I := ThreadsInvariant) _ _ (.constructed app) hl hok
  · exact fun s h => ⟨h.notAssignedOver, h.notDestroyed, h.joined⟩
  · exact fun s e h he hfinds => h.next he hfinds

/-- One start and one shutdown in `~WsServer`, with no client. -/
theorem threadsJoined_startedAndDestroyed :
    (serverMachine .silent).Throughout ThreadsJoined (.constructed Unit ())
      [.startAsync, .lock, .initAsio none, .setHandlers, .reset false, .listen false,
        .startAccept false, .enterRun, .destructor, .stopListening, .advance none, .runReturns,
        .lockMutex, .join, .destroyMembers] :=
  threadsJoined_of_shutdownsFindListening .silent () (by decide) (by decide)

/-- The destructor overtakes the server thread, which has not come to `listen` yet: nothing
    is joined, and the thread is destroyed while it is joinable. -/
theorem thread_destroyed_joinable :
    let run := [.startAsync, .destructor, .destroyMembers]
    (serverMachine .silent).Legal (.constructed Unit ()) run ∧
      ((serverMachine .silent).exec (.constructed Unit ()) run).terminated =
        some .destroyedJoinable ∧
      ¬ (serverMachine .silent).Throughout ThreadsJoined (.constructed Unit ()) run := by
  refine ⟨by decide, rfl, ?_⟩
  intro h
  exact h.2.2.2.notDestroyed rfl

end BallchasingReplayPlayer
