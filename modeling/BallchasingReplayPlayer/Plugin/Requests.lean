import BallchasingReplayPlayer.Plugin.Accounting
import BallchasingReplayPlayer.Plugin.Commands

/-!
# The Requests of a Message

What a message does to the plugin besides the replies it is answered with: the requests of its
download commands, one after the other, up to the first call that throws.

## Main Results

- `onWebSocketMessage_requests`: the handler does to the plugin what these requests do
- `ClientMessage.requests_prefix`, `ClientMessage.requests_eq`: they are the first download
  commands of the message, and all of them if no call throws
-/

namespace BallchasingReplayPlayer

open LexicalPath Transition

/-! ## Without the Replies -/

/-- The plugin without the replies it has sent. -/
def PluginState.silenced (s : PluginState) : PluginState := { s with replies := [] }

/-- No callback sends a reply, and what a step does does not depend on replies. -/
theorem next_silenced (sdk : BakkesMod) (s : PluginState) (e : PluginEvent) :
    (s.next sdk e).silenced = s.silenced.next sdk e ∧ (s.next sdk e).replies = s.replies := by
  cases e with
  | request replayId token throws =>
    have houtcome : s.silenced.outcome sdk replayId throws = s.outcome sdk replayId throws := rfl
    rw [next_request, next_request, houtcome]
    cases s.outcome sdk replayId throws with
    | startThrew =>
      dsimp only
      split
      · exact ⟨rfl, rfl⟩
      · exact ⟨rfl, rfl⟩
    | _ => exact ⟨rfl, rfl⟩
  | chunk i bytes =>
    have hsame : s.silenced.inFlight = s.inFlight := rfl
    simp only [PluginState.next, PluginState.chunk, hsame]
    cases s.inFlight[i]? with
    | none => exact ⟨rfl, rfl⟩
    | some d => exact ⟨rfl, rfl⟩
  | progress i report => exact ⟨rfl, rfl⟩
  | completion i code throws =>
    have hsame : s.silenced.inFlight = s.inFlight := rfl
    simp only [PluginState.next, PluginState.completion, hsame]
    cases s.inFlight[i]? with
    | none => exact ⟨rfl, rfl⟩
    | some d =>
      dsimp only
      rw [completionCallback_eq, completionCallback_eq]
      dsimp only [finalState]
      split
      · exact ⟨rfl, rfl⟩
      · exact ⟨rfl, rfl⟩
  | runTask k =>
    have hsame : s.silenced.tasks = s.tasks := rfl
    simp only [PluginState.next, PluginState.runTask, hsame]
    cases s.tasks[k]? with
    | none => exact ⟨rfl, rfl⟩
    | some path => exact ⟨rfl, rfl⟩
  | frame size => exact ⟨rfl, rfl⟩

/-! ## Requests -/

/-- The requests the commands make, the first of them the `n`-th, for the files there are in
    front of them. An exception ends the loop, and so does the answer to `available`. -/
def commandRequests (sdk : BakkesMod) (throws : ℕ → Call → Bool) :
    ℕ → List (List Text) → (Path → Option Body) → List PluginEvent
  | _, [], _ => []
  | n, (notifer :: commandArgument :: rest) :: commands, files =>
    if notifer ≠ notiferName then commandRequests sdk throws (n + 1) commands files
    else if commandArgument = availableCommand then []
    else
      let file := (filePath sdk commandArgument).lexicallyNormal
      .request commandArgument (rest.headD []) (throws n) ::
        if (outcome (throws n) (files file)).Returns ∧ throws n .send = false then
          commandRequests sdk throws (n + 1) commands (filesBehind (throws n) file files)
        else []
  | n, _ :: commands, files => commandRequests sdk throws (n + 1) commands files

/-- The requests a message makes. -/
def ClientMessage.requests (sdk : BakkesMod) (message : ClientMessage)
    (files : Path → Option Body) : List PluginEvent :=
  if message.throws 0 .parseConsoleInput then []
  else commandRequests sdk message.throws 0 (sdk.parseConsoleInput message.payload) files

/-- The loop over the commands makes their requests, and does nothing else to the plugin but
    send replies. -/
theorem messageLoop_requests (sdk : BakkesMod) (throws : ℕ → Call → Bool)
    (handle : ClientHandle) (commands : List (List Text)) (n : ℕ) (s : PluginState) :
    (finalState (messageLoop sdk throws handle n commands s)).silenced =
      (pluginMachine sdk).exec s.silenced (commandRequests sdk throws n commands s.files) := by
  induction commands generalizing n s with
  | nil => rfl
  | cons args commands ih =>
    match args with
    | [] => exact ih (n + 1) s
    | [_] => exact ih (n + 1) s
    | notifer :: commandArgument :: rest =>
      unfold messageLoop commandLoop commandRequests
      by_cases hnotifer : notifer ≠ notiferName
      · rw [if_pos hnotifer, if_pos hnotifer]
        exact ih (n + 1) s
      · rw [if_neg hnotifer, if_neg hnotifer]
        by_cases havailable : commandArgument = availableCommand
        · rw [if_pos havailable, if_pos havailable, run_send]
          cases throws n .send with
          | true => rfl
          | false => rfl
        · rw [if_neg havailable, if_neg havailable, run_bind]
          dsimp only
          have hreturns := downloadAndPlayReplay_not_threw_iff sdk (throws n) commandArgument
            (rest.headD []) s
          have hfiles := downloadAndPlayReplay_files sdk (throws n) commandArgument
            (rest.headD []) s
          -- the request itself is a step of the machine
          have hstep : (finalState (downloadAndPlayReplay sdk (throws n) commandArgument
              (rest.headD []) s)).silenced =
                (pluginMachine sdk).next s.silenced
                  (.request commandArgument (rest.headD []) (throws n)) :=
            (next_silenced sdk s (.request commandArgument (rest.headD []) (throws n))).1
          rw [Machine.exec_cons, ← hstep, ← hfiles]
          unfold PluginState.outcome at hreturns
          cases hrequest : downloadAndPlayReplay sdk (throws n) commandArgument (rest.headD []) s with
          | error c s' =>
            rw [hrequest] at hreturns
            have hends : ¬ (outcome (throws n)
                (s.files (filePath sdk commandArgument).lexicallyNormal)).Returns := by
              rw [← hreturns]
              simp [threw]
            rw [if_neg fun hgoes => hends hgoes.1]
            rfl
          | ok u s' =>
            rw [hrequest] at hreturns
            have hgoes := hreturns.mp rfl
            cases hsend : throws n .send with
            | true =>
              rw [if_neg (by simp)]
              simp [hsend, finalState]
            | false =>
              rw [if_pos ⟨hgoes, rfl⟩]
              dsimp only
              rw [run_bind, run_send, if_neg (by simp [hsend])]
              exact ih (n + 1) { s' with replies := _ }

/-- **Requests of a message**: the handler does to the plugin what the requests of the message
    do, and sends replies. -/
theorem onWebSocketMessage_requests (sdk : BakkesMod) (handle : ClientHandle)
    (message : ClientMessage) (s : PluginState) :
    (finalState (onWebSocketMessage sdk handle message s)).silenced =
      (pluginMachine sdk).exec s.silenced (message.requests sdk s.files) := by
  unfold onWebSocketMessage ClientMessage.requests
  rw [run_bind, run_call]
  cases message.throws 0 .parseConsoleInput with
  | true => rfl
  | false => exact messageLoop_requests sdk message.throws handle _ 0 s

/-- Requests can be made in any state. -/
theorem legal_commandRequests (sdk : BakkesMod) (throws : ℕ → Call → Bool)
    (commands : List (List Text)) (n : ℕ) (files : Path → Option Body) (s : PluginState) :
    (pluginMachine sdk).Legal s (commandRequests sdk throws n commands files) := by
  induction commands generalizing n files s with
  | nil => trivial
  | cons args commands ih =>
    match args with
    | [] => exact ih (n + 1) files s
    | [_] => exact ih (n + 1) files s
    | notifer :: commandArgument :: rest =>
      unfold commandRequests
      split
      · exact ih (n + 1) files s
      · split
        · trivial
        · refine ⟨trivial, ?_⟩
          split
          · exact ih (n + 1) _ _
          · trivial

theorem ClientMessage.legal_requests (sdk : BakkesMod) (message : ClientMessage)
    (files : Path → Option Body) (s : PluginState) :
    (pluginMachine sdk).Legal s (message.requests sdk files) := by
  unfold ClientMessage.requests
  split
  · trivial
  · exact legal_commandRequests sdk message.throws _ 0 files s

/-- If no call made for the commands throws, none of their requests does. -/
theorem along_commandRequests {sdk : BakkesMod} {throws : ℕ → Call → Bool}
    {commands : List (List Text)} {n : ℕ} {s : PluginState}
    (h : CommandsReturn sdk throws n commands s.files) :
    (pluginMachine sdk).Along (RequestReturns sdk) s
      (commandRequests sdk throws n commands s.files) := by
  induction commands generalizing n s with
  | nil => trivial
  | cons args commands ih =>
    match args with
    | [] => exact ih h
    | [_] => exact ih h
    | notifer :: commandArgument :: rest =>
      unfold CommandsReturn at h
      unfold commandRequests
      split
      case isTrue hnotifer =>
        rw [if_pos hnotifer] at h
        exact ih h
      case isFalse hnotifer =>
        rw [if_neg hnotifer] at h
        split
        case isTrue => trivial
        case isFalse havailable =>
          rw [if_neg havailable] at h
          obtain ⟨hreturns, hsend, hrest⟩ := h
          dsimp only
          rw [if_pos ⟨hreturns, hsend⟩]
          rw [← downloadAndPlayReplay_files sdk (throws n) commandArgument (rest.headD []) s]
            at hrest ⊢
          exact ⟨hreturns, ih hrest⟩

/-! ## Requests and Commands -/

/-- The id and the token of a request. -/
def PluginEvent.request? : PluginEvent → Option (Text × Text)
  | .request replayId token _ => some (replayId, token)
  | _ => none

/-- The requests for a file are those whose id names it. -/
theorem requestsFor_eq (sdk : BakkesMod) (path : Path) (as : List PluginEvent) :
    requestsFor sdk path as =
      (as.filterMap PluginEvent.request?).countP (filePath sdk ·.1 = path) := by
  induction as with
  | nil => rfl
  | cons e as ih =>
    rw [requestsFor_cons, ih]
    cases e with
    | request replayId token throws =>
      rw [requestsFor_request, List.filterMap_cons, PluginEvent.request?, List.countP_cons]
      simp [Nat.add_comm]
    | _ => exact Nat.zero_add _

/-- The id and the token of a download. -/
def MessageEffect.download? : MessageEffect → Option (Text × Text)
  | .download replayId token => some (replayId, token)
  | .reply _ => none

/-- The downloads the commands of a message ask for, up to an `available`. -/
def ClientMessage.downloads (sdk : BakkesMod) (message : ClientMessage) : List (Text × Text) :=
  (messageEffects (sdk.parseConsoleInput message.payload)).filterMap MessageEffect.download?

theorem commandRequests_prefix (sdk : BakkesMod) (throws : ℕ → Call → Bool)
    (commands : List (List Text)) (n : ℕ) (files : Path → Option Body) :
    (commandRequests sdk throws n commands files).filterMap PluginEvent.request? <+:
      (messageEffects commands).filterMap MessageEffect.download? := by
  induction commands generalizing n files with
  | nil => exact List.prefix_rfl
  | cons args commands ih =>
    rw [messageEffects_cons]
    match args with
    | [] => exact ih (n + 1) files
    | [_] => exact ih (n + 1) files
    | notifer :: commandArgument :: rest =>
      unfold commandRequests commandEffects asksAvailable
      by_cases hnotifer : notifer = notiferName
      · by_cases havailable : commandArgument = availableCommand
        · simp [hnotifer, havailable, MessageEffect.download?]
        · simp only [hnotifer, havailable, ne_eq, not_true_eq_false, if_false, beq_self_eq_true,
            Bool.true_and, beq_eq_false_iff_ne.mpr havailable, Bool.false_eq_true,
            List.cons_append, List.nil_append, List.filterMap_cons, PluginEvent.request?,
            MessageEffect.download?, List.prefix_cons_inj]
          split
          · exact ih (n + 1) _
          · exact List.nil_prefix
      · simpa [hnotifer] using ih (n + 1) files

theorem commandRequests_eq {sdk : BakkesMod} {throws : ℕ → Call → Bool}
    {commands : List (List Text)} {n : ℕ} {files : Path → Option Body}
    (h : CommandsReturn sdk throws n commands files) :
    (commandRequests sdk throws n commands files).filterMap PluginEvent.request? =
      (messageEffects commands).filterMap MessageEffect.download? := by
  induction commands generalizing n files with
  | nil => rfl
  | cons args commands ih =>
    rw [messageEffects_cons]
    match args with
    | [] => exact ih h
    | [_] => exact ih h
    | notifer :: commandArgument :: rest =>
      unfold CommandsReturn at h
      unfold commandRequests commandEffects asksAvailable
      by_cases hnotifer : notifer = notiferName
      · by_cases havailable : commandArgument = availableCommand
        · simp [hnotifer, havailable, MessageEffect.download?]
        · rw [if_neg (not_not.mpr hnotifer), if_neg havailable] at h
          obtain ⟨hreturns, hsend, hrest⟩ := h
          have hgoes := ih hrest
          simpa [hnotifer, havailable, List.filterMap_cons, MessageEffect.download?,
            PluginEvent.request?, hreturns, hsend] using hgoes
      · rw [if_pos hnotifer] at h
        simpa [hnotifer] using ih h

/-- The requests of a message are its first download commands. -/
theorem ClientMessage.requests_prefix (sdk : BakkesMod) (message : ClientMessage)
    (files : Path → Option Body) :
    (message.requests sdk files).filterMap PluginEvent.request? <+: message.downloads sdk := by
  unfold ClientMessage.requests
  split
  · exact List.nil_prefix
  · exact commandRequests_prefix sdk message.throws _ 0 files

/-- If no call throws, they are all of them. -/
theorem ClientMessage.requests_eq {sdk : BakkesMod} {message : ClientMessage} {s : PluginState}
    (h : CallsReturn sdk message s) :
    (message.requests sdk s.files).filterMap PluginEvent.request? = message.downloads sdk := by
  obtain ⟨hparse, hcommands⟩ := h
  unfold ClientMessage.requests
  rw [if_neg (by simp [hparse])]
  exact commandRequests_eq hcommands

end BallchasingReplayPlayer
