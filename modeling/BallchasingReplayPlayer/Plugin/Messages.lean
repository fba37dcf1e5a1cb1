import BallchasingReplayPlayer.Plugin.Download

/-!
# Messages of Websocket Clients

`OnWebSocketMessage`: a message is parsed into commands, and the loop over the commands
downloads replays and answers the client.

The loop is stated for any `download` and `send`, numbered by the command that makes the
call, so that each call of a message has an outcome of its own.

## Main Results

- `onWebSocketMessage_not_threw_iff`: no exception leaves the handler iff no call it makes
  throws
-/

namespace BallchasingReplayPlayer

open LexicalPath

/-! ## The Command Loop -/

/-- `notifer_name_`. -/
def notiferName : Text := "ballchasing_viewer".toList

/-- The command that asks whether the plugin is there. -/
def availableCommand : Text := "available".toList

/-- The answer to a download command. -/
def downloadReply (replayId : Text) : Text :=
  "Attempting to download and open the replay with id ".toList ++ replayId

/-- The loop of `OnWebSocketMessage` over the commands, the first of them the `n`-th. -/
def commandLoop {m : Type → Type} [Monad m] (download : ℕ → Text → Text → m Unit)
    (send : ℕ → Text → m Unit) : ℕ → List (List Text) → m Unit
  | _, [] => pure ()
  | n, (notifer :: commandArgument :: rest) :: commands =>
    if notifer ≠ notiferName then
      -- `continue`
      commandLoop download send (n + 1) commands
    else if commandArgument = availableCommand then
      -- `return`: the commands behind it are not looked at
      send n "true".toList
    else do
      download n commandArgument (rest.headD [])
      send n (downloadReply commandArgument)
      commandLoop download send (n + 1) commands
  | n, _ :: commands => commandLoop download send (n + 1) commands

/-- A text message, with the calls that throw while each of its commands is handled. -/
structure ClientMessage where
  payload : Text
  throws : ℕ → Call → Bool

def onWebSocketMessage (sdk : BakkesMod) (handle : ClientHandle) (message : ClientMessage) :
    PluginM Unit := do
  call (message.throws 0) .parseConsoleInput
  commandLoop
    (fun n replayId token => downloadAndPlayReplay sdk (message.throws n) replayId token)
    (fun n text => send (message.throws n) handle text)
    0 (sdk.parseConsoleInput message.payload)

/-! ## Exceptions -/

/-- A request ends without an exception. -/
def Outcome.Returns (o : Outcome) : Prop := o = .cached ∨ o = .started

instance (o : Outcome) : Decidable o.Returns := inferInstanceAs (Decidable (_ ∨ _))

/-- No call made for the commands throws, the first of them the `n`-th, for the files there
    are in front of them. -/
def CommandsReturn (sdk : BakkesMod) (throws : ℕ → Call → Bool) :
    ℕ → List (List Text) → (Path → Option Body) → Prop
  | _, [], _ => True
  | n, (notifer :: commandArgument :: _) :: commands, files =>
    if notifer ≠ notiferName then CommandsReturn sdk throws (n + 1) commands files
    else if commandArgument = availableCommand then throws n .send = false
    else
      let file := (filePath sdk commandArgument).lexicallyNormal
      (outcome (throws n) (files file)).Returns ∧ throws n .send = false ∧
        CommandsReturn sdk throws (n + 1) commands (filesBehind (throws n) file files)
  | n, _ :: commands, files => CommandsReturn sdk throws (n + 1) commands files

instance decidableCommandsReturn (sdk : BakkesMod) (throws : ℕ → Call → Bool) :
    ∀ n commands files, Decidable (CommandsReturn sdk throws n commands files)
  | _, [], _ => inferInstanceAs (Decidable True)
  | n, (notifer :: commandArgument :: _) :: commands, files =>
    have := decidableCommandsReturn sdk throws (n + 1) commands files
    have := decidableCommandsReturn sdk throws (n + 1) commands
      (filesBehind (throws n) (filePath sdk commandArgument).lexicallyNormal files)
    inferInstanceAs (Decidable
      (if notifer ≠ notiferName then CommandsReturn sdk throws (n + 1) commands files
      else if commandArgument = availableCommand then throws n .send = false
      else
        (outcome (throws n)
          (files (filePath sdk commandArgument).lexicallyNormal)).Returns ∧
        throws n .send = false ∧
        CommandsReturn sdk throws (n + 1) commands
          (filesBehind (throws n) (filePath sdk commandArgument).lexicallyNormal files)))
  | n, [_] :: commands, files => decidableCommandsReturn sdk throws (n + 1) commands files
  | n, [] :: commands, files => decidableCommandsReturn sdk throws (n + 1) commands files

/-- No call made while the message is handled throws. -/
def CallsReturn (sdk : BakkesMod) (message : ClientMessage) (s : PluginState) : Prop :=
  message.throws 0 .parseConsoleInput = false ∧
    CommandsReturn sdk message.throws 0 (sdk.parseConsoleInput message.payload) s.files

instance (sdk : BakkesMod) (message : ClientMessage) (s : PluginState) :
    Decidable (CallsReturn sdk message s) :=
  inferInstanceAs (Decidable (_ = _ ∧ CommandsReturn ..))

theorem downloadAndPlayReplay_not_threw_iff (sdk : BakkesMod) (throws : Call → Bool)
    (replayId token : Text) (s : PluginState) :
    threw (downloadAndPlayReplay sdk throws replayId token s) = false ↔
      (s.outcome sdk replayId throws).Returns := by
  rw [downloadAndPlayReplay_eq]
  dsimp only [PluginState.outcome]
  cases outcome throws (s.files (filePath sdk replayId).lexicallyNormal) with
  | testThrew => simp [threw, Outcome.Returns]
  | cached => simp [threw, Outcome.Returns]
  | startThrew => cases throws .createDirectories <;> simp [threw, Outcome.Returns]
  | started => simp [threw, Outcome.Returns]

/-- A request that returns ends as if no call could throw. -/
theorem outcome_noThrow_of_returns {throws : Call → Bool} {content : Option Body}
    (h : (outcome throws content).Returns) : outcome noThrow content = outcome throws content := by
  have hfree : outcome noThrow content =
      if content.any (· ≠ []) then .cached else .started := by simp [outcome, noThrow]
  rw [hfree]
  unfold outcome at h ⊢
  by_cases htest : (throws .existsTest || (content.isSome && throws .fileSize)) = true
  · rw [if_pos htest] at h
    simp [Outcome.Returns] at h
  · rw [if_neg htest] at h ⊢
    by_cases hstart : (throws .createDirectories || throws .sendCurlRequest) = true
    · rw [if_pos hstart] at h ⊢
      by_cases hcached : content.any (· ≠ []) = true
      · rw [if_pos hcached, if_pos hcached]
      · rw [if_neg hcached] at h
        simp [Outcome.Returns] at h
    · rw [if_neg hstart]

theorem downloadAndPlayReplay_of_returns {sdk : BakkesMod} {throws : Call → Bool}
    {replayId : Text} {s : PluginState} (h : (s.outcome sdk replayId throws).Returns)
    (token : Text) :
    downloadAndPlayReplay sdk throws replayId token s =
      .ok () (finalState (downloadAndPlayReplay sdk noThrow replayId token s)) := by
  rw [downloadAndPlayReplay_eq, downloadAndPlayReplay_eq]
  dsimp only
  unfold PluginState.outcome at h
  rw [outcome_noThrow_of_returns h]
  rcases h with h | h
  · rw [h]
    rfl
  · rw [h]
    rfl

/-- The handler of one message, with the calls it makes. -/
abbrev messageLoop (sdk : BakkesMod) (throws : ℕ → Call → Bool) (handle : ClientHandle) :
    ℕ → List (List Text) → PluginM Unit :=
  commandLoop (fun n replayId token => downloadAndPlayReplay sdk (throws n) replayId token)
    (fun n text => send (throws n) handle text)

theorem messageLoop_not_threw_iff (sdk : BakkesMod) (throws : ℕ → Call → Bool)
    (handle : ClientHandle) (commands : List (List Text)) (n : ℕ) (s : PluginState) :
    threw (messageLoop sdk throws handle n commands s) = false ↔
      CommandsReturn sdk throws n commands s.files := by
  induction commands generalizing n s with
  | nil => simp [commandLoop, CommandsReturn, threw]
  | cons args commands ih =>
    match args with
    -- skipped: no command word, or no argument
    | [] => exact ih (n + 1) s
    | [_] => exact ih (n + 1) s
    | notifer :: commandArgument :: rest =>
      unfold messageLoop commandLoop CommandsReturn
      by_cases hnotifer : notifer ≠ notiferName
      · rw [if_pos hnotifer, if_pos hnotifer]
        exact ih (n + 1) s
      · rw [if_neg hnotifer, if_neg hnotifer]
        by_cases havailable : commandArgument = availableCommand
        · rw [if_pos havailable, if_pos havailable, run_send]
          cases throws n .send <;> simp [threw]
        · rw [if_neg havailable, if_neg havailable, run_bind]
          dsimp only
          -- of the request, only its end and the files behind it matter
          have hreturns := downloadAndPlayReplay_not_threw_iff sdk (throws n) commandArgument
            (rest.headD []) s
          have hfiles := downloadAndPlayReplay_files sdk (throws n) commandArgument
            (rest.headD []) s
          rw [← hfiles]
          unfold PluginState.outcome at hreturns
          rw [← hreturns]
          generalize downloadAndPlayReplay sdk (throws n) commandArgument (rest.headD []) s = r
          cases r with
          | error c s' => simp [threw]
          | ok u s' =>
            cases hsend : throws n .send with
            | true => simp [threw, hsend]
            | false => simpa [threw, hsend, finalState] using ih (n + 1) _

/-- **Exceptions**: none leaves the message handler iff no call it makes throws. -/
theorem onWebSocketMessage_not_threw_iff (sdk : BakkesMod) (handle : ClientHandle)
    (message : ClientMessage) (s : PluginState) :
    threw (onWebSocketMessage sdk handle message s) = false ↔
      CallsReturn sdk message s := by
  unfold onWebSocketMessage CallsReturn
  rw [run_bind, run_call]
  cases message.throws 0 .parseConsoleInput with
  | true => simp [threw]
  | false => simpa using messageLoop_not_threw_iff sdk message.throws handle _ 0 s

end BallchasingReplayPlayer
