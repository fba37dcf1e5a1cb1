import BallchasingReplayPlayer.Plugin.Messages

/-!
# The Commands of a Message

What the commands of one message make the plugin do, in their order: the downloads it
requests and the replies it sends. A command that is not addressed to the plugin is skipped,
and a download goes on with the next command; but the answer to `available` leaves the loop.

## Layers

1. `messageEffects` — the effects the loop over the commands has, as a list
2. `messageEffects_cons` — what the first command contributes and whether the loop goes on
3. `onWebSocketMessage_eq` — the handler does to the plugin what the list says

## Main Result

- `handledOneByOne_iff`: the messages whose commands are all handled as if each of them were
  alone
-/

namespace BallchasingReplayPlayer

open LexicalPath

/-! ## Effects -/

/-- What handling a command does: a download is requested, or a reply sent to the client. -/
inductive MessageEffect where
  | download (replayId token : Text)
  | reply (text : Text)
deriving DecidableEq

/-- A call that is only recorded. -/
def recordEffect (effect : MessageEffect) : StateM (List MessageEffect) Unit :=
  modify (· ++ [effect])

/-- The loop of `OnWebSocketMessage` with calls that all return. -/
def recordedLoop : ℕ → List (List Text) → StateM (List MessageEffect) Unit :=
  commandLoop (fun _ replayId token => recordEffect (.download replayId token))
    (fun _ text => recordEffect (.reply text))

/-- The effects of `OnWebSocketMessage` on the commands of one message, in their order. -/
def messageEffects (commands : List (List Text)) : List MessageEffect :=
  (recordedLoop 0 commands []).2

/-- The command is for this plugin: it has two arguments and names the plugin first. -/
def isAddressed : List Text → Bool
  | notifer :: _ :: _ => notifer == notiferName
  | _ => false

/-- The command asks whether the plugin is there. -/
def asksAvailable : List Text → Bool
  | notifer :: commandArgument :: _ =>
    notifer == notiferName && commandArgument == availableCommand
  | _ => false

/-- The reply to a command for this plugin. -/
def answer : List Text → Text
  | _ :: commandArgument :: _ =>
    if commandArgument = availableCommand then "true".toList else downloadReply commandArgument
  | _ => []

/-- The effects of a command that is handled, without those of the commands behind it. -/
def commandEffects : List Text → List MessageEffect
  | notifer :: commandArgument :: rest =>
    if notifer ≠ notiferName then []
    else if commandArgument = availableCommand then [.reply "true".toList]
    else [.download commandArgument (rest.headD []), .reply (downloadReply commandArgument)]
  | _ => []

/-! ## The Loop, Command by Command -/

/-- The first command has its effects, and the loop goes on unless it asked for `available`. -/
theorem recordedLoop_cons (n : ℕ) (args : List Text) (commands : List (List Text))
    (effects : List MessageEffect) :
    recordedLoop n (args :: commands) effects =
      if asksAvailable args then ((), effects ++ commandEffects args)
      else recordedLoop (n + 1) commands (effects ++ commandEffects args) := by
  match args with
  -- skipped: no command word, or no argument
  | [] => exact (congrArg (recordedLoop (n + 1) commands) (List.append_nil effects)).symm
  | [_] => exact (congrArg (recordedLoop (n + 1) commands) (List.append_nil effects)).symm
  | notifer :: commandArgument :: rest =>
    have hloop : recordedLoop n ((notifer :: commandArgument :: rest) :: commands) =
        if notifer ≠ notiferName then recordedLoop (n + 1) commands
        else if commandArgument = availableCommand then recordEffect (.reply "true".toList)
        else
          recordEffect (.download commandArgument (rest.headD [])) >>= fun _ =>
            recordEffect (.reply (downloadReply commandArgument)) >>= fun _ =>
              recordedLoop (n + 1) commands := rfl
    rw [hloop]
    by_cases hnotifer : notifer = notiferName
    · by_cases havailable : commandArgument = availableCommand
      · simp only [asksAvailable, commandEffects, hnotifer, havailable]
        rfl
      · have hgoes : asksAvailable (notifer :: commandArgument :: rest) = false := by
          simp [asksAvailable, havailable]
        rw [if_neg (not_not.mpr hnotifer), if_neg havailable, hgoes, commandEffects,
          if_neg (not_not.mpr hnotifer), if_neg havailable]
        -- the two calls of a download, one after the other
        show recordedLoop (n + 1) commands (effects ++ [_] ++ [_]) = _
        rw [List.append_assoc]
        rfl
    · have hgoes : asksAvailable (notifer :: commandArgument :: rest) = false := by
        simp [asksAvailable, hnotifer]
      rw [if_pos hnotifer, hgoes, commandEffects, if_pos hnotifer, List.append_nil]
      rfl

/-- The loop appends to what has been recorded, whatever the number of its first command. -/
theorem recordedLoop_eq (commands : List (List Text)) (n : ℕ) (effects : List MessageEffect) :
    recordedLoop n commands effects = ((), effects ++ messageEffects commands) := by
  induction commands generalizing n effects with
  | nil => exact congrArg (Prod.mk ()) (List.append_nil effects).symm
  | cons args commands ih =>
    unfold messageEffects
    rw [recordedLoop_cons, recordedLoop_cons]
    split
    · simp
    · rw [ih, ih]
      simp

@[simp] theorem messageEffects_nil : messageEffects [] = [] := rfl

/-- **Command by command**: what stands behind a command has its effects as well, unless the
    command asked for `available`. -/
theorem messageEffects_cons (args : List Text) (commands : List (List Text)) :
    messageEffects (args :: commands) =
      commandEffects args ++ if asksAvailable args then [] else messageEffects commands := by
  have hcons := recordedLoop_cons 0 args commands []
  rw [recordedLoop_eq, List.nil_append] at hcons
  split at hcons
  case isTrue havailable =>
    rw [if_pos havailable, List.append_nil]
    exact congrArg Prod.snd hcons
  case isFalse havailable =>
    rw [recordedLoop_eq] at hcons
    rw [if_neg havailable]
    exact congrArg Prod.snd hcons

/-- Alone in its message, a command has its own effects. -/
theorem messageEffects_singleton (args : List Text) :
    messageEffects [args] = commandEffects args := by
  rw [messageEffects_cons]
  simp

/-- A command has effects iff it is for this plugin. -/
theorem commandEffects_eq_nil_iff (args : List Text) :
    commandEffects args = [] ↔ isAddressed args = false := by
  match args with
  | [] => simp [commandEffects, isAddressed]
  | [_] => simp [commandEffects, isAddressed]
  | notifer :: commandArgument :: rest =>
    unfold commandEffects isAddressed
    dsimp only
    by_cases hnotifer : notifer = notiferName
    · rw [if_neg (not_not.mpr hnotifer)]
      split
      · simp [hnotifer]
      · simp [hnotifer]
    · rw [if_pos hnotifer]
      simp [hnotifer]

/-! ## The Handler -/

/-- What an effect does to the plugin. -/
def MessageEffect.perform (sdk : BakkesMod) (handle : ClientHandle) (s : PluginState) :
    MessageEffect → PluginState
  | .download replayId token => finalState (downloadAndPlayReplay sdk noThrow replayId token s)
  | .reply text => { s with replies := s.replies ++ [(handle, text)] }

theorem messageLoop_eq {sdk : BakkesMod} {throws : ℕ → Call → Bool} (handle : ClientHandle)
    {commands : List (List Text)} {n : ℕ} {s : PluginState}
    (h : CommandsReturn sdk throws n commands s.files) :
    messageLoop sdk throws handle n commands s =
      .ok () ((messageEffects commands).foldl (MessageEffect.perform sdk handle) s) := by
  induction commands generalizing n s with
  | nil => rfl
  | cons args commands ih =>
    rw [messageEffects_cons]
    match args with
    | [] => exact ih h
    | [_] => exact ih h
    | notifer :: commandArgument :: rest =>
      unfold CommandsReturn at h
      unfold messageLoop commandLoop commandEffects asksAvailable
      dsimp only
      by_cases hnotifer : notifer = notiferName
      · rw [if_neg (not_not.mpr hnotifer)] at h ⊢
        rw [if_neg (not_not.mpr hnotifer)]
        by_cases havailable : commandArgument = availableCommand
        · rw [if_pos havailable] at h ⊢
          rw [if_pos havailable, run_send, h]
          simp [MessageEffect.perform, hnotifer, havailable]
        · rw [if_neg havailable] at h ⊢
          obtain ⟨hreturns, hsend, hrest⟩ := h
          have hdownload := downloadAndPlayReplay_of_returns hreturns (rest.headD [])
          have hfiles := downloadAndPlayReplay_files sdk (throws n) commandArgument
            (rest.headD []) s
          rw [hdownload] at hfiles
          rw [if_neg havailable, run_bind, hdownload]
          dsimp only
          rw [run_bind, run_send, hsend]
          -- the files behind the request are those the next command finds
          rw [← hfiles] at hrest
          have hgoes : (commandArgument == availableCommand) = false := by simp [havailable]
          simp only [Bool.false_eq_true, if_false, hgoes, Bool.and_false]
          exact ih (s := { finalState (downloadAndPlayReplay sdk noThrow commandArgument
            (rest.headD []) s) with replies := _ }) hrest
      · rw [if_pos hnotifer] at h ⊢
        rw [if_pos hnotifer]
        simpa [hnotifer] using ih h

/-- **Refinement**: a message whose calls return does its effects to the plugin, one after
    the other. -/
theorem onWebSocketMessage_eq {sdk : BakkesMod} {message : ClientMessage} {s : PluginState}
    (h : CallsReturn sdk message s) (handle : ClientHandle) :
    onWebSocketMessage sdk handle message s =
      .ok () ((messageEffects (sdk.parseConsoleInput message.payload)).foldl
        (MessageEffect.perform sdk handle) s) := by
  obtain ⟨hparse, hcommands⟩ := h
  unfold onWebSocketMessage
  rw [run_bind, run_call, hparse]
  exact messageLoop_eq handle hcommands

/-! ## Replies -/

/-- The reply among the effects. -/
def MessageEffect.reply? : MessageEffect → Option Text
  | .download _ _ => none
  | .reply text => some text

/-- A command for this plugin is answered once, and any other one not at all. -/
theorem commandEffects_replies (args : List Text) :
    (commandEffects args).filterMap MessageEffect.reply? =
      if isAddressed args then [answer args] else [] := by
  match args with
  | [] => rfl
  | [_] => rfl
  | notifer :: commandArgument :: rest =>
    unfold commandEffects isAddressed answer
    dsimp only
    by_cases hnotifer : notifer = notiferName
    · have haddressed : (notifer == notiferName) = true := by simp [hnotifer]
      rw [if_neg (not_not.mpr hnotifer), if_pos haddressed]
      by_cases havailable : commandArgument = availableCommand
      · rw [if_pos havailable, if_pos havailable]
        rfl
      · rw [if_neg havailable, if_neg havailable]
        rfl
    · have hother : ¬ (notifer == notiferName) = true := by simp [hnotifer]
      rw [if_pos hnotifer, if_neg hother]
      rfl

/-- If every command has its own effects, every command for this plugin gets its reply. -/
theorem replies_flatMap_commandEffects (commands : List (List Text)) :
    (commands.flatMap commandEffects).filterMap MessageEffect.reply? =
      (commands.filter isAddressed).map answer := by
  induction commands with
  | nil => rfl
  | cons args commands ih =>
    rw [List.flatMap_cons, List.filterMap_append, commandEffects_replies, ih, List.filter_cons]
    split
    · rfl
    · rfl

/-! ## Handling One by One -/

/-- No command for this plugin stands behind one that asks for `available`. -/
def NothingBehindAvailable (commands : List (List Text)) : Prop :=
  commands.Pairwise fun args args' => asksAvailable args = true → isAddressed args' = false

instance (commands : List (List Text)) : Decidable (NothingBehindAvailable commands) :=
  inferInstanceAs (Decidable (commands.Pairwise _))

/-- **Concatenation**: the commands have their own effects, one after the other, iff none for
    this plugin stands behind an `available`. -/
theorem messageEffects_eq_flatMap_iff (commands : List (List Text)) :
    messageEffects commands = commands.flatMap commandEffects ↔
      NothingBehindAvailable commands := by
  unfold NothingBehindAvailable
  induction commands with
  | nil => simp
  | cons args commands ih =>
    rw [messageEffects_cons, List.flatMap_cons, List.append_cancel_left_eq, List.pairwise_cons]
    by_cases havailable : asksAvailable args = true
    · -- the loop ends here, so what is left must have no effect
      rw [if_pos havailable, eq_comm, List.flatMap_eq_nil_iff]
      simp only [commandEffects_eq_nil_iff, havailable, forall_const]
      constructor
      · intro hskipped
        refine ⟨hskipped, ?_⟩
        apply List.pairwise_of_forall_mem_list
        intro args' _ args'' hmem _
        exact hskipped args'' hmem
      · exact fun h => h.1
    · -- the loop goes on with the commands behind it
      rw [if_neg havailable, ih]
      simp [havailable]

/-- The commands of a message are handled as if each of them were alone in it, in their
    order: the effects are those of the single commands, a command that is not for this
    plugin has none, the parts of a message do not depend on each other, and every command
    for this plugin gets exactly its reply. -/
structure HandledOneByOne (commands : List (List Text)) : Prop where
  concatenated : messageEffects commands = commands.flatMap fun args => messageEffects [args]
  skipped : ∀ args ∈ commands, isAddressed args = false → messageEffects [args] = []
  appended : ∀ xs ys, commands = xs ++ ys →
    messageEffects commands = messageEffects xs ++ messageEffects ys
  answered : (messageEffects commands).filterMap MessageEffect.reply? =
    (commands.filter isAddressed).map answer

/-- **The commands of a message are handled one by one** iff none for this plugin stands
    behind one that asks for `available`. -/
theorem handledOneByOne_iff (commands : List (List Text)) :
    HandledOneByOne commands ↔ NothingBehindAvailable commands := by
  have hsingle : (fun args => messageEffects [args]) = commandEffects :=
    funext messageEffects_singleton
  constructor
  · intro h
    rw [← messageEffects_eq_flatMap_iff, ← hsingle]
    exact h.concatenated
  · intro h
    have hconcatenated := (messageEffects_eq_flatMap_iff commands).mpr h
    refine ⟨?_, ?_, ?_, ?_⟩
    · rw [hsingle]
      exact hconcatenated
    · intro args _ hskipped
      rw [messageEffects_singleton]
      exact (commandEffects_eq_nil_iff args).mpr hskipped
    · -- both parts of the message meet the condition as well
      rintro xs ys rfl
      obtain ⟨hxs, hys, -⟩ := List.pairwise_append.mp h
      rw [hconcatenated, List.flatMap_append, (messageEffects_eq_flatMap_iff xs).mpr hxs,
        (messageEffects_eq_flatMap_iff ys).mpr hys]
    · rw [hconcatenated]
      exact replies_flatMap_commandEffects commands

/-- A message that asks for `available` and for a replay gets the first answer only: the
    replay is neither downloaded nor is there a reply to its command. -/
theorem command_behind_available_ignored :
    let payload := "ballchasing_viewer available;ballchasing_viewer ab token".toList
    let commands := BakkesMod.simple.parseConsoleInput payload
    messageEffects commands = [.reply "true".toList] ∧
      (commands.flatMap fun args => messageEffects [args]) =
        [.reply "true".toList, .download "ab".toList "token".toList,
          .reply (downloadReply "ab".toList)] ∧
      ¬ HandledOneByOne commands := by
  refine ⟨by decide +kernel, by decide +kernel, ?_⟩
  intro h
  exact absurd h.concatenated (by decide +kernel)

end BallchasingReplayPlayer
