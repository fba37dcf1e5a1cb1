import Mathlib.Data.List.Forall2
import BallchasingReplayPlayer.Server.System

/-!
# Replies

Every reply goes to the client whose message is being handled. An exception cuts off the
replies to its message, and to no other one.

## Main Results

- `onWebSocketMessage_replies`: the replies of one message
- `replies_of_client`: the replies a client gets in a run of the whole program
-/

namespace BallchasingReplayPlayer

open LexicalPath Transition

/-! ## The Replies of a Message -/

/-- The answers to the commands of a message, up to an `available`. -/
def ClientMessage.answers (sdk : BakkesMod) (message : ClientMessage) : List Text :=
  (messageEffects (sdk.parseConsoleInput message.payload)).filterMap MessageEffect.reply?

/-- What a client has been sent. -/
def PluginState.repliesTo (s : PluginState) (handle : ClientHandle) : List Text :=
  (s.replies.filter (·.1 = handle)).map (·.2)

/-- The loop answers the commands from the first one on, up to an exception. -/
theorem messageLoop_replies (sdk : BakkesMod) (throws : ℕ → Call → Bool) (handle : ClientHandle)
    (commands : List (List Text)) (n : ℕ) (s : PluginState) :
    ∃ texts, (finalState (messageLoop sdk throws handle n commands s)).replies =
        s.replies ++ texts.map (handle, ·) ∧
      texts <+: (messageEffects commands).filterMap MessageEffect.reply? ∧
      (CommandsReturn sdk throws n commands s.files →
        texts = (messageEffects commands).filterMap MessageEffect.reply?) := by
  induction commands generalizing n s with
  | nil => exact ⟨[], (List.append_nil _).symm, List.prefix_rfl, fun _ => rfl⟩
  | cons args commands ih =>
    rw [messageEffects_cons]
    match args with
    | [] => exact ih (n + 1) s
    | [_] => exact ih (n + 1) s
    | notifer :: commandArgument :: rest =>
      unfold messageLoop commandLoop CommandsReturn commandEffects asksAvailable
      by_cases hnotifer : notifer = notiferName
      case neg =>
        obtain ⟨texts, htexts⟩ := ih (n + 1) s
        exact ⟨texts, by simpa [hnotifer] using htexts⟩
      case pos =>
        rw [if_neg (not_not.mpr hnotifer), if_neg (not_not.mpr hnotifer)]
        by_cases havailable : commandArgument = availableCommand
        · rw [if_pos havailable, if_pos havailable, run_send]
          cases hsend : throws n .send with
          | true =>
            exact ⟨[], by simp [finalState], List.nil_prefix, fun h => absurd h (by simp)⟩
          | false =>
            refine ⟨["true".toList], rfl, ?_, fun _ => ?_⟩
            · simp [hnotifer, havailable, MessageEffect.reply?]
            · simp [hnotifer, havailable, MessageEffect.reply?]
        · rw [if_neg havailable, if_neg havailable, run_bind]
          dsimp only
          have hreturns := downloadAndPlayReplay_not_threw_iff sdk (throws n) commandArgument
            (rest.headD []) s
          have hfiles := downloadAndPlayReplay_files sdk (throws n) commandArgument
            (rest.headD []) s
          -- a request sends no reply
          have hreplies : (finalState (downloadAndPlayReplay sdk (throws n) commandArgument
              (rest.headD []) s)).replies = s.replies :=
            (next_silenced sdk s (.request commandArgument (rest.headD []) (throws n))).2
          rw [← hfiles, ← hreplies]
          unfold PluginState.outcome at hreturns
          cases hrequest : downloadAndPlayReplay sdk (throws n) commandArgument (rest.headD []) s with
          | error c s' =>
            rw [hrequest] at hreturns
            exact ⟨[], (List.append_nil _).symm, List.nil_prefix,
              fun h => absurd (hreturns.mpr h.1) (by simp [threw])⟩
          | ok u s' =>
            dsimp only
            rw [run_bind, run_send]
            cases hsend : throws n .send with
            | true =>
              exact ⟨[], by simp [finalState], List.nil_prefix, fun h => absurd h.2.1 (by simp)⟩
            | false =>
              obtain ⟨texts, htexts, hprefix, hall⟩ := ih (n + 1)
                { s' with replies := s'.replies ++ [(handle, downloadReply commandArgument)] }
              refine ⟨downloadReply commandArgument :: texts, ?_, ?_, ?_⟩
              · rw [if_neg (by simp)]
                exact htexts.trans (List.append_assoc ..)
              · simpa [hnotifer, havailable, MessageEffect.reply?, List.filterMap_cons] using hprefix
              · intro h
                simpa [hnotifer, havailable, MessageEffect.reply?, List.filterMap_cons] using
                  hall h.2.2

/-- **Replies to a message**: they all go to its client and are the first answers to its
    commands, and all answers if no call throws. -/
theorem onWebSocketMessage_replies (sdk : BakkesMod) (handle : ClientHandle)
    (message : ClientMessage) (s : PluginState) :
    ∃ texts, (finalState (onWebSocketMessage sdk handle message s)).replies =
        s.replies ++ texts.map (handle, ·) ∧
      texts <+: message.answers sdk ∧
      (CallsReturn sdk message s → texts = message.answers sdk) := by
  unfold onWebSocketMessage CallsReturn
  rw [run_bind, run_call]
  cases message.throws 0 .parseConsoleInput with
  | true =>
    exact ⟨[], (List.append_nil _).symm, List.nil_prefix, fun h => absurd h.1 (by simp)⟩
  | false =>
    obtain ⟨texts, htexts, hprefix, hall⟩ := messageLoop_replies sdk message.throws handle
      (sdk.parseConsoleInput message.payload) 0 s
    exact ⟨texts, htexts, hprefix, fun h => hall h.2⟩

/-! ## The Replies of a Run -/

/-- The messages of one client. -/
def messagesFrom (handle : ClientHandle) (messages : List (ClientHandle × ClientMessage)) :
    List ClientMessage :=
  (messages.filter (·.1 = handle)).map (·.2)

@[simp] theorem messagesFrom_nil (handle : ClientHandle) : messagesFrom handle [] = [] := rfl

@[simp] theorem messagesFrom_append (handle : ClientHandle)
    (messages messages' : List (ClientHandle × ClientMessage)) :
    messagesFrom handle (messages ++ messages') =
      messagesFrom handle messages ++ messagesFrom handle messages' := by
  simp [messagesFrom]

theorem messagesFrom_singleton (handle handle' : ClientHandle) (message : ClientMessage) :
    messagesFrom handle [(handle', message)] = if handle' = handle then [message] else [] := by
  by_cases h : handle' = handle
  · simp [messagesFrom, h]
  · simp [messagesFrom, h]

/-- Replies to one client are of no concern to the others. -/
theorem repliesTo_append {s s' : PluginState} {handle' : ClientHandle} {texts : List Text}
    (h : s'.replies = s.replies ++ texts.map (handle', ·)) (handle : ClientHandle) :
    s'.repliesTo handle = s.repliesTo handle ++ if handle' = handle then texts else [] := by
  unfold PluginState.repliesTo
  rw [h, List.filter_append, List.map_append]
  by_cases heq : handle' = handle
  · simp [heq, List.filter_map, Function.comp_def]
  · simp [heq]

/-- Each message is answered by some of its first answers. -/
def AnsweredInPart (sdk : BakkesMod) (messages : List ClientMessage) (parts : List (List Text)) :
    Prop :=
  List.Forall₂ (fun message part => part <+: message.answers sdk) messages parts

section

variable {sdk : BakkesMod} {s : PluginServer} {e : PluginServerEvent}
  {as : List PluginServerEvent}

/-- Only messages are answered. -/
theorem repliesTo_other (he : (serverMachine (pluginService sdk)).enabled s e)
    (hmessage : e.isMessage = false) (handle : ClientHandle) :
    (s.next (pluginService sdk) e).app.repliesTo handle = s.app.repliesTo handle ∧
      handledBy s e = [] := by
  cases e with
  | message handle' message => cases hmessage
  | background e =>
    refine ⟨?_, rfl⟩
    unfold PluginState.repliesTo
    show ((s.app.next sdk e).replies.filter (·.1 = handle)).map (·.2) = _
    rw [(next_silenced sdk s.app e).2]
  | _ => exact ⟨congrArg (PluginState.repliesTo · handle) (app_next rfl rfl), rfl⟩

/-- **Step lemma**: a step answers the message it hands to the plugin. -/
theorem repliesTo_next (h : SoleHandler s)
    (he : (serverMachine (pluginService sdk)).enabled s e) (handle : ClientHandle) :
    ∃ parts, (s.next (pluginService sdk) e).app.repliesTo handle =
        s.app.repliesTo handle ++ parts.flatten ∧
      AnsweredInPart sdk (messagesFrom handle (handledBy s e)) parts ∧
      (MessagesReturn sdk s e →
        parts = (messagesFrom handle (handledBy s e)).map (ClientMessage.answers sdk)) := by
  by_cases hmessage : e.isMessage = true
  · cases e with
    | message handle' message =>
      simp only [ServerState.next, ServerState.message, handledBy]
      rcases h with hnone | hone
      · rw [if_pos hnone, hnone]
        exact ⟨[], (List.append_nil _).symm, .nil, fun _ => rfl⟩
      · rw [if_neg (by simp [hone]), hone, onMessage_singleton, messagesFrom_singleton]
        obtain ⟨texts, htexts, hprefix, hall⟩ :=
          onWebSocketMessage_replies sdk handle' message s.app
        have hreplies := repliesTo_append htexts handle
        by_cases heq : handle' = handle
        · rw [if_pos heq] at hreplies ⊢
          refine ⟨[texts], ?_, .cons hprefix .nil, ?_⟩
          · rw [List.flatten_singleton]
            exact hreplies
          · intro hreturns
            rw [hall (hreturns (by simp [hone]))]
            rfl
        · rw [if_neg heq] at hreplies ⊢
          exact ⟨[], hreplies, .nil, fun _ => rfl⟩
    | _ => cases hmessage
  · obtain ⟨hsame, hnone⟩ := repliesTo_other he (by simpa using hmessage) handle
    rw [hsame, hnone]
    exact ⟨[], (List.append_nil _).symm, .nil, fun _ => rfl⟩

/-- **Run lemma**: the messages of a client are answered one after the other. -/
theorem repliesTo_exec (h : SoleHandler s) (hl : (serverMachine (pluginService sdk)).Legal s as)
    (handle : ClientHandle) :
    ∃ parts, ((serverMachine (pluginService sdk)).exec s as).app.repliesTo handle =
        s.app.repliesTo handle ++ parts.flatten ∧
      AnsweredInPart sdk (messagesFrom handle (handledAlong sdk s as)) parts ∧
      ((serverMachine (pluginService sdk)).Along (MessagesReturn sdk) s as →
        parts = (messagesFrom handle (handledAlong sdk s as)).map (ClientMessage.answers sdk)) := by
  induction as generalizing s with
  | nil => exact ⟨[], (List.append_nil _).symm, .nil, fun _ => rfl⟩
  | cons e as ih =>
    obtain ⟨he, hrest⟩ := hl
    obtain ⟨parts, hreplies, hanswered, hall⟩ := repliesTo_next h he handle
    obtain ⟨parts', hreplies', hanswered', hall'⟩ := ih h.next hrest
    rw [handledAlong, messagesFrom_append]
    refine ⟨parts ++ parts', ?_, List.rel_append hanswered hanswered', ?_⟩
    · rw [List.flatten_append, ← List.append_assoc, ← hreplies]
      exact hreplies'
    · rintro ⟨hreturns, hreturns'⟩
      rw [List.map_append, hall hreturns, hall' hreturns']

end

end BallchasingReplayPlayer
