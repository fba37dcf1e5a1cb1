import Mathlib.Data.List.GetD
import BallchasingReplayPlayer.Lib.ScopedHeap
import BallchasingReplayPlayer.Plugin.Messages

/-!
# The Command List of a Message

`parseConsoleInput` returns a list the handler has to delete. `OnWebSocketMessage` leaves that
to a `ScopeExec`, and its loop reads the list through the pointer.

## Source

- `ScopeExec` ↔ `ScopeExec`, `withScopeExec`
- `OnWebSocketMessage`, with the list on the heap ↔ `onWebSocketMessageOnHeap`

## Main Result

- `onWebSocketMessageOnHeap_eq`: the handler does what `onWebSocketMessage` does, and its list is
  allocated and deleted once
-/

namespace BallchasingReplayPlayer

open LexicalPath ScopedHeap

/-! ## Scope Guards -/

/-- `ScopeExec`: an empty `on_scope_exit_` is not called. -/
structure ScopeExec (σ : Type) where
  onScopeExit : Option (σ → σ)

/-- `~ScopeExec`. -/
def ScopeExec.destruct {σ : Type} (guard : ScopeExec σ) (s : σ) : σ :=
  match guard.onScopeExit with
  | some deleter => deleter s
  | none => s

/-- A scope with a `ScopeExec` in it: the destructor runs on every way out. -/
def withScopeExec {ε σ β : Type} (guard : ScopeExec σ) (body : EStateM ε σ β) : EStateM ε σ β :=
  onExit guard.destruct body

/-! ## The Handler -/

/-- The commands of a message. -/
abbrev CommandList := List (List Text)

/-- Code of the plugin, on a heap of command lists. -/
abbrev PluginHeapM := HeapM Call PluginState CommandList

/-- The `n`-th command of a list, read through its pointer. -/
def commandAt (commandList : Address) (n : ℕ) : PluginHeapM (List Text) := do
  return ((← deref commandList).getD []).getD n []

/-- The loop of `OnWebSocketMessage`, with that many commands left, the first of them the
    `n`-th. -/
def commandLoopOnHeap (sdk : BakkesMod) (throws : ℕ → Call → Bool) (handle : ClientHandle)
    (commandList : Address) : ℕ → ℕ → PluginHeapM Unit
  | 0, _ => pure ()
  | left + 1, n => do
    match ← commandAt commandList n with
    | notifer :: commandArgument :: rest =>
      if notifer ≠ notiferName then
        commandLoopOnHeap sdk throws handle commandList left (n + 1)
      else if commandArgument = availableCommand then
        lift (send (throws n) handle "true".toList)
      else do
        lift (downloadAndPlayReplay sdk (throws n) commandArgument (rest.headD []))
        -- `command_argument` is a reference into the list
        let args ← commandAt commandList n
        lift (send (throws n) handle (downloadReply (args.getD 1 [])))
        commandLoopOnHeap sdk throws handle commandList left (n + 1)
    | _ => commandLoopOnHeap sdk throws handle commandList left (n + 1)

/-- `OnWebSocketMessage`, with the command list on the heap. -/
def onWebSocketMessageOnHeap (sdk : BakkesMod) (allocator : Allocator) (handle : ClientHandle)
    (message : ClientMessage) : PluginHeapM Unit := do
  lift (call (message.throws 0) .parseConsoleInput)
  let commandList ← new allocator (sdk.parseConsoleInput message.payload)
  withScopeExec ⟨some (delete commandList)⟩ do
    let size := ((← deref commandList).getD []).length
    commandLoopOnHeap sdk message.throws handle commandList size 0

/-! ## Refinement -/

section

variable {sdk : BakkesMod} {h : Heap CommandList} {commandList : Address}
  {commands : CommandList}

/-- A command that is read is the command of the list. -/
theorem Lifts.commandAt {β : Type} {n : ℕ} {f : List Text → PluginHeapM β}
    {plain : PluginM β} (hread : h.read commandList = some commands)
    (hf : Lifts h (f (commands.getD n [])) plain) :
    Lifts h (commandAt commandList n >>= f) plain := by
  unfold BallchasingReplayPlayer.commandAt
  rw [bind_assoc]
  apply Lifts.deref hread
  rw [pure_bind]
  exact hf

/-- **The loop**: reading the list through its pointer, it does what the loop over the commands
    left does. -/
theorem lifts_commandLoopOnHeap (throws : ℕ → Call → Bool) (handle : ClientHandle)
    (hread : h.read commandList = some commands) (left n : ℕ)
    (hleft : n + left = commands.length) :
    Lifts h (commandLoopOnHeap sdk throws handle commandList left n)
      (messageLoop sdk throws handle n (commands.drop n)) := by
  induction left generalizing n with
  | zero =>
    rw [List.drop_eq_nil_of_le (by omega)]
    exact Lifts.pure h ()
  | succ left ih =>
    have hn : n < commands.length := by omega
    have hrest := ih (n + 1) (by omega)
    have hargs : commands.getD n [] = commands[n] := List.getD_eq_getElem _ _ hn
    rw [List.drop_eq_getElem_cons hn]
    unfold commandLoopOnHeap
    apply Lifts.commandAt hread
    rw [hargs]
    generalize hcommand : commands[n] = args
    match args with
    | [] => exact hrest
    | [_] => exact hrest
    | notifer :: commandArgument :: rest =>
      unfold messageLoop commandLoop
      dsimp only
      by_cases hnotifer : notifer ≠ notiferName
      · rw [if_pos hnotifer, if_pos hnotifer]
        exact hrest
      · rw [if_neg hnotifer, if_neg hnotifer]
        by_cases havailable : commandArgument = availableCommand
        · rw [if_pos havailable, if_pos havailable]
          exact Lifts.lift h _
        · rw [if_neg havailable, if_neg havailable]
          apply Lifts.bind (Lifts.lift h _)
          intro _
          -- the list is still there behind the download
          apply Lifts.commandAt hread
          rw [hargs, hcommand]
          apply Lifts.bind (Lifts.lift h _)
          exact fun _ => hrest

/-- **The command list**: on every way out of the handler, by a return, behind the last command
    or by an exception, the handler has done what `onWebSocketMessage` does, and the heap holds
    the cells it held; a list that was parsed has been allocated and deleted once, and no access
    found it gone. -/
theorem onWebSocketMessageOnHeap_eq (allocator : Allocator) (handle : ClientHandle)
    (message : ClientMessage) (s : PluginState) :
    onWebSocketMessageOnHeap sdk allocator handle message (s, h) =
      lift (onWebSocketMessage sdk handle message)
        (s, if message.throws 0 .parseConsoleInput then h else h.passed) := by
  have hbody : ∀ p h', h'.read p = some (sdk.parseConsoleInput message.payload) →
      Lifts h' (do
          let size := ((← deref p).getD []).length
          commandLoopOnHeap sdk message.throws handle p size 0)
        (messageLoop sdk message.throws handle 0 (sdk.parseConsoleInput message.payload)) := by
    intro p h' hread
    apply Lifts.deref hread
    exact lifts_commandLoopOnHeap message.throws handle hread _ 0 (Nat.zero_add _)
  have hscoped := run_scoped allocator (sdk.parseConsoleInput message.payload) s h hbody
  unfold onWebSocketMessageOnHeap onWebSocketMessage call
  cases hparse : message.throws 0 .parseConsoleInput with
  | true =>
    -- nothing has been allocated yet
    rfl
  | false =>
    rw [if_neg Bool.false_ne_true, if_neg Bool.false_ne_true, pure_bind, lift_pure, pure_bind]
    exact hscoped

end

end BallchasingReplayPlayer
