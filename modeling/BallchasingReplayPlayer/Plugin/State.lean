import Mathlib.Logic.Function.Basic
import BallchasingReplayPlayer.Lib.LexicalPath
import BallchasingReplayPlayer.Plugin.Progress

/-!
# The Plugin and the SDK It Runs On

The state `DownloadAndPlayReplay` and its callbacks work on, and the calls they make.

## Layers

1. `BakkesMod` — what the SDK and its HTTP layer do, as a parameter of the model
2. `PluginState` — the plugin's fields, the downloads in flight, the queued game-thread
   tasks and the cache folder
3. `PluginM` — the plugin's code: a state that survives exceptions

The cache folder maps lexically normalised paths to file contents. A call that throws has
no effect of its own.
-/

namespace BallchasingReplayPlayer

open LexicalPath

/-- The bytes of a file or of a response body. -/
abbrev Body := List UInt8

/-! ## The SDK -/

/-- What the plugin uses of BakkesMod.

`write file offset chunk` is the file after the HTTP layer wrote `chunk` behind the
`offset` bytes it has already received; where something else changed the file in between,
the result is left open. -/
structure BakkesMod where
  getDataFolder : Path
  dataFolder_absolute : getDataFolder.isAbsolute = true
  trim : Text → Text
  parseConsoleInput : Text → List (List Text)
  write : Option Body → ℕ → Body → Option Body
  write_end : ∀ content chunk,
    write (some content) content.length chunk = some (content ++ chunk)

/-- The calls that can throw. -/
inductive Call where
  | parseConsoleInput
  | existsTest
  | fileSize
  | createDirectories
  | sendCurlRequest
  | remove
  | send
deriving DecidableEq, Repr

/-- An SDK that meets the laws: `trim` drops white space, `;` and blanks separate commands
    and arguments, and a write behind the end of a file fills the gap with zeros. -/
def BakkesMod.simple : BakkesMod where
  getDataFolder := parse "C:\\bakkesmod\\data".toList
  dataFolder_absolute := by decide
  trim s := ((s.dropWhile Char.isWhitespace).reverse.dropWhile Char.isWhitespace).reverse
  parseConsoleInput s :=
    (s.splitOnP (· == ';')).map fun command => (command.splitOnP (· == ' ')).filter (· ≠ [])
  write file offset chunk := file.map fun content =>
    content.take offset ++ List.replicate (offset - content.length) 0 ++ chunk ++
      content.drop (offset + chunk.length)
  write_end content chunk := by simp

/-! ## State -/

/-- What a piece of code does to a file, or asks of it. -/
inductive FileEffect where
  | test (path : Path)
  | download (path : Path)
  | play (path : Path)
  | remove (path : Path)
deriving DecidableEq

/-- The file an effect concerns. -/
def FileEffect.path : FileEffect → Path
  | test path => path
  | download path => path
  | play path => path
  | remove path => path

/-- A request handed to `SendCurlRequest` whose completion callback has not run yet. -/
structure Download where
  url : Text
  verb : Text
  replayId : Text
  filePath : Path
  received : Body
deriving DecidableEq

/-- The key of the file a download writes. -/
def Download.file (d : Download) : Path := d.filePath.lexicallyNormal

/-- A response that has ended: its complete body and its status. -/
structure Response where
  replayId : Text
  filePath : Path
  code : ℤ
  body : Body
deriving DecidableEq

/-- The key of the file a response was written to. -/
def Response.file (r : Response) : Path := r.filePath.lexicallyNormal

/-- The response a download ends with. -/
def Download.response (d : Download) (code : ℤ) : Response where
  replayId := d.replayId
  filePath := d.filePath
  code := code
  body := d.received

/-- A websocket client, as the handle the endpoint knows it by. -/
abbrev ClientHandle := ℕ

/-- The plugin and what its callbacks work on. `fileEffects`, `responses` and `canvas`
    record what has happened; no code reads them. -/
structure PluginState where
  bringWindowToFront : Bool
  focusRequests : ℕ
  downloadProgress : Option ℚ
  drawables : ℕ
  tasks : List Path
  inFlight : List Download
  files : Path → Option Body
  replies : List (ClientHandle × Text)
  fileEffects : List FileEffect
  responses : List Response
  canvas : List (TextureSize × ProgressBar)

/-- The plugin after `onLoad`: nothing requested yet, and the cache folder as it was
    left. -/
def PluginState.loaded (bringWindowToFront : Bool) (files : Path → Option Body) :
    PluginState where
  bringWindowToFront := bringWindowToFront
  focusRequests := 0
  downloadProgress := some 0
  drawables := 0
  tasks := []
  inFlight := []
  files := files
  replies := []
  fileEffects := []
  responses := []
  canvas := []

/-! ## Code and the Calls It Makes -/

/-- The plugin's code. An exception names the call it comes from and leaves the state as
    it was there. -/
abbrev PluginM := EStateM Call PluginState

/-- The state code ends in, whether it returns or throws. -/
def finalState {α : Type} : EStateM.Result Call PluginState α → PluginState
  | .ok _ s => s
  | .error _ s => s

/-- Whether code ended with an exception. -/
def threw {α : Type} : EStateM.Result Call PluginState α → Bool
  | .ok _ _ => false
  | .error _ _ => true

section Running

variable {α β : Type} (s : PluginState)

@[simp] theorem run_pure (a : α) : (pure a : PluginM α) s = .ok a s := rfl

@[simp] theorem run_throw (c : Call) : (throw c : PluginM α) s = .error c s := rfl

@[simp] theorem run_get : (get : PluginM PluginState) s = .ok s s := rfl

@[simp] theorem run_modify (f : PluginState → PluginState) :
    (modify f : PluginM Unit) s = .ok () (f s) := rfl

/-- What comes second runs only if what comes first returns. -/
@[simp] theorem run_bind (x : PluginM α) (f : α → PluginM β) :
    (x >>= f) s = match x s with
      | .ok a s' => f a s'
      | .error c s' => .error c s' := by
  change EStateM.bind x f s = _
  unfold EStateM.bind
  cases x s <;> rfl

@[simp] theorem run_map (f : α → β) (x : PluginM α) :
    (f <$> x) s = match x s with
      | .ok a s' => .ok (f a) s'
      | .error c s' => .error c s' := by
  change EStateM.map f x s = _
  unfold EStateM.map
  cases x s <;> rfl

/-- A caught exception leaves what was done before it. -/
@[simp] theorem run_tryCatch (x : PluginM α) (handler : Call → PluginM α) :
    (tryCatch x handler) s = match x s with
      | .ok a s' => .ok a s'
      | .error c s' => handler c s' := by
  change EStateM.tryCatch x handler s = _
  unfold EStateM.tryCatch
  cases x s <;> rfl

end Running

/-- A call that throws or returns, as the environment decides. -/
def call (throws : Call → Bool) (c : Call) : PluginM Unit :=
  if throws c then throw c else pure ()

@[simp] theorem run_call (throws : Call → Bool) (c : Call) (s : PluginState) :
    call throws c s = if throws c then .error c s else .ok () s := by
  unfold call
  split <;> rfl

/-- Records an effect on a file. -/
def record (effect : FileEffect) : PluginM Unit :=
  modify fun s => { s with fileEffects := s.fileEffects ++ [effect] }

/-- `GameWindowFocuser::MoveGameToFront`. -/
def moveGameToFront : PluginM Unit :=
  modify fun s => { s with focusRequests := s.focusRequests + 1 }

/-- `std::filesystem::exists`. -/
def existsFile (throws : Call → Bool) (path : Path) : PluginM Bool := do
  record (.test path)
  call throws .existsTest
  return ((← get).files path.lexicallyNormal).isSome

@[simp] theorem run_existsFile (throws : Call → Bool) (path : Path) (s : PluginState) :
    existsFile throws path s =
      let s' := { s with fileEffects := s.fileEffects ++ [.test path] }
      if throws .existsTest then .error .existsTest s'
      else .ok (s.files path.lexicallyNormal).isSome s' := by
  by_cases h : throws .existsTest <;> simp [existsFile, record, h]

/-- `std::filesystem::file_size`. -/
def fileSize (throws : Call → Bool) (path : Path) : PluginM ℕ := do
  call throws .fileSize
  return (((← get).files path.lexicallyNormal).getD []).length

@[simp] theorem run_fileSize (throws : Call → Bool) (path : Path) (s : PluginState) :
    fileSize throws path s =
      if throws .fileSize then .error .fileSize s
      else .ok ((s.files path.lexicallyNormal).getD []).length s := by
  by_cases h : throws .fileSize <;> simp [fileSize, h]

/-- `std::filesystem::remove`. -/
def removeFile (throws : Call → Bool) (path : Path) : PluginM Unit := do
  record (.remove path)
  call throws .remove
  modify fun s => { s with files := Function.update s.files path.lexicallyNormal none }

@[simp] theorem run_removeFile (throws : Call → Bool) (path : Path) (s : PluginState) :
    removeFile throws path s =
      let s' := { s with fileEffects := s.fileEffects ++ [.remove path] }
      if throws .remove then .error .remove s'
      else .ok () { s' with files := Function.update s.files path.lexicallyNormal none } := by
  by_cases h : throws .remove <;> simp [removeFile, record, h]

/-- `gameWrapper->Execute` of a lambda that plays `path`: the game thread runs it later. -/
def executePlayReplay (path : Path) : PluginM Unit :=
  modify fun s => { s with tasks := s.tasks ++ [path] }

/-- `gameWrapper->RegisterDrawable`. -/
def registerDrawable : PluginM Unit :=
  modify fun s => { s with drawables := s.drawables + 1 }

/-- `gameWrapper->UnregisterDrawables`. -/
def unregisterDrawables : PluginM Unit :=
  modify fun s => { s with drawables := 0 }

/-- `HttpWrapper::SendCurlRequest`: creates or truncates the file and starts the download. -/
def sendCurlRequest (throws : Call → Bool) (url verb replayId : Text) (filePath : Path) :
    PluginM Unit := do
  record (.download filePath)
  call throws .sendCurlRequest
  modify fun s =>
    { s with
      files := Function.update s.files filePath.lexicallyNormal (some [])
      inFlight := s.inFlight ++ [⟨url, verb, replayId, filePath, []⟩] }

@[simp] theorem run_sendCurlRequest (throws : Call → Bool) (url verb replayId : Text)
    (filePath : Path) (s : PluginState) :
    sendCurlRequest throws url verb replayId filePath s =
      let s' := { s with fileEffects := s.fileEffects ++ [.download filePath] }
      if throws .sendCurlRequest then .error .sendCurlRequest s'
      else .ok ()
        { s' with
          files := Function.update s.files filePath.lexicallyNormal (some [])
          inFlight := s.inFlight ++ [⟨url, verb, replayId, filePath, []⟩] } := by
  by_cases h : throws .sendCurlRequest <;> simp [sendCurlRequest, record, h]

/-- `WsServer::Send`. -/
def send (throws : Call → Bool) (handle : ClientHandle) (text : Text) : PluginM Unit := do
  call throws .send
  modify fun s => { s with replies := s.replies ++ [(handle, text)] }

@[simp] theorem run_send (throws : Call → Bool) (handle : ClientHandle) (text : Text)
    (s : PluginState) :
    send throws handle text s =
      if throws .send then .error .send s
      else .ok () { s with replies := s.replies ++ [(handle, text)] } := by
  by_cases h : throws .send <;> simp [send, h]

end BallchasingReplayPlayer
