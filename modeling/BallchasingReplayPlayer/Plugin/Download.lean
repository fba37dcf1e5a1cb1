import BallchasingReplayPlayer.Lib.Machine
import BallchasingReplayPlayer.Plugin.State

/-!
# Downloading and Playing a Replay

`DownloadAndPlayReplay`, its completion callback, and the machine in which requests, body
chunks, progress reports, completions, queued tasks and frames happen in any order.

## Main Results

- `downloadAndPlayReplay_eq`: a request ends in one of four ways
- `completionCallback_eq`: what a completion does
- `next_request`, `next_completion`: the same for the steps of the machine
- `forall_inFlight_next`, `responses_next`: what a step does to the downloads in flight and to
  the record of responses
-/

namespace BallchasingReplayPlayer

open LexicalPath Transition

/-! ## DownloadAndPlayReplay -/

/-- `save_path`: `<data folder>/ballchasing/dl`. -/
def savePath (sdk : BakkesMod) : Path :=
  sdk.getDataFolder / parse "ballchasing".toList / parse "dl".toList

/-- The extension of a replay file. -/
def replayExtension : Text := ".replay".toList

/-- The file of a trimmed id. -/
def replayPath (sdk : BakkesMod) (replayId : Text) : Path :=
  savePath sdk / parse (replayId ++ replayExtension)

/-- `file_path` of a request. -/
def filePath (sdk : BakkesMod) (replayId : Text) : Path :=
  replayPath sdk (sdk.trim replayId)

/-- `download_url` of a trimmed id. -/
def downloadUrl (replayId token : Text) : Text :=
  "https://ballchasing.com/dl/replay/".toList ++ replayId ++ "?token=".toList ++ token

/-- The cache test `exists(path) && file_size(path) > 0`. -/
def isCached (throws : Call → Bool) (path : Path) : PluginM Bool := do
  if ← existsFile throws path then
    return 0 < (← fileSize throws path)
  else
    -- `&&` does not ask for the size of a file that is not there
    return false

/-- `if (*m_bringWindowToFront) GameWindowFocuser::MoveGameToFront();` -/
def focusGame : PluginM Unit := do
  if (← get).bringWindowToFront then
    moveGameToFront

/-- The part of `DownloadAndPlayReplay` behind the cache test, for a trimmed id. -/
def startDownload (throws : Call → Bool) (replayId token : Text) (path : Path) :
    PluginM Unit := do
  modify fun s => { s with downloadProgress := some 0 }
  registerDrawable
  call throws .createDirectories
  sendCurlRequest throws (downloadUrl replayId token) "POST".toList replayId path

def downloadAndPlayReplay (sdk : BakkesMod) (throws : Call → Bool) (replayId token : Text) :
    PluginM Unit := do
  let path := filePath sdk replayId
  focusGame
  if ← isCached throws path then
    executePlayReplay path
  else
    startDownload throws (sdk.trim replayId) token path

/-- The callback handed to `SendCurlRequest`, run with the status and the download's path. -/
def completionCallback (throws : Call → Bool) (code : ℤ) (path : Path) : PluginM Unit := do
  unregisterDrawables
  if code ≠ 200 then
    -- an exception of `remove` is logged and swallowed
    try removeFile throws path catch _ => pure ()
    return
  executePlayReplay path

/-- No call throws. -/
def noThrow : Call → Bool := fun _ => false

/-! ## How a Request Ends -/

/-- The four ends of a request. -/
inductive Outcome where
  | testThrew
  | cached
  | startThrew
  | started
deriving DecidableEq, Repr

/-- How a request for a file with this content ends. -/
def outcome (throws : Call → Bool) (content : Option Body) : Outcome :=
  if throws .existsTest || (content.isSome && throws .fileSize) then .testThrew
  else if content.any (· ≠ []) then .cached
  else if throws .createDirectories || throws .sendCurlRequest then .startThrew
  else .started

/-- The files behind a request: `SendCurlRequest` creates or truncates the one it is for. -/
def filesBehind (throws : Call → Bool) (file : Path) (files : Path → Option Body) :
    Path → Option Body :=
  if outcome throws (files file) = .started then Function.update files file (some []) else files

namespace PluginState

/-- The focus request and the cache test every request begins with. -/
def asked (s : PluginState) (path : Path) : PluginState :=
  { s with
    focusRequests := if s.bringWindowToFront then s.focusRequests + 1 else s.focusRequests
    fileEffects := s.fileEffects ++ [.test path] }

/-- A task that plays `path` is queued. -/
def queued (s : PluginState) (path : Path) : PluginState :=
  { s with tasks := s.tasks ++ [path] }

/-- A download is about to start: the progress is reset and a drawable registered. -/
def announced (s : PluginState) : PluginState :=
  { s with downloadProgress := some 0, drawables := s.drawables + 1 }

/-- `SendCurlRequest` is called. -/
def ordered (s : PluginState) (path : Path) : PluginState :=
  { s with fileEffects := s.fileEffects ++ [.download path] }

/-- A download is in flight, its file empty. -/
def downloading (s : PluginState) (d : Download) : PluginState :=
  { s with
    files := Function.update s.files d.file (some d.received)
    inFlight := s.inFlight ++ [d] }

end PluginState

/-- The download a request starts. -/
def newDownload (sdk : BakkesMod) (replayId token : Text) : Download where
  url := downloadUrl (sdk.trim replayId) token
  verb := "POST".toList
  replayId := sdk.trim replayId
  filePath := filePath sdk replayId
  received := []

/-- The cache test records the test, throws if one of its calls does, and says whether
    the file is there and not empty. -/
theorem isCached_eq (throws : Call → Bool) (path : Path) (s : PluginState) :
    isCached throws path s =
      let content := s.files path.lexicallyNormal
      let s' := { s with fileEffects := s.fileEffects ++ [.test path] }
      if throws .existsTest then .error .existsTest s'
      else if content.isSome && throws .fileSize then .error .fileSize s'
      else .ok (content.any (· ≠ [])) s' := by
  cases hexists : throws .existsTest with
  | true => simp [isCached, hexists]
  | false =>
    cases hfile : s.files path.lexicallyNormal with
    | none => simp [isCached, hexists, hfile]
    | some content =>
      cases hsize : throws .fileSize with
      | true => simp [isCached, hexists, hfile, hsize]
      | false => simp [isCached, hexists, hfile, hsize, List.length_pos_iff]

theorem focusGame_eq (s : PluginState) :
    focusGame s = .ok () { s with
      focusRequests := if s.bringWindowToFront then s.focusRequests + 1 else s.focusRequests } := by
  cases hfront : s.bringWindowToFront with
  | true => simp [focusGame, moveGameToFront, hfront]
  | false =>
    simp only [focusGame, run_bind, run_get, hfront, Bool.false_eq_true, if_false, run_pure]
    rw [← hfront]

/-- The focus request and the cache test, in a row. -/
theorem focusGame_isCached_eq (throws : Call → Bool) (path : Path) (s : PluginState) :
    (focusGame >>= fun _ => isCached throws path) s =
      let content := s.files path.lexicallyNormal
      if throws .existsTest then .error .existsTest (s.asked path)
      else if content.isSome && throws .fileSize then .error .fileSize (s.asked path)
      else .ok (content.any (· ≠ [])) (s.asked path) := by
  simp only [run_bind, focusGame_eq, isCached_eq, PluginState.asked]

theorem startDownload_eq (sdk : BakkesMod) (throws : Call → Bool) (replayId token : Text)
    (s : PluginState) :
    startDownload throws (sdk.trim replayId) token (filePath sdk replayId) s =
      let path := filePath sdk replayId
      if throws .createDirectories then .error .createDirectories s.announced
      else if throws .sendCurlRequest then .error .sendCurlRequest (s.announced.ordered path)
      else .ok () ((s.announced.ordered path).downloading (newDownload sdk replayId token)) := by
  cases hdir : throws .createDirectories with
  | true => simp [startDownload, registerDrawable, hdir, PluginState.announced]
  | false =>
    cases hsend : throws .sendCurlRequest with
    | true =>
      simp [startDownload, registerDrawable, hdir, hsend, PluginState.announced,
        PluginState.ordered]
    | false =>
      simp [startDownload, registerDrawable, hdir, hsend, PluginState.announced,
        PluginState.ordered, PluginState.downloading, newDownload, Download.file]

/-- **Specification of a request**: it ends in one of four ways, decided by the content of
    its file and by the calls that throw. -/
theorem downloadAndPlayReplay_eq (sdk : BakkesMod) (throws : Call → Bool) (replayId token : Text)
    (s : PluginState) :
    downloadAndPlayReplay sdk throws replayId token s =
      let path := filePath sdk replayId
      match outcome throws (s.files path.lexicallyNormal) with
      | .testThrew =>
        .error (if throws .existsTest then .existsTest else .fileSize) (s.asked path)
      | .cached => .ok () ((s.asked path).queued path)
      | .startThrew =>
        if throws .createDirectories then .error .createDirectories (s.asked path).announced
        else .error .sendCurlRequest ((s.asked path).announced.ordered path)
      | .started =>
        .ok () (((s.asked path).announced.ordered path).downloading
          (newDownload sdk replayId token)) := by
  have hsplit : downloadAndPlayReplay sdk throws replayId token =
      (focusGame >>= fun _ => isCached throws (filePath sdk replayId)) >>= fun cached =>
        if cached then executePlayReplay (filePath sdk replayId)
        else startDownload throws (sdk.trim replayId) token (filePath sdk replayId) := by
    simp [downloadAndPlayReplay]
  rw [hsplit, run_bind, focusGame_isCached_eq]
  dsimp only [outcome]
  generalize s.files (filePath sdk replayId).lexicallyNormal = content
  cases hexists : throws .existsTest with
  | true => simp
  | false =>
    cases hsize : (content.isSome && throws .fileSize) with
    | true => simp
    | false =>
      cases hcached : content.any (· ≠ []) with
      | true => simp [executePlayReplay, PluginState.queued]
      | false =>
        -- not cached: what is left is the start of a download
        simp only [Bool.false_eq_true, if_false, startDownload_eq, Bool.or_self]
        cases hdir : throws .createDirectories with
        | true => simp
        | false => cases hsend : throws .sendCurlRequest <;> simp

/-- A request changes one file, and only if it starts a download. -/
theorem downloadAndPlayReplay_files (sdk : BakkesMod) (throws : Call → Bool)
    (replayId token : Text) (s : PluginState) :
    (finalState (downloadAndPlayReplay sdk throws replayId token s)).files =
      filesBehind throws (filePath sdk replayId).lexicallyNormal s.files := by
  rw [downloadAndPlayReplay_eq]
  unfold filesBehind
  dsimp only
  cases outcome throws (s.files (filePath sdk replayId).lexicallyNormal) with
  | testThrew => rfl
  | cached => rfl
  | startThrew => cases throws .createDirectories <;> rfl
  | started => rfl

/-! ## How a Download Ends -/

/-- The removal of a bad file: recorded, and without effect if it throws. -/
def PluginState.discarded (s : PluginState) (throws : Call → Bool) (path : Path) : PluginState :=
  { s with
    fileEffects := s.fileEffects ++ [.remove path]
    files := if throws .remove then s.files
      else Function.update s.files path.lexicallyNormal none }

/-- **Specification of the completion callback**: it never throws, and it queues the replay
    for a status of 200 and discards the file for any other. -/
theorem completionCallback_eq (throws : Call → Bool) (code : ℤ) (path : Path) (s : PluginState) :
    completionCallback throws code path s =
      let s' := { s with drawables := 0 }
      .ok () (if code = 200 then s'.queued path else s'.discarded throws path) := by
  by_cases hcode : code = 200
  · simp [completionCallback, unregisterDrawables, executePlayReplay, PluginState.queued, hcode]
  · cases hremove : throws .remove with
    | true =>
      simp [completionCallback, unregisterDrawables, PluginState.discarded, hcode, hremove]
    | false =>
      simp [completionCallback, unregisterDrawables, PluginState.discarded, hcode, hremove]

/-! ## The Machine -/

/-- What can happen next. Downloads and tasks are picked by their position, so they are
    served in any order. -/
inductive PluginEvent where
  | request (replayId token : Text) (throws : Call → Bool)
  | chunk (i : ℕ) (bytes : Body)
  | progress (i : ℕ) (report : CurlProgress)
  | completion (i : ℕ) (code : ℤ) (throws : Call → Bool)
  | runTask (k : ℕ)
  | frame (size : TextureSize)

/-- The event is a request, which only a command of a message makes. -/
def PluginEvent.isRequest : PluginEvent → Bool
  | .request _ _ _ => true
  | _ => false

namespace PluginState

/-- The HTTP layer writes `bytes` to the file of a download. -/
def chunk (s : PluginState) (sdk : BakkesMod) (i : ℕ) (bytes : Body) : PluginState :=
  match s.inFlight[i]? with
  | none => s
  | some d =>
    { s with
      files := Function.update s.files d.file
        (sdk.write (s.files d.file) d.received.length bytes)
      inFlight := s.inFlight.set i { d with received := d.received ++ bytes } }

/-- A download is no longer in flight, and its response complete. -/
def responded (s : PluginState) (i : ℕ) (d : Download) (code : ℤ) : PluginState :=
  { s with
    inFlight := s.inFlight.eraseIdx i
    responses := s.responses ++ [d.response code] }

/-- A response ends with a status, and the completion callback runs. -/
def completion (s : PluginState) (i : ℕ) (code : ℤ) (throws : Call → Bool) : PluginState :=
  match s.inFlight[i]? with
  | none => s
  | some d => finalState (completionCallback throws code d.filePath (s.responded i d code))

/-- The game thread runs a queued `PlayReplay`. -/
def runTask (s : PluginState) (k : ℕ) : PluginState :=
  match s.tasks[k]? with
  | none => s
  | some path =>
    { s with tasks := s.tasks.eraseIdx k, fileEffects := s.fileEffects ++ [.play path] }

/-- A registered drawable draws. -/
def frame (s : PluginState) (size : TextureSize) : PluginState :=
  { s with
    canvas := s.canvas ++ (drawDownloadProgress size s.downloadProgress).toList.map (size, ·) }

/-- The state after an event. -/
def next (sdk : BakkesMod) (s : PluginState) : PluginEvent → PluginState
  | .request replayId token throws =>
    finalState (downloadAndPlayReplay sdk throws replayId token s)
  | .chunk i bytes => s.chunk sdk i bytes
  | .progress _ report =>
    { s with downloadProgress := progressFunction report s.downloadProgress }
  | .completion i code throws => s.completion i code throws
  | .runTask k => s.runTask k
  | .frame size => s.frame size

/-- Only a download in flight is written to, reports or completes; only a queued task runs;
    only a registered drawable draws. -/
def enabled (s : PluginState) : PluginEvent → Prop
  | .request _ _ _ => True
  | .chunk i _ => i < s.inFlight.length
  | .progress i _ => i < s.inFlight.length
  | .completion i _ _ => i < s.inFlight.length
  | .runTask k => k < s.tasks.length
  | .frame _ => 0 < s.drawables

instance (s : PluginState) : ∀ e : PluginEvent, Decidable (s.enabled e)
  | .request _ _ _ => inferInstanceAs (Decidable True)
  | .chunk i _ => inferInstanceAs (Decidable (i < s.inFlight.length))
  | .progress i _ => inferInstanceAs (Decidable (i < s.inFlight.length))
  | .completion i _ _ => inferInstanceAs (Decidable (i < s.inFlight.length))
  | .runTask k => inferInstanceAs (Decidable (k < s.tasks.length))
  | .frame _ => inferInstanceAs (Decidable (0 < s.drawables))

end PluginState

/-- The plugin and its environment, one event after the other. -/
def pluginMachine (sdk : BakkesMod) : Machine PluginState PluginEvent where
  enabled := PluginState.enabled
  next := PluginState.next sdk

instance (sdk : BakkesMod) (s : PluginState) (e : PluginEvent) :
    Decidable ((pluginMachine sdk).enabled s e) :=
  inferInstanceAs (Decidable (s.enabled e))

section Steps

variable (sdk : BakkesMod) (s : PluginState)

/-- The outcome of a request in a state. -/
def PluginState.outcome (s : PluginState) (replayId : Text) (throws : Call → Bool) : Outcome :=
  BallchasingReplayPlayer.outcome throws (s.files (filePath sdk replayId).lexicallyNormal)

variable {sdk s} in
/-- A request is served from the cache only if its file is there and not empty. -/
theorem exists_of_outcome_cached {replayId : Text} {throws : Call → Bool}
    (h : s.outcome sdk replayId throws = .cached) :
    ∃ body, s.files (filePath sdk replayId).lexicallyNormal = some body ∧ body ≠ [] := by
  unfold PluginState.outcome BallchasingReplayPlayer.outcome at h
  split_ifs at h with _ hcached
  simpa [Option.any_eq_true] using hcached

theorem next_request (replayId token : Text) (throws : Call → Bool) :
    s.next sdk (.request replayId token throws) =
      let path := filePath sdk replayId
      match s.outcome sdk replayId throws with
      | .testThrew => s.asked path
      | .cached => (s.asked path).queued path
      | .startThrew =>
        if throws .createDirectories then (s.asked path).announced
        else (s.asked path).announced.ordered path
      | .started =>
        ((s.asked path).announced.ordered path).downloading (newDownload sdk replayId token) := by
  simp only [PluginState.next, downloadAndPlayReplay_eq, PluginState.outcome]
  cases outcome throws (s.files (filePath sdk replayId).lexicallyNormal) with
  | testThrew => rfl
  | cached => rfl
  | startThrew => cases throws .createDirectories <;> rfl
  | started => rfl

/-- A position of a list splits it. -/
theorem exists_split {α : Type*} {l : List α} {i : ℕ} (h : i < l.length) :
    ∃ l₁ a l₂, l[i]? = some a ∧ l = l₁ ++ a :: l₂ ∧ l.eraseIdx i = l₁ ++ l₂ ∧
      ∀ b, l.set i b = l₁ ++ b :: l₂ := by
  refine ⟨l.take i, l[i], l.drop (i + 1), List.getElem?_eq_getElem h, ?_, ?_, ?_⟩
  · simp
  · exact List.eraseIdx_eq_take_drop_succ l i
  · intro b
    rw [List.set_eq_take_append_cons_drop, if_pos h]

theorem next_chunk {i : ℕ} (h : i < s.inFlight.length) (bytes : Body) :
    ∃ l₁ d l₂, s.inFlight[i]? = some d ∧ s.inFlight = l₁ ++ d :: l₂ ∧
      s.next sdk (.chunk i bytes) =
        { s with
          files := Function.update s.files d.file
            (sdk.write (s.files d.file) d.received.length bytes)
          inFlight := l₁ ++ { d with received := d.received ++ bytes } :: l₂ } := by
  obtain ⟨l₁, d, l₂, hget, hsplit, -, hset⟩ := exists_split h
  refine ⟨l₁, d, l₂, hget, hsplit, ?_⟩
  simp only [PluginState.next, PluginState.chunk, hget, hset]

theorem next_completion {i : ℕ} (h : i < s.inFlight.length) (code : ℤ) (throws : Call → Bool) :
    ∃ l₁ d l₂, s.inFlight[i]? = some d ∧ s.inFlight = l₁ ++ d :: l₂ ∧
      s.next sdk (.completion i code throws) =
        let s' := { s with
          inFlight := l₁ ++ l₂
          responses := s.responses ++ [d.response code]
          drawables := 0 }
        if code = 200 then s'.queued d.filePath else s'.discarded throws d.filePath := by
  obtain ⟨l₁, d, l₂, hget, hsplit, herase, -⟩ := exists_split h
  refine ⟨l₁, d, l₂, hget, hsplit, ?_⟩
  simp only [PluginState.next, PluginState.completion, hget, completionCallback_eq, finalState,
    PluginState.responded, herase]

theorem next_runTask {k : ℕ} (h : k < s.tasks.length) :
    ∃ t₁ path t₂, s.tasks[k]? = some path ∧ s.tasks = t₁ ++ path :: t₂ ∧
      s.next sdk (.runTask k) =
        { s with tasks := t₁ ++ t₂, fileEffects := s.fileEffects ++ [.play path] } := by
  obtain ⟨t₁, path, t₂, hget, hsplit, herase, -⟩ := exists_split h
  refine ⟨t₁, path, t₂, hget, hsplit, ?_⟩
  simp only [PluginState.next, PluginState.runTask, hget, herase]

variable {sdk s} in
/-- **What a download is for stays**: a fact that does not depend on what has been received
    holds of every download in flight if it holds of each one when it starts. -/
theorem forall_inFlight_next {P : Download → Prop}
    (hreceived : ∀ d received, P d → P { d with received := received })
    (h : ∀ d ∈ s.inFlight, P d) {e : PluginEvent} (he : s.enabled e)
    (hstart : ∀ replayId token throws, e = .request replayId token throws →
      P (newDownload sdk replayId token)) :
    ∀ d ∈ (s.next sdk e).inFlight, P d := by
  cases e with
  | request replayId token throws =>
    rw [next_request]
    cases s.outcome sdk replayId throws with
    | testThrew => exact h
    | cached => exact h
    | startThrew => dsimp only; split <;> exact h
    | started =>
      -- the only way a download gets in flight
      have hnew := hstart replayId token throws rfl
      exact List.forall_mem_append.mpr ⟨h, List.forall_mem_singleton.mpr hnew⟩
  | chunk i bytes =>
    obtain ⟨l₁, d, l₂, -, hsplit, hnext⟩ := next_chunk sdk s he bytes
    rw [hsplit, List.forall_mem_append, List.forall_mem_cons] at h
    rw [hnext, List.forall_mem_append, List.forall_mem_cons]
    exact ⟨h.1, hreceived d _ h.2.1, h.2.2⟩
  | progress i report => exact h
  | completion i code throws =>
    obtain ⟨l₁, d, l₂, -, hsplit, hnext⟩ := next_completion sdk s he code throws
    rw [hsplit, List.forall_mem_append, List.forall_mem_cons] at h
    have hrest := List.forall_mem_append.mpr ⟨h.1, h.2.2⟩
    rw [hnext]
    dsimp only
    split
    · exact hrest
    · exact hrest
  | runTask k =>
    obtain ⟨t₁, path, t₂, -, -, hnext⟩ := next_runTask sdk s he
    rw [hnext]
    exact h
  | frame size => exact h

variable {s} in
/-- A step records the response of a download that was in flight, or none. -/
theorem responses_next {e : PluginEvent} (he : s.enabled e) :
    (s.next sdk e).responses = s.responses ∨
      ∃ d ∈ s.inFlight, ∃ code,
        (s.next sdk e).responses = s.responses ++ [d.response code] := by
  cases e with
  | request replayId token throws =>
    refine Or.inl ?_
    rw [next_request]
    cases s.outcome sdk replayId throws with
    | startThrew => dsimp only; split <;> rfl
    | _ => rfl
  | chunk i bytes =>
    obtain ⟨l₁, d, l₂, -, -, hnext⟩ := next_chunk sdk s he bytes
    rw [hnext]
    exact Or.inl rfl
  | progress i report => exact Or.inl rfl
  | completion i code throws =>
    obtain ⟨l₁, d, l₂, -, hsplit, hnext⟩ := next_completion sdk s he code throws
    refine Or.inr ⟨d, by simp [hsplit], code, ?_⟩
    rw [hnext]
    dsimp only
    split
    · rfl
    · rfl
  | runTask k =>
    obtain ⟨t₁, path, t₂, -, -, hnext⟩ := next_runTask sdk s he
    rw [hnext]
    exact Or.inl rfl
  | frame size => exact Or.inl rfl

/-- Every download and every response is about the file of its own id. -/
structure Named (sdk : BakkesMod) (s : PluginState) : Prop where
  downloads : ∀ d ∈ s.inFlight, d.filePath = replayPath sdk d.replayId
  responses : ∀ r ∈ s.responses, r.filePath = replayPath sdk r.replayId

variable {sdk s} in
/-- **Step lemma**: downloads and responses keep to the file of their id. -/
theorem Named.next (h : Named sdk s) {e : PluginEvent} (he : s.enabled e) :
    Named sdk (s.next sdk e) := by
  constructor
  · apply forall_inFlight_next (fun d _ hd => hd) h.downloads he
    intro replayId token throws _
    rfl
  · rcases responses_next sdk he with hsame | ⟨d, hd, code, hrecorded⟩
    · rw [hsame]
      exact h.responses
    · -- the response takes id and path over from its download
      rw [hrecorded, List.forall_mem_append, List.forall_mem_singleton]
      exact ⟨h.responses, h.downloads d hd⟩

end Steps

end BallchasingReplayPlayer
