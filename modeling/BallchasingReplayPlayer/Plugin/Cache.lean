import Mathlib.Data.List.Perm.Basic
import BallchasingReplayPlayer.Plugin.Download

/-!
# The Replay Cache

One path serves as the target of a download, as the cache entry and as the file a failed
download removes. What overlapping requests do to it is decided by who is writing to it.

## Layers

1. `Exclusive` — every file being written belongs to one download and holds what that
   download has received
2. `CacheInvariant` — every queued or cached file is complete
3. `KeptInvariant` — a file that holds a whole response is nobody's download target

## Main Results

- `playsOnlyComplete_of_cacheSafe`: which runs play only complete replays
- `holdsResponse_kept_of_startsFresh`: which runs leave complete replays alone
-/

namespace BallchasingReplayPlayer

open LexicalPath Transition

/-- The files downloads in flight are writing to. -/
def PluginState.busy (s : PluginState) : List Path := s.inFlight.map Download.file

/-! ## Exclusive Downloads -/

/-- Every file being written belongs to one download and holds what it has received. -/
structure Exclusive (files : Path → Option Body) (inFlight : List Download) : Prop where
  nodup : (inFlight.map Download.file).Nodup
  content : ∀ d ∈ inFlight, files d.file = some d.received

theorem Exclusive.nil (files : Path → Option Body) : Exclusive files [] :=
  ⟨List.nodup_nil, by simp⟩

/-- A download shares its file with none of the others. -/
theorem exclusive_middle {files : Path → Option Body} {l₁ l₂ : List Download} {d : Download} :
    Exclusive files (l₁ ++ d :: l₂) ↔
      d.file ∉ (l₁ ++ l₂).map Download.file ∧ files d.file = some d.received ∧
        Exclusive files (l₁ ++ l₂) := by
  -- neither duplicates nor members depend on where the download stands
  have hperm : (l₁ ++ d :: l₂).Perm (d :: (l₁ ++ l₂)) := List.perm_middle
  have hnodup : ((l₁ ++ d :: l₂).map Download.file).Nodup ↔
      d.file ∉ (l₁ ++ l₂).map Download.file ∧ ((l₁ ++ l₂).map Download.file).Nodup := by
    rw [(hperm.map Download.file).nodup_iff, List.map_cons, List.nodup_cons]
  constructor
  · intro h
    obtain ⟨hfree, hrest⟩ := hnodup.mp h.nodup
    refine ⟨hfree, h.content d (by simp), hrest, ?_⟩
    intro d' hd'
    exact h.content d' (hperm.mem_iff.mpr (List.mem_cons_of_mem d hd'))
  · intro ⟨hfree, hcontent, hrest⟩
    refine ⟨hnodup.mpr ⟨hfree, hrest.nodup⟩, ?_⟩
    intro d' hd'
    rcases List.mem_cons.mp (hperm.mem_iff.mp hd') with rfl | hd'
    · exact hcontent
    · exact hrest.content d' hd'

/-- Changing a file nobody writes to. -/
theorem Exclusive.update {files : Path → Option Body} {inFlight : List Download} {file : Path}
    (h : Exclusive files inFlight) (hfree : file ∉ inFlight.map Download.file)
    (content : Option Body) : Exclusive (Function.update files file content) inFlight := by
  refine ⟨h.nodup, ?_⟩
  intro d hd
  have hne : d.file ≠ file := by
    intro heq
    exact hfree (heq ▸ List.mem_map_of_mem hd)
  rw [Function.update_of_ne hne]
  exact h.content d hd

/-- A download to a file nobody writes to. -/
theorem Exclusive.start {files : Path → Option Body} {inFlight : List Download} {d : Download}
    (h : Exclusive files inFlight) (hfree : d.file ∉ inFlight.map Download.file) :
    Exclusive (Function.update files d.file (some d.received)) (inFlight ++ [d]) := by
  rw [exclusive_middle, List.append_nil]
  exact ⟨hfree, Function.update_self .., h.update hfree _⟩

/-- A chunk extends what the download has received and its file alike. -/
theorem Exclusive.chunk (sdk : BakkesMod) {files : Path → Option Body} {l₁ l₂ : List Download}
    {d : Download} (h : Exclusive files (l₁ ++ d :: l₂)) (bytes : Body) :
    Exclusive
      (Function.update files d.file (sdk.write (files d.file) d.received.length bytes))
      (l₁ ++ { d with received := d.received ++ bytes } :: l₂) := by
  obtain ⟨hfree, hcontent, hrest⟩ := exclusive_middle.mp h
  -- the file ends where the chunk is written, so nothing is lost between the two
  rw [exclusive_middle, hcontent, sdk.write_end]
  exact ⟨hfree, Function.update_self .., hrest.update hfree _⟩

/-- Discarding a file nobody writes to. -/
theorem Exclusive.discarded {s : PluginState} {inFlight : List Download} {path : Path}
    (h : Exclusive s.files inFlight) (throws : Call → Bool)
    (hfree : path.lexicallyNormal ∉ inFlight.map Download.file) :
    Exclusive (s.discarded throws path).files inFlight := by
  dsimp only [PluginState.discarded]
  split
  · exact h
  · exact h.update hfree none

/-- Discarding a file leaves the others as they are. -/
theorem discarded_files_of_ne (s : PluginState) (throws : Call → Bool) {file path : Path}
    (hne : file ≠ path.lexicallyNormal) :
    (s.discarded throws path).files file = s.files file := by
  dsimp only [PluginState.discarded]
  split
  · rfl
  · exact Function.update_of_ne hne ..

/-- A file is busy with one download or with one of the others. -/
theorem mem_busy_iff {s : PluginState} {l₁ l₂ : List Download} {d : Download}
    (hsplit : s.inFlight = l₁ ++ d :: l₂) (file : Path) :
    file ∈ s.busy ↔ file = d.file ∨ file ∈ (l₁ ++ l₂).map Download.file := by
  simp only [PluginState.busy, hsplit, List.map_append, List.map_cons, List.mem_append,
    List.mem_cons]
  tauto

/-! ## Complete Replays -/

/-- The bytes are those of a replay the cache started with, or the whole body of a response
    with status 200 for that file. -/
def Complete (start : Path → Option Body) (responses : List Response) (file : Path)
    (body : Body) : Prop :=
  start file = some body ∨ ∃ r ∈ responses, r.code = 200 ∧ r.file = file ∧ r.body = body

theorem Complete.append {start : Path → Option Body} {responses : List Response} {file : Path}
    {body : Body} (h : Complete start responses file body) (r : Response) :
    Complete start (responses ++ [r]) file body := by
  rcases h with hstart | ⟨r', hmem, hr'⟩
  · exact Or.inl hstart
  · exact Or.inr ⟨r', List.mem_append_left _ hmem, hr'⟩

/-- What every run of safe steps keeps: downloads are exclusive, queued replays are complete
    and at rest, and so is every cached file that is not empty. -/
structure CacheInvariant (start : Path → Option Body) (s : PluginState) : Prop where
  exclusive : Exclusive s.files s.inFlight
  queued : ∀ path ∈ s.tasks, path.lexicallyNormal ∉ s.busy ∧
    ∃ body, s.files path.lexicallyNormal = some body ∧
      Complete start s.responses path.lexicallyNormal body
  cached : ∀ file body, s.files file = some body → body ≠ [] → file ∉ s.busy →
    Complete start s.responses file body

/-- The steps that keep the cache whole. A request must not find its file while a download
    writes to it, nor start a download to a file that is being written or queued; and the
    removal of a bad file must not fail once bytes have been received. A download is in flight
    until its callback has finished, removal included. -/
def CacheSafe (sdk : BakkesMod) (s : PluginState) : PluginEvent → Prop
  | .request replayId _ throws =>
    let file := (filePath sdk replayId).lexicallyNormal
    (s.outcome sdk replayId throws = .cached → file ∉ s.busy) ∧
      (s.outcome sdk replayId throws = .started →
        file ∉ s.busy ∧ file ∉ s.tasks.map Path.lexicallyNormal)
  | .completion i code throws =>
    code ≠ 200 → throws .remove = true → ∀ d ∈ s.inFlight[i]?, d.received = []
  | _ => True

instance (sdk : BakkesMod) (s : PluginState) : ∀ e, Decidable (CacheSafe sdk s e)
  | .request _ _ _ => inferInstanceAs (Decidable ((_ → _) ∧ (_ → _ ∧ _)))
  | .completion _ _ _ => inferInstanceAs (Decidable (_ → _ → ∀ d ∈ _, _))
  | .chunk _ _ | .progress _ _ | .runTask _ | .frame _ => inferInstanceAs (Decidable True)

theorem busy_downloading (s : PluginState) (d : Download) :
    (s.downloading d).busy = s.busy ++ [d.file] := by
  simp [PluginState.busy, PluginState.downloading]

section Invariant

variable {sdk : BakkesMod} {start : Path → Option Body} {s : PluginState}

theorem CacheInvariant.request (h : CacheInvariant start s) {replayId token : Text}
    {throws : Call → Bool} (hok : CacheSafe sdk s (.request replayId token throws)) :
    CacheInvariant start (s.next sdk (.request replayId token throws)) := by
  rw [next_request]
  cases houtcome : s.outcome sdk replayId throws with
  | testThrew => exact ⟨h.exclusive, h.queued, h.cached⟩
  | startThrew =>
    dsimp only
    split <;> exact ⟨h.exclusive, h.queued, h.cached⟩
  | cached =>
    have hidle := hok.1 houtcome
    refine ⟨h.exclusive, ?_, h.cached⟩
    intro path hpath
    rcases List.mem_append.mp hpath with hpath | hpath
    · exact h.queued path hpath
    · -- the file that was found is nobody's target, so it is complete
      rw [List.mem_singleton.mp hpath]
      obtain ⟨body, hbody, hne⟩ := exists_of_outcome_cached houtcome
      exact ⟨hidle, body, hbody, h.cached _ body hbody hne hidle⟩
  | started =>
    obtain ⟨hfree, hidle⟩ := hok.2 houtcome
    refine ⟨h.exclusive.start hfree, ?_, ?_⟩
    · -- the file that is truncated is no queued one
      intro path hpath
      have hne : path.lexicallyNormal ≠ (filePath sdk replayId).lexicallyNormal := by
        intro heq
        apply hidle
        rw [← heq]
        exact List.mem_map_of_mem hpath
      obtain ⟨hbusy, body, hbody, hcomplete⟩ := h.queued path hpath
      refine ⟨?_, body, ?_, hcomplete⟩
      · rw [busy_downloading, List.mem_append, List.mem_singleton]
        exact not_or.mpr ⟨hbusy, hne⟩
      · exact (Function.update_of_ne hne ..).trans hbody
    · -- and it is busy from now on
      intro file body hbody hnil hbusy
      rw [busy_downloading, List.mem_append, List.mem_singleton] at hbusy
      obtain ⟨hbusy, hne⟩ := not_or.mp hbusy
      exact h.cached file body ((Function.update_of_ne hne ..).symm.trans hbody) hnil hbusy

theorem CacheInvariant.chunk (h : CacheInvariant start s) {i : ℕ} (hi : i < s.inFlight.length)
    (bytes : Body) : CacheInvariant start (s.next sdk (.chunk i bytes)) := by
  obtain ⟨l₁, d, l₂, -, hsplit, hnext⟩ := next_chunk sdk s hi bytes
  rw [hnext]
  -- the file that changes is busy before and after
  have hother : ∀ file, file ∉ s.busy → file ≠ d.file := by
    intro file hfile heq
    exact hfile ((mem_busy_iff hsplit file).mpr (Or.inl heq))
  refine ⟨(hsplit ▸ h.exclusive).chunk sdk bytes, ?_, ?_⟩
  · intro path hpath
    obtain ⟨hidle, body, hbody, hcomplete⟩ := h.queued path hpath
    refine ⟨?_, body, ?_, hcomplete⟩
    · simpa [PluginState.busy, hsplit, Download.file] using hidle
    · exact (Function.update_of_ne (hother _ hidle) ..).trans hbody
  · intro file body hbody hnil hidle
    have hidle : file ∉ s.busy := by
      simpa [PluginState.busy, hsplit, Download.file] using hidle
    exact h.cached file body
      ((Function.update_of_ne (hother _ hidle) ..).symm.trans hbody) hnil hidle

theorem CacheInvariant.completion (h : CacheInvariant start s) {i : ℕ} {code : ℤ}
    {throws : Call → Bool} (hi : i < s.inFlight.length)
    (hok : CacheSafe sdk s (.completion i code throws)) :
    CacheInvariant start (s.next sdk (.completion i code throws)) := by
  obtain ⟨l₁, d, l₂, hget, hsplit, hnext⟩ := next_completion sdk s hi code throws
  obtain ⟨hfree, hcontent, hrest⟩ := exclusive_middle.mp (hsplit ▸ h.exclusive)
  have hbusy := mem_busy_iff hsplit
  have hidle : ∀ file, file ∉ s.busy → file ∉ (l₁ ++ l₂).map Download.file := by
    intro file hfile hmem
    exact hfile ((hbusy file).mpr (Or.inr hmem))
  have hnot : ∀ file, file ≠ d.file → file ∉ (l₁ ++ l₂).map Download.file → file ∉ s.busy := by
    intro file hne hfile hmem
    exact ((hbusy file).mp hmem).elim hne hfile
  rw [hnext]
  by_cases hcode : code = 200
  · -- the file now holds a whole response
    subst hcode
    have hcomplete : Complete start (s.responses ++ [d.response 200]) d.file d.received :=
      Or.inr ⟨d.response 200, by simp, rfl, rfl, rfl⟩
    refine ⟨hrest, ?_, ?_⟩
    · intro path hpath
      rcases List.mem_append.mp hpath with hpath | hpath
      · obtain ⟨hfile, body, hbody, hold⟩ := h.queued path hpath
        exact ⟨hidle _ hfile, body, hbody, hold.append _⟩
      · rw [List.mem_singleton.mp hpath]
        exact ⟨hfree, d.received, hcontent, hcomplete⟩
    · intro file body hbody hnil hfile
      by_cases heq : file = d.file
      · subst heq
        have hreceived : body = d.received := Option.some.inj (hbody.symm.trans hcontent)
        rw [hreceived]
        exact hcomplete
      · exact (h.cached file body hbody hnil (hnot file heq hfile)).append _
  · -- the file is removed, or it is empty
    rw [if_neg hcode]
    refine ⟨Exclusive.discarded hrest throws hfree, ?_, ?_⟩
    · intro path hpath
      obtain ⟨hfile, body, hbody, hold⟩ := h.queued path hpath
      have hne : path.lexicallyNormal ≠ d.file := by
        intro heq
        exact hfile ((hbusy _).mpr (Or.inl heq))
      exact ⟨hidle _ hfile, body, (discarded_files_of_ne _ throws hne).trans hbody,
        hold.append _⟩
    · intro file body hbody hnil hfile
      by_cases heq : file = d.file
      · subst heq
        dsimp only [PluginState.discarded] at hbody
        split at hbody
        case isTrue hremove =>
          have hempty := hok hcode hremove d hget
          rw [hcontent, hempty] at hbody
          exact absurd (Option.some.inj hbody).symm hnil
        case isFalse =>
          exact absurd ((Function.update_self ..).symm.trans hbody) (by simp)
      · have hbefore := (discarded_files_of_ne _ throws heq).symm.trans hbody
        exact (h.cached file body hbefore hnil (hnot file heq hfile)).append _

theorem CacheInvariant.runTask (h : CacheInvariant start s) {k : ℕ} (hk : k < s.tasks.length) :
    CacheInvariant start (s.next sdk (.runTask k)) := by
  obtain ⟨t₁, path, t₂, -, hsplit, hnext⟩ := next_runTask sdk s hk
  rw [hnext]
  -- the tasks that are left were queued before
  refine ⟨h.exclusive, ?_, h.cached⟩
  intro path' hpath'
  apply h.queued
  rw [hsplit]
  rcases List.mem_append.mp hpath' with hmem | hmem
  · exact List.mem_append_left _ hmem
  · exact List.mem_append_right _ (List.mem_cons_of_mem path hmem)

/-- **Step lemma**: a safe step keeps the cache whole. -/
theorem CacheInvariant.next (h : CacheInvariant start s) {e : PluginEvent} (he : s.enabled e)
    (hok : CacheSafe sdk s e) : CacheInvariant start (s.next sdk e) := by
  cases e with
  | request replayId token throws => exact h.request hok
  | chunk i bytes => exact h.chunk he bytes
  | progress i report => exact ⟨h.exclusive, h.queued, h.cached⟩
  | completion i code throws => exact h.completion he hok
  | runTask k => exact h.runTask he
  | frame size => exact ⟨h.exclusive, h.queued, h.cached⟩

end Invariant

/-! ## What Is Played -/

/-- A step that runs `PlayReplay` finds a file that is there and complete: the cache started
    with it, or a response with status 200 for its replay id brought it. -/
def PlaysOnlyComplete (sdk : BakkesMod) (start : Path → Option Body) (s : PluginState) :
    PluginEvent → Prop
  | .runTask k => ∀ path, s.tasks[k]? = some path →
    ∃ body, s.files path.lexicallyNormal = some body ∧
      (start path.lexicallyNormal = some body ∨
        ∃ r ∈ s.responses, r.code = 200 ∧
          (replayPath sdk r.replayId).lexicallyNormal = path.lexicallyNormal ∧ r.body = body)
  | _ => True

theorem CacheInvariant.plays {sdk : BakkesMod} {start : Path → Option Body} {s : PluginState}
    (h : CacheInvariant start s) (hnamed : Named sdk s) (e : PluginEvent) :
    PlaysOnlyComplete sdk start s e := by
  cases e with
  | runTask k =>
    intro path hpath
    obtain ⟨-, body, hbody, hcomplete⟩ := h.queued path (List.mem_of_getElem? hpath)
    refine ⟨body, hbody, ?_⟩
    rcases hcomplete with hstart | ⟨r, hr, hcode, hfile, hrbody⟩
    · exact Or.inl hstart
    · refine Or.inr ⟨r, hr, hcode, ?_, hrbody⟩
      rw [← hnamed.responses r hr]
      exact hfile
  | _ => trivial

theorem CacheInvariant.loaded (bringWindowToFront : Bool) (start : Path → Option Body) :
    CacheInvariant start (PluginState.loaded bringWindowToFront start) where
  exclusive := Exclusive.nil start
  queued := by simp [PluginState.loaded]
  cached := fun _ _ hbody _ _ => Or.inl hbody

theorem Named.loaded (sdk : BakkesMod) (bringWindowToFront : Bool)
    (start : Path → Option Body) : Named sdk (PluginState.loaded bringWindowToFront start) where
  downloads := by simp [PluginState.loaded]
  responses := by simp [PluginState.loaded]

/-- **Only complete replays are played** in every run whose steps are safe for the cache. -/
theorem playsOnlyComplete_of_cacheSafe (sdk : BakkesMod) (bringWindowToFront : Bool)
    (start : Path → Option Body) {as : List PluginEvent}
    (hl : (pluginMachine sdk).Legal (.loaded bringWindowToFront start) as)
    (hok : (pluginMachine sdk).Along (CacheSafe sdk) (.loaded bringWindowToFront start) as) :
    (pluginMachine sdk).Along (PlaysOnlyComplete sdk start)
      (.loaded bringWindowToFront start) as := by
  apply Machine.Legal.along (I := fun s => CacheInvariant start s ∧ Named sdk s) ?step ?plays
    ⟨.loaded .., .loaded ..⟩ hl hok
  case step =>
    intro s e ⟨hcache, hnamed⟩ he hsafe
    exact ⟨hcache.next he hsafe, hnamed.next he⟩
  case plays =>
    intro s e ⟨hcache, hnamed⟩ _ _
    exact hcache.plays hnamed e

/-- One download from its request to its replay, with two chunks. -/
def undisturbedDownload : List PluginEvent :=
  [.request "ab".toList "token".toList noThrow, .chunk 0 [1], .chunk 0 [2],
    .completion 0 200 noThrow, .runTask 0]

theorem playsOnlyComplete_undisturbedDownload :
    (pluginMachine .simple).Along (PlaysOnlyComplete .simple fun _ => none)
      (.loaded true fun _ => none) undisturbedDownload :=
  playsOnlyComplete_of_cacheSafe .simple true (fun _ => none) (by decide) (by decide)

/-- A second request for an id whose download has received its first byte is served from the
    cache, and the part that is there is played. -/
theorem partial_replay_played :
    let run := [.request "ab".toList "token".toList noThrow, .chunk 0 [1],
      .request "ab".toList "token".toList noThrow, .runTask 0]
    (pluginMachine .simple).Legal (.loaded true fun _ => none) run ∧
      ¬ (pluginMachine .simple).Along (PlaysOnlyComplete .simple fun _ => none)
        (.loaded true fun _ => none) run := by
  refine ⟨by decide, ?_⟩
  intro h
  obtain ⟨-, -, -, hplay, -⟩ := h
  -- no response has ended, and the cache was empty
  obtain ⟨body, -, hstart | ⟨r, hr, -⟩⟩ := hplay _ rfl
  · cases hstart
  · exact absurd hr List.not_mem_nil

/-! ## What Is Kept -/

/-- The file holds the whole body of a response that ended with status 200. -/
def HoldsResponse (s : PluginState) (file : Path) (body : Body) : Prop :=
  s.files file = some body ∧ ∃ r ∈ s.responses, r.code = 200 ∧ r.file = file ∧ r.body = body

/-- A download starts to a file nobody writes to, and not over the empty body of a response
    with status 200. Here too a download is in flight until its callback has finished. -/
def StartsFresh (sdk : BakkesMod) (s : PluginState) : PluginEvent → Prop
  | .request replayId _ throws =>
    let file := (filePath sdk replayId).lexicallyNormal
    s.outcome sdk replayId throws = .started →
      file ∉ s.busy ∧
        ∀ r ∈ s.responses, r.code = 200 → r.file = file → s.files file ≠ some r.body
  | _ => True

instance (sdk : BakkesMod) (s : PluginState) : ∀ e, Decidable (StartsFresh sdk s e)
  | .request _ _ _ => inferInstanceAs (Decidable (_ → _ ∧ ∀ r ∈ s.responses, _ → _ → _))
  | .chunk _ _ | .progress _ _ | .completion _ _ _ | .runTask _ | .frame _ =>
    inferInstanceAs (Decidable True)

/-- What runs of fresh starts keep: a file that holds the body of a response with status 200
    is nobody's download target. -/
structure KeptInvariant (s : PluginState) : Prop where
  exclusive : Exclusive s.files s.inFlight
  kept : ∀ r ∈ s.responses, r.code = 200 → r.file ∉ s.busy ∧ s.files r.file = some r.body

section Kept

variable {sdk : BakkesMod} {s : PluginState}

theorem KeptInvariant.request (h : KeptInvariant s) {replayId token : Text}
    {throws : Call → Bool} (hok : StartsFresh sdk s (.request replayId token throws)) :
    KeptInvariant (s.next sdk (.request replayId token throws)) := by
  rw [next_request]
  cases houtcome : s.outcome sdk replayId throws with
  | testThrew => exact ⟨h.exclusive, h.kept⟩
  | cached => exact ⟨h.exclusive, h.kept⟩
  | startThrew => dsimp only; split <;> exact ⟨h.exclusive, h.kept⟩
  | started =>
    obtain ⟨hfree, hfresh⟩ := hok houtcome
    refine ⟨h.exclusive.start hfree, ?_⟩
    intro r hr hcode
    obtain ⟨hbusy, hbody⟩ := h.kept r hr hcode
    -- a start over the file of a whole response is not fresh
    have hne : r.file ≠ (filePath sdk replayId).lexicallyNormal := by
      intro heq
      exact hfresh r hr hcode heq (heq ▸ hbody)
    refine ⟨?_, (Function.update_of_ne hne ..).trans hbody⟩
    rw [busy_downloading, List.mem_append, List.mem_singleton]
    exact not_or.mpr ⟨hbusy, hne⟩

theorem KeptInvariant.chunk (h : KeptInvariant s) {i : ℕ} (hi : i < s.inFlight.length)
    (bytes : Body) : KeptInvariant (s.next sdk (.chunk i bytes)) := by
  obtain ⟨l₁, d, l₂, -, hsplit, hnext⟩ := next_chunk sdk s hi bytes
  rw [hnext]
  refine ⟨(hsplit ▸ h.exclusive).chunk sdk bytes, ?_⟩
  intro r hr hcode
  obtain ⟨hbusy, hbody⟩ := h.kept r hr hcode
  have hne : r.file ≠ d.file := by
    intro heq
    exact hbusy ((mem_busy_iff hsplit _).mpr (Or.inl heq))
  refine ⟨?_, (Function.update_of_ne hne ..).trans hbody⟩
  simpa [PluginState.busy, hsplit, Download.file] using hbusy

theorem KeptInvariant.completion (h : KeptInvariant s) {i : ℕ} (hi : i < s.inFlight.length)
    (code : ℤ) (throws : Call → Bool) :
    KeptInvariant (s.next sdk (.completion i code throws)) := by
  obtain ⟨l₁, d, l₂, -, hsplit, hnext⟩ := next_completion sdk s hi code throws
  obtain ⟨hfree, hcontent, hrest⟩ := exclusive_middle.mp (hsplit ▸ h.exclusive)
  have hidle : ∀ r ∈ s.responses, r.code = 200 →
      r.file ≠ d.file ∧ r.file ∉ (l₁ ++ l₂).map Download.file := by
    intro r hr hcode
    exact not_or.mp ((not_congr (mem_busy_iff hsplit r.file)).mp (h.kept r hr hcode).1)
  rw [hnext]
  by_cases hcode : code = 200
  · subst hcode
    refine ⟨hrest, List.forall_mem_append.mpr ⟨?_, ?_⟩⟩
    · intro r hr hcode
      exact ⟨(hidle r hr hcode).2, (h.kept r hr hcode).2⟩
    · rw [List.forall_mem_singleton]
      exact fun _ => ⟨hfree, hcontent⟩
  · rw [if_neg hcode]
    refine ⟨Exclusive.discarded hrest throws hfree, List.forall_mem_append.mpr ⟨?_, ?_⟩⟩
    · -- the file that goes is the one the failed download was writing
      intro r hr hcode
      obtain ⟨hne, hother⟩ := hidle r hr hcode
      exact ⟨hother, (discarded_files_of_ne _ throws hne).trans (h.kept r hr hcode).2⟩
    · rw [List.forall_mem_singleton]
      exact fun hok => absurd hok hcode

/-- **Step lemma**: fresh starts keep whole responses apart from download targets. -/
theorem KeptInvariant.next (h : KeptInvariant s) {e : PluginEvent} (he : s.enabled e)
    (hok : StartsFresh sdk s e) : KeptInvariant (s.next sdk e) := by
  cases e with
  | request replayId token throws => exact h.request hok
  | chunk i bytes => exact h.chunk he bytes
  | progress i report => exact ⟨h.exclusive, h.kept⟩
  | completion i code throws => exact h.completion he code throws
  | runTask k =>
    obtain ⟨t₁, path, t₂, -, -, hnext⟩ := next_runTask sdk s he
    rw [hnext]
    exact ⟨h.exclusive, h.kept⟩
  | frame size => exact ⟨h.exclusive, h.kept⟩

end Kept

/-- Responses are never forgotten. -/
theorem mem_responses_next (sdk : BakkesMod) {s : PluginState} {e : PluginEvent}
    (he : s.enabled e) {r : Response} (hr : r ∈ s.responses) :
    r ∈ (s.next sdk e).responses := by
  rcases responses_next sdk he with hsame | ⟨d, -, code, hrecorded⟩
  · rw [hsame]
    exact hr
  · rw [hrecorded]
    exact List.mem_append_left _ hr

/-- **A whole response stays in its file** to the end of every run whose downloads all start
    fresh: nothing truncates, rewrites or removes the file. -/
theorem holdsResponse_kept_of_startsFresh (sdk : BakkesMod) (bringWindowToFront : Bool)
    (start : Path → Option Body) {as bs : List PluginEvent}
    (hl : (pluginMachine sdk).Legal (.loaded bringWindowToFront start) (as ++ bs))
    (hok : (pluginMachine sdk).Along (StartsFresh sdk) (.loaded bringWindowToFront start)
      (as ++ bs))
    {file : Path} {body : Body}
    (hholds : HoldsResponse ((pluginMachine sdk).exec (.loaded bringWindowToFront start) as)
      file body) :
    ((pluginMachine sdk).exec (.loaded bringWindowToFront start) (as ++ bs)).files file =
      some body := by
  obtain ⟨-, r, hr, hcode, rfl, rfl⟩ := hholds
  obtain ⟨hlas, hlbs⟩ := Machine.along_append.mp hl
  obtain ⟨hokas, hokbs⟩ := Machine.along_append.mp hok
  have hloaded : KeptInvariant (.loaded bringWindowToFront start) :=
    ⟨Exclusive.nil start, by simp [PluginState.loaded]⟩
  have hmid : KeptInvariant ((pluginMachine sdk).exec (.loaded bringWindowToFront start) as) :=
    Machine.Legal.invariant (fun s e h he hfresh => h.next he hfresh) hloaded hlas hokas
  -- from there on the response stays recorded, and its file in place
  have hend := Machine.Legal.invariant (I := fun s => KeptInvariant s ∧ r ∈ s.responses)
    (fun s e h he hfresh => ⟨h.1.next he hfresh, mem_responses_next sdk he h.2⟩)
    ⟨hmid, hr⟩ hlbs hokbs
  rw [Machine.exec_append]
  exact (hend.1.kept r hend.2 hcode).2

/-- A download that ends with status 200, then one of another id that fails. -/
theorem holdsResponse_kept_otherFailure :
    ((pluginMachine .simple).exec (.loaded true fun _ => none)
      ([.request "ab".toList "token".toList noThrow, .chunk 0 [1], .completion 0 200 noThrow] ++
        [.request "cd".toList "token".toList noThrow, .completion 0 404 noThrow])).files
      (filePath .simple "ab".toList).lexicallyNormal = some [1] :=
  holdsResponse_kept_of_startsFresh .simple true (fun _ => none) (by decide) (by decide)
    ⟨by decide, ⟨"ab".toList, filePath .simple "ab".toList, 200, [1]⟩, by decide, rfl, rfl, rfl⟩

/-- Two requests for one id before its first byte: the first download brings the whole
    replay, the second one fails and removes it. -/
theorem whole_replay_removed :
    let before := [.request "ab".toList "token".toList noThrow,
      .request "ab".toList "token".toList noThrow, .chunk 0 [1], .completion 0 200 noThrow]
    let after := [.completion 0 404 noThrow]
    let file := (filePath .simple "ab".toList).lexicallyNormal
    (pluginMachine .simple).Legal (.loaded true fun _ => none) (before ++ after) ∧
      HoldsResponse ((pluginMachine .simple).exec (.loaded true fun _ => none) before) file [1] ∧
      ((pluginMachine .simple).exec (.loaded true fun _ => none) (before ++ after)).files file =
        none := by
  refine ⟨by decide, ⟨by decide, ?_⟩, by decide⟩
  exact ⟨⟨"ab".toList, filePath .simple "ab".toList, 200, [1]⟩, by decide, rfl, rfl, rfl⟩

end BallchasingReplayPlayer
