import BallchasingReplayPlayer.Lib.FetchCache
import BallchasingReplayPlayer.Lib.Simulation
import BallchasingReplayPlayer.Plugin.Cache

/-!
# The Plugin as a Cache

The cache folder, the HTTP layer and the task queue, seen as a cache that fetches the replays
it lacks. Chunks, progress reports, frames and requests that throw are not visible there; an
empty file counts as none.

## Main Results

- `cacheSimulation`: in runs of safe steps, the plugin is such a cache
- `downloadsOf_le`: no replay is downloaded twice
-/

namespace BallchasingReplayPlayer

open LexicalPath Transition

/-! ## The Abstraction -/

/-- The content of a file that is there and not empty. -/
def contentOf (file : Option Body) : Option Body := file.filter (· ≠ [])

theorem contentOf_eq_none_iff (file : Option Body) :
    contentOf file = none ↔ file.any (· ≠ []) = false := by
  cases file <;> simp [contentOf]

/-- The cache the plugin stands for: a file that is being written is not stored yet. -/
def PluginState.cache (s : PluginState) : FetchCache.State Path Body where
  stored file := if file ∈ s.busy then none else contentOf (s.files file)
  fetching := s.busy.toFinset
  pending := s.tasks.map Path.lexicallyNormal

/-- The end of a fetch: a content arrives, or it fails. -/
def Download.ending (d : Download) (code : ℤ) : FetchCache.Event Path Body :=
  if code = 200 then .arrive d.file (contentOf (some d.received)) else .fail d.file

/-- What an event is to the cache. -/
def cacheSteps (sdk : BakkesMod) (s : PluginState) :
    PluginEvent → List (FetchCache.Event Path Body)
  | .request replayId _ throws =>
    let file := (filePath sdk replayId).lexicallyNormal
    match s.outcome sdk replayId throws with
    | .cached => [.hit file]
    | .started => [.fetch file]
    | .testThrew | .startThrew => []
  | .completion i code _ => s.inFlight[i]?.toList.map (·.ending code)
  | .runTask k =>
    s.tasks[k]?.toList.map fun path =>
      .use path.lexicallyNormal (s.cache.stored path.lexicallyNormal)
  | _ => []

section Steps

variable {sdk : BakkesMod} {s s' : PluginState}

theorem stored_of_busy {file : Path} (h : file ∈ s.busy) : s.cache.stored file = none := if_pos h

theorem stored_of_idle {file : Path} (h : file ∉ s.busy) :
    s.cache.stored file = contentOf (s.files file) := if_neg h

/-- A request that is served from the cache finds a content. -/
theorem stored_of_cached {replayId : Text} {throws : Call → Bool}
    (houtcome : s.outcome sdk replayId throws = .cached)
    (hidle : (filePath sdk replayId).lexicallyNormal ∉ s.busy) :
    s.cache.stored (filePath sdk replayId).lexicallyNormal ≠ none := by
  obtain ⟨body, hbody, hne⟩ := exists_of_outcome_cached houtcome
  rw [stored_of_idle hidle, hbody]
  simp [contentOf, hne]

/-- A request that starts a download found none. -/
theorem content_of_started {replayId : Text} {throws : Call → Bool}
    (houtcome : s.outcome sdk replayId throws = .started) :
    contentOf (s.files (filePath sdk replayId).lexicallyNormal) = none := by
  unfold PluginState.outcome outcome at houtcome
  rw [contentOf_eq_none_iff]
  split_ifs at houtcome with _ hcached
  simpa using hcached

/-- A replay that is queued is waiting to be used. -/
theorem cache_queued (s : PluginState) (path : Path) :
    (s.queued path).cache =
      { s.cache with pending := path.lexicallyNormal ::ₘ s.cache.pending } := by
  apply FetchCache.State.ext
  · rfl
  · rfl
  · show (((s.tasks ++ [path]).map Path.lexicallyNormal : List Path) : Multiset Path) = _
    rw [List.map_append]
    exact Multiset.coe_eq_coe.mpr (List.perm_append_singleton ..)

/-- A download that starts over a file without content fetches it. -/
theorem cache_downloading {d : Download} (hidle : d.file ∉ s.busy)
    (hnone : contentOf (s.files d.file) = none) :
    (s.downloading d).cache = { s.cache with fetching := insert d.file s.cache.fetching } := by
  have hbusy : ∀ file, file ∈ (s.downloading d).busy ↔ file = d.file ∨ file ∈ s.busy := by
    intro file
    rw [busy_downloading, List.mem_append, List.mem_singleton, or_comm]
  apply FetchCache.State.ext
  · funext file
    by_cases heq : file = d.file
    · subst heq
      rw [stored_of_busy ((hbusy _).mpr (Or.inl rfl))]
      exact ((stored_of_idle hidle).trans hnone).symm
    · by_cases hfile : file ∈ s.busy
      · rw [stored_of_busy ((hbusy _).mpr (Or.inr hfile))]
        exact (stored_of_busy hfile).symm
      · rw [stored_of_idle fun hmem => ((hbusy _).mp hmem).elim heq hfile]
        show contentOf (Function.update s.files d.file _ file) = s.cache.stored file
        rw [Function.update_of_ne heq, stored_of_idle hfile]
  · ext file
    show file ∈ (s.downloading d).busy.toFinset ↔ file ∈ insert d.file s.busy.toFinset
    rw [List.mem_toFinset, hbusy, Finset.mem_insert, List.mem_toFinset]
  · rfl

/-- A download that is no longer in flight leaves its file to what it holds. -/
theorem cache_ended {l₁ l₂ : List Download} {d : Download} (hsplit : s.inFlight = l₁ ++ d :: l₂)
    (hfree : d.file ∉ (l₁ ++ l₂).map Download.file) (hs' : s'.inFlight = l₁ ++ l₂)
    (hfiles : ∀ file, file ≠ d.file → s'.files file = s.files file) :
    s'.cache.stored = Function.update s.cache.stored d.file (contentOf (s'.files d.file)) ∧
      s'.cache.fetching = s.cache.fetching.erase d.file := by
  have hbusy := mem_busy_iff hsplit
  have hbusy' : s'.busy = (l₁ ++ l₂).map Download.file := congrArg (List.map Download.file) hs'
  constructor
  · funext file
    by_cases heq : file = d.file
    · subst heq
      rw [Function.update_self, stored_of_idle (hbusy' ▸ hfree)]
    · rw [Function.update_of_ne heq]
      by_cases hfile : file ∈ s'.busy
      · rw [stored_of_busy hfile, stored_of_busy ((hbusy _).mpr (Or.inr (hbusy' ▸ hfile)))]
      · have hidle : file ∉ s.busy := by
          intro hmem
          exact ((hbusy _).mp hmem).elim heq (hbusy' ▸ hfile)
        rw [stored_of_idle hfile, stored_of_idle hidle, hfiles file heq]
  · ext file
    show file ∈ s'.busy.toFinset ↔ file ∈ s.busy.toFinset.erase d.file
    rw [Finset.mem_erase, List.mem_toFinset, List.mem_toFinset, hbusy, hbusy']
    constructor
    · intro hmem
      exact ⟨fun heq => hfree (heq ▸ hmem), Or.inr hmem⟩
    · rintro ⟨hne, hmem⟩
      exact hmem.resolve_left hne

/-! ## Steps -/

theorem legal_request {replayId token : Text} {throws : Call → Bool}
    (hok : CacheSafe sdk s (.request replayId token throws)) :
    (FetchCache.machine Path Body).Legal s.cache
      (cacheSteps sdk s (.request replayId token throws)) := by
  dsimp only [cacheSteps]
  cases houtcome : s.outcome sdk replayId throws with
  | testThrew => trivial
  | startThrew => trivial
  | cached => exact ⟨stored_of_cached houtcome (hok.1 houtcome), trivial⟩
  | started =>
    obtain ⟨hidle, hqueued⟩ := hok.2 houtcome
    refine ⟨⟨?_, ?_, hqueued⟩, trivial⟩
    · rw [stored_of_idle hidle]
      exact content_of_started houtcome
    · simpa [PluginState.cache] using hidle

theorem commutes_request {replayId token : Text} {throws : Call → Bool}
    (hok : CacheSafe sdk s (.request replayId token throws)) :
    (FetchCache.machine Path Body).exec s.cache
        (cacheSteps sdk s (.request replayId token throws)) =
      (s.next sdk (.request replayId token throws)).cache := by
  rw [next_request]
  dsimp only [cacheSteps]
  cases houtcome : s.outcome sdk replayId throws with
  | testThrew => rfl
  | startThrew =>
    dsimp only
    split
    · rfl
    · rfl
  | cached => exact (cache_queued (s.asked (filePath sdk replayId)) _).symm
  | started =>
    have hidle := (hok.2 houtcome).1
    exact (cache_downloading (s := (s.asked (filePath sdk replayId)).announced.ordered
      (filePath sdk replayId)) (d := newDownload sdk replayId token) hidle
      (content_of_started houtcome)).symm

/-- A chunk goes to a file that is not stored yet. -/
theorem cache_chunk {i : ℕ} (hi : i < s.inFlight.length) (bytes : Body) :
    (s.next sdk (.chunk i bytes)).cache = s.cache := by
  obtain ⟨l₁, d, l₂, -, hsplit, hnext⟩ := next_chunk sdk s hi bytes
  have hbusy : (s.next sdk (.chunk i bytes)).busy = s.busy := by
    rw [hnext]
    simp [PluginState.busy, hsplit, Download.file]
  apply FetchCache.State.ext
  · funext file
    by_cases hfile : file ∈ s.busy
    · rw [stored_of_busy hfile, stored_of_busy (hbusy ▸ hfile)]
    · have hne : file ≠ d.file := by
        intro heq
        exact hfile ((mem_busy_iff hsplit file).mpr (Or.inl heq))
      rw [stored_of_idle hfile, stored_of_idle (hbusy ▸ hfile), hnext]
      exact congrArg contentOf (Function.update_of_ne hne ..)
  · exact congrArg List.toFinset hbusy
  · rw [hnext]
    rfl

/-- The removal of a bad file leaves no content, whether it throws or not. -/
theorem content_of_discarded {d : Download} {throws : Call → Bool}
    (hcontent : s.files d.file = some d.received)
    (hok : throws .remove = true → d.received = []) :
    contentOf ((s.discarded throws d.filePath).files d.file) = none := by
  dsimp only [PluginState.discarded]
  split
  case isTrue hremove =>
    rw [hcontent, hok hremove]
    rfl
  case isFalse =>
    show contentOf (Function.update s.files d.file none d.file) = none
    rw [Function.update_self]
    rfl

section Endings

variable {l₁ l₂ : List Download} {d : Download} (hsplit : s.inFlight = l₁ ++ d :: l₂)
  (hfree : d.file ∉ (l₁ ++ l₂).map Download.file) (hcontent : s.files d.file = some d.received)
  (hs' : s'.inFlight = l₁ ++ l₂) (hfiles : s'.files = s.files) (htasks : s'.tasks = s.tasks)

include hsplit hfree hcontent hs' hfiles htasks

/-- A status of 200 stores what has been received. -/
theorem cache_arrived :
    (FetchCache.machine Path Body).next s.cache (.arrive d.file (contentOf (some d.received))) =
      (s'.queued d.filePath).cache := by
  obtain ⟨hstored, hfetching⟩ := cache_ended hsplit hfree hs' fun file _ => by rw [hfiles]
  rw [cache_queued]
  apply FetchCache.State.ext
  · rw [hfiles, hcontent] at hstored
    exact hstored.symm
  · exact hfetching.symm
  · show d.file ::ₘ ((s.tasks.map Path.lexicallyNormal : List Path) : Multiset Path) = _
    rw [← htasks]
    rfl

/-- Any other status leaves no content. -/
theorem cache_failed {throws : Call → Bool} (hok : throws .remove = true → d.received = []) :
    (FetchCache.machine Path Body).next s.cache (.fail d.file) =
      (s'.discarded throws d.filePath).cache := by
  have hbusy : d.file ∈ s.busy := (mem_busy_iff hsplit _).mpr (Or.inl rfl)
  have hothers : ∀ file, file ≠ d.file →
      (s'.discarded throws d.filePath).files file = s.files file := by
    intro file hne
    rw [discarded_files_of_ne s' throws hne, hfiles]
  have hended : (s'.discarded throws d.filePath).inFlight = l₁ ++ l₂ := hs'
  obtain ⟨hstored, hfetching⟩ := cache_ended hsplit hfree hended hothers
  apply FetchCache.State.ext
  · rw [hstored, content_of_discarded (hfiles ▸ hcontent) hok, ← stored_of_busy hbusy,
      Function.update_eq_self]
    rfl
  · exact hfetching.symm
  · show ((s.tasks.map Path.lexicallyNormal : List Path) : Multiset Path) = _
    rw [← htasks]
    rfl

end Endings

theorem commutes_completion {start : Path → Option Body} (h : CacheInvariant start s) {i : ℕ}
    (hi : i < s.inFlight.length) {code : ℤ} {throws : Call → Bool}
    (hok : CacheSafe sdk s (.completion i code throws)) :
    (FetchCache.machine Path Body).exec s.cache (cacheSteps sdk s (.completion i code throws)) =
      (s.next sdk (.completion i code throws)).cache := by
  obtain ⟨l₁, d, l₂, hget, hsplit, hnext⟩ := next_completion sdk s hi code throws
  obtain ⟨hfree, hcontent, -⟩ := exclusive_middle.mp (hsplit ▸ h.exclusive)
  rw [hnext]
  dsimp only [cacheSteps]
  rw [hget]
  show (FetchCache.machine Path Body).next s.cache (d.ending code) = _
  unfold Download.ending
  by_cases hcode : code = 200
  · rw [if_pos hcode, if_pos hcode]
    exact cache_arrived hsplit hfree hcontent rfl rfl rfl
  · rw [if_neg hcode, if_neg hcode]
    apply cache_failed hsplit hfree hcontent
    · rfl
    · rfl
    · rfl
    · exact fun hremove => hok hcode hremove d hget

theorem commutes_runTask {k : ℕ} (hk : k < s.tasks.length) :
    (FetchCache.machine Path Body).exec s.cache (cacheSteps sdk s (.runTask k)) =
      (s.next sdk (.runTask k)).cache := by
  obtain ⟨t₁, path, t₂, hget, hsplit, hnext⟩ := next_runTask sdk s hk
  rw [hnext]
  dsimp only [cacheSteps]
  rw [hget]
  apply FetchCache.State.ext
  · rfl
  · rfl
  · show (s.cache.pending.erase path.lexicallyNormal) =
      ((t₁ ++ t₂).map Path.lexicallyNormal : List Path)
    have hperm : (s.tasks.map Path.lexicallyNormal : Multiset Path) =
        path.lexicallyNormal ::ₘ ((t₁ ++ t₂).map Path.lexicallyNormal : List Path) := by
      rw [hsplit]
      exact Multiset.coe_eq_coe.mpr (List.perm_middle.map _)
    rw [show s.cache.pending = (s.tasks.map Path.lexicallyNormal : List Path) from rfl, hperm,
      Multiset.erase_cons_head]

/-- **Refinement**: as long as its steps are safe for the cache, the plugin is a cache that
    fetches what it lacks. -/
def cacheSimulation (sdk : BakkesMod) (start : Path → Option Body) :
    Simulation (pluginMachine sdk) (FetchCache.machine Path Body) where
  Inv := CacheInvariant start
  ok := CacheSafe sdk
  abs := PluginState.cache
  emit := cacheSteps sdk
  keeps _ _ h he hok := h.next he hok
  legal s e h he hok := by
    cases e with
    | request replayId token throws => exact legal_request hok
    | completion i code throws =>
      obtain ⟨l₁, d, l₂, hget, hsplit, -⟩ := next_completion sdk s he code throws
      have hbusy : d.file ∈ s.busy := (mem_busy_iff hsplit _).mpr (Or.inl rfl)
      dsimp only [cacheSteps]
      rw [hget]
      have hfetching : d.file ∈ s.cache.fetching := List.mem_toFinset.mpr hbusy
      refine ⟨?_, trivial⟩
      unfold Download.ending
      split
      · exact hfetching
      · exact hfetching
    | runTask k =>
      obtain ⟨t₁, path, t₂, hget, hsplit, -⟩ := next_runTask sdk s he
      dsimp only [cacheSteps]
      rw [hget]
      have hpending : path.lexicallyNormal ∈ s.tasks.map Path.lexicallyNormal :=
        List.mem_map_of_mem (by simp [hsplit])
      exact ⟨⟨hpending, rfl⟩, trivial⟩
    | _ => trivial
  commutes s e h he hok := by
    cases e with
    | request replayId token throws => exact commutes_request hok
    | chunk i bytes => exact (cache_chunk he bytes).symm
    | progress i report => rfl
    | completion i code throws => exact commutes_completion h he hok
    | runTask k => exact commutes_runTask he
    | frame size => rfl

end Steps

/-! ## Downloads -/

/-- How many downloads brought a content for a file. -/
def PluginState.downloadsOf (s : PluginState) (file : Path) : ℕ :=
  s.responses.countP fun r => r.file = file ∧ r.code = 200 ∧ r.body ≠ []

/-- **Step lemma**: a download that brings a content is an arrival at the cache. -/
theorem downloadsOf_next (sdk : BakkesMod) {s : PluginState} {e : PluginEvent}
    (he : s.enabled e) (file : Path) :
    (s.next sdk e).downloadsOf file =
      s.downloadsOf file + (cacheSteps sdk s e).countP (FetchCache.Event.brings file) := by
  cases e with
  | request replayId token throws =>
    rw [next_request]
    dsimp only [cacheSteps]
    cases s.outcome sdk replayId throws with
    | startThrew =>
      dsimp only
      split
      · rfl
      · rfl
    | _ => rfl
  | chunk i bytes =>
    obtain ⟨l₁, d, l₂, -, -, hnext⟩ := next_chunk sdk s he bytes
    rw [hnext]
    rfl
  | progress i report => rfl
  | completion i code throws =>
    obtain ⟨l₁, d, l₂, hget, -, hnext⟩ := next_completion sdk s he code throws
    have hresponses : (s.next sdk (.completion i code throws)).responses =
        s.responses ++ [d.response code] := by
      rw [hnext]
      dsimp only
      split
      · rfl
      · rfl
    unfold PluginState.downloadsOf
    rw [hresponses, List.countP_append]
    dsimp only [cacheSteps]
    rw [hget]
    congr 1
    unfold Download.ending
    by_cases hcode : code = 200
    -- an empty body is no content, so it brings nothing to the cache either
    · by_cases hnil : d.received = []
      · simp [Download.response, Response.file, hcode, hnil, FetchCache.Event.brings, contentOf]
      · simp [Download.response, Response.file, Download.file, hcode, hnil,
          FetchCache.Event.brings, contentOf, List.countP_cons]
    · simp [Download.response, hcode, FetchCache.Event.brings]
  | runTask k =>
    obtain ⟨t₁, path, t₂, hget, -, hnext⟩ := next_runTask sdk s he
    rw [hnext]
    dsimp only [cacheSteps]
    rw [hget]
    rfl
  | frame size => rfl

theorem downloadsOf_exec (sdk : BakkesMod) (start : Path → Option Body) {s : PluginState}
    {as : List PluginEvent} (hl : (pluginMachine sdk).Legal s as) (file : Path) :
    ((pluginMachine sdk).exec s as).downloadsOf file =
      s.downloadsOf file +
        ((cacheSimulation sdk start).trace s as).countP (FetchCache.Event.brings file) := by
  induction as generalizing s with
  | nil => rfl
  | cons e as ih =>
    have hrest := ih hl.2
    have hstep : ((pluginMachine sdk).next s e).downloadsOf file = _ :=
      downloadsOf_next sdk hl.1 file
    rw [Machine.exec_cons, hrest, hstep, Simulation.trace, List.countP_append, Nat.add_assoc]
    rfl

/-- Nothing is being fetched when the plugin is loaded. -/
theorem fetchesMissing_loaded (bringWindowToFront : Bool) (start : Path → Option Body) :
    FetchCache.FetchesMissing (PluginState.loaded bringWindowToFront start).cache := by
  intro k hk
  exact absurd hk (Finset.notMem_empty k)

/-- What is stored then is what the cache folder was left with. -/
theorem stored_loaded (bringWindowToFront : Bool) (start : Path → Option Body) (file : Path) :
    (PluginState.loaded bringWindowToFront start).cache.stored file = contentOf (start file) :=
  stored_of_idle List.not_mem_nil

/-- **No replay is downloaded twice** in runs whose steps are safe for the cache, and none that
    is there already. -/
theorem downloadsOf_le (sdk : BakkesMod) (bringWindowToFront : Bool)
    (start : Path → Option Body) {as : List PluginEvent}
    (hl : (pluginMachine sdk).Legal (.loaded bringWindowToFront start) as)
    (hok : (pluginMachine sdk).Along (CacheSafe sdk) (.loaded bringWindowToFront start) as)
    (file : Path) :
    ((pluginMachine sdk).exec (.loaded bringWindowToFront start) as).downloadsOf file +
      (if contentOf (start file) = none then 0 else 1) ≤ 1 := by
  have hlegal := Simulation.legal_trace (S := cacheSimulation sdk start)
    (CacheInvariant.loaded bringWindowToFront start) hl hok
  have harrivals := FetchCache.arrivals_le (fetchesMissing_loaded bringWindowToFront start) hlegal
    file
  rw [stored_loaded] at harrivals
  rw [downloadsOf_exec sdk start hl file]
  show 0 + _ + _ ≤ 1
  rw [Nat.zero_add]
  exact harrivals

/-! ## Replays -/

/-- What arrives at the cache is the body of a response with status 200. -/
theorem arrived_next (sdk : BakkesMod) {s : PluginState} {e : PluginEvent} (he : s.enabled e)
    {file : Path} {content : Body}
    (harrive : .arrive file (some content) ∈ cacheSteps sdk s e) :
    ∃ r ∈ (s.next sdk e).responses, r.file = file ∧ r.code = 200 ∧ r.body = content := by
  cases e with
  | request replayId token throws =>
    dsimp only [cacheSteps] at harrive
    split at harrive
    · simp at harrive
    · simp at harrive
    · simp at harrive
    · simp at harrive
  | completion i code throws =>
    obtain ⟨l₁, d, l₂, hget, -, hnext⟩ := next_completion sdk s he code throws
    dsimp only [cacheSteps] at harrive
    rw [hget] at harrive
    simp only [Option.toList_some, List.map_cons, List.map_nil, List.mem_singleton] at harrive
    unfold Download.ending at harrive
    split at harrive
    case isFalse => cases harrive
    case isTrue hcode =>
      injection harrive with hfile hcontent
      have hbody : d.received = content := by
        have hsome : some d.received = some content :=
          Option.eq_some_of_filter_eq_some hcontent.symm
        exact Option.some.inj hsome
      refine ⟨d.response code, ?_, hfile.symm, hcode, hbody⟩
      rw [hnext, if_pos hcode]
      exact List.mem_append_right _ (List.mem_singleton_self _)
  | runTask k =>
    dsimp only [cacheSteps] at harrive
    simp at harrive
  | _ => simp [cacheSteps] at harrive

/-- A response stays on record. -/
theorem mem_responses_exec (sdk : BakkesMod) {s : PluginState} {as : List PluginEvent}
    (hl : (pluginMachine sdk).Legal s as) {r : Response} (hr : r ∈ s.responses) :
    r ∈ ((pluginMachine sdk).exec s as).responses := by
  apply Machine.exec_invariant (M := pluginMachine sdk) (I := fun s => r ∈ s.responses) _ hr hl
  intro s e hs he
  show r ∈ (s.next sdk e).responses
  rcases responses_next sdk he with hsame | ⟨d, -, code, hrecorded⟩
  · rw [hsame]
    exact hs
  · rw [hrecorded]
    exact List.mem_append_left _ hs

/-- **Run lemma**: what arrives in a run is the body of one of its responses. -/
theorem arrived_exec (sdk : BakkesMod) (start : Path → Option Body) {s : PluginState}
    {as : List PluginEvent} (hl : (pluginMachine sdk).Legal s as) {file : Path} {content : Body}
    (harrive : .arrive file (some content) ∈ (cacheSimulation sdk start).trace s as) :
    ∃ r ∈ ((pluginMachine sdk).exec s as).responses,
      r.file = file ∧ r.code = 200 ∧ r.body = content := by
  induction as generalizing s with
  | nil => cases harrive
  | cons e as ih =>
    rw [Simulation.trace, List.mem_append] at harrive
    rcases harrive with hfirst | hrest
    · obtain ⟨r, hr, hfacts⟩ := arrived_next sdk hl.1 hfirst
      exact ⟨r, mem_responses_exec sdk hl.2 hr, hfacts⟩
    · exact ih hl.2 hrest

/-- **A replay stays** in runs whose steps are safe for the cache: a content that is stored is
    never replaced, and it was there or is the body of a response with status 200. -/
theorem stored_stays (sdk : BakkesMod) (bringWindowToFront : Bool) (start : Path → Option Body)
    {as bs : List PluginEvent}
    (hl : (pluginMachine sdk).Legal (.loaded bringWindowToFront start) (as ++ bs))
    (hok : (pluginMachine sdk).Along (CacheSafe sdk) (.loaded bringWindowToFront start) (as ++ bs))
    {file : Path} {content : Body}
    (hstored : ((pluginMachine sdk).exec (.loaded bringWindowToFront start) as).cache.stored file =
      some content) :
    ((pluginMachine sdk).exec (.loaded bringWindowToFront start) (as ++ bs)).cache.stored file =
        some content ∧
      (contentOf (start file) = some content ∨
        ∃ r ∈ ((pluginMachine sdk).exec (.loaded bringWindowToFront start) as).responses,
          r.file = file ∧ r.code = 200 ∧ r.body = content) := by
  obtain ⟨hlas, -⟩ := Machine.along_append.mp hl
  obtain ⟨hokas, -⟩ := Machine.along_append.mp hok
  have hinv := CacheInvariant.loaded bringWindowToFront start
  have hlegal := Simulation.legal_trace (S := cacheSimulation sdk start) hinv hl hok
  have hmiddle := Simulation.exec_trace (S := cacheSimulation sdk start) hinv hlas hokas
  have hend := Simulation.exec_trace (S := cacheSimulation sdk start) hinv hl hok
  rw [Simulation.trace_append] at hlegal hend
  obtain ⟨hbefore, hbehind⟩ := Machine.along_append.mp hlegal
  have hmissing := Machine.exec_invariant (I := FetchCache.FetchesMissing)
    (fun _ _ hs he => hs.next he) (fetchesMissing_loaded bringWindowToFront start) hbefore
  -- the cache is that of the plugin in the middle of the run and at its end
  have hmiddle' : ((FetchCache.machine Path Body).exec
      (PluginState.loaded bringWindowToFront start).cache
      ((cacheSimulation sdk start).trace (.loaded bringWindowToFront start) as)).stored file =
        some content := by
    rw [← hstored]
    exact congrArg (fun cache => cache.stored file) hmiddle
  constructor
  · have hkept := FetchCache.stored_exec hmissing hbehind hmiddle'
    rw [← hkept]
    exact (congrArg (fun cache => cache.stored file)
      ((Machine.exec_append _ _ _ _).symm.trans hend)).symm
  · rcases FetchCache.supplied_of_stored hmiddle' with hthere | harrive
    · exact Or.inl ((stored_loaded bringWindowToFront start file).symm.trans hthere)
    · exact Or.inr (arrived_exec sdk start hlas harrive)

end BallchasingReplayPlayer
