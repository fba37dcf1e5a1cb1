import BallchasingReplayPlayer.Plugin.Download

/-!
# The End of the Plugin

The lambdas `DownloadAndPlayReplay` hands out capture the plugin's address. `onUnload` is
empty, so a download in flight, a queued task or a registered drawable outlives the plugin;
and the members behind `ws_server_` end before its destructor has stopped the server
thread.

## Main Results

- `LifeInvariant.next`: what is pending keeps the members it needs
- `usesLiving_of_endsIdle`: which runs use no member that has ended
-/

namespace BallchasingReplayPlayer

open LexicalPath Transition

/-! ## Members -/

/-- The parts of the plugin that the code uses: the base class with `gameWrapper`, and the
    members in the order of their declaration. -/
inductive Member where
  | gameWrapper
  | bringWindowToFront
  | notiferName
  | wsServer
  | wsPort
  | downloadProgress
  | progressTexture
deriving DecidableEq, Repr

/-- The place of a member in the order of construction. -/
def Member.position : Member → ℕ
  | .gameWrapper => 0
  | .bringWindowToFront => 1
  | .notiferName => 2
  | .wsServer => 3
  | .wsPort => 4
  | .downloadProgress => 5
  | .progressTexture => 6

/-- The plugin, whether `onUnload` has run, and how many of its parts are still alive. -/
structure PluginLife where
  plugin : PluginState
  unloaded : Bool
  living : ℕ

namespace PluginLife

/-- A plugin with all its parts. -/
def loaded (bringWindowToFront : Bool) (files : Path → Option Body) : PluginLife where
  plugin := .loaded bringWindowToFront files
  unloaded := false
  living := 7

/-- Parts end in the reverse order of their construction. -/
def Alive (s : PluginLife) (m : Member) : Prop := m.position < s.living

instance (s : PluginLife) (m : Member) : Decidable (s.Alive m) :=
  inferInstanceAs (Decidable (_ < _))

end PluginLife

/-- What happens to the plugin, its unloading, and the end of its youngest part. -/
inductive LifeEvent where
  | plugin (e : PluginEvent)
  | unload
  | endMember

/-- The plugin up to its end. Clients send messages until `ws_server_` has ended; what is
    pending in the SDK stays callable. -/
def lifeMachine (sdk : BakkesMod) : Machine PluginLife LifeEvent where
  enabled s
    | .plugin e => s.plugin.enabled e ∧ (e.isRequest = true → s.Alive .wsServer)
    | .unload => s.unloaded = false
    | .endMember => s.unloaded = true ∧ 0 < s.living
  next s
    | .plugin e => { s with plugin := s.plugin.next sdk e }
    -- `onUnload` has an empty body
    | .unload => { s with unloaded := true }
    | .endMember => { s with living := s.living - 1 }

instance (sdk : BakkesMod) (s : PluginLife) : ∀ e, Decidable ((lifeMachine sdk).enabled s e)
  | .plugin e => inferInstanceAs (Decidable (s.plugin.enabled e ∧ (_ → s.Alive .wsServer)))
  | .unload => inferInstanceAs (Decidable (_ = _))
  | .endMember => inferInstanceAs (Decidable (_ ∧ _ < _))

/-! ## Uses -/

/-- The request gets behind the cache test. -/
def Outcome.starts : Outcome → Bool
  | .testThrew | .cached => false
  | .startThrew | .started => true

/-- The members an event uses: those of `OnWebSocketMessage` and `DownloadAndPlayReplay` for
    a request, and those of the lambda for a callback. -/
def PluginState.uses (sdk : BakkesMod) (s : PluginState) : PluginEvent → List Member
  | .request replayId _ throws =>
    [.notiferName, .wsServer, .bringWindowToFront, .gameWrapper] ++
      if (s.outcome sdk replayId throws).starts then [.downloadProgress] else []
  -- written by the HTTP layer
  | .chunk _ _ => []
  | .progress _ _ => [.downloadProgress]
  | .completion _ _ _ => [.gameWrapper]
  | .runTask _ => [.gameWrapper]
  | .frame size =>
    [.downloadProgress] ++
      if (drawDownloadProgress size s.downloadProgress).isSome then [.progressTexture] else []

/-- The event is a call of a lambda that `DownloadAndPlayReplay` handed out. -/
def PluginEvent.isCallback : PluginEvent → Bool
  | .request _ _ _ | .chunk _ _ => false
  | .progress _ _ | .completion _ _ _ | .runTask _ | .frame _ => true

/-- A callback runs only while the plugin exists, and an event uses only members that have
    not ended. -/
def UsesLiving (sdk : BakkesMod) (s : PluginLife) : LifeEvent → Prop
  | .plugin e =>
    (e.isCallback = true → 0 < s.living) ∧ ∀ m ∈ s.plugin.uses sdk e, s.Alive m
  | _ => True

/-- Nothing is in flight, queued or registered. -/
structure Idle (s : PluginState) : Prop where
  inFlight : s.inFlight = []
  tasks : s.tasks = []
  drawables : s.drawables = 0

instance (s : PluginState) : Decidable (Idle s) :=
  decidable_of_iff (s.inFlight = [] ∧ s.tasks = [] ∧ s.drawables = 0)
    ⟨fun h => ⟨h.1, h.2.1, h.2.2⟩, fun h => ⟨h.inFlight, h.tasks, h.drawables⟩⟩

/-- Members end only while nothing is pending; and once the first of them has ended no
    request gets behind the cache test. A request is one step, so that one which is behind its
    cache test when a member ends counts as pending. -/
def EndsIdle (sdk : BakkesMod) (s : PluginLife) : LifeEvent → Prop
  | .plugin (.request replayId _ throws) =>
    (s.plugin.outcome sdk replayId throws).starts = true → s.Alive .progressTexture
  | .endMember => Idle s.plugin
  | _ => True

instance (sdk : BakkesMod) (s : PluginLife) : ∀ e, Decidable (EndsIdle sdk s e)
  | .plugin (.request _ _ _) => inferInstanceAs (Decidable (_ = true → s.Alive _))
  | .endMember => inferInstanceAs (Decidable (Idle s.plugin))
  | .plugin (.chunk _ _) | .plugin (.progress _ _) | .plugin (.completion _ _ _)
  | .plugin (.runTask _) | .plugin (.frame _) | .unload => inferInstanceAs (Decidable True)

/-- A download or a drawable has all members, a task has the base class. -/
structure LifeInvariant (s : PluginLife) : Prop where
  downloads : s.plugin.inFlight ≠ [] → s.Alive .progressTexture
  drawables : 0 < s.plugin.drawables → s.Alive .progressTexture
  tasks : s.plugin.tasks ≠ [] → s.Alive .gameWrapper

section Steps

variable {sdk : BakkesMod} {s : PluginLife}

/-- Parts constructed earlier are alive as long as later ones. -/
theorem PluginLife.Alive.mono {m m' : Member} (h : s.Alive m')
    (hle : m.position ≤ m'.position) : s.Alive m :=
  lt_of_le_of_lt hle h

/-- Every member is alive while the youngest one is. -/
theorem PluginLife.Alive.all (h : s.Alive .progressTexture) (m : Member) : s.Alive m := by
  apply h.mono
  cases m <;> decide

theorem LifeInvariant.request (h : LifeInvariant s) {replayId token : Text}
    {throws : Call → Bool} (hserver : s.Alive .wsServer)
    (hok : EndsIdle sdk s (.plugin (.request replayId token throws))) :
    LifeInvariant { s with plugin := s.plugin.next sdk (.request replayId token throws) } := by
  unfold EndsIdle at hok
  rw [next_request]
  cases houtcome : s.plugin.outcome sdk replayId throws with
  | testThrew => exact ⟨h.downloads, h.drawables, h.tasks⟩
  | cached =>
    -- the server is still there, so the base class is
    exact ⟨h.downloads, h.drawables, fun _ => hserver.mono (Nat.zero_le 3)⟩
  | startThrew =>
    have hall := hok (by rw [houtcome]; rfl)
    dsimp only
    split
    · exact ⟨h.downloads, fun _ => hall, h.tasks⟩
    · exact ⟨h.downloads, fun _ => hall, h.tasks⟩
  | started =>
    have hall := hok (by rw [houtcome]; rfl)
    exact ⟨fun _ => hall, fun _ => hall, h.tasks⟩

/-- While a download is in flight, every member is alive. -/
theorem LifeInvariant.downloading (h : LifeInvariant s) {i : ℕ}
    (hi : i < s.plugin.inFlight.length) : s.Alive .progressTexture :=
  h.downloads (List.ne_nil_of_length_pos (Nat.zero_lt_of_lt hi))

theorem LifeInvariant.completion (h : LifeInvariant s) {i : ℕ}
    (hi : i < s.plugin.inFlight.length) (code : ℤ) (throws : Call → Bool) :
    LifeInvariant { s with plugin := s.plugin.next sdk (.completion i code throws) } := by
  have hall := h.downloading hi
  exact ⟨fun _ => hall, fun _ => hall, fun _ => hall.all .gameWrapper⟩

/-- **Step lemma**: what is pending keeps the members it needs. -/
theorem LifeInvariant.next (h : LifeInvariant s) {e : LifeEvent}
    (he : (lifeMachine sdk).enabled s e) (hok : EndsIdle sdk s e) :
    LifeInvariant ((lifeMachine sdk).next s e) := by
  cases e with
  | unload => exact ⟨h.downloads, h.drawables, h.tasks⟩
  | endMember =>
    -- nothing is pending, so nothing needs the member that ends
    obtain ⟨hnone, hquiet, hclear⟩ := hok
    exact ⟨fun hne => absurd hnone hne, fun hpos => absurd hclear hpos.ne',
      fun hne => absurd hquiet hne⟩
  | plugin e =>
    obtain ⟨hg, hserver⟩ := he
    cases e with
    | request replayId token throws => exact h.request (hserver rfl) hok
    | chunk i bytes =>
      have hall := h.downloading hg
      exact ⟨fun _ => hall, fun _ => hall, fun _ => hall.all .gameWrapper⟩
    | progress i report => exact ⟨h.downloads, h.drawables, h.tasks⟩
    | completion i code throws => exact h.completion hg code throws
    | runTask k =>
      obtain ⟨t₁, path, t₂, -, hsplit, hnext⟩ := next_runTask sdk s.plugin hg
      have hbase : s.Alive .gameWrapper := h.tasks (by simp [hsplit])
      refine ⟨?_, ?_, fun _ => hbase⟩
      · show (s.plugin.next sdk (.runTask k)).inFlight ≠ [] → _
        rw [hnext]
        exact h.downloads
      · show 0 < (s.plugin.next sdk (.runTask k)).drawables → _
        rw [hnext]
        exact h.drawables
    | frame size => exact ⟨h.downloads, h.drawables, h.tasks⟩

/-- What an event uses is alive. -/
theorem LifeInvariant.usesLiving (h : LifeInvariant s) {e : LifeEvent}
    (he : (lifeMachine sdk).enabled s e) (hok : EndsIdle sdk s e) : UsesLiving sdk s e := by
  cases e with
  | unload => trivial
  | endMember => trivial
  | plugin e =>
    obtain ⟨hg, hserver⟩ := he
    cases e with
    | request replayId token throws =>
      have hup := hserver rfl
      refine ⟨by simp [PluginEvent.isCallback], List.forall_mem_append.mpr ⟨?_, ?_⟩⟩
      · intro m hm
        apply hup.mono
        revert m
        decide
      · intro m hm
        by_cases hstarts : (s.plugin.outcome sdk replayId throws).starts = true
        · exact (hok hstarts).all m
        · rw [if_neg hstarts] at hm
          cases hm
    | chunk i bytes => exact ⟨by simp [PluginEvent.isCallback], by simp [PluginState.uses]⟩
    | progress i report =>
      have hall := h.downloading hg
      exact ⟨fun _ => Nat.zero_lt_of_lt hall, fun m _ => hall.all m⟩
    | completion i code throws =>
      have hall := h.downloading hg
      exact ⟨fun _ => Nat.zero_lt_of_lt hall, fun m _ => hall.all m⟩
    | runTask k =>
      have hbase := h.tasks (List.ne_nil_of_length_pos (Nat.zero_lt_of_lt hg))
      exact ⟨fun _ => hbase, List.forall_mem_singleton.mpr hbase⟩
    | frame size =>
      have hall : s.Alive .progressTexture := h.drawables hg
      exact ⟨fun _ => Nat.zero_lt_of_lt hall, fun m _ => hall.all m⟩

end Steps

/-- **Nothing that has ended is used** in every run in which members end only while nothing is
    pending, and no request gets behind the cache test once the first of them has ended. -/
theorem usesLiving_of_endsIdle (sdk : BakkesMod) (bringWindowToFront : Bool)
    (start : Path → Option Body) {as : List LifeEvent}
    (hl : (lifeMachine sdk).Legal (.loaded bringWindowToFront start) as)
    (hok : (lifeMachine sdk).Along (EndsIdle sdk) (.loaded bringWindowToFront start) as) :
    (lifeMachine sdk).Along (UsesLiving sdk) (.loaded bringWindowToFront start) as := by
  have hloaded : LifeInvariant (.loaded bringWindowToFront start) := by
    refine ⟨?_, ?_, ?_⟩ <;> simp [PluginLife.loaded, PluginState.loaded]
  apply Machine.Legal.along (I := LifeInvariant) _ _ hloaded hl hok
  · exact fun s e h he hidle => h.next he hidle
  · exact fun s e h he hidle => h.usesLiving he hidle

/-- A whole download, then the end of the plugin; a request that arrives meanwhile is served
    from the cache, and its task runs before the next member ends. -/
theorem usesLiving_unloadedIdle :
    (lifeMachine .simple).Along (UsesLiving .simple) (.loaded true fun _ => none)
      ([.plugin (.request "ab".toList "token".toList noThrow), .plugin (.chunk 0 [1]),
        .plugin (.completion 0 200 noThrow), .plugin (.runTask 0), .unload, .endMember,
        .plugin (.request "ab".toList "token".toList noThrow), .plugin (.runTask 0)] ++
        List.replicate 6 .endMember) :=
  usesLiving_of_endsIdle .simple true (fun _ => none) (by decide +kernel) (by decide +kernel)

/-- A download that ends after the plugin has; and a message handled by the destructor of
    `ws_server_`, behind the end of `download_progress`. -/
theorem ended_members_used :
    let request := .request "ab".toList "token".toList noThrow
    let orphan := [.plugin request, .unload] ++ List.replicate 7 .endMember
    let late := [.unload, .endMember, .endMember, .endMember]
    ((lifeMachine .simple).Legal (.loaded true fun _ => none)
        (orphan ++ [.plugin (.completion 0 200 noThrow)]) ∧
      ¬ UsesLiving .simple ((lifeMachine .simple).exec (.loaded true fun _ => none) orphan)
        (.plugin (.completion 0 200 noThrow))) ∧
    (lifeMachine .simple).Legal (.loaded true fun _ => none) (late ++ [.plugin request]) ∧
      ¬ UsesLiving .simple ((lifeMachine .simple).exec (.loaded true fun _ => none) late)
        (.plugin request) := by
  refine ⟨⟨by decide +kernel, ?_⟩, by decide +kernel, ?_⟩
  · intro h
    exact absurd (h.1 rfl) (by decide +kernel)
  · intro h
    exact absurd (h.2 .downloadProgress (by decide +kernel)) (by decide +kernel)

end BallchasingReplayPlayer
