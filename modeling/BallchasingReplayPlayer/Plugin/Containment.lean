import BallchasingReplayPlayer.Plugin.Download

/-!
# Where Replays Are Stored

Every file `DownloadAndPlayReplay` touches is `save_path` joined with the trimmed id and
the extension. The id comes from a client and is read by the rules of path composition, so
it may lead out of `save_path` or name a file another id names as well.

## Main Results

- `filePath_isChildOf_iff`: which ids name a file right below `save_path`
- `filePath_eq_iff`: which of these ids name the same file
- `contained_iff`: the same for all files a run touches
-/

namespace BallchasingReplayPlayer

open LexicalPath Transition

/-! ## The Save Folder -/

theorem savePath_rootDir (sdk : BakkesMod) : (savePath sdk).rootDir = true := by
  have habs := sdk.dataFolder_absolute
  have hdata : (sdk.getDataFolder / parse "ballchasing".toList).rootDir = true := by
    rw [div_of_keeps (by decide) (Or.inl (by decide)), if_neg (by decide)]
    simp [habs]
  rw [savePath, div_of_keeps (by decide) (Or.inl (by decide)), if_neg (by decide)]
  exact Bool.or_eq_true_iff.mpr (Or.inl hdata)

theorem savePath_endsInFolder (sdk : BakkesMod) : (savePath sdk).endsInFolder = false := by
  have hnames : (parse "dl".toList).names = [] ++ ["dl".toList] := by decide
  obtain ⟨dirs, hdirs⟩ := div_names_last hnames (sdk.getDataFolder / parse "ballchasing".toList)
  rw [savePath, Path.endsInFolder, hdirs, List.getLast?_concat]
  decide

/-! ## The File of an Id -/

/-- The path an id is read as. -/
def idPath (sdk : BakkesMod) (replayId : Text) : Path :=
  parse (sdk.trim replayId ++ replayExtension)

/-- The id names a file, and its folders lead back to `save_path`. -/
def NamesChild (sdk : BakkesMod) (replayId : Text) : Prop :=
  (idPath sdk replayId).names ≠ [] ∧ (idPath sdk replayId).LeadsBackTo (savePath sdk)

instance (sdk : BakkesMod) (replayId : Text) : Decidable (NamesChild sdk replayId) :=
  inferInstanceAs (Decidable (_ ∧ _))

/-- The last file name of an id, with its extension. -/
def fileName (sdk : BakkesMod) (replayId : Text) : Option Text :=
  (idPath sdk replayId).names.getLast?

/-- A name with the extension is no dot segment. -/
theorem realName_append_replayExtension (name : Text) : RealName (name ++ replayExtension) := by
  have hext : replayExtension.length = 7 := by decide
  have hlength : 7 ≤ (name ++ replayExtension).length := by
    rw [List.length_append, hext]
    omega
  refine ⟨?_, ?_, ?_⟩
  · intro heq
    rw [heq] at hlength
    exact absurd hlength (by decide)
  · intro heq
    rw [heq] at hlength
    exact absurd hlength (by decide)
  · intro heq
    rw [heq] at hlength
    exact absurd hlength (by decide)

/-- The extension holds no separator. -/
theorem not_isSep_of_mem_replayExtension : ∀ c ∈ replayExtension, isSep c = false := by
  have hall : replayExtension.all (fun c => !isSep c) = true := by decide
  intro c hc
  have hsep := List.all_eq_true.mp hall c hc
  simpa using hsep

/-- An id is one server name, or it names a file below some folders. -/
theorem idPath_cases (sdk : BakkesMod) (replayId : Text) :
    (∃ dirs name, (idPath sdk replayId).names = dirs ++ [name] ∧ RealName name) ∨
      ((idPath sdk replayId).names = [] ∧ (idPath sdk replayId).isAbsolute = true) := by
  have hparse := @parse_append_names replayExtension (by decide)
    not_isSep_of_mem_replayExtension (by decide) (sdk.trim replayId)
  rcases hparse with ⟨dirs, name, hnames⟩ | ⟨hnames, -, habs⟩
  · exact Or.inl ⟨dirs, name ++ replayExtension, hnames, realName_append_replayExtension name⟩
  · exact Or.inr ⟨hnames, habs⟩

theorem filePath_eq (sdk : BakkesMod) (replayId : Text) :
    filePath sdk replayId = savePath sdk / idPath sdk replayId := rfl

/-- **Containment**: the file of an id is a direct child of `save_path` iff the id names a
    file and its folders lead back to `save_path`. -/
theorem filePath_isChildOf_iff (sdk : BakkesMod) (replayId : Text) :
    (filePath sdk replayId).lexicallyNormal.IsChildOf (savePath sdk).lexicallyNormal ↔
      NamesChild sdk replayId := by
  rcases idPath_cases sdk replayId with ⟨dirs, name, hnames, hreal⟩ | ⟨hnames, habs⟩
  · rw [filePath_eq,
      div_isChildOf_iff (savePath_rootDir sdk) (savePath_endsInFolder sdk) hnames hreal]
    have hne : (idPath sdk replayId).names ≠ [] := by simp [hnames]
    exact ⟨fun hback => ⟨hne, hback⟩, fun h => h.2⟩
  · -- a server name replaces `save_path` and has no child
    constructor
    · intro hchild
      rw [filePath_eq, div_of_replaces (Or.inl habs)] at hchild
      refine absurd hchild (not_isChildOf_of_no_names ?_)
      simp [Path.lexicallyNormal, hnames, Path.endsInFolder]
    · intro h
      exact absurd hnames h.1

/-- Two ids that name children of `save_path` name the same file iff their last file names
    agree. -/
theorem filePath_eq_iff {sdk : BakkesMod} {a b : Text} (ha : NamesChild sdk a)
    (hb : NamesChild sdk b) :
    (filePath sdk a).lexicallyNormal = (filePath sdk b).lexicallyNormal ↔
      fileName sdk a = fileName sdk b := by
  obtain ⟨dirsA, nameA, hnamesA, hrealA⟩ :=
    (idPath_cases sdk a).resolve_right fun h => ha.1 h.1
  obtain ⟨dirsB, nameB, hnamesB, hrealB⟩ :=
    (idPath_cases sdk b).resolve_right fun h => hb.1 h.1
  rw [filePath_eq, filePath_eq, fileName, fileName, hnamesA, hnamesB, List.getLast?_concat,
    List.getLast?_concat,
    div_lexicallyNormal_of_leadsBackTo (savePath_rootDir sdk) (savePath_endsInFolder sdk)
      hnamesA hrealA ha.2,
    div_lexicallyNormal_of_leadsBackTo (savePath_rootDir sdk) (savePath_endsInFolder sdk)
      hnamesB hrealB hb.2]
  -- both files are `save_path` with one more name
  constructor
  · intro hfile
    have hnames : _ ++ [nameA] = _ ++ [nameB] := congrArg Path.names hfile
    exact congrArg List.head? (List.append_cancel_left hnames)
  · intro hname
    rw [Option.some.inj hname]

/-! ## The Files a Run Touches -/

/-- The ids a run requests. -/
def requestedIds (as : List PluginEvent) : List Text :=
  as.filterMap fun
    | .request replayId _ _ => some replayId
    | _ => none

/-- Every file touched so far, in flight or queued is the file of one of the ids. -/
structure Touches (sdk : BakkesMod) (ids : List Text) (s : PluginState) : Prop where
  effects : ∀ effect ∈ s.fileEffects, effect.path ∈ ids.map (filePath sdk)
  downloads : ∀ d ∈ s.inFlight, d.filePath ∈ ids.map (filePath sdk)
  queued : ∀ path ∈ s.tasks, path ∈ ids.map (filePath sdk)

/-- A step requests one of the ids, or nothing. -/
def RequestsOnly (ids : List Text) (_ : PluginState) : PluginEvent → Prop
  | .request replayId _ _ => replayId ∈ ids
  | _ => True

theorem along_requestsOnly (sdk : BakkesMod) {ids : List Text} {as : List PluginEvent}
    (h : requestedIds as ⊆ ids) (s : PluginState) :
    (pluginMachine sdk).Along (RequestsOnly ids) s as := by
  induction as generalizing s with
  | nil => trivial
  | cons e as ih =>
    have hrest : requestedIds as ⊆ ids := by
      intro id hid
      apply h
      rw [requestedIds, List.filterMap_cons]
      split
      · exact hid
      · exact List.mem_cons_of_mem _ hid
    refine ⟨?_, ih hrest _⟩
    cases e with
    | request replayId token throws => exact h (List.mem_cons_self ..)
    | _ => trivial

section Steps

variable {sdk : BakkesMod} {ids : List Text} {s : PluginState}

theorem Touches.request (h : Touches sdk ids s) {replayId token : Text} {throws : Call → Bool}
    (hid : replayId ∈ ids) : Touches sdk ids (s.next sdk (.request replayId token throws)) := by
  have hpath : filePath sdk replayId ∈ ids.map (filePath sdk) := List.mem_map_of_mem hid
  have htest : ∀ effect ∈ s.fileEffects ++ [FileEffect.test (filePath sdk replayId)],
      effect.path ∈ ids.map (filePath sdk) :=
    List.forall_mem_append.mpr ⟨h.effects, List.forall_mem_singleton.mpr hpath⟩
  have hdownload : ∀ effect ∈ (s.fileEffects ++ [FileEffect.test (filePath sdk replayId)]) ++
      [FileEffect.download (filePath sdk replayId)], effect.path ∈ ids.map (filePath sdk) :=
    List.forall_mem_append.mpr ⟨htest, List.forall_mem_singleton.mpr hpath⟩
  rw [next_request]
  cases s.outcome sdk replayId throws with
  | testThrew => exact ⟨htest, h.downloads, h.queued⟩
  | cached =>
    exact ⟨htest, h.downloads,
      List.forall_mem_append.mpr ⟨h.queued, List.forall_mem_singleton.mpr hpath⟩⟩
  | startThrew =>
    dsimp only
    split
    · exact ⟨htest, h.downloads, h.queued⟩
    · exact ⟨hdownload, h.downloads, h.queued⟩
  | started =>
    exact ⟨hdownload,
      List.forall_mem_append.mpr ⟨h.downloads, List.forall_mem_singleton.mpr hpath⟩, h.queued⟩

/-- **Step lemma**: what is touched next is the file of a requested id. -/
theorem Touches.next (h : Touches sdk ids s) {e : PluginEvent} (he : s.enabled e)
    (hok : RequestsOnly ids s e) : Touches sdk ids (s.next sdk e) := by
  have hdownloads : ∀ d ∈ (s.next sdk e).inFlight, d.filePath ∈ ids.map (filePath sdk) := by
    apply forall_inFlight_next (fun d _ hd => hd) h.downloads he
    rintro replayId token throws rfl
    exact List.mem_map_of_mem hok
  cases e with
  | request replayId token throws => exact h.request hok
  | chunk i bytes =>
    obtain ⟨l₁, d, l₂, -, -, hnext⟩ := next_chunk sdk s he bytes
    rw [hnext] at hdownloads ⊢
    exact ⟨h.effects, hdownloads, h.queued⟩
  | progress i report => exact ⟨h.effects, h.downloads, h.queued⟩
  | completion i code throws =>
    obtain ⟨l₁, d, l₂, -, hsplit, hnext⟩ := next_completion sdk s he code throws
    have hd := h.downloads d (by simp [hsplit])
    rw [hnext] at hdownloads ⊢
    dsimp only at hdownloads ⊢
    by_cases hcode : code = 200
    · rw [if_pos hcode] at hdownloads ⊢
      exact ⟨h.effects, hdownloads,
        List.forall_mem_append.mpr ⟨h.queued, List.forall_mem_singleton.mpr hd⟩⟩
    · rw [if_neg hcode] at hdownloads ⊢
      exact ⟨List.forall_mem_append.mpr ⟨h.effects, List.forall_mem_singleton.mpr hd⟩,
        hdownloads, h.queued⟩
  | runTask k =>
    obtain ⟨t₁, path, t₂, -, hsplit, hnext⟩ := next_runTask sdk s he
    have hqueued := h.queued
    rw [hsplit, List.forall_mem_append, List.forall_mem_cons] at hqueued
    obtain ⟨ht₁, hpath, ht₂⟩ := hqueued
    rw [hnext]
    exact ⟨List.forall_mem_append.mpr ⟨h.effects, List.forall_mem_singleton.mpr hpath⟩,
      h.downloads, List.forall_mem_append.mpr ⟨ht₁, ht₂⟩⟩
  | frame size => exact ⟨h.effects, h.downloads, h.queued⟩

/-- What has been touched stays recorded. -/
theorem fileEffects_next (sdk : BakkesMod) {e : PluginEvent} (he : s.enabled e) :
    s.fileEffects <+: (s.next sdk e).fileEffects := by
  cases e with
  | request replayId token throws =>
    rw [next_request]
    cases s.outcome sdk replayId throws with
    | testThrew => exact List.prefix_append ..
    | cached => exact List.prefix_append ..
    | startThrew =>
      dsimp only
      split
      · exact List.prefix_append ..
      · exact (List.prefix_append ..).trans (List.prefix_append ..)
    | started => exact (List.prefix_append ..).trans (List.prefix_append ..)
  | chunk i bytes =>
    obtain ⟨l₁, d, l₂, -, -, hnext⟩ := next_chunk sdk s he bytes
    rw [hnext]
  | progress i report => exact List.prefix_rfl
  | completion i code throws =>
    obtain ⟨l₁, d, l₂, -, -, hnext⟩ := next_completion sdk s he code throws
    rw [hnext]
    dsimp only
    split
    · exact List.prefix_rfl
    · exact List.prefix_append ..
  | runTask k =>
    obtain ⟨t₁, path, t₂, -, -, hnext⟩ := next_runTask sdk s he
    rw [hnext]
    exact List.prefix_append ..
  | frame size => exact List.prefix_rfl

/-- Every request begins with a test of its file. -/
theorem test_mem_fileEffects_next (sdk : BakkesMod) (s : PluginState) (replayId token : Text)
    (throws : Call → Bool) :
    .test (filePath sdk replayId) ∈
      (s.next sdk (.request replayId token throws)).fileEffects := by
  rw [next_request]
  cases s.outcome sdk replayId throws with
  | startThrew =>
    dsimp only
    split <;> simp [PluginState.announced, PluginState.ordered, PluginState.asked]
  | _ =>
    simp [PluginState.announced, PluginState.ordered, PluginState.asked, PluginState.queued,
      PluginState.downloading]

end Steps

/-- The file of every requested id is touched in the run. -/
theorem test_mem_fileEffects_exec (sdk : BakkesMod) {s : PluginState} {as : List PluginEvent}
    (hl : (pluginMachine sdk).Legal s as) :
    s.fileEffects <+: ((pluginMachine sdk).exec s as).fileEffects ∧
      ∀ replayId ∈ requestedIds as,
        .test (filePath sdk replayId) ∈ ((pluginMachine sdk).exec s as).fileEffects := by
  induction as generalizing s with
  | nil => exact ⟨List.prefix_rfl, by simp [requestedIds]⟩
  | cons e as ih =>
    obtain ⟨he, hrest⟩ := hl
    obtain ⟨hkept, htested⟩ := ih hrest
    refine ⟨(fileEffects_next sdk he).trans hkept, ?_⟩
    intro replayId hid
    rw [requestedIds, List.filterMap_cons] at hid
    cases e with
    | request replayId' token throws =>
      rcases List.mem_cons.mp hid with rfl | hid
      · exact hkept.subset (test_mem_fileEffects_next sdk s replayId token throws)
      · exact htested replayId hid
    | _ => exact htested replayId hid

/-- A run that ended in `s` touched direct children of `save_path` only, and its ids keep to
    files of their own. -/
structure Contained (sdk : BakkesMod) (as : List PluginEvent) (s : PluginState) : Prop where
  inside : ∀ effect ∈ s.fileEffects,
    effect.path.lexicallyNormal.IsChildOf (savePath sdk).lexicallyNormal
  apart : ∀ a ∈ requestedIds as, ∀ b ∈ requestedIds as, sdk.trim a ≠ sdk.trim b →
    (filePath sdk a).lexicallyNormal ≠ (filePath sdk b).lexicallyNormal

/-- The ids all name children of `save_path`, and different trimmed ids different names. -/
structure WellNamed (sdk : BakkesMod) (ids : List Text) : Prop where
  child : ∀ a ∈ ids, NamesChild sdk a
  apart : ∀ a ∈ ids, ∀ b ∈ ids, sdk.trim a ≠ sdk.trim b → fileName sdk a ≠ fileName sdk b

/-- **A run stays below `save_path`, with a file for each trimmed id**, iff its ids are well
    named. -/
theorem contained_iff (sdk : BakkesMod) (bringWindowToFront : Bool)
    (start : Path → Option Body) {as : List PluginEvent}
    (hl : (pluginMachine sdk).Legal (.loaded bringWindowToFront start) as) :
    Contained sdk as ((pluginMachine sdk).exec (.loaded bringWindowToFront start) as) ↔
      WellNamed sdk (requestedIds as) := by
  have hloaded : Touches sdk (requestedIds as) (.loaded bringWindowToFront start) := by
    constructor <;> simp [PluginState.loaded]
  have htouches : Touches sdk (requestedIds as)
      ((pluginMachine sdk).exec (.loaded bringWindowToFront start) as) :=
    Machine.Legal.invariant (fun s e h he hok => h.next he hok) hloaded hl
      (along_requestsOnly sdk (List.Subset.refl _) _)
  constructor
  · -- every requested id leaves the test of its file in the record
    intro h
    have hchild : ∀ a ∈ requestedIds as, NamesChild sdk a := by
      intro a ha
      have htest := (test_mem_fileEffects_exec sdk hl).2 a ha
      exact (filePath_isChildOf_iff sdk a).mp (h.inside _ htest)
    refine ⟨hchild, ?_⟩
    intro a ha b hb hne hname
    exact h.apart a ha b hb hne ((filePath_eq_iff (hchild a ha) (hchild b hb)).mpr hname)
  · -- and nothing is recorded but files of requested ids
    intro h
    refine ⟨?_, ?_⟩
    · intro effect heffect
      obtain ⟨a, ha, hpath⟩ := List.mem_map.mp (htouches.effects effect heffect)
      rw [← hpath]
      exact (filePath_isChildOf_iff sdk a).mpr (h.child a ha)
    · intro a ha b hb hne hfile
      exact h.apart a ha b hb hne ((filePath_eq_iff (h.child a ha) (h.child b hb)).mp hfile)

theorem contained_plainIds :
    let run := [.request "ab".toList "token".toList noThrow, .chunk 0 [1],
      .request " cd".toList "token".toList noThrow, .completion 0 404 noThrow]
    Contained .simple run ((pluginMachine .simple).exec (.loaded true fun _ => none) run) :=
  (contained_iff .simple true (fun _ => none) (by decide)).mpr ⟨by decide, by decide⟩

/-- `../x` leaves `save_path`, and `./ab` is downloaded to the file of `ab`. -/
theorem escaping_and_shared_files :
    let run := [.request "../x".toList "token".toList noThrow]
    (pluginMachine .simple).Legal (.loaded true fun _ => none) run ∧
      (∃ effect ∈ ((pluginMachine .simple).exec (.loaded true fun _ => none) run).fileEffects,
        ¬ effect.path.lexicallyNormal.IsChildOf (savePath .simple).lexicallyNormal) ∧
      BakkesMod.simple.trim "ab".toList ≠ BakkesMod.simple.trim "./ab".toList ∧
      (filePath .simple "ab".toList).lexicallyNormal =
        (filePath .simple "./ab".toList).lexicallyNormal := by
  refine ⟨by decide, ⟨.download (filePath .simple "../x".toList), by decide, ?_⟩, by decide,
    by decide⟩
  intro h
  have hchild := (filePath_isChildOf_iff .simple "../x".toList).mp h
  exact absurd hchild (by decide)

end BallchasingReplayPlayer
