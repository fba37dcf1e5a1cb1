import BallchasingReplayPlayer.Plugin.DownloadUrl
import BallchasingReplayPlayer.Server.System

/-!
# Ordinary Replay Ids

Ids and tokens come from websocket clients and are pasted into a path and a URL. For ids that
a URL may hold unescaped and that have no colon, both stand for the replay they name, whatever
the clients do besides. Files are compared as lexical paths, letter by letter: a file system that
makes no difference between `ab` and `AB` is not modelled.

## Layers

1. `PlainCommand` — the download commands that need no escapes
2. `filePath_isChildOf_of_plain`, `filePath_injective_of_plain` — the files of such ids

## Main Result

- `plainIds_of_system`: the files and the downloads of a program that is asked for such ids
-/

namespace BallchasingReplayPlayer

open LexicalPath Transition

/-! ## Files of Plain Ids -/

/-- The id and the token of a download command can be pasted into a URL, and the id has no
    colon. -/
def PlainCommand (sdk : BakkesMod) (command : Text × Text) : Prop :=
  UrlSafe sdk command.1 command.2 ∧ ':' ∉ sdk.trim command.1

instance (sdk : BakkesMod) (command : Text × Text) : Decidable (PlainCommand sdk command) :=
  inferInstanceAs (Decidable (_ ∧ _))

/-- A segment of a URL has no separators of a path. -/
theorem not_isSep_of_isSegmentChar {c : Char} (h : Url.isSegmentChar c = true) :
    isSep c = false := by
  cases hsep : isSep c with
  | false => rfl
  | true =>
    have hc : c = '/' ∨ c = '\\' := by simpa [isSep] using hsep
    rcases hc with rfl | rfl
    · revert h
      decide
    · revert h
      decide

section

variable {sdk : BakkesMod} {command : Text × Text}

theorem idPath_of_plain (h : PlainCommand sdk command) :
    idPath sdk command.1 =
      { rootName := [], rootDir := false, names := [sdk.trim command.1 ++ replayExtension] } := by
  obtain ⟨⟨⟨hsegment, -, -⟩, -⟩, hcolon⟩ := h
  apply parse_of_plain
  · exact List.append_ne_nil_of_right_ne_nil _ (by decide)
  · intro c hc
    rcases List.mem_append.mp hc with hid | hext
    · exact not_isSep_of_isSegmentChar (List.all_eq_true.mp hsegment c hid)
    · exact not_isSep_of_mem_replayExtension c hext
  · rw [List.mem_append, not_or]
    exact ⟨hcolon, by decide⟩

theorem namesChild_of_plain (h : PlainCommand sdk command) : NamesChild sdk command.1 := by
  unfold NamesChild
  rw [idPath_of_plain h]
  exact ⟨List.cons_ne_nil _ _, rfl, Or.inl rfl, rfl⟩

/-- The file of a plain id is in the cache folder. -/
theorem filePath_isChildOf_of_plain (h : PlainCommand sdk command) :
    (filePath sdk command.1).lexicallyNormal.IsChildOf (savePath sdk).lexicallyNormal :=
  (filePath_isChildOf_iff sdk command.1).mpr (namesChild_of_plain h)

/-- Different plain ids have different files. -/
theorem filePath_injective_of_plain {command' : Text × Text} (h : PlainCommand sdk command)
    (h' : PlainCommand sdk command')
    (hfile : (filePath sdk command.1).lexicallyNormal =
      (filePath sdk command'.1).lexicallyNormal) :
    sdk.trim command.1 = sdk.trim command'.1 := by
  have hnames := (filePath_eq_iff (namesChild_of_plain h) (namesChild_of_plain h')).mp hfile
  unfold fileName at hnames
  rw [idPath_of_plain h, idPath_of_plain h'] at hnames
  exact List.append_cancel_right (Option.some.inj hnames)

/-! ## Runs -/

theorem requestedIds_eq (as : List PluginEvent) :
    requestedIds as = (as.filterMap PluginEvent.request?).map Prod.fst := by
  induction as with
  | nil => rfl
  | cons e as ih =>
    cases e with
    | request replayId token throws => exact congrArg (replayId :: ·) ih
    | _ => exact ih

/-- A run of plain requests touches children of the cache folder only. -/
theorem inside_of_plain (sdk : BakkesMod) (bringWindowToFront : Bool)
    (start : Path → Option Body) {as : List PluginEvent}
    (hl : (pluginMachine sdk).Legal (.loaded bringWindowToFront start) as)
    (hplain : ∀ command ∈ as.filterMap PluginEvent.request?, PlainCommand sdk command) :
    ∀ effect ∈ ((pluginMachine sdk).exec (.loaded bringWindowToFront start) as).fileEffects,
      effect.path.lexicallyNormal.IsChildOf (savePath sdk).lexicallyNormal := by
  have hloaded : Touches sdk (requestedIds as) (.loaded bringWindowToFront start) :=
    ⟨List.forall_mem_nil _, List.forall_mem_nil _, List.forall_mem_nil _⟩
  have htouches : Touches sdk (requestedIds as)
      ((pluginMachine sdk).exec (.loaded bringWindowToFront start) as) :=
    Machine.Legal.invariant (fun s e h he hok => h.next he hok) hloaded hl
      (along_requestsOnly sdk (List.Subset.refl _) _)
  intro effect heffect
  obtain ⟨a, ha, hpath⟩ := List.mem_map.mp (htouches.effects effect heffect)
  rw [requestedIds_eq] at ha
  obtain ⟨command, hcommand, rfl⟩ := List.mem_map.mp ha
  rw [← hpath]
  exact filePath_isChildOf_of_plain (hplain command hcommand)

/-- Its downloads ask for the replays they are stored as. -/
theorem fetches_of_plain (sdk : BakkesMod) (bringWindowToFront : Bool)
    (start : Path → Option Body) {as : List PluginEvent}
    (hl : (pluginMachine sdk).Legal (.loaded bringWindowToFront start) as)
    (hplain : ∀ command ∈ as.filterMap PluginEvent.request?, PlainCommand sdk command) :
    ∀ d ∈ ((pluginMachine sdk).exec (.loaded bringWindowToFront start) as).inFlight,
      d.FetchesItsReplay ∧ d.filePath = replayPath sdk d.replayId := by
  have hreadable : ∀ e ∈ as, ∀ s, RequestsReadably sdk s e := by
    intro e he s
    cases e with
    | request replayId token throws =>
      have hmem : (replayId, token) ∈ as.filterMap PluginEvent.request? :=
        List.mem_filterMap.mpr ⟨_, he, rfl⟩
      exact (hplain _ hmem).1
    | _ => trivial
  exact (fetchesItsReplay_of_run sdk bringWindowToFront start hl
    (Machine.along_of_mem hreadable _)).last

end

/-- **Ordinary ids in the whole program**: as long as the download commands of the messages handled
    are plain, whatever the threads and the clients do, every file the plugin tests, downloads
    to, plays or removes is in the cache folder, commands for different ids are about different
    files, compared as lexical paths, and every download in flight asks the server for the replay
    it is stored as. -/
theorem plainIds_of_system (sdk : BakkesMod) (bringWindowToFront : Bool)
    (start : Path → Option Body) {as : List PluginServerEvent}
    (hl : (serverMachine (pluginService sdk)).Legal (loadedServer bringWindowToFront start) as)
    (hplain : ∀ command ∈ commandsOf sdk ((serverMachine (pluginService sdk)).exec
      (loadedServer bringWindowToFront start) as).handled, PlainCommand sdk command) :
    let server := (serverMachine (pluginService sdk)).exec (loadedServer bringWindowToFront start)
      as
    (∀ effect ∈ server.app.fileEffects,
      effect.path.lexicallyNormal.IsChildOf (savePath sdk).lexicallyNormal) ∧
    (∀ command ∈ commandsOf sdk server.handled, ∀ command' ∈ commandsOf sdk server.handled,
      (filePath sdk command.1).lexicallyNormal = (filePath sdk command'.1).lexicallyNormal →
        sdk.trim command.1 = sdk.trim command'.1) ∧
    ∀ d ∈ server.app.inFlight, d.FetchesItsReplay ∧ d.filePath = replayPath sdk d.replayId := by
  intro server
  have hlegal := legal_pluginRun sdk bringWindowToFront start hl
  have hexec := exec_pluginRun sdk bringWindowToFront start hl
  -- the requests of the plugin's run are commands of messages handled
  have hrequests : ∀ command ∈ (pluginRun sdk (loadedServer bringWindowToFront start)
      as).filterMap PluginEvent.request?, PlainCommand sdk command := fun command hcommand =>
    hplain command ((requests_pluginRun sdk bringWindowToFront start hl).1.subset hcommand)
  have hinside := inside_of_plain sdk bringWindowToFront start hlegal hrequests
  have hfetches := fetches_of_plain sdk bringWindowToFront start hlegal hrequests
  rw [hexec] at hinside hfetches
  refine ⟨hinside, ?_, hfetches⟩
  intro command hcommand command' hcommand' hfile
  exact filePath_injective_of_plain (hplain command hcommand) (hplain command' hcommand') hfile

theorem plainIds_of_system_twoClients :
    let server := (serverMachine (pluginService .simple)).exec (loadedServer true fun _ => none)
      twoClients
    (∀ effect ∈ server.app.fileEffects,
      effect.path.lexicallyNormal.IsChildOf (savePath .simple).lexicallyNormal) ∧
    (∀ command ∈ commandsOf .simple server.handled, ∀ command' ∈ commandsOf .simple server.handled,
      (filePath .simple command.1).lexicallyNormal =
        (filePath .simple command'.1).lexicallyNormal →
        BakkesMod.simple.trim command.1 = BakkesMod.simple.trim command'.1) ∧
    ∀ d ∈ server.app.inFlight, d.FetchesItsReplay ∧ d.filePath = replayPath .simple d.replayId :=
  plainIds_of_system .simple true (fun _ => none) (by decide +kernel) (by decide +kernel)

end BallchasingReplayPlayer
