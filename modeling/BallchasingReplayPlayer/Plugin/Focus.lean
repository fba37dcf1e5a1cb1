import BallchasingReplayPlayer.Plugin.Download

/-!
# Bringing the Game to the Front

`GameWindowFocuser::MoveGameToFront` walks the top-level windows of the system, keeps those of
its own process and restores the first one with the title of the game.

## Layers

1. `Desktop` — what the window functions of the system answer
2. `GameWindowFocuser.moveGameToFront` — the callback, the buffer for a title, the loop
3. `focusMachine` — the plugin on a desktop, with a setting the user may change

## Main Results

- `GameWindowFocuser.moveGameToFront_eq`: the windows it touches
- `windowCalls_of_run`: the same for every run of the plugin
-/

namespace BallchasingReplayPlayer

open LexicalPath Transition

/-! ## The Window System -/

/-- A window handle. -/
abbrev Hwnd := ℕ

/-- What the system answers: the top-level windows in the order `EnumWindows` comes to them, the
    process of each, the length `GetWindowTextLength` gives and the text `GetWindowText` has. The
    text may have changed in between, so the length need not be that of the text. -/
structure Desktop where
  topLevelWindows : List Hwnd
  enumWindowsFails : Bool
  currentProcessId : ℕ
  windowProcessId : Hwnd → ℕ
  windowTextLength : Hwnd → ℕ
  windowText : Hwnd → Text

/-- `::EnumWindows`: the callback is called until it returns `FALSE`. -/
def Desktop.enumWindows {σ : Type} (desktop : Desktop) (callback : Hwnd → σ → σ × Bool) :
    List Hwnd → σ → σ × Bool
  | [], args => (args, !desktop.enumWindowsFails)
  | hnd :: hnds, args =>
    match callback hnd args with
    | (args', true) => desktop.enumWindows callback hnds args'
    | (args', false) => (args', false)

/-- `GetWindowText` into a buffer of zeros: at most `bufferSize - 1` characters, and a zero behind
    them. -/
def Desktop.getWindowText (desktop : Desktop) (hnd : Hwnd) (bufferSize : ℕ) : Text :=
  let copied := (desktop.windowText hnd).take (bufferSize - 1)
  copied ++ List.replicate (bufferSize - copied.length) '\x00'

/-- What the code does to a window. -/
inductive WindowCall where
  | setForegroundWindow (hnd : Hwnd)
  | showWindowRestore (hnd : Hwnd)
deriving DecidableEq, Repr

/-- `std::wstring::find`: the first position the text is found at. -/
def find (title text : Text) : Option ℕ :=
  (List.range (title.length + 1)).find? fun i => text.isPrefixOf (title.drop i)

/-! ## The Code -/

namespace GameWindowFocuser

/-- `EnumWindowsCallbackArgs`. -/
structure EnumWindowsCallbackArgs where
  pid : ℕ
  handles : List Hwnd

/-- `EnumWindowsCallback`: it always asks for the next window. -/
def enumWindowsCallback (desktop : Desktop) (hnd : Hwnd) (args : EnumWindowsCallbackArgs) :
    EnumWindowsCallbackArgs × Bool :=
  if desktop.windowProcessId hnd = args.pid then
    ({ args with handles := args.handles ++ [hnd] }, true)
  else (args, true)

def getToplevelWindows (desktop : Desktop) : List Hwnd :=
  match desktop.enumWindows (enumWindowsCallback desktop) desktop.topLevelWindows
    ⟨desktop.currentProcessId, []⟩ with
  | (_, false) => []
  | (args, true) => args.handles

/-- The title of the game's window. -/
def gameTitle : Text := "Rocket League (64-bit, DX11, Cooked)".toList

/-- The title as it is read, the rest of the buffer included. -/
def title (desktop : Desktop) (hnd : Hwnd) : Text :=
  desktop.getWindowText hnd (1 + desktop.windowTextLength hnd)

/-- The loop of `MoveGameToFront` over the windows of the process. -/
def moveToFrontLoop (desktop : Desktop) : List Hwnd → List WindowCall
  | [] => []
  | hnd :: hnds =>
    if (find (title desktop hnd) gameTitle).isSome then
      -- `break`
      [.setForegroundWindow hnd, .showWindowRestore hnd]
    else moveToFrontLoop desktop hnds

def moveGameToFront (desktop : Desktop) : List WindowCall :=
  moveToFrontLoop desktop (getToplevelWindows desktop)

/-! ## The Window It Finds -/

/-- The windows of the own process are collected in their order. -/
theorem enumWindows_callback (desktop : Desktop) (hnds : List Hwnd)
    (args : EnumWindowsCallbackArgs) :
    desktop.enumWindows (enumWindowsCallback desktop) hnds args =
      ({ args with
          handles := args.handles ++ hnds.filter (desktop.windowProcessId · = args.pid) },
        !desktop.enumWindowsFails) := by
  induction hnds generalizing args with
  | nil => simp [Desktop.enumWindows]
  | cons hnd hnds ih =>
    unfold Desktop.enumWindows
    by_cases hpid : desktop.windowProcessId hnd = args.pid
    · have hcall : enumWindowsCallback desktop hnd args =
          ({ args with handles := args.handles ++ [hnd] }, true) := if_pos hpid
      rw [hcall]
      dsimp only
      rw [ih]
      simp [hpid]
    · have hcall : enumWindowsCallback desktop hnd args = (args, true) := if_neg hpid
      rw [hcall]
      dsimp only
      rw [ih]
      simp [hpid]

theorem getToplevelWindows_eq (desktop : Desktop) :
    getToplevelWindows desktop =
      if desktop.enumWindowsFails then []
      else desktop.topLevelWindows.filter
        (desktop.windowProcessId · = desktop.currentProcessId) := by
  unfold getToplevelWindows
  rw [enumWindows_callback]
  cases desktop.enumWindowsFails with
  | true => rfl
  | false => simp

/-- A text is found iff it stands somewhere in the title. -/
theorem find_isSome_iff (title text : Text) :
    (find title text).isSome = true ↔ text <:+: title := by
  unfold find
  rw [List.find?_isSome]
  constructor
  · rintro ⟨i, -, hprefix⟩
    have hinside := (List.isPrefixOf_iff_prefix.mp hprefix).isInfix
    exact hinside.trans (List.drop_suffix i title).isInfix
  · rintro ⟨before, behind, rfl⟩
    refine ⟨before.length, ?_, ?_⟩
    · rw [List.mem_range]
      simp only [List.length_append]
      omega
    · rw [List.isPrefixOf_iff_prefix, List.append_assoc, List.drop_left]
      exact List.prefix_append text behind

/-- What is found is not found in the zeros behind the text. -/
theorem infix_append_zeros_iff {text title : Text} {zero : Char} (hzero : zero ∉ text) (n : ℕ) :
    text <:+: title ++ List.replicate n zero ↔ text <:+: title := by
  have hnil : ∀ {l : Text}, (∀ c ∈ l, c ∈ text) → l <:+: List.replicate n zero → l = [] := by
    intro l hmem hinside
    apply List.eq_nil_iff_forall_not_mem.mpr
    intro c hc
    obtain rfl := List.eq_of_mem_replicate (hinside.subset hc)
    exact hzero (hmem c hc)
  constructor
  · intro h
    rcases List.infix_append_iff.mp h with hleft | hright | ⟨l₁, l₂, rfl, hl₁, hl₂⟩
    · exact hleft
    · rw [hnil (fun c hc => hc) hright]
      exact List.nil_infix
    · have hempty := hnil (fun c hc => List.mem_append_right l₁ hc) hl₂.isInfix
      rw [hempty, List.append_nil]
      exact hl₁.isInfix
  · exact List.infix_append_of_infix_left

/-- A window of the own process whose title, as far as it is read, holds the title of the
    game. -/
def IsGameWindow (desktop : Desktop) (hnd : Hwnd) : Prop :=
  desktop.windowProcessId hnd = desktop.currentProcessId ∧
    gameTitle <:+: (desktop.windowText hnd).take (desktop.windowTextLength hnd)

instance (desktop : Desktop) (hnd : Hwnd) : Decidable (IsGameWindow desktop hnd) :=
  inferInstanceAs (Decidable (_ ∧ _))

/-- The first game window the system comes to. -/
def gameWindow (desktop : Desktop) : Option Hwnd :=
  if desktop.enumWindowsFails then none
  else desktop.topLevelWindows.find? (IsGameWindow desktop ·)

/-- A window is restored in the foreground. -/
def bringForward (hnd : Hwnd) : List WindowCall :=
  [.setForegroundWindow hnd, .showWindowRestore hnd]

theorem find_gameTitle_iff (desktop : Desktop) (hnd : Hwnd) :
    (find (title desktop hnd) gameTitle).isSome = true ↔
      gameTitle <:+: (desktop.windowText hnd).take (desktop.windowTextLength hnd) := by
  rw [find_isSome_iff]
  unfold title Desktop.getWindowText
  rw [Nat.add_sub_cancel_left]
  exact infix_append_zeros_iff (by decide) _

/-- The loop stops at the first window with the title. -/
theorem moveToFrontLoop_eq (desktop : Desktop) (hnds : List Hwnd)
    (hown : ∀ hnd ∈ hnds, desktop.windowProcessId hnd = desktop.currentProcessId) :
    moveToFrontLoop desktop hnds =
      ((hnds.find? (IsGameWindow desktop ·)).map bringForward).getD [] := by
  induction hnds with
  | nil => rfl
  | cons hnd hnds ih =>
    rw [List.forall_mem_cons] at hown
    have htitle := find_gameTitle_iff desktop hnd
    unfold moveToFrontLoop
    by_cases hfound : (find (title desktop hnd) gameTitle).isSome = true
    · have hgame : IsGameWindow desktop hnd := ⟨hown.1, htitle.mp hfound⟩
      rw [if_pos hfound, List.find?_cons_of_pos (by simpa using hgame)]
      rfl
    · have hother : ¬ IsGameWindow desktop hnd := fun hgame => hfound (htitle.mpr hgame.2)
      rw [if_neg hfound, List.find?_cons_of_neg (by simpa using hother)]
      exact ih hown.2

/-- **The window it finds**: the first game window is brought to the front, and no other window is
    touched. -/
theorem moveGameToFront_eq (desktop : Desktop) :
    moveGameToFront desktop = ((gameWindow desktop).map bringForward).getD [] := by
  unfold moveGameToFront gameWindow
  rw [getToplevelWindows_eq]
  cases desktop.enumWindowsFails with
  | true => rfl
  | false =>
    rw [if_neg Bool.false_ne_true, if_neg Bool.false_ne_true, moveToFrontLoop_eq]
    · -- other processes have no game window
      have hown : ∀ hnd, (desktop.windowProcessId hnd = desktop.currentProcessId ∧
          IsGameWindow desktop hnd) ↔ IsGameWindow desktop hnd :=
        fun hnd => and_iff_right_of_imp And.left
      rw [List.find?_filter]
      simp only [decide_eq_true_eq, hown]
    · intro hnd hmem
      simpa using (List.mem_filter.mp hmem).2

end GameWindowFocuser

/-! ## Runs of the Plugin -/

/-- What happens to the plugin on a desktop: the user changes the setting it is bound to, or it
    takes one of its own steps, with the desktop as it is then. -/
inductive FocusEvent where
  | settingChanged (value : Bool)
  | plugin (desktop : Desktop) (e : PluginEvent)

/-- The plugin, and what it has done to the windows of the system. -/
structure FocusState where
  plugin : PluginState
  windowCalls : List WindowCall

namespace FocusState

/-- `if (*m_bringWindowToFront) GameWindowFocuser::MoveGameToFront();` -/
def windowCallsOf (s : PluginState) (desktop : Desktop) (e : PluginEvent) : List WindowCall :=
  if e.isRequest && s.bringWindowToFront then GameWindowFocuser.moveGameToFront desktop else []

def next (sdk : BakkesMod) (s : FocusState) : FocusEvent → FocusState
  | .settingChanged value => { s with plugin := { s.plugin with bringWindowToFront := value } }
  | .plugin desktop e =>
    { plugin := s.plugin.next sdk e
      windowCalls := s.windowCalls ++ windowCallsOf s.plugin desktop e }

def enabled (s : FocusState) : FocusEvent → Prop
  | .settingChanged _ => True
  | .plugin _ e => s.plugin.enabled e

instance (s : FocusState) : ∀ e : FocusEvent, Decidable (s.enabled e)
  | .settingChanged _ => inferInstanceAs (Decidable True)
  | .plugin _ e => inferInstanceAs (Decidable (s.plugin.enabled e))

/-- The plugin after `onLoad`. -/
def loaded (bringWindowToFront : Bool) (start : Path → Option Body) : FocusState where
  plugin := .loaded bringWindowToFront start
  windowCalls := []

end FocusState

/-- The plugin on a desktop, one event after the other. -/
def focusMachine (sdk : BakkesMod) : Machine FocusState FocusEvent where
  enabled := FocusState.enabled
  next := FocusState.next sdk

instance (sdk : BakkesMod) (s : FocusState) (e : FocusEvent) :
    Decidable ((focusMachine sdk).enabled s e) :=
  inferInstanceAs (Decidable (s.enabled e))

/-- The desktops of the requests that are made while the setting is on. -/
def focusDesktops : Bool → List FocusEvent → List Desktop
  | _, [] => []
  | _, .settingChanged value :: as => focusDesktops value as
  | bringWindowToFront, .plugin desktop e :: as =>
    (if e.isRequest && bringWindowToFront then [desktop] else []) ++
      focusDesktops bringWindowToFront as

section

variable {s : PluginState}

/-- **Step lemma**: a request asks for the focus once, if the setting is on; no step of the plugin
    changes the setting. -/
theorem focus_next (sdk : BakkesMod) {e : PluginEvent} (he : s.enabled e) :
    (s.next sdk e).bringWindowToFront = s.bringWindowToFront ∧
      (s.next sdk e).focusRequests =
        s.focusRequests + (e.isRequest && s.bringWindowToFront).toNat := by
  cases e with
  | request replayId token throws =>
    have hasked : ∀ path, (s.asked path).focusRequests =
        s.focusRequests + (true && s.bringWindowToFront).toNat := by
      intro path
      unfold PluginState.asked
      cases s.bringWindowToFront with
      | true => rfl
      | false => rfl
    rw [next_request]
    cases s.outcome sdk replayId throws with
    | startThrew =>
      dsimp only
      split
      · exact ⟨rfl, hasked (filePath sdk replayId)⟩
      · exact ⟨rfl, hasked (filePath sdk replayId)⟩
    | _ => exact ⟨rfl, hasked (filePath sdk replayId)⟩
  | chunk i bytes =>
    obtain ⟨l₁, d, l₂, -, -, hnext⟩ := next_chunk sdk s he bytes
    rw [hnext]
    exact ⟨rfl, rfl⟩
  | completion i code throws =>
    obtain ⟨l₁, d, l₂, -, -, hnext⟩ := next_completion sdk s he code throws
    rw [hnext]
    dsimp only
    split
    · exact ⟨rfl, rfl⟩
    · exact ⟨rfl, rfl⟩
  | runTask k =>
    obtain ⟨t₁, path, t₂, -, -, hnext⟩ := next_runTask sdk s he
    rw [hnext]
    exact ⟨rfl, rfl⟩
  | _ => exact ⟨rfl, rfl⟩

/-- The windows restored on some desktops. -/
def broughtForward (desktops : List Desktop) : List WindowCall :=
  (desktops.filterMap GameWindowFocuser.gameWindow).flatMap GameWindowFocuser.bringForward

theorem broughtForward_append (desktops desktops' : List Desktop) :
    broughtForward (desktops ++ desktops') =
      broughtForward desktops ++ broughtForward desktops' := by
  simp [broughtForward]

/-- A step restores the game window of its desktop, if it asks for the focus. -/
theorem windowCallsOf_eq (desktop : Desktop) (e : PluginEvent) :
    FocusState.windowCallsOf s desktop e =
      broughtForward (if e.isRequest && s.bringWindowToFront then [desktop] else []) := by
  unfold FocusState.windowCallsOf
  rw [GameWindowFocuser.moveGameToFront_eq]
  split
  · unfold broughtForward
    rw [List.filterMap_cons]
    cases GameWindowFocuser.gameWindow desktop with
    | none => rfl
    | some hnd => rfl
  · rfl

/-- **Run lemma**: a run restores the game windows of the desktops its requests find while the
    setting is on. -/
theorem windowCalls_exec {sdk : BakkesMod} {s : FocusState} {as : List FocusEvent}
    (hl : (focusMachine sdk).Legal s as) :
    ((focusMachine sdk).exec s as).windowCalls =
        s.windowCalls ++ broughtForward (focusDesktops s.plugin.bringWindowToFront as) ∧
      ((focusMachine sdk).exec s as).plugin.focusRequests =
        s.plugin.focusRequests + (focusDesktops s.plugin.bringWindowToFront as).length := by
  induction as generalizing s with
  | nil => exact ⟨(List.append_nil _).symm, rfl⟩
  | cons e as ih =>
    have hrest := ih hl.2
    rw [Machine.exec_cons, hrest.1, hrest.2]
    cases e with
    | settingChanged value => exact ⟨rfl, rfl⟩
    | plugin desktop e =>
      obtain ⟨hsetting, hfocus⟩ := focus_next sdk hl.1
      show (s.windowCalls ++ _) ++ broughtForward
          (focusDesktops (s.plugin.next sdk e).bringWindowToFront as) = _ ∧
        (s.plugin.next sdk e).focusRequests +
          (focusDesktops (s.plugin.next sdk e).bringWindowToFront as).length = _
      rw [hsetting, hfocus, focusDesktops, broughtForward_append, windowCallsOf_eq,
        List.append_assoc, List.length_append]
      refine ⟨rfl, ?_⟩
      cases e.isRequest && s.plugin.bringWindowToFront with
      | true => exact Nat.add_assoc ..
      | false => exact Nat.add_assoc ..

end

/-- **The windows of the system in a run**: whatever the desktop looks like at each step, and
    however often the user changes the setting, each request made while it is on restores the
    first window of the plugin's process with the title of the game and brings it to the front;
    nothing else is done to any window. -/
theorem windowCalls_of_run (sdk : BakkesMod) (bringWindowToFront : Bool)
    (start : Path → Option Body) {as : List FocusEvent}
    (hl : (focusMachine sdk).Legal (.loaded bringWindowToFront start) as) :
    let s := (focusMachine sdk).exec (.loaded bringWindowToFront start) as
    s.windowCalls = broughtForward (focusDesktops bringWindowToFront as) ∧
      s.plugin.focusRequests = (focusDesktops bringWindowToFront as).length := by
  have hrun := windowCalls_exec hl
  exact ⟨hrun.1.trans (List.nil_append _), hrun.2.trans (Nat.zero_add _)⟩

/-- A window of another process and two of the game; the setting is turned off behind the first
    request. -/
theorem windowCalls_of_run_settingOff :
    let desktop : Desktop :=
      { topLevelWindows := [1, 2, 3]
        enumWindowsFails := false
        currentProcessId := 7
        windowProcessId := fun hnd => if hnd = 1 then 8 else 7
        windowTextLength := fun _ => 40
        windowText := fun _ => GameWindowFocuser.gameTitle }
    let run : List FocusEvent := [.plugin desktop (.request "ab".toList "token".toList noThrow),
      .plugin desktop (.chunk 0 [1]), .settingChanged false,
      .plugin desktop (.request "ab".toList "token".toList noThrow)]
    let s := (focusMachine .simple).exec (.loaded true fun _ => none) run
    s.windowCalls = broughtForward (focusDesktops true run) ∧
      s.plugin.focusRequests = (focusDesktops true run).length :=
  windowCalls_of_run .simple true (fun _ => none) (by decide)

end BallchasingReplayPlayer
