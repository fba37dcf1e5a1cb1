import BallchasingReplayPlayer.Plugin.Containment
import BallchasingReplayPlayer.Plugin.Messages

/-!
# What Becomes of the Requests

A request for a file is played, waits in the task queue, is in flight, has failed, or was
lost to an exception. Nothing else happens to it, and it does not happen twice: the five
numbers add up in every run.

## Main Results

- `tally_next`: what a step does to the tally of a file
- `requests_conserved`: the requests of a run for a file, and what became of them
-/

namespace BallchasingReplayPlayer

open LexicalPath Transition

/-! ## Tallies -/

namespace PluginState

/-- How often a file was played. -/
def playsOf (s : PluginState) (path : Path) : ℕ := s.fileEffects.count (.play path)

/-- How often it waits in the task queue. -/
def queuedOf (s : PluginState) (path : Path) : ℕ := s.tasks.count path

/-- How many downloads to it are in flight. -/
def inFlightOf (s : PluginState) (path : Path) : ℕ := s.inFlight.countP (·.filePath = path)

/-- How many downloads to it ended with another status than 200. -/
def failuresOf (s : PluginState) (path : Path) : ℕ :=
  s.responses.countP fun r => r.filePath = path ∧ r.code ≠ 200

/-- What has become of the requests for a file that did not throw. -/
def tallyOf (s : PluginState) (path : Path) : ℕ :=
  s.playsOf path + s.queuedOf path + s.inFlightOf path + s.failuresOf path

/-- A request that throws is neither queued nor in flight. -/
def lostBy (s : PluginState) (sdk : BakkesMod) (path : Path) : PluginEvent → ℕ
  | .request replayId _ throws =>
    if filePath sdk replayId = path ∧ ¬ (s.outcome sdk replayId throws).Returns then 1 else 0
  | _ => 0

/-- How many requests for a file throw in a run. -/
def lostAlong (s : PluginState) (sdk : BakkesMod) (path : Path) : List PluginEvent → ℕ
  | [] => 0
  | e :: as => s.lostBy sdk path e + (s.next sdk e).lostAlong sdk path as

section Updates

variable (s : PluginState) (path path' : Path)

@[simp] theorem tallyOf_asked : (s.asked path').tallyOf path = s.tallyOf path := by
  simp [tallyOf, playsOf, queuedOf, inFlightOf, failuresOf, asked]

@[simp] theorem tallyOf_queued :
    (s.queued path').tallyOf path = s.tallyOf path + if path' = path then 1 else 0 := by
  simp [tallyOf, playsOf, queuedOf, inFlightOf, failuresOf, queued, List.count_cons]
  omega

@[simp] theorem tallyOf_announced : s.announced.tallyOf path = s.tallyOf path := rfl

@[simp] theorem tallyOf_ordered : (s.ordered path').tallyOf path = s.tallyOf path := by
  simp [tallyOf, playsOf, queuedOf, inFlightOf, failuresOf, ordered]

@[simp] theorem tallyOf_downloading (d : Download) :
    (s.downloading d).tallyOf path = s.tallyOf path + if d.filePath = path then 1 else 0 := by
  simp [tallyOf, playsOf, queuedOf, inFlightOf, failuresOf, downloading, List.countP_cons]
  omega

@[simp] theorem tallyOf_discarded (throws : Call → Bool) :
    (s.discarded throws path').tallyOf path = s.tallyOf path := by
  simp [tallyOf, playsOf, queuedOf, inFlightOf, failuresOf, discarded]

end Updates

end PluginState

/-- How many requests of a run are for a file. -/
def requestsFor (sdk : BakkesMod) (path : Path) (as : List PluginEvent) : ℕ :=
  (requestedIds as).countP (filePath sdk · = path)

theorem requestsFor_cons (sdk : BakkesMod) (path : Path) (e : PluginEvent)
    (as : List PluginEvent) :
    requestsFor sdk path (e :: as) = requestsFor sdk path [e] + requestsFor sdk path as := by
  have hids : requestedIds (e :: as) = requestedIds [e] ++ requestedIds as := by
    unfold requestedIds
    rw [← List.filterMap_append]
    rfl
  rw [requestsFor, hids, List.countP_append]
  rfl

/-! ## Steps -/

section Steps

variable {sdk : BakkesMod} {s : PluginState} {path : Path}

theorem requestsFor_request (replayId token : Text) (throws : Call → Bool) :
    requestsFor sdk path [.request replayId token throws] =
      if filePath sdk replayId = path then 1 else 0 := by
  simp [requestsFor, requestedIds, List.countP_cons]

/-- A request that returns has one entry in the queue or among the downloads. -/
theorem tally_request (replayId token : Text) (throws : Call → Bool) :
    (s.next sdk (.request replayId token throws)).tallyOf path +
        s.lostBy sdk path (.request replayId token throws) =
      s.tallyOf path + if filePath sdk replayId = path then 1 else 0 := by
  rw [next_request]
  unfold PluginState.lostBy
  cases houtcome : s.outcome sdk replayId throws with
  | testThrew => simp [houtcome, Outcome.Returns]
  | cached => simp [houtcome, Outcome.Returns]
  | startThrew =>
    dsimp only
    split <;> simp [houtcome, Outcome.Returns]
  | started => simp [houtcome, Outcome.Returns, newDownload]

/-- A download that ends moves on to the queue or to the failures. -/
theorem tally_completion {i : ℕ} (hi : i < s.inFlight.length) (code : ℤ)
    (throws : Call → Bool) :
    (s.next sdk (.completion i code throws)).tallyOf path = s.tallyOf path := by
  obtain ⟨l₁, d, l₂, -, hsplit, hnext⟩ := next_completion sdk s hi code throws
  rw [hnext]
  dsimp only
  by_cases hcode : code = 200
  · rw [if_pos hcode, PluginState.tallyOf_queued]
    simp [PluginState.tallyOf, PluginState.playsOf, PluginState.queuedOf, PluginState.inFlightOf,
      PluginState.failuresOf, hsplit, hcode, Download.response, List.countP_cons]
    omega
  · rw [if_neg hcode, PluginState.tallyOf_discarded]
    simp [PluginState.tallyOf, PluginState.playsOf, PluginState.queuedOf, PluginState.inFlightOf,
      PluginState.failuresOf, hsplit, hcode, Download.response, List.countP_cons]
    omega

/-- A task that runs moves on to the replays played. -/
theorem tally_runTask {k : ℕ} (hk : k < s.tasks.length) :
    (s.next sdk (.runTask k)).tallyOf path = s.tallyOf path := by
  obtain ⟨t₁, path', t₂, -, hsplit, hnext⟩ := next_runTask sdk s hk
  rw [hnext]
  simp [PluginState.tallyOf, PluginState.playsOf, PluginState.queuedOf, PluginState.inFlightOf,
    PluginState.failuresOf, hsplit, List.count_cons]
  omega

variable (sdk path) in
/-- **What a step does to the tally**: it grows with every request for the file that does not
    throw, and with nothing else. -/
theorem tally_next {e : PluginEvent} (he : s.enabled e) :
    (s.next sdk e).tallyOf path + s.lostBy sdk path e =
      s.tallyOf path + requestsFor sdk path [e] := by
  cases e with
  | request replayId token throws =>
    rw [requestsFor_request]
    exact tally_request replayId token throws
  | chunk i bytes =>
    obtain ⟨l₁, d, l₂, -, hsplit, hnext⟩ := next_chunk sdk s he bytes
    -- the chunk changes neither the number of downloads nor their files
    have hinFlight : (s.next sdk (.chunk i bytes)).inFlightOf path = s.inFlightOf path := by
      rw [hnext]
      simp [PluginState.inFlightOf, hsplit, List.countP_cons]
    have htally : (s.next sdk (.chunk i bytes)).tallyOf path = s.tallyOf path := by
      unfold PluginState.tallyOf
      rw [hinFlight, hnext]
      rfl
    rw [htally]
    rfl
  | progress i report => rfl
  | completion i code throws =>
    rw [tally_completion he code throws]
    rfl
  | runTask k =>
    rw [tally_runTask he]
    rfl
  | frame size => rfl

end Steps

/-! ## Runs -/

/-- What a run adds to the tally of a file: its requests for the file, without those that
    throw. -/
theorem tally_exec (sdk : BakkesMod) (path : Path) {s : PluginState} {as : List PluginEvent}
    (hl : (pluginMachine sdk).Legal s as) :
    ((pluginMachine sdk).exec s as).tallyOf path + s.lostAlong sdk path as =
      s.tallyOf path + requestsFor sdk path as := by
  induction as generalizing s with
  | nil => rfl
  | cons e as ih =>
    obtain ⟨he, hrest⟩ := hl
    have hstep : (s.next sdk e).tallyOf path + s.lostBy sdk path e =
        s.tallyOf path + requestsFor sdk path [e] := tally_next sdk path he
    have hrun : ((pluginMachine sdk).exec (s.next sdk e) as).tallyOf path +
        (s.next sdk e).lostAlong sdk path as =
          (s.next sdk e).tallyOf path + requestsFor sdk path as := ih hrest
    rw [requestsFor_cons, PluginState.lostAlong]
    show ((pluginMachine sdk).exec (s.next sdk e) as).tallyOf path + _ = _
    omega

/-- A request of this step ends without an exception. -/
def RequestReturns (sdk : BakkesMod) (s : PluginState) : PluginEvent → Prop
  | .request replayId _ throws => (s.outcome sdk replayId throws).Returns
  | _ => True

theorem lostAlong_of_returns (sdk : BakkesMod) (path : Path) {s : PluginState}
    {as : List PluginEvent} (h : (pluginMachine sdk).Along (RequestReturns sdk) s as) :
    s.lostAlong sdk path as = 0 := by
  induction as generalizing s with
  | nil => rfl
  | cons e as ih =>
    have hstep : s.lostBy sdk path e = 0 := by
      cases e with
      | request replayId token throws => exact if_neg fun hlost => hlost.2 h.1
      | _ => rfl
    have hrest : (s.next sdk e).lostAlong sdk path as = 0 := ih h.2
    rw [PluginState.lostAlong, hstep, hrest]

/-- **No request is lost or served twice**: in every run and for every file, the requests are
    those played, queued, being downloaded and failed, and those that threw. -/
theorem requests_conserved (sdk : BakkesMod) (bringWindowToFront : Bool)
    (start : Path → Option Body) {as : List PluginEvent}
    (hl : (pluginMachine sdk).Legal (.loaded bringWindowToFront start) as) (path : Path) :
    let s := (pluginMachine sdk).exec (.loaded bringWindowToFront start) as
    s.playsOf path + s.queuedOf path + s.inFlightOf path + s.failuresOf path +
        (PluginState.loaded bringWindowToFront start).lostAlong sdk path as =
      requestsFor sdk path as :=
  (tally_exec sdk path hl).trans (Nat.zero_add _)

/-- A failure, a replay that is played, one that is being downloaded, and a request that
    throws. -/
theorem requests_conserved_fourRequests :
    let request := fun throws => .request "ab".toList "token".toList throws
    let run := [request noThrow, .completion 0 404 noThrow, request noThrow, .chunk 0 [1],
      .completion 0 200 noThrow, .runTask 0, request (· == .existsTest)]
    let s := (pluginMachine .simple).exec (.loaded true fun _ => none) run
    let path := filePath .simple "ab".toList
    s.playsOf path + s.queuedOf path + s.inFlightOf path + s.failuresOf path +
        (PluginState.loaded true fun _ => none).lostAlong .simple path run =
      requestsFor .simple path run :=
  requests_conserved .simple true (fun _ => none) (by decide) (filePath .simple "ab".toList)

end BallchasingReplayPlayer
