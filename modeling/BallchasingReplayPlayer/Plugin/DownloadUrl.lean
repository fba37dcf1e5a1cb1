import BallchasingReplayPlayer.Lib.Url
import BallchasingReplayPlayer.Plugin.Download

/-!
# What a Download Asks For

`DownloadAndPlayReplay` pastes the trimmed id and the token into a URL, unescaped. Both
come from a client, so what the server reads there need not be what was pasted.

## Main Results

- `roundTrips_iff`: which requests are read back from their URL
- `requestsReadBack_iff`: the same for two requests, and whether they are told apart
- `fetchesItsReplay_of_run`: in a run of such requests every download asks for the replay
  it is stored as
-/

namespace BallchasingReplayPlayer

open LexicalPath Transition

/-! ## The Download URL -/

/-- The URL of a download, with the last segment and the token left out. -/
def downloadTemplate : Url.Template where
  scheme := "https".toList
  host := "ballchasing.com".toList
  dirs := ["dl".toList, "replay".toList]
  name := "token".toList
  isScheme_scheme := by decide
  all_host := by decide
  plain_dirs := List.forall_mem_cons.mpr ⟨by decide, List.forall_mem_singleton.mpr (by decide)⟩
  plain_name := by decide

theorem downloadUrl_eq (replayId token : Text) :
    downloadUrl replayId token = downloadTemplate.url replayId token := by
  have hstart : "https://ballchasing.com/dl/replay/".toList =
      downloadTemplate.scheme ++ ':' :: '/' :: '/' ::
        (downloadTemplate.host ++ downloadTemplate.path []) := by decide
  have hquery : "?token=".toList = '?' :: (downloadTemplate.name ++ ['=']) := by decide
  calc downloadUrl replayId token
      = (downloadTemplate.scheme ++ ':' :: '/' :: '/' ::
          (downloadTemplate.host ++ downloadTemplate.path [])) ++ replayId ++
          '?' :: (downloadTemplate.name ++ ['=']) ++ token :=
        congrArg₂ (fun start query => start ++ replayId ++ query ++ token) hstart hquery
    _ = downloadTemplate.url replayId token := by
        rw [Url.Template.url, Url.Template.behind, downloadTemplate.path_eq_append replayId]
        simp only [List.append_assoc, List.cons_append, List.nil_append]

/-- What is read from the URL of a request is what it was made from. -/
def RoundTrips (sdk : BakkesMod) (replayId token : Text) : Prop :=
  ∃ u, Url.decode (newDownload sdk replayId token).url = some u ∧
    u.authority.host = "ballchasing.com".toList ∧
    u.segments = ["dl".toList, "replay".toList, sdk.trim replayId] ∧
    u.parameters = [("token".toList, token)] ∧
    u.fragment = none

/-- The trimmed id holds only what a path segment may hold unescaped and is no dot segment,
    and the token only what a query may hold unescaped, without `&`. -/
def UrlSafe (sdk : BakkesMod) (replayId token : Text) : Prop :=
  Url.PlainSegment (sdk.trim replayId) ∧ Url.PlainValue token

instance (sdk : BakkesMod) (replayId token : Text) : Decidable (UrlSafe sdk replayId token) :=
  inferInstanceAs (Decidable (Url.PlainSegment (sdk.trim replayId) ∧ Url.PlainValue token))

theorem newDownload_url (sdk : BakkesMod) (replayId token : Text) :
    (newDownload sdk replayId token).url = downloadTemplate.url (sdk.trim replayId) token :=
  downloadUrl_eq (sdk.trim replayId) token

/-- **A request is read back from its URL** iff its trimmed id and its token are safe to paste
    into it. -/
theorem roundTrips_iff (sdk : BakkesMod) (replayId token : Text) :
    RoundTrips sdk replayId token ↔ UrlSafe sdk replayId token := by
  constructor
  · rintro ⟨u, hdecode, -, hsegments, hparameters, -⟩
    rw [newDownload_url] at hdecode
    exact downloadTemplate.plain_of_decode hdecode hsegments hparameters
  · rintro ⟨hid, htoken⟩
    -- scheme, host and folders are those of the template
    refine ⟨downloadTemplate.decoded (sdk.trim replayId) token, ?_, rfl, rfl, rfl, rfl⟩
    rw [newDownload_url]
    exact downloadTemplate.decode_url hid htoken

/-- Two requests are read back from their URLs, and are one request only if they were made
    from the same id and token. -/
structure RequestsReadBack (sdk : BakkesMod) (replayId token replayId' token' : Text) :
    Prop where
  first : RoundTrips sdk replayId token
  second : RoundTrips sdk replayId' token'
  apart :
    Url.Equivalent (newDownload sdk replayId token).url (newDownload sdk replayId' token').url →
      (sdk.trim replayId, token) = (sdk.trim replayId', token')

/-- **Any two requests are read back and told apart** iff the ids and tokens of both are safe
    to paste into their URLs. -/
theorem requestsReadBack_iff (sdk : BakkesMod) (replayId token replayId' token' : Text) :
    RequestsReadBack sdk replayId token replayId' token' ↔
      UrlSafe sdk replayId token ∧ UrlSafe sdk replayId' token' := by
  constructor
  · intro h
    exact ⟨(roundTrips_iff ..).mp h.first, (roundTrips_iff ..).mp h.second⟩
  · rintro ⟨hfirst, hsecond⟩
    refine ⟨(roundTrips_iff ..).mpr hfirst, (roundTrips_iff ..).mpr hsecond, ?_⟩
    intro hequivalent
    rw [newDownload_url, newDownload_url,
      downloadTemplate.equivalent_url_iff hfirst.1 hfirst.2 hsecond.1 hsecond.2] at hequivalent
    exact Prod.ext hequivalent.1 hequivalent.2

/-- `%61` is read as `a`: the id `%61b` is not read back, and asks for the replay `ab`. -/
theorem escaped_id_asks_for_another :
    ¬ RoundTrips .simple "%61b".toList "token".toList ∧
      Url.Equivalent (newDownload .simple "%61b".toList "token".toList).url
        (newDownload .simple "ab".toList "token".toList).url ∧
      BakkesMod.simple.trim "%61b".toList ≠ BakkesMod.simple.trim "ab".toList := by
  refine ⟨?_, ?_, by decide⟩
  · rw [roundTrips_iff]
    decide
  · exact ⟨downloadTemplate.decoded "ab".toList "token".toList,
      downloadTemplate.decoded "ab".toList "token".toList, by decide, by decide, rfl⟩

/-! ## The Downloads of a Run -/

/-- A download asks the server for the replay it is stored as. -/
def Download.FetchesItsReplay (d : Download) : Prop :=
  ∃ u, Url.decode d.url = some u ∧ u.authority.host = "ballchasing.com".toList ∧
    u.segments = ["dl".toList, "replay".toList, d.replayId]

/-- A step makes a request that is read back from its URL, or none. -/
def RequestsReadably (sdk : BakkesMod) (_ : PluginState) : PluginEvent → Prop
  | .request replayId token _ => UrlSafe sdk replayId token
  | _ => True

theorem newDownload_fetchesItsReplay {sdk : BakkesMod} {replayId token : Text}
    (h : UrlSafe sdk replayId token) : (newDownload sdk replayId token).FetchesItsReplay := by
  obtain ⟨u, hdecode, hhost, hsegments, -, -⟩ := (roundTrips_iff sdk replayId token).mpr h
  exact ⟨u, hdecode, hhost, hsegments⟩

/-- **Step lemma**: downloads keep asking for the replays they are stored as. -/
theorem fetchesItsReplay_next {sdk : BakkesMod} {s : PluginState}
    (h : ∀ d ∈ s.inFlight, d.FetchesItsReplay) {e : PluginEvent} (he : s.enabled e)
    (hok : RequestsReadably sdk s e) :
    ∀ d ∈ (s.next sdk e).inFlight, d.FetchesItsReplay := by
  apply forall_inFlight_next (fun d _ hd => hd) h he
  rintro replayId token throws rfl
  exact newDownload_fetchesItsReplay hok

/-- **Run lemma**: as long as every request is read back from its URL, every download asks
    for the replay it is stored as. -/
theorem fetchesItsReplay_of_run (sdk : BakkesMod) (bringWindowToFront : Bool)
    (start : Path → Option Body) {as : List PluginEvent}
    (hl : (pluginMachine sdk).Legal (.loaded bringWindowToFront start) as)
    (hok : (pluginMachine sdk).Along (RequestsReadably sdk) (.loaded bringWindowToFront start)
      as) :
    (pluginMachine sdk).Throughout
      (fun s => ∀ d ∈ s.inFlight,
        d.FetchesItsReplay ∧ d.filePath = replayPath sdk d.replayId)
      (.loaded bringWindowToFront start) as := by
  apply Machine.Legal.throughout
    (I := fun s => (∀ d ∈ s.inFlight, d.FetchesItsReplay) ∧ Named sdk s) _ _ _ hl hok
  · exact fun s h d hd => ⟨h.1 d hd, h.2.downloads d hd⟩
  · exact fun s e h he hready => ⟨fetchesItsReplay_next h.1 he hready, h.2.next he⟩
  · exact ⟨List.forall_mem_nil _, List.forall_mem_nil _, List.forall_mem_nil _⟩

end BallchasingReplayPlayer
