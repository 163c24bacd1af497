import DockerMap.Daemon.CacheRefresh

/-! What the read routes serve of the cache. Every body carries the source of its bytes
and the revision of the publication it was taken from. -/

namespace DockerMap

variable (cache : DaemonCache)

def getHealth : HealthResponse := redactHealthResponse cache.health

def getSnapshot : DockerSnapshot :=
  { publishDockerSnapshot cache.snapshot with source := some cache.mode }

def getRuntimeMap : RuntimeMap := { cache.runtimeMap with source := some cache.mode }

def publishFindings (findings : FindingsResponse) (mode : RuntimeMode) : FindingsResponse :=
  { findings with source := some mode }

def getFindings : FindingsResponse := publishFindings cache.findings cache.mode

end DockerMap
