import DockerMap.Core.Models

/-! Deterministic sample data used by demo mode. -/

namespace DockerMap

def mockContainers : List ContainerRecord :=
  [{ id := "container_gateway"
     name := "gateway"
     image := "nginx:1.27-alpine"
     status := "running"
     role := "edge proxy"
     networks := ["network_edge", "network_app"]
     ports := ["3233:80/tcp"]
     publishesOnUnspecifiedAddress := false
     mounts := []
     dependsOn := ["container_api"] },
   { id := "container_api"
     name := "api"
     image := "python:3.11-slim"
     status := "running"
     role := "api"
     networks := ["network_app", "network_data"]
     ports := ["3233:3233/tcp"]
     publishesOnUnspecifiedAddress := false
     mounts :=
       [{ id := "container_api:/workspace/src:/srv/dockermap/src"
          kind := .bind
          source := some "/srv/dockermap/src"
          target := "/workspace/src"
          readOnly := false },
        { id := "container_api:/workspace/.cache:api-cache"
          kind := .namedVolume
          source := some "api-cache"
          target := "/workspace/.cache"
          readOnly := false }]
     dependsOn := ["container_db", "container_cache"] },
   { id := "container_worker"
     name := "worker"
     image := "python:3.11-slim"
     status := "running"
     role := "worker"
     networks := ["network_app", "network_data"]
     ports := []
     publishesOnUnspecifiedAddress := false
     mounts :=
       [{ id := "container_worker:/var/log/dockermap:logs"
          kind := .namedVolume
          source := some "logs"
          target := "/var/log/dockermap"
          readOnly := false }]
     dependsOn := ["container_db", "container_cache"] },
   { id := "container_db"
     name := "postgres"
     image := "postgres:16-alpine"
     status := "running"
     role := "primary database"
     networks := ["network_data"]
     ports := ["5432:5432/tcp"]
     publishesOnUnspecifiedAddress := false
     mounts :=
       [{ id := "container_db:/var/lib/postgresql/data:postgres_data"
          kind := .namedVolume
          source := some "postgres_data"
          target := "/var/lib/postgresql/data"
          readOnly := false }]
     dependsOn := [] },
   { id := "container_cache"
     name := "redis"
     image := "redis:7-alpine"
     status := "running"
     role := "cache and queue broker"
     networks := ["network_data"]
     ports := ["6379:6379/tcp"]
     publishesOnUnspecifiedAddress := false
     mounts := []
     dependsOn := [] },
   { id := "container_registry"
     name := "registry"
     image := "ghcr.io/dockermap/example:1.0"
     status := "running"
     role := "registry mirror"
     networks := []
     ports := []
     publishesOnUnspecifiedAddress := false
     mounts := []
     dependsOn := [] }]

def mockImages : List ImageRecord :=
  [⟨"nginx:1.27-alpine", ["gateway"], "running"⟩,
   ⟨"python:3.11-slim", ["api", "worker"], "running"⟩,
   ⟨"postgres:16-alpine", ["postgres"], "running"⟩,
   ⟨"redis:7-alpine", ["redis"], "running"⟩,
   ⟨"ghcr.io/dockermap/example:1.0", ["registry"], "running"⟩]

def mockNetworks : List NetworkRecord :=
  [⟨"network_edge", "edge", "bridge", false, ["gateway"]⟩,
   ⟨"network_app", "application", "bridge", false, ["gateway", "api", "worker"]⟩,
   ⟨"network_data", "data", "bridge", true, ["api", "worker", "postgres", "redis"]⟩]

def mockVolumes : List VolumeRecord :=
  [⟨"volume_postgres_data", "postgres_data", ["postgres"]⟩,
   ⟨"volume_app_cache", "app_cache", ["api", "worker"]⟩]

/-- The sample snapshot at the wall clock's reading. -/
def mockSnapshot (unixTimestampMillis : ℕ) : DockerSnapshot where
  containers := mockContainers
  images := mockImages
  networks := mockNetworks
  volumes := mockVolumes
  lastUpdated := unixTimestampMillis

end DockerMap
