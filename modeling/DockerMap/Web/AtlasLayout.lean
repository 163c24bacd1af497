import DockerMap.Web.AtlasProjection
import Mathlib.Data.Rat.Floor

/-! The layout of the Atlas: a lane for each provider and role, and a column of diagnostics beside
them. Its coordinates are small integers, which binary64 computes with exactly. -/

namespace DockerMap.Web.Atlas

open Api (asText)
open JavaScript (codeUnits)
open StableSort (sortBy)

structure AtlasPoint where
  subject : String
  x : ℚ
  y : ℚ
  width : ℚ
  height : ℚ
  deriving DecidableEq

structure AtlasLayout where
  points : List AtlasPoint

namespace Layout

def cardWidth : ℕ := 46
def cardHeight : ℕ := 30
def columnGap : ℕ := 18
def rowGap : ℕ := 18
def laneGap : ℕ := 96
def columnsPerLane : ℕ := 8
def diagnosticX : ℤ := -128
def diagnosticY : ℤ := 0

def providers : List String :=
  ["docker", "compose", "host", "systemd", "scheduled_job", "npm", "pm2", "tmux", "tailscale",
    "headscale", "cloudflare", "caddy", "reverse_proxy", "local_dns", "dns_provider",
    "external_api", "process", "python", "network", "kubernetes", "other"]

def roles : List AtlasRole := [.primary, .context, .attachment, .inspectorOnly, .unsupported]

end Layout

/-- An unknown provider has a lane of its own, past the known ones. -/
def laneOrdinal (provider : Option Json) (role : AtlasRole) : ℕ :=
  (asText provider).elim Layout.providers.length Layout.providers.idxOf * Layout.roles.length +
    Layout.roles.idxOf role

def pointForRoutable (lane : ℕ) (subject : AtlasSubject) (index : ℕ) : AtlasPoint where
  subject := subject.key
  x := (lane * (Layout.columnsPerLane * (Layout.cardWidth + Layout.columnGap) + Layout.laneGap) +
    index % Layout.columnsPerLane * (Layout.cardWidth + Layout.columnGap) : ℕ)
  y := (index / Layout.columnsPerLane * (Layout.cardHeight + Layout.rowGap) : ℕ)
  width := Layout.cardWidth
  height := Layout.cardHeight

def pointForDiagnostic (subject : AtlasSubject) (index : ℕ) : AtlasPoint where
  subject := subject.key
  x := Layout.diagnosticX
  y := Layout.diagnosticY + (index * (Layout.cardHeight + Layout.rowGap) : ℕ)
  width := Layout.cardWidth
  height := Layout.cardHeight

/-- The lanes with their subjects, and the subjects without a lane. -/
def addToLayout (state : InsertionMap ℕ (List AtlasSubject) × List AtlasSubject)
    (subject : AtlasSubject) : InsertionMap ℕ (List AtlasSubject) × List AtlasSubject :=
  match subject.source with
  | .runtimeNode provider _ _ => (state.1.push (laneOrdinal provider subject.role) subject, state.2)
  | .projection _ => (state.1, state.2 ++ [subject])

def lanePoints (entry : ℕ × List AtlasSubject) : List AtlasPoint :=
  (sortBy (fun subject => codeUnits subject.key) entry.2).mapIdx fun index subject =>
    pointForRoutable entry.1 subject index

def layoutAtlas (model : AtlasModel) : AtlasLayout :=
  let placed := model.subjects.foldl addToLayout (∅, [])
  let routable := (sortBy Prod.fst placed.1.entries).flatMap lanePoints
  let nonRoutable := (sortBy (fun subject => codeUnits subject.key) placed.2).mapIdx
    fun index subject => pointForDiagnostic subject index
  { points := sortBy (fun point => codeUnits point.subject) (routable ++ nonRoutable) }

def pointFor (layout : AtlasLayout) (subject : String) : Option AtlasPoint :=
  layout.points.find? fun point => point.subject == subject

def rectanglesOverlap (left right : AtlasPoint) : Bool :=
  left.x < right.x + right.width && right.x < left.x + left.width &&
    left.y < right.y + right.height && right.y < left.y + left.height

end DockerMap.Web.Atlas
