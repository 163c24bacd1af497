import DockerMap.Web.AtlasProjection

/-! The bounded rail of the attachments of a selected subject. -/

namespace DockerMap.Web.Atlas

open JavaScript (codeUnits trimUnits codePoints stringifyTexts)
open StableSort (sortBy)

def localContextPolicyVersion : String := "atlas-v1/local-attachment-rail-1"
def maxModelAttachmentsScanned : ℕ := 400
def maxSelectedAttachments : ℕ := 80
def maxInputAttachments : ℕ := 80
def maxVisibleItems : ℕ := 6
def maxItemsPerKind : ℕ := 4
def maxAggregateCoverage : ℕ := 8

inductive LocalAttachmentKind
  | networkMembership | storageAttachment | portPublication | daemonStateContext
  deriving DecidableEq

def LocalAttachmentKind.wireName : LocalAttachmentKind → String
  | .networkMembership => "network_membership"
  | .storageAttachment => "storage_attachment"
  | .portPublication => "port_publication"
  | .daemonStateContext => "daemon_state_context"

structure AtlasLocalAttachmentItem where
  key : String
  kind : LocalAttachmentKind
  display : List ℕ
  operationalState : AtlasOperationalState
  freshness : AtlasFreshness
  attention : AtlasAttention
  ambiguity : AtlasAmbiguity

structure AtlasLocalAttachmentContext where
  policyVersion : String
  items : List AtlasLocalAttachmentItem
  population : AtlasPopulation
  /-- Omitted by the rail, apart from what the projection has omitted. -/
  presentationOmitted : ℕ
  inputOmitted : ℕ
  projectionOmitted : ℕ

/-! Evidence -/

def boundedText (text : String) : List ℕ := (codeUnits text).take 256

def boundedNumber (number : ℕ) : List ℕ :=
  ((JavaScript.numberText number).map Char.toNat).take 64

def localEvidenceKey (evidence : List AtlasEdgeEvidenceSourceRef) : List ℕ :=
  [3].intercalate (sortBy id (evidence.map fun entry => stringifyTexts
    [boundedText entry.evidence.provider.wireName, boundedText entry.evidence.kind.wireName,
      boundedText entry.evidence.assertionKind.wireName,
      boundedText entry.evidence.freshness.wireName, boundedText entry.evidence.id,
      boundedText entry.evidence.providerRevision, boundedText entry.evidence.slotText,
      boundedText entry.evidence.subjectRef, boundedText entry.evidence.summary,
      boundedNumber entry.evidence.collectedAt, boundedNumber entry.evidence.version,
      boundedText entry.relationship]))

/-- The kind of a Docker fact, by its relationship and its context. -/
def localKind (entry : AtlasEdgeEvidenceSourceRef) (context : String) :
    RuntimeEvidenceKind → Option LocalAttachmentKind
  | .dockerNetworkMembership =>
      if entry.relationship = "connected_to" ∧ starts context "docker_network_" then
        some .networkMembership
      else none
  | .dockerVolumeMount =>
      if entry.relationship = "mounts" ∧ starts context "docker_volume_" then
        some .storageAttachment
      else none
  | .dockerPortPublication =>
      if entry.relationship = "exposes" ∧ starts context "network_listener_" then
        some .portPublication
      else none
  | .dockerDaemonStateBindMount =>
      if entry.relationship = "exposes_daemon_state" ∧
          context = "host_risk_docker_daemon_state" then
        some .daemonStateContext
      else none
  | _ => none

def canonicalDockerAttachment (entry : AtlasEdgeEvidenceSourceRef) (subject context : String) :
    Option LocalAttachmentKind :=
  let evidence := entry.evidence
  if entry.source ≠ subject ∨ entry.target ≠ context ∨ evidence.version ≠ 1 ∨
      evidence.provider ≠ .docker ∨ evidence.assertionKind ≠ .observed ∨
      evidence.freshness ≠ .fresh ∨ ¬ evidence.hasNoSlot ∨ evidence.subjectRef ≠ subject ∨
      ¬ starts subject "docker_container_" then
    none
  else localKind entry context evidence.kind

/-- One kind of fact throughout. -/
def kindFor (attachment : AtlasAttachment) : Option LocalAttachmentKind :=
  if (attachment.evidence.map (·.evidence.kind)).dedup.length ≠ 1 then none
  else
    (attachment.evidence.head?.bind fun entry =>
      canonicalDockerAttachment entry attachment.subject attachment.context).filter fun kind =>
        attachment.evidence.all fun entry =>
          canonicalDockerAttachment entry attachment.subject attachment.context == some kind

def safeDisplay (unicode : UnicodeTables) (subject : AtlasSubject) : List ℕ :=
  let bounded := trimUnits ((unicode.normalizeNFC (subject.display.take 384)).map blankControl)
  let characters := codePoints bounded
  if characters.length ≤ 96 then
    if bounded = [] then codeUnits "Runtime subject" else bounded
  else (characters.take 95).flatten ++ [0x2026]

/-- An aggregate is found again through the evidence it covers. -/
def covers (subject : String) (aggregate : AtlasAggregate) : Bool :=
  (aggregate.sourceCoverage.take maxAggregateCoverage).any fun entry =>
    entry.source == subject && entry.target != subject &&
      (canonicalDockerAttachment entry entry.source entry.target).isSome

def aggregateFor (aggregates : List AtlasAggregate) (subject : String) : Option AtlasAggregate :=
  (aggregates.take maxInputAttachments).find? (covers subject)

/-! The rail -/

structure LocalCandidate where
  attachment : AtlasAttachment
  kind : Option LocalAttachmentKind
  context : Option AtlasSubject

structure Eligible where
  attachment : AtlasAttachment
  kind : LocalAttachmentKind
  context : AtlasSubject

/-- The attachments of the subject, and how many are past the cap. -/
def addSelected (selected : String) (state : List AtlasAttachment × ℕ)
    (attachment : AtlasAttachment) : List AtlasAttachment × ℕ :=
  if attachment.subject ≠ selected then state
  else if state.1.length < maxSelectedAttachments then (state.1 ++ [attachment], state.2)
  else (state.1, state.2 + 1)

def candidateKey (candidate : LocalCandidate) : List (List ℕ) :=
  [codeUnits ((candidate.kind.map LocalAttachmentKind.wireName).getD ""),
    codeUnits candidate.attachment.context, localEvidenceKey candidate.attachment.evidence]

structure EligibleTable where
  unresolved : ℕ := 0
  ambiguous : ℕ := 0
  eligible : List Eligible := []

/-- The projector makes ambiguous identities non-routable. -/
def addCandidate (table : EligibleTable) (candidate : LocalCandidate) : EligibleTable :=
  match candidate.kind, candidate.context with
  | some kind, some context =>
      if context.routable = false ∨ context.ambiguity ≠ .none then
        { table with ambiguous := table.ambiguous + 1 }
      else
        { table with
          eligible := table.eligible ++ [{ attachment := candidate.attachment, kind, context }] }
  | _, _ => { table with unresolved := table.unresolved + 1 }

def addVisible (unicode : UnicodeTables)
    (state : List AtlasLocalAttachmentItem × InsertionMap LocalAttachmentKind ℕ)
    (candidate : Eligible) :
    List AtlasLocalAttachmentItem × InsertionMap LocalAttachmentKind ℕ :=
  let count := (state.2.get? candidate.kind).getD 0
  if maxVisibleItems ≤ state.1.length ∨ maxItemsPerKind ≤ count then state
  else
    (state.1 ++ [
      { key := derivedKey "local-attachment" state.1.length
        kind := candidate.kind
        display := safeDisplay unicode candidate.context
        operationalState := candidate.context.operationalState
        freshness := candidate.context.freshness
        attention := candidate.context.attention
        ambiguity := candidate.context.ambiguity }],
      state.2.set candidate.kind (count + 1))

def candidatesOf (model : AtlasModel) (selected : List AtlasAttachment) : List LocalCandidate :=
  sortBy candidateKey (selected.map fun attachment =>
    { attachment
      kind := kindFor attachment
      context := model.subjects.find? fun subject => subject.key == attachment.context })

def localAttachmentContext (unicode : UnicodeTables) (model : AtlasModel)
    (selected : Option String) : Option AtlasLocalAttachmentContext :=
  match selected with
  | none => none
  | some selected =>
      if selected = "" ∨ ¬ model.subjects.any (fun s => s.routable && s.key == selected) then none
      else
        let scanned := (model.attachments.take maxModelAttachmentsScanned).foldl
          (addSelected selected) ([], 0)
        let table := (candidatesOf model scanned.1).foldl addCandidate {}
        let visible := (table.eligible.foldl (addVisible unicode) ([], ∅)).1
        let projected := (aggregateFor model.aggregates selected).map (·.population)
        let projectionOmitted := (projected.map (·.omitted)).getD 0
        let presentationOmitted := table.eligible.length - visible.length
        some {
          policyVersion := localContextPolicyVersion
          items := visible
          population :=
            { resolved := (projected.map (·.resolved)).getD table.eligible.length
              unresolved := (projected.map (·.unresolved)).getD 0 + table.unresolved
              ambiguous := (projected.map (·.ambiguous)).getD 0 + table.ambiguous
              omitted := projectionOmitted + presentationOmitted + scanned.2 }
          presentationOmitted
          inputOmitted := scanned.2
          projectionOmitted }

end DockerMap.Web.Atlas
