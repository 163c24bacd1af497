import DockerMap.Core.ComposeScan

/-! What the scan says of bind sources that leave the directory of their Compose file. The
resolution takes every step up out of the path before the check looks for one. -/

namespace DockerMap

open LexicalPath

/-! Resolved paths -/

/-- The normalization keeps the root and the names of a path's place, and no step up. -/
theorem foldl_normalized (cs : List Component) :
    cs.foldl NormalizedPath.step {} = ⟨(place cs).rooted, (place cs).names⟩ := by
  induction cs using List.reverseRecOn with
  | nil => rfl
  | append_singleton cs c ih =>
    rw [List.foldl_append, ih, place_snoc]
    cases c with
    | rootDir => rfl
    | curDir => rfl
    | normal name => rfl
    | parentDir =>
      simp only [List.foldl_cons, List.foldl_nil, NormalizedPath.step, Place.step]
      split_ifs with hnames hrooted
      · rfl
      · rw [ne_eq, not_not] at hnames
        rw [hnames]
        rfl
      · rw [ne_eq, not_not] at hnames
        rw [hnames]
        rfl

theorem normalizeLexical_eq (path : List Char) : normalizeLexical path =
    text (place (components path)).rooted (place (components path)).names := by
  simp only [normalizeLexical, foldl_normalized]

theorem place_normalizeLexical (path : List Char) :
    place (components (normalizeLexical path)) =
      { place (components path) with up := 0 } := by
  rw [normalizeLexical_eq, place_text (proper_names path)]

theorem hasParentTraversal_iff (path : List Char) :
    hasParentTraversal path = true ↔ .parentDir ∈ components path := by
  have hpiece {piece : List Char} : component? piece = some .parentDir ↔ piece = ['.', '.'] := by
    unfold component?
    split_ifs with hempty hup
    · refine iff_of_false (fun h => by cases h) ?_
      rintro rfl
      exact absurd hempty (by decide)
    · exact iff_of_true rfl hup
    · exact iff_of_false (fun h => by cases h) hup
  have hlead : .parentDir ∉ leading path := by
    unfold leading
    split_ifs <;> simp
  rw [hasParentTraversal, List.contains_iff_mem, components, List.mem_append, or_iff_right hlead,
    List.mem_filterMap, splitOn_eq]
  constructor
  · exact fun h => ⟨_, h, hpiece.2 rfl⟩
  · rintro ⟨piece, hmem, hcomponent⟩
    exact hpiece.1 hcomponent ▸ hmem

theorem no_traversal_resolved (path : List Char) :
    hasParentTraversal (normalizeLexical path) = false := by
  rw [← Bool.not_eq_true, hasParentTraversal_iff, normalizeLexical_eq]
  exact parentDir_not_mem_text (proper_names path)

theorem resolveSource_bind {home : Option (List Char)} {baseDir : List Char} {source : String} :
    resolveSource home baseDir .bind (some source) = some (String.ofList (normalizeLexical
      (if isAbsolute (sourcePath home source) || isWindowsAbsolutePath (sourcePath home source)
        then sourcePath home source
      else join baseDir (sourcePath home source)))) := rfl

theorem exists_resolved {home : Option (List Char)} {baseDir : List Char}
    {kind : ComposeMountKind} {source : Option String} {resolved : String}
    (h : resolveSource home baseDir kind source = some resolved) :
    ∃ path, resolved = String.ofList (normalizeLexical path) := by
  obtain ⟨source, rfl, hresolved⟩ := Option.bind_eq_some_iff.1 h
  split_ifs at hresolved
  exact ⟨_, (Option.some.inj hresolved).symm⟩

/-! Reading documents -/

def traversalId : String := "compose_parent_traversal"

/-- What every reading keeps: its mounts are resolved against the directory of a document, and
no diagnostic is about traversal. -/
structure Resolved (home : Option (List Char)) (documents : List ComposeDocument)
    (reading : ComposeReading) : Prop where
  mounts : ∀ mount ∈ reading.mounts, ∃ document ∈ documents,
    mount.resolvedSource = resolveSource home document.baseDir mount.kind mount.source
  diagnostics : ∀ diagnostic ∈ reading.diagnostics, diagnostic.id ≠ traversalId

section

variable {home : Option (List Char)} {documents : List ComposeDocument}
  {document : ComposeDocument} {reading : ComposeReading}

theorem Resolved.diagnose (h : Resolved home documents reading) {diagnostic : ComposeDiagnostic}
    (hid : diagnostic.id ≠ traversalId) :
    Resolved home documents (reading.diagnose diagnostic) := by
  refine ⟨h.mounts, fun other hother => ?_⟩
  rcases List.mem_append.1 hother with hother | hother
  · exact h.diagnostics other hother
  · rw [List.mem_singleton.1 hother]
    exact hid

theorem Resolved.declare (h : Resolved home documents reading) (services : List ComposeService) :
    Resolved home documents { reading with services := services } :=
  ⟨h.mounts, h.diagnostics⟩

/-- A parsed mount is resolved; an error is not about traversal. -/
def ParsedMount (home : Option (List Char)) (document : ComposeDocument) :
    Except ComposeDiagnostic ComposeMount → Prop
  | .ok mount =>
      mount.resolvedSource = resolveSource home document.baseDir mount.kind mount.source
  | .error diagnostic => diagnostic.id ≠ traversalId

theorem parsed_short (service : String) (index : ℕ) (raw : String) :
    ParsedMount home document (document.parseShortMount home service index raw) := by
  unfold ComposeDocument.parseShortMount
  split
  · rfl
  · rfl
  · rfl
  · exact (by decide : ("compose_invalid_short_mount" : String) ≠ traversalId)

theorem parsed_long (service : String) (index : ℕ) (entries : List (YamlValue × YamlValue)) :
    ParsedMount home document (document.parseLongMount home service index entries) := by
  unfold ComposeDocument.parseLongMount
  simp only
  split
  · exact (by decide : ("compose_mount_missing_target" : String) ≠ traversalId)
  · rfl

theorem parsed_mount (service : String) (index : ℕ) (item : YamlValue) :
    ParsedMount home document (document.parseMount home service index item) := by
  unfold ComposeDocument.parseMount
  split
  · exact parsed_short service index _
  · split
    · exact parsed_long service index _
    · exact (by decide : ("compose_unsupported_mount" : String) ≠ traversalId)

theorem Resolved.volume (h : Resolved home documents reading) (hdocument : document ∈ documents)
    (service : String) (entry : YamlValue × ℕ) :
    Resolved home documents (reading.volume home document service entry) := by
  have hparsed : ParsedMount home document (document.parseMount home service entry.2 entry.1) :=
    parsed_mount service entry.2 entry.1
  unfold ComposeReading.volume
  cases hmount : document.parseMount home service entry.2 entry.1 with
  | error diagnostic =>
    rw [hmount] at hparsed
    exact h.diagnose hparsed
  | ok mount =>
    rw [hmount] at hparsed
    refine ⟨fun other hother => ?_, h.diagnostics⟩
    rcases List.mem_append.1 hother with hother | hother
    · exact h.mounts other hother
    · rw [List.mem_singleton.1 hother]
      exact ⟨document, hdocument, hparsed⟩

theorem Resolved.volumes (h : Resolved home documents reading) (hdocument : document ∈ documents)
    (service : String) (entries : List (YamlValue × ℕ)) :
    Resolved home documents
      (entries.foldl (ComposeReading.volume home document service) reading) := by
  induction entries generalizing reading with
  | nil => exact h
  | cons entry entries ih => exact ih (h.volume hdocument service entry)

theorem Resolved.service (h : Resolved home documents reading) (hdocument : document ∈ documents)
    (entry : YamlValue × YamlValue) :
    Resolved home documents (reading.service home document entry) := by
  unfold ComposeReading.service
  split
  · exact h.diagnose (by decide : ("compose_non_string_service_name" : String) ≠ traversalId)
  · simp only
    split
    · exact ⟨h.mounts, h.diagnostics⟩
    · split
      · refine Resolved.diagnose (h.declare _) ?_
        exact (by decide : ("compose_invalid_volumes" : String) ≠ traversalId)
      · exact Resolved.volumes (h.declare _) hdocument _ _

theorem Resolved.services (h : Resolved home documents reading) (hdocument : document ∈ documents)
    (entries : List (YamlValue × YamlValue)) :
    Resolved home documents (entries.foldl (ComposeReading.service home document) reading) := by
  induction entries generalizing reading with
  | nil => exact h
  | cons entry entries ih => exact ih (h.service hdocument entry)

theorem Resolved.parseComposeFile (h : Resolved home documents reading)
    (hdocument : document ∈ documents) :
    Resolved home documents (reading.parseComposeFile home document) := by
  unfold ComposeReading.parseComposeFile
  split
  · exact h.diagnose (by decide : ("compose_yaml_parse_error" : String) ≠ traversalId)
  · split
    · exact h.diagnose (by decide : ("compose_missing_services" : String) ≠ traversalId)
    · exact h.services hdocument _

theorem Resolved.parseComposeFiles (h : Resolved home documents reading)
    (rest : List ComposeDocument) (hrest : ∀ document ∈ rest, document ∈ documents) :
    Resolved home documents (rest.foldl (ComposeReading.parseComposeFile home) reading) := by
  induction rest generalizing reading with
  | nil => exact h
  | cons document rest ih =>
    exact ih (h.parseComposeFile (hrest document List.mem_cons_self))
      fun other hother => hrest other (List.mem_cons_of_mem _ hother)

theorem resolved_empty : Resolved home documents {} :=
  ⟨fun _ h => absurd h List.not_mem_nil, fun _ h => absurd h List.not_mem_nil⟩

theorem resolved_documents :
    Resolved home documents (documents.foldl (ComposeReading.parseComposeFile home) {}) :=
  resolved_empty.parseComposeFiles documents fun _ h => h

end

/-! The scan -/

section

variable {pathState : String → PathState} {mount : ComposeMount}

/-- The checks of a resolved mount never report a traversal. -/
theorem mountDiagnostics_id (hresolved : ∀ resolved, mount.resolvedSource = some resolved →
    hasParentTraversal resolved.toList = false) :
    ∀ diagnostic ∈ mountDiagnostics pathState mount, diagnostic.id ≠ traversalId := by
  intro diagnostic hmem
  have htarget : ∀ diagnostic ∈ targetDiagnostics mount, diagnostic.id ≠ traversalId := by
    unfold targetDiagnostics
    split_ifs
    · simp [mountDiagnostic, traversalId]
    · simp
  have hkind : ∀ diagnostic ∈ kindDiagnostics mount, diagnostic.id ≠ traversalId := by
    unfold kindDiagnostics
    split_ifs
    · simp [mountDiagnostic, traversalId]
    · simp
  have hsource : ∀ source, ∀ diagnostic ∈ sourceDiagnostics mount source,
      diagnostic.id ≠ traversalId := by
    intro source
    unfold sourceDiagnostics
    split_ifs <;> simp [mountDiagnostic, traversalId]
  have hunsafe : ∀ resolved, ∀ diagnostic ∈ unsafeDiagnostics mount resolved,
      diagnostic.id ≠ traversalId := by
    intro resolved diagnostic hdiagnostic
    obtain ⟨finding, -, rfl⟩ := List.mem_map.1 hdiagnostic
    exact (by decide : ("compose_unsafe_bind_source" : String) ≠ traversalId)
  have hstate : ∀ resolved, ∀ diagnostic ∈ stateDiagnostics pathState mount resolved,
      diagnostic.id ≠ traversalId := by
    intro resolved
    unfold stateDiagnostics
    cases pathState resolved <;> simp [mountDiagnostic, traversalId]
  unfold mountDiagnostics at hmem
  rcases List.mem_append.1 hmem with hmem | hmem
  · rcases List.mem_append.1 hmem with hmem | hmem
    · rcases List.mem_append.1 hmem with hmem | hmem
      · exact htarget _ hmem
      · exact hkind _ hmem
    · cases hsome : mount.source with
      | none => rw [hsome] at hmem; cases hmem
      | some source => rw [hsome] at hmem; exact hsource source _ hmem
  · split_ifs at hmem
    · cases hsome : mount.resolvedSource with
      | none => rw [hsome] at hmem; cases hmem
      | some resolved =>
        rw [hsome, Option.elim_some, traversalDiagnostics, if_neg (by simp [hresolved _ hsome]),
          List.append_nil] at hmem
        rcases List.mem_append.1 hmem with hmem | hmem
        · exact hunsafe resolved _ hmem
        · exact hstate resolved _ hmem
    · cases hmem

theorem duplicateTargets_id (mounts : List ComposeMount) :
    ∀ diagnostic ∈ duplicateTargets mounts, diagnostic.id ≠ traversalId := by
  intro diagnostic hmem
  obtain ⟨entry, -, hentry⟩ := List.mem_flatMap.1 hmem
  split_ifs at hentry
  · obtain ⟨origin, -, rfl⟩ := List.mem_map.1 hentry
    exact (by decide : ("compose_duplicate_target" : String) ≠ traversalId)
  · cases hentry

variable (home : Option (List Char)) (pathState) (projectRoot : String)
  (documents : List ComposeDocument)

/-- No scan reports a parent traversal. -/
theorem scan_ids : ∀ diagnostic ∈ (scanComposeFiles home pathState projectRoot documents).diagnostics,
    diagnostic.id ≠ traversalId := by
  have hread : Resolved home documents
      (documents.foldl (ComposeReading.parseComposeFile home) {}) := resolved_documents
  unfold scanComposeFiles
  intro diagnostic hmem
  split_ifs at hmem
  · rw [List.mem_singleton.1 hmem]
    exact (by decide : ("compose_no_files" : String) ≠ traversalId)
  · rcases List.mem_append.1 hmem with hmem | hmem
    · rcases List.mem_append.1 hmem with hmem | hmem
      · exact hread.diagnostics diagnostic hmem
      · obtain ⟨mount, hmount, hdiagnostic⟩ := List.mem_flatMap.1 hmem
        refine mountDiagnostics_id (fun resolved hsome => ?_) diagnostic hdiagnostic
        obtain ⟨document, -, hresolve⟩ := hread.mounts mount hmount
        obtain ⟨path, rfl⟩ := exists_resolved (hresolve.symm.trans hsome)
        rw [String.toList_ofList]
        exact no_traversal_resolved path
    · exact duplicateTargets_id _ diagnostic hmem

end

/-! Escaping sources -/

/-- A relative source that leaves the directory it is resolved against. -/
structure EscapingSource (home : Option (List Char)) (source : String) : Prop where
  relative : isAbsolute (sourcePath home source) = false
  drive : isWindowsAbsolutePath (sourcePath home source) = false
  escapes : Escapes (components (sourcePath home source))

/-- Base directory and source, joined. -/
def joinedSource (home : Option (List Char)) (document : ComposeDocument) (source : String) :
    List Char :=
  join document.baseDir (sourcePath home source)

/-- The resolved source leads where the joined path leads. -/
def ResolvesLexically (home : Option (List Char)) (document : ComposeDocument) (source : String)
    (mount : ComposeMount) : Prop :=
  mount.resolvedSource.map (fun resolved => place (components resolved.toList)) =
    some (place (components (joinedSource home document source)))

/-- What an operator is told of a mount that leaves its directory. -/
structure HandlesTraversal (home : Option (List Char)) (document : ComposeDocument)
    (source : String) (mount : ComposeMount) (scan : ComposeScan) : Prop where
  reported : ∃ diagnostic ∈ scan.diagnostics,
    diagnostic.id = traversalId ∧ diagnostic.origin = mount.origin
  resolved : ResolvesLexically home document source mount

theorem resolvesLexically_iff {home : Option (List Char)} {document : ComposeDocument}
    {source : String} {mount : ComposeMount} (hescaping : EscapingSource home source)
    (hresolved : mount.resolvedSource =
      resolveSource home document.baseDir .bind (some source)) :
    ResolvesLexically home document source mount ↔ isAbsolute document.baseDir = true ∨
      ¬ Escapes (components (joinedSource home document source)) := by
  have hrelative : (isAbsolute (sourcePath home source) ||
      isWindowsAbsolutePath (sourcePath home source)) = false := by
    rw [hescaping.relative, hescaping.drive]
    rfl
  have habsolute : isAbsolute (joinedSource home document source) =
      isAbsolute document.baseDir := isAbsolute_join _ hescaping.relative
  rw [ResolvesLexically, hresolved, resolveSource_bind, hrelative, Option.map_some,
    String.toList_ofList, Option.some.injEq, if_neg Bool.false_ne_true]
  change place (components (normalizeLexical (joinedSource home document source))) = _ ↔ _
  rw [place_normalizeLexical, ← habsolute, ← up_eq_zero_iff]
  constructor
  · intro h
    exact (congrArg Place.up h).symm
  · intro h
    rw [← h]

theorem mount_of_document {home : Option (List Char)} {document : ComposeDocument}
    {mount : ComposeMount}
    (h : mount ∈ (ComposeReading.parseComposeFile home {} document).mounts) :
    mount.resolvedSource = resolveSource home document.baseDir mount.kind mount.source := by
  have hread : Resolved home [document] (ComposeReading.parseComposeFile home {} document) :=
    resolved_empty.parseComposeFile List.mem_cons_self
  obtain ⟨other, hother, hresolved⟩ := hread.mounts mount h
  rw [List.mem_singleton.1 hother] at hresolved
  exact hresolved

/-- No escaping bind source is ever reported, and it resolves to the joined path only where
that path does not lead above its own start. -/
theorem escaping_source_not_handled (home : Option (List Char)) (pathState : String → PathState)
    (projectRoot : String) (documents : List ComposeDocument) (document : ComposeDocument)
    (mount : ComposeMount)
    (hmount : mount ∈ (ComposeReading.parseComposeFile home {} document).mounts)
    (hkind : mount.kind = .bind) (source : String) (hsource : mount.source = some source)
    (hescaping : EscapingSource home source) :
    ¬ HandlesTraversal home document source mount
        (scanComposeFiles home pathState projectRoot documents) ∧
      (ResolvesLexically home document source mount ↔ isAbsolute document.baseDir = true ∨
        ¬ Escapes (components (joinedSource home document source))) := by
  constructor
  · rintro ⟨⟨diagnostic, hmem, hid, -⟩, -⟩
    exact scan_ids pathState home projectRoot documents diagnostic hmem hid
  · refine resolvesLexically_iff hescaping ?_
    rw [mount_of_document hmount, hkind, hsource]

/-- One service that binds a directory beside its own. -/
def siblingDocument : ComposeDocument where
  file := "/srv/app/compose.yml"
  baseDir := "/srv/app".toList
  content := .ok (.mapping [(.string "services", .mapping [(.string "web", .mapping
    [(.string "volumes", .sequence [.string "../keys:/keys"])])])])

def siblingMount : ComposeMount where
  id := "/srv/app/compose.yml:web:0"
  service := "web"
  kind := .bind
  source := some "../keys"
  resolvedSource := some "/srv/keys"
  target := "/keys"
  readOnly := false
  origin := ⟨"/srv/app/compose.yml", some "web", "services.web.volumes[0]"⟩

theorem mounts_sibling :
    (ComposeReading.parseComposeFile none {} siblingDocument).mounts = [siblingMount] := by
  decide +kernel

theorem escaping_sibling : EscapingSource none "../keys" := by
  refine ⟨by decide +kernel, by decide +kernel, [.parentDir], ?_, by decide +kernel⟩
  exact ⟨[.normal "keys".toList], by decide +kernel⟩

theorem escaping_source_not_handled_applied :
    ¬ HandlesTraversal none siblingDocument "../keys" siblingMount
        (scanComposeFiles none (fun _ => .other) "/srv" [siblingDocument]) ∧
      (ResolvesLexically none siblingDocument "../keys" siblingMount ↔
        isAbsolute siblingDocument.baseDir = true ∨
          ¬ Escapes (components (joinedSource none siblingDocument "../keys"))) :=
  escaping_source_not_handled none (fun _ => .other) "/srv" [siblingDocument] siblingDocument
    siblingMount (mounts_sibling ▸ List.mem_cons_self) rfl "../keys" rfl escaping_sibling

theorem sibling_not_reported :
    ¬ ∀ (home : Option (List Char)) (pathState : String → PathState) (projectRoot : String)
      (document : ComposeDocument) (mount : ComposeMount) (source : String),
      mount ∈ (ComposeReading.parseComposeFile home {} document).mounts →
      mount.kind = .bind → mount.source = some source → EscapingSource home source →
      HandlesTraversal home document source mount
        (scanComposeFiles home pathState projectRoot [document]) := by
  intro h
  have hhandled := h none (fun _ => .other) "/srv" siblingDocument siblingMount "../keys"
    (mounts_sibling ▸ List.mem_cons_self) rfl rfl escaping_sibling
  obtain ⟨diagnostic, hmem, hid, -⟩ := hhandled.reported
  exact scan_ids _ none "/srv" [siblingDocument] diagnostic hmem hid

end DockerMap
