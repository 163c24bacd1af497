import DockerMap.Lib.TextSearch

/-! Slash-separated paths read by their text alone: components, joining, and where a path
leads when each `..` takes back the name before it. -/

namespace LexicalPath

inductive Component
  | rootDir
  | curDir
  | parentDir
  | normal (name : List Char)
  deriving DecidableEq

def isAbsolute (path : List Char) : Bool := path.head? == some '/'

/-- An empty piece and a dot inside a path stand for nothing. -/
def component? (piece : List Char) : Option Component :=
  if piece = [] ∨ piece = ['.'] then none
  else if piece = ['.', '.'] then some .parentDir
  else some (.normal piece)

/-- What a path begins with before its names: the root, or a dot that is kept. -/
def leading (path : List Char) : List Component :=
  if isAbsolute path then [.rootDir]
  else if (path.splitOn '/').head? = some ['.'] then [.curDir] else []

def components (path : List Char) : List Component :=
  leading path ++ (path.splitOn '/').filterMap component?

/-- An absolute path replaces the base. -/
def join (base path : List Char) : List Char :=
  if isAbsolute path then path
  else if base = [] ∨ base.getLast? = some '/' then base ++ path
  else base ++ '/' :: path

def Component.isNormal : Component → Bool
  | .normal _ => true
  | _ => false

/-- More steps up than names. -/
def Climbs (components : List Component) : Prop :=
  components.countP Component.isNormal < components.count .parentDir

instance (components : List Component) : Decidable (Climbs components) :=
  inferInstanceAs (Decidable (_ < _))

/-- Some prefix climbs above where the path starts. -/
def Escapes (components : List Component) : Prop := ∃ front, front <+: components ∧ Climbs front

/-- Where a path leads: from the root or not, the steps up that no name took back, and the
names after them. -/
structure Place where
  rooted : Bool := false
  up : ℕ := 0
  names : List (List Char) := []
  deriving DecidableEq

/-- Above the root there is only the root. -/
def Place.step (place : Place) : Component → Place
  | .rootDir => ⟨true, 0, []⟩
  | .curDir => place
  | .parentDir =>
      if place.names ≠ [] then { place with names := place.names.dropLast }
      else if place.rooted then place
      else { place with up := place.up + 1 }
  | .normal name => { place with names := place.names ++ [name] }

def place (components : List Component) : Place := components.foldl Place.step {}

/-- The text of a path that takes no step up. -/
def text (rooted : Bool) (names : List (List Char)) : List Char :=
  (if rooted then ['/'] else []) ++ List.intercalate ['/'] names

/-- What can stand between two slashes as a name. -/
def ProperName (name : List Char) : Prop :=
  '/' ∉ name ∧ name ≠ [] ∧ name ≠ ['.'] ∧ name ≠ ['.', '.']

variable {path : List Char} {cs : List Component} {rooted : Bool} {names : List (List Char)}

theorem component?_proper {name : List Char} (h : ProperName name) :
    component? name = some (.normal name) := by
  rw [component?, if_neg (not_or.2 ⟨h.2.1, h.2.2.1⟩), if_neg h.2.2.2]

theorem splitOn_eq (path : List Char) : path.splitOn '/' = path.splitOnP (· == '/') :=
  List.splitOn_eq_splitOnP

theorem proper_of_mem_components {name : List Char} (h : .normal name ∈ components path) :
    ProperName name := by
  rcases List.mem_append.1 h with hlead | hpiece
  · unfold leading at hlead
    split_ifs at hlead <;> simp at hlead
  · obtain ⟨piece, hmem, hcomponent⟩ := List.mem_filterMap.1 hpiece
    rw [splitOn_eq] at hmem
    have hslash : '/' ∉ piece := by
      intro hin
      have hno := (Text.parts_of_mem_splitOnP hmem).1 _ hin
      exact absurd hno (by decide)
    unfold component? at hcomponent
    split_ifs at hcomponent with hempty hup
    · cases hcomponent
    · obtain rfl : piece = name := Component.normal.inj (Option.some.inj hcomponent)
      exact ⟨hslash, fun h => hempty (.inl h), fun h => hempty (.inr h), hup⟩

theorem filterMap_component? (h : ∀ name ∈ names, ProperName name) :
    names.filterMap component? = names.map .normal := by
  rw [List.filterMap_congr fun name hname => component?_proper (h name hname),
    ← List.filterMap_eq_map]
  rfl

/-! The text of a place -/

theorem filterMap_intercalate (h : ∀ name ∈ names, ProperName name) :
    ((List.intercalate ['/'] names).splitOn '/').filterMap component? = names.map .normal := by
  by_cases hnil : names = []
  · subst hnil
    rfl
  · rw [List.splitOn_intercalate '/' (fun name hname => (h name hname).1) hnil,
      filterMap_component? h]

theorem leading_intercalate (h : ∀ name ∈ names, ProperName name) :
    leading (List.intercalate ['/'] names) = [] := by
  cases names with
  | nil => rfl
  | cons name names =>
    have hproper := h name List.mem_cons_self
    obtain ⟨c, rest, rfl⟩ := List.exists_cons_of_ne_nil hproper.2.1
    have hsplit := List.splitOn_intercalate '/' (fun name hname => (h name hname).1)
      (List.cons_ne_nil (c :: rest) names)
    have habsolute : isAbsolute (List.intercalate ['/'] ((c :: rest) :: names)) = false := by
      have hc : c ≠ '/' := fun heq => hproper.1 (heq ▸ List.mem_cons_self)
      cases names with
      | nil => simpa [isAbsolute, List.intercalate] using hc
      | cons next names => simpa [isAbsolute, List.intercalate] using hc
    unfold leading
    rw [habsolute, hsplit]
    simp [hproper.2.2.1]

theorem components_text (h : ∀ name ∈ names, ProperName name) :
    components (text rooted names) =
      (if rooted then [.rootDir] else []) ++ names.map .normal := by
  cases rooted with
  | false =>
    have htext : text false names = List.intercalate ['/'] names := List.nil_append _
    rw [components, htext, leading_intercalate h, filterMap_intercalate h]
    rfl
  | true =>
    have htext : text true names = '/' :: List.intercalate ['/'] names := rfl
    have hsplit : ('/' :: List.intercalate ['/'] names).splitOn '/' =
        [] :: (List.intercalate ['/'] names).splitOn '/' := by
      rw [List.splitOn_cons_eq_if_modifyHead, if_pos (by decide)]
    rw [components, htext, hsplit, List.filterMap_cons, filterMap_intercalate h]
    rfl

theorem foldl_names (start : Place) (names : List (List Char)) :
    (names.map Component.normal).foldl Place.step start =
      { start with names := start.names ++ names } := by
  induction names generalizing start with
  | nil => simp
  | cons name names ih =>
    rw [List.map_cons, List.foldl_cons, ih]
    simp [Place.step]

/-- A text without steps up leads where it says. -/
theorem place_text (h : ∀ name ∈ names, ProperName name) :
    place (components (text rooted names)) = ⟨rooted, 0, names⟩ := by
  rw [place, components_text h, List.foldl_append, foldl_names]
  cases rooted <;> rfl

theorem parentDir_not_mem_text (h : ∀ name ∈ names, ProperName name) :
    .parentDir ∉ components (text rooted names) := by
  rw [components_text h]
  cases rooted <;> simp

/-! Where components lead -/

theorem place_snoc (cs : List Component) (c : Component) :
    place (cs ++ [c]) = (place cs).step c := by
  rw [place, List.foldl_append]
  rfl

theorem mem_names_place {name : List Char} (h : name ∈ (place cs).names) : .normal name ∈ cs := by
  induction cs using List.reverseRecOn with
  | nil => cases h
  | append_singleton cs c ih =>
    rw [place_snoc] at h
    rw [List.mem_append]
    cases c with
    | rootDir => cases h
    | curDir => exact .inl (ih h)
    | parentDir =>
      unfold Place.step at h
      split_ifs at h
      · exact .inl (ih (List.mem_of_mem_dropLast h))
      · exact .inl (ih h)
      · exact .inl (ih h)
    | normal other =>
      rcases List.mem_append.1 h with h | h
      · exact .inl (ih h)
      · rw [List.mem_singleton.1 h]
        exact .inr List.mem_cons_self

theorem proper_names (path : List Char) :
    ∀ name ∈ (place (components path)).names, ProperName name :=
  fun _ h => proper_of_mem_components (mem_names_place h)

/-- What the steps of a relative path leave: names taken and steps up balance. -/
theorem balance_place (h : .rootDir ∉ cs) :
    (place cs).rooted = false ∧
      (place cs).names.length + cs.count .parentDir =
        (place cs).up + cs.countP Component.isNormal := by
  induction cs using List.reverseRecOn with
  | nil => exact ⟨rfl, rfl⟩
  | append_singleton cs c ih =>
    rw [List.mem_append, not_or] at h
    obtain ⟨hrooted, hbalance⟩ := ih h.1
    rw [place_snoc, List.count_append, List.countP_append]
    cases c with
    | rootDir => exact absurd List.mem_cons_self h.2
    | curDir => exact ⟨hrooted, hbalance⟩
    | parentDir =>
      have hone : List.count Component.parentDir [Component.parentDir] = 1 := rfl
      have hzero : List.countP Component.isNormal [Component.parentDir] = 0 := rfl
      rw [hone, hzero]
      unfold Place.step
      by_cases hnames : (place cs).names = []
      · simp only [hnames, ne_eq, not_true_eq_false, if_false, hrooted, Bool.false_eq_true,
          true_and, List.length_nil] at hbalance ⊢
        omega
      · have hpos := List.length_pos_iff.2 hnames
        simp only [ne_eq, hnames, not_false_eq_true, if_true, hrooted, List.length_dropLast,
          true_and]
        omega
    | normal name =>
      have hzero : List.count Component.parentDir [Component.normal name] = 0 := by simp
      have hone : List.countP Component.isNormal [Component.normal name] = 1 := rfl
      rw [hzero, hone]
      refine ⟨hrooted, ?_⟩
      simp only [Place.step, List.length_append, List.length_cons, List.length_nil]
      omega

theorem climbs_iff (h : .rootDir ∉ cs) : Climbs cs ↔ (place cs).names.length < (place cs).up := by
  have hbalance := (balance_place h).2
  rw [Climbs]
  omega

theorem escapes_snoc {c : Component} : Escapes (cs ++ [c]) ↔ Escapes cs ∨ Climbs (cs ++ [c]) := by
  unfold Escapes
  constructor
  · rintro ⟨front, hfront, hclimbs⟩
    rcases List.prefix_concat_iff.1 hfront with rfl | hfront
    · exact .inr hclimbs
    · exact .inl ⟨front, hfront, hclimbs⟩
  · rintro (⟨front, hfront, hclimbs⟩ | hclimbs)
    · exact ⟨front, hfront.trans (List.prefix_append _ _), hclimbs⟩
    · exact ⟨_, List.prefix_rfl, hclimbs⟩

theorem up_step (start : Place) {c : Component} (h : c ≠ .rootDir) :
    start.up ≤ (start.step c).up ∧
      (start.up = 0 → (start.step c).up ≠ 0 → (start.step c).names.length < (start.step c).up) := by
  cases c with
  | rootDir => exact absurd rfl h
  | curDir => exact ⟨le_rfl, fun hzero hnot => absurd hzero hnot⟩
  | normal name => exact ⟨le_rfl, fun hzero hnot => absurd hzero hnot⟩
  | parentDir =>
    unfold Place.step
    split_ifs with hnames hrooted
    · exact ⟨le_rfl, fun hzero hnot => absurd hzero hnot⟩
    · exact ⟨le_rfl, fun hzero hnot => absurd hzero hnot⟩
    · rw [ne_eq, not_not] at hnames
      exact ⟨Nat.le_succ _, fun _ _ => by simp [hnames]⟩

/-- A relative path leads above its start exactly when some prefix climbs. -/
theorem up_ne_zero_iff (h : .rootDir ∉ cs) : (place cs).up ≠ 0 ↔ Escapes cs := by
  induction cs using List.reverseRecOn with
  | nil =>
    refine iff_of_false (fun hnot => hnot rfl) ?_
    rintro ⟨front, hfront, hclimbs⟩
    rw [List.prefix_nil.1 hfront] at hclimbs
    exact Nat.lt_irrefl 0 hclimbs
  | append_singleton cs c ih =>
    have hclimbs := climbs_iff h
    rw [List.mem_append, not_or] at h
    have hstep := up_step (place cs) (fun heq => h.2 (heq ▸ List.mem_cons_self))
    rw [escapes_snoc, hclimbs, ← ih h.1, place_snoc]
    constructor
    · intro hup
      by_cases hzero : (place cs).up = 0
      · exact .inr (hstep.2 hzero hup)
      · exact .inl hzero
    · rintro (hup | hless)
      · have hle := hstep.1
        omega
      · omega

theorem rootDir_not_mem_pieces (pieces : List (List Char)) :
    .rootDir ∉ pieces.filterMap component? := by
  intro hmem
  obtain ⟨piece, -, hcomponent⟩ := List.mem_filterMap.1 hmem
  unfold component? at hcomponent
  split_ifs at hcomponent <;> cases hcomponent

theorem rootDir_not_mem (h : isAbsolute path = false) : .rootDir ∉ components path := by
  intro hmem
  rcases List.mem_append.1 hmem with hlead | hpiece
  · unfold leading at hlead
    rw [if_neg (by simp [h])] at hlead
    split_ifs at hlead
    · cases List.mem_singleton.1 hlead
    · exact List.not_mem_nil hlead
  · exact rootDir_not_mem_pieces _ hpiece

/-- From the root no step up is left. -/
theorem foldl_rooted (h : .rootDir ∉ cs) (names : List (List Char)) :
    (cs.foldl Place.step ⟨true, 0, names⟩).rooted = true ∧
      (cs.foldl Place.step ⟨true, 0, names⟩).up = 0 := by
  induction cs generalizing names with
  | nil => exact ⟨rfl, rfl⟩
  | cons c cs ih =>
    rw [List.mem_cons, not_or] at h
    rw [List.foldl_cons]
    cases c with
    | rootDir => exact absurd rfl h.1
    | curDir => exact ih h.2 names
    | normal name => exact ih h.2 (names ++ [name])
    | parentDir =>
      unfold Place.step
      split_ifs with hnames hrooted
      · exact ih h.2 names.dropLast
      · exact ih h.2 names
      · exact absurd rfl hrooted

theorem place_absolute (h : isAbsolute path = true) :
    (place (components path)).rooted = true ∧ (place (components path)).up = 0 := by
  rw [components, leading, if_pos h]
  exact foldl_rooted (rootDir_not_mem_pieces _) []

/-- A path leads no step up exactly when it is absolute or never climbs. -/
theorem up_eq_zero_iff (path : List Char) :
    (place (components path)).up = 0 ↔
      isAbsolute path = true ∨ ¬ Escapes (components path) := by
  cases habsolute : isAbsolute path with
  | true => exact iff_of_true (place_absolute habsolute).2 (.inl rfl)
  | false =>
    rw [← up_ne_zero_iff (rootDir_not_mem habsolute), not_not]
    simp

theorem isAbsolute_join (base : List Char) (h : isAbsolute path = false) :
    isAbsolute (join base path) = isAbsolute base := by
  unfold join
  rw [if_neg (by simp [h])]
  cases base with
  | nil => rw [if_pos (.inl rfl), List.nil_append, h, isAbsolute, List.head?_nil]; rfl
  | cons c base => split_ifs <;> rfl

end LexicalPath
