import OpenShield.Daemon.XtablesSave

/-!
# Other xtables worlds

A kernel keeps the rules of the legacy tools apart from those of the nf_tables ones. Before the
daemon relies on one of these worlds it asks every trusted save tool for the tables of the
others. Tools with the same executable are asked once, and so are tools of the same world. An
installation in another world stops the daemon, and so does a tool that can not be asked.

Tools with the same executable count as one even if they report different worlds.
-/

namespace OpenShield

/-! ### Outputs -/

instance lawfulBEq_line : LawfulBEq Line := inferInstance

def XtablesSnapshot.hasOpenshieldArtifacts (snapshot : XtablesSnapshot) : Bool :=
  (allOwnedXtablesChains.any fun chain => decide (chain.name ∈ snapshot.declaredChains)) ||
    snapshot.orderedRules.any fun rule => allOwnedXtablesChains.any fun chain => ruleJumpsTo chain rule

def isSupportedTable (table : Line) : Bool := table = "filter".toList || table = "mangle".toList

def isTableName (table : Line) : Bool :=
  table ≠ [] && decide ((String.ofList table).utf8ByteSize ≤ 32) &&
    table.all fun c => c.isLower || c.isDigit || c = '_'

/-- A line of a table is read twice. What is left of a carriage return before its end is dropped
the second time. -/
def dropReturn (line : Line) : Line :=
  if line.getLast? = some (Char.ofNat 0xd) then line.dropLast else line

structure WorldReader where
  tables : List Line
  currentTable : Option Line
  supportedTable : List Line
  hasArtifacts : Bool

def tableHasArtifacts (lines : List Line) : Except String Bool := do
  let snapshot ← parseXtablesSave (lines.map dropReturn)
  return snapshot.hasOpenshieldArtifacts

namespace WorldReader

def openTable (reader : WorldReader) (table line : Line) : Except String WorldReader := do
  ensure (reader.currentTable = none) "nested table in combined xtables-save output"
  ensure (isTableName table = true) "invalid table name in combined xtables-save output"
  ensure (table ∉ reader.tables) "duplicate table in combined xtables-save output"
  return { reader with
    tables := table :: reader.tables
    currentTable := some table
    supportedTable :=
      if isSupportedTable table then reader.supportedTable ++ [line] else reader.supportedTable }

def closeTable (reader : WorldReader) : Except String WorldReader :=
  match reader.currentTable with
  | none => .error "xtables COMMIT has no table"
  | some table =>
    if isSupportedTable table then do
      let found ← tableHasArtifacts (reader.supportedTable ++ [Iptables.commitLine])
      return { reader with
        currentTable := none, supportedTable := [], hasArtifacts := reader.hasArtifacts || found }
    else .ok { reader with currentTable := none }

def readLine (reader : WorldReader) (line : Line) : Except String WorldReader :=
  match Text.stripBeginning ['*'] line with
  | some table => reader.openTable table line
  | none =>
    if line = Iptables.commitLine then reader.closeTable
    else
      match reader.currentTable with
      | some table =>
        .ok (if isSupportedTable table then
          { reader with supportedTable := reader.supportedTable ++ [line] } else reader)
      | none => do
        ensure (line = [] ∨ ['#'].isPrefixOf line = true)
          "unexpected data outside a table in combined xtables-save output"
        return reader

end WorldReader

def parseXtablesWorldSave (lines : List Line) : Except String Bool := do
  let reader ← lines.foldlM WorldReader.readLine ⟨[], none, [], false⟩
  ensure (reader.currentTable = none) "unterminated table in combined xtables-save output"
  ensure (reader.supportedTable = []) "incomplete supported table in combined xtables-save output"
  return reader.hasArtifacts

def IsTableBody (body : List Line) : Prop :=
  ∀ line ∈ body, Text.stripBeginning ['*'] line = none ∧ line ≠ Iptables.commitLine

/-- Outputs whose tables have different names, are closed and not nested, with nothing but
comments between them, and without traces of OpenShield in the supported ones. The names of
tables that came before are given. -/
inductive CleanOutput : List Line → List Line → Prop
  | done (tables : List Line) : CleanOutput tables []
  | outside {tables rest : List Line} {line : Line} (comment : line = [] ∨ ['#'].isPrefixOf line)
      (clean : CleanOutput tables rest) : CleanOutput tables (line :: rest)
  | table {tables body rest : List Line} {table line : Line}
      (opens : Text.stripBeginning ['*'] line = some table) (name : isTableName table = true)
      (new : table ∉ tables) (inside : IsTableBody body)
      (unused : isSupportedTable table = true →
        tableHasArtifacts (line :: body ++ [Iptables.commitLine]) = .ok false)
      (clean : CleanOutput (table :: tables) rest) :
      CleanOutput tables (line :: body ++ Iptables.commitLine :: rest)

namespace WorldReader

def Clean (reader : WorldReader) (lines : List Line) : Prop :=
  match reader.currentTable with
  | none => reader.supportedTable = [] → CleanOutput reader.tables lines
  | some table => ∃ body rest, lines = body ++ Iptables.commitLine :: rest ∧ IsTableBody body ∧
      (isSupportedTable table = true →
        tableHasArtifacts (reader.supportedTable ++ body ++ [Iptables.commitLine]) = .ok false) ∧
      ((isSupportedTable table = false → reader.supportedTable = []) →
        CleanOutput reader.tables rest)

variable {reader next : WorldReader} {line : Line} {rest : List Line}

theorem openTable_clean {table : Line} (hline : Text.stripBeginning ['*'] line = some table)
    (h : reader.openTable table line = .ok next) (hclean : next.Clean rest) :
    reader.hasArtifacts = next.hasArtifacts ∧ reader.Clean (line :: rest) := by
  obtain ⟨houtside, h⟩ := Except.bind_unit_eq_ok_iff.mp h
  obtain ⟨hname, h⟩ := Except.bind_unit_eq_ok_iff.mp h
  obtain ⟨hnew, h⟩ := Except.bind_unit_eq_ok_iff.mp h
  rw [ensure_eq_ok_iff] at houtside hname hnew
  cases h
  obtain ⟨body, rest', rfl, hinside, hunused, hrest⟩ := hclean
  refine ⟨rfl, ?_⟩
  unfold Clean
  rw [houtside]
  intro hsupported
  simp only [hsupported, List.nil_append] at hunused hrest
  refine .table hline hname hnew hinside (fun h => ?_) (hrest fun h => if_neg (by simp [h]))
  simpa [h] using hunused h

theorem closeTable_clean (h : reader.closeTable = .ok next) (hfound : next.hasArtifacts = false)
    (hclean : next.Clean rest) :
    reader.hasArtifacts = false ∧ reader.Clean (Iptables.commitLine :: rest) := by
  unfold closeTable at h
  unfold Clean
  cases hcurrent : reader.currentTable with
  | none =>
    rw [hcurrent] at h
    cases h
  | some table =>
    rw [hcurrent] at h
    simp only at h ⊢
    split at h
    · next hsupported =>
      obtain ⟨found, hchecked, h⟩ := Except.bind_eq_ok_iff.mp h
      cases h
      obtain ⟨hbefore, rfl⟩ := Bool.or_eq_false_iff.mp hfound
      refine ⟨hbefore, [], rest, rfl, nofun, fun _ => ?_, fun _ => hclean rfl⟩
      rwa [List.append_nil]
    · next hsupported =>
      cases h
      refine ⟨hfound, [], rest, rfl, nofun, fun h => absurd h hsupported, fun hnone => ?_⟩
      exact hclean (hnone (Bool.eq_false_iff.mpr hsupported))

theorem readLine_clean (h : reader.readLine line = .ok next) (hfound : next.hasArtifacts = false)
    (hclean : next.Clean rest) :
    reader.hasArtifacts = false ∧ reader.Clean (line :: rest) := by
  unfold readLine at h
  split at h
  · next table hline =>
    obtain ⟨hsame, hclean⟩ := openTable_clean hline h hclean
    exact ⟨hsame.trans hfound, hclean⟩
  · next hline =>
    split at h
    · next hcommit =>
      rw [hcommit]
      exact closeTable_clean h hfound hclean
    · next hcommit =>
      cases hcurrent : reader.currentTable with
      | none =>
        rw [hcurrent] at h
        obtain ⟨hcomment, h⟩ := Except.bind_unit_eq_ok_iff.mp h
        cases h
        refine ⟨hfound, ?_⟩
        unfold Clean at hclean ⊢
        rw [hcurrent] at hclean ⊢
        exact fun hsupported => .outside ((ensure_eq_ok_iff _ _ _).mp hcomment) (hclean hsupported)
      | some table =>
        rw [hcurrent] at h
        cases h
        unfold Clean at hclean ⊢
        rw [hcurrent]
        by_cases hsupported : isSupportedTable table = true
        · simp only [hsupported, if_true, List.append_assoc] at hclean hfound ⊢
          obtain ⟨body, rest', rfl, hinside, hunused, hrest⟩ := hclean
          refine ⟨hfound, line :: body, rest', rfl, ?_, hunused, fun _ => hrest nofun⟩
          exact List.forall_mem_cons.mpr ⟨⟨hline, hcommit⟩, hinside⟩
        · rw [if_neg hsupported] at hclean hfound
          rw [hcurrent] at hclean
          obtain ⟨body, rest', rfl, hinside, -, hrest⟩ := hclean
          refine ⟨hfound, line :: body, rest', rfl, ?_, fun h => absurd h hsupported, hrest⟩
          exact List.forall_mem_cons.mpr ⟨⟨hline, hcommit⟩, hinside⟩

end WorldReader

theorem clean_of_parse {lines : List Line} (h : parseXtablesWorldSave lines = .ok false) :
    CleanOutput [] lines := by
  obtain ⟨final, hread, h⟩ := Except.bind_eq_ok_iff.mp h
  obtain ⟨hclosed, h⟩ := Except.bind_unit_eq_ok_iff.mp h
  obtain ⟨-, h⟩ := Except.bind_unit_eq_ok_iff.mp h
  have hfound : final.hasArtifacts = false := Except.ok.inj h
  rw [ensure_eq_ok_iff] at hclosed
  have hrun (reader : WorldReader) (hread : lines.foldlM WorldReader.readLine reader = .ok final) :
      reader.hasArtifacts = false ∧ reader.Clean lines := by
    clear * - hread hclosed hfound
    induction lines generalizing reader with
    | nil =>
      cases hread
      refine ⟨hfound, ?_⟩
      unfold WorldReader.Clean
      rw [hclosed]
      exact fun _ => .done _
    | cons line lines ih =>
      obtain ⟨next, hline, hread⟩ := Except.bind_eq_ok_iff.mp hread
      obtain ⟨hnext, hclean⟩ := ih next hread
      exact WorldReader.readLine_clean hline hnext hclean
  exact (hrun _ hread).2 rfl

/-! ### Save tools -/

/-- The rule sets of a kernel. -/
inductive XtablesWorld
  | legacy
  | nft
  deriving DecidableEq, Repr

/-- The executable behind a path, and the world that it reports. -/
structure XtablesIdentity where
  resolved : String
  world : XtablesWorld
  deriving DecidableEq

inductive XtablesWorldInspection
  | captured (output : List Line)
  | backendAbsent

/-- What a save tool does when it is validated, identified, asked for its tables and identified
again. The diagnostics that it may print depend on whether the legacy world is covered. -/
structure SaveTool where
  save : String
  valid : Bool
  before : Except String XtablesIdentity
  inspection : Bool → Except String XtablesWorldInspection
  after : Except String XtablesIdentity

structure WorldSearch where
  inspectedPaths : List String
  inspectedWorlds : List XtablesWorld
  failures : List String

def WorldSearch.fail (search : WorldSearch) (message : String) : WorldSearch :=
  { search with failures := search.failures ++ [message] }

def inspectXtablesWorld : Except String XtablesWorldInspection → Except String Bool
  | .error error => .error error
  | .ok (.captured output) => parseXtablesWorldSave output
  | .ok .backendAbsent => .ok false

section Search

variable (excluded : Option XtablesIdentity)

def xtablesWorldIsCovered (inspected : List XtablesWorld) (world : XtablesWorld) : Bool :=
  (excluded.any fun identity => identity.world = world) || inspected.contains world

def isKnownExecutable (inspected : List String) (resolved : String) : Bool :=
  (excluded.any fun identity => identity.resolved = resolved) || inspected.contains resolved

/-- Look at a tool. Nothing is left to do once an installation is found. The second identification
counts before the result of the inspection. -/
def inspectTool (search : WorldSearch) (tool : SaveTool) : Option WorldSearch :=
  if tool.valid = false then some search
  else
    match tool.before with
    | .error error =>
      some (search.fail (tool.save ++ ": cannot identify xtables backend: " ++ error))
    | .ok identity =>
      if isKnownExecutable excluded search.inspectedPaths identity.resolved then some search
      else
        let asked := { search with inspectedPaths := identity.resolved :: search.inspectedPaths }
        match tool.after with
        | .error error =>
          some (asked.fail (tool.save ++ ": cannot re-identify xtables backend: " ++ error))
        | .ok identityAfter =>
          if identity ≠ identityAfter then
            some (asked.fail
              (tool.save ++ ": xtables executable identity changed during inspection"))
          else if xtablesWorldIsCovered excluded search.inspectedWorlds identity.world then
            some asked
          else
            let inspected := { asked with inspectedWorlds := identity.world :: asked.inspectedWorlds }
            match inspectXtablesWorld (tool.inspection
                (xtablesWorldIsCovered excluded search.inspectedWorlds .legacy)) with
            | .ok true => none
            | .ok false => some inspected
            | .error error => some (inspected.fail (tool.save ++ ": " ++ error))

def activeXtablesWorlds (tools : List SaveTool) : Except String Bool :=
  match tools.foldlM (inspectTool excluded) ⟨[], [], []⟩ with
  | none => .ok true
  | some search => do
    ensure (search.failures = [])
      ("one or more trusted xtables-save worlds could not be inspected: " ++
        String.intercalate "; " search.failures)
    return false

/-! ### What was inspected -/

def SaveTool.Identifies (tool : SaveTool) (identity : XtablesIdentity) : Prop :=
  tool.valid = true ∧ tool.before = .ok identity

/-- The answer of a tool shows that its world is absent, or all of its tables without traces of
OpenShield. -/
def SaveTool.ShowsClean (tool : SaveTool) : Prop :=
  ∃ legacyCovered, tool.inspection legacyCovered = .ok .backendAbsent ∨
    ∃ output, tool.inspection legacyCovered = .ok (.captured output) ∧ CleanOutput [] output

def Inspected (tools : List SaveTool) (world : XtablesWorld) : Prop :=
  ∃ tool ∈ tools, ∃ identity, tool.Identifies identity ∧ tool.after = .ok identity ∧
    identity.world = world ∧ tool.ShowsClean

variable {excluded}

theorem showsClean_of_inspect {tool : SaveTool} {legacyCovered : Bool}
    (h : inspectXtablesWorld (tool.inspection legacyCovered) = .ok false) : tool.ShowsClean := by
  refine ⟨legacyCovered, ?_⟩
  cases hanswer : tool.inspection legacyCovered with
  | error error =>
    rw [hanswer] at h
    cases h
  | ok answer =>
    rw [hanswer] at h
    cases answer with
    | backendAbsent => exact .inl rfl
    | captured output => exact .inr ⟨output, rfl, clean_of_parse h⟩

theorem inspectTool_cases {search next : WorldSearch} {tool : SaveTool}
    (h : inspectTool excluded search tool = some next) (hnext : next.failures = []) :
    search.failures = [] ∧
      ((tool.valid = false ∧ next = search) ∨ ∃ identity, tool.Identifies identity ∧
        ((isKnownExecutable excluded search.inspectedPaths identity.resolved = true ∧
            next = search) ∨
          (tool.after = .ok identity ∧
            next.inspectedPaths = identity.resolved :: search.inspectedPaths ∧
            ((xtablesWorldIsCovered excluded search.inspectedWorlds identity.world = true ∧
                next.inspectedWorlds = search.inspectedWorlds) ∨
              (next.inspectedWorlds = identity.world :: search.inspectedWorlds ∧
                tool.ShowsClean))))) := by
  have hfail {search : WorldSearch} {message : String}
      (hnone : (search.fail message).failures = []) : False := by
    simp [WorldSearch.fail] at hnone
  unfold inspectTool at h
  split at h
  · next hvalid =>
    cases h
    exact ⟨hnext, .inl ⟨hvalid, rfl⟩⟩
  · next hvalid =>
    have hvalid : tool.valid = true := by simpa using hvalid
    cases hbefore : tool.before with
    | error error =>
      rw [hbefore] at h
      cases h
      exact (hfail hnext).elim
    | ok identity =>
      rw [hbefore] at h
      simp only at h
      split at h
      · next hknown =>
        cases h
        exact ⟨hnext, .inr ⟨identity, ⟨hvalid, hbefore⟩, .inl ⟨hknown, rfl⟩⟩⟩
      · cases hafter : tool.after with
        | error error =>
          rw [hafter] at h
          cases h
          exact (hfail hnext).elim
        | ok identityAfter =>
          rw [hafter] at h
          simp only at h
          split_ifs at h with hsame hcovered
          · cases h
            exact (hfail hnext).elim
          · cases h
            rw [not_not] at hsame
            exact ⟨hnext, .inr ⟨identity, ⟨hvalid, hbefore⟩,
              .inr ⟨by rw [hsame], rfl, .inl ⟨hcovered, rfl⟩⟩⟩⟩
          · rw [not_not] at hsame
            split at h
            · cases h
            · next hclean =>
              cases h
              exact ⟨hnext, .inr ⟨identity, ⟨hvalid, hbefore⟩,
                .inr ⟨by rw [hsame], rfl, .inr ⟨rfl, showsClean_of_inspect hclean⟩⟩⟩⟩
            · cases h
              exact (hfail hnext).elim

/-- What a search without failures says about the tools so far. -/
structure WorldSearch.Covers (excluded : Option XtablesIdentity) (search : WorldSearch)
    (tools : List SaveTool) : Prop where
  known : ∀ tool ∈ tools, tool.valid = true → ∃ identity, tool.before = .ok identity ∧
    isKnownExecutable excluded search.inspectedPaths identity.resolved = true
  paths : ∀ path ∈ search.inspectedPaths, ∃ tool ∈ tools, ∃ identity, tool.Identifies identity ∧
    identity.resolved = path ∧
    xtablesWorldIsCovered excluded search.inspectedWorlds identity.world = true
  worlds : ∀ world ∈ search.inspectedWorlds, Inspected tools world

theorem Inspected.mono {tools more : List SaveTool} {world : XtablesWorld}
    (h : Inspected tools world) (hmore : tools ⊆ more) : Inspected more world := by
  obtain ⟨tool, htool, hrest⟩ := h
  exact ⟨tool, hmore htool, hrest⟩

theorem isKnownExecutable_iff {paths : List String} {resolved : String} :
    isKnownExecutable excluded paths resolved = true ↔
      (∃ other ∈ excluded, other.resolved = resolved) ∨ resolved ∈ paths := by
  cases excluded <;> simp [isKnownExecutable]

theorem xtablesWorldIsCovered_iff {worlds : List XtablesWorld} {world : XtablesWorld} :
    xtablesWorldIsCovered excluded worlds world = true ↔
      (∃ other ∈ excluded, other.world = world) ∨ world ∈ worlds := by
  cases excluded <;> simp [xtablesWorldIsCovered]

namespace WorldSearch.Covers

variable {search next : WorldSearch} {tools : List SaveTool} {tool : SaveTool}

theorem extend (h : search.Covers excluded tools)
    (hpaths : search.inspectedPaths ⊆ next.inspectedPaths)
    (hworlds : search.inspectedWorlds ⊆ next.inspectedWorlds)
    (htool : tool.valid = true → ∃ identity, tool.before = .ok identity ∧
      isKnownExecutable excluded next.inspectedPaths identity.resolved = true)
    (hnewPaths : ∀ path ∈ next.inspectedPaths, path ∈ search.inspectedPaths ∨
      ∃ identity, tool.Identifies identity ∧ identity.resolved = path ∧
        xtablesWorldIsCovered excluded next.inspectedWorlds identity.world = true)
    (hnewWorlds : ∀ world ∈ next.inspectedWorlds, world ∈ search.inspectedWorlds ∨
      Inspected [tool] world) : next.Covers excluded (tools ++ [tool]) := by
  have hsub : tools ⊆ tools ++ [tool] := List.subset_append_left _ _
  refine ⟨List.forall_mem_append.mpr ⟨fun other hother hvalid => ?_,
    List.forall_mem_singleton.mpr htool⟩, fun path hpath => ?_, fun world hworld => ?_⟩
  · obtain ⟨identity, hbefore, hknown⟩ := h.known other hother hvalid
    rw [isKnownExecutable_iff] at hknown
    exact ⟨identity, hbefore, isKnownExecutable_iff.mpr (hknown.imp_right fun h => hpaths h)⟩
  · obtain hold | hnew := hnewPaths path hpath
    · obtain ⟨other, hother, identity, hidentifies, hresolved, hcovered⟩ := h.paths path hold
      rw [xtablesWorldIsCovered_iff] at hcovered
      exact ⟨other, hsub hother, identity, hidentifies, hresolved,
        xtablesWorldIsCovered_iff.mpr (hcovered.imp_right fun h => hworlds h)⟩
    · exact ⟨tool, by simp, hnew⟩
  · obtain hold | hnew := hnewWorlds world hworld
    · exact (h.worlds world hold).mono hsub
    · exact hnew.mono (List.subset_append_right _ _)

theorem inspectTool (h : search.Covers excluded tools)
    (hstep : inspectTool excluded search tool = some next) (hnext : next.failures = []) :
    next.Covers excluded (tools ++ [tool]) := by
  obtain ⟨-, ⟨hinvalid, rfl⟩ | ⟨identity, hidentifies, hcase⟩⟩ := inspectTool_cases hstep hnext
  · exact h.extend (List.Subset.refl _) (List.Subset.refl _) (by simp [hinvalid])
      (fun _ => .inl) fun _ => .inl
  · obtain ⟨hknown, rfl⟩ | ⟨hafter, hpaths, hcase⟩ := hcase
    · exact h.extend (List.Subset.refl _) (List.Subset.refl _)
        (fun _ => ⟨identity, hidentifies.2, hknown⟩) (fun _ => .inl) fun _ => .inl
    · have hknown : isKnownExecutable excluded next.inspectedPaths identity.resolved = true := by
        simp [isKnownExecutable, hpaths]
      have hsub : search.inspectedPaths ⊆ next.inspectedPaths := by
        rw [hpaths]
        exact List.subset_cons_self _ _
      have hcases (path : String) (hpath : path ∈ next.inspectedPaths)
          (hcovered : xtablesWorldIsCovered excluded next.inspectedWorlds identity.world = true) :
          path ∈ search.inspectedPaths ∨ ∃ identity, tool.Identifies identity ∧
            identity.resolved = path ∧
            xtablesWorldIsCovered excluded next.inspectedWorlds identity.world = true := by
        rw [hpaths] at hpath
        obtain rfl | hold := List.mem_cons.mp hpath
        · exact .inr ⟨identity, hidentifies, rfl, hcovered⟩
        · exact .inl hold
      obtain ⟨hcovered, hworlds⟩ | ⟨hworlds, hclean⟩ := hcase
      · rw [← hworlds] at hcovered
        exact h.extend hsub (fun _ hworld => hworlds ▸ hworld)
          (fun _ => ⟨identity, hidentifies.2, hknown⟩)
          (fun path hpath => hcases path hpath hcovered) fun world hworld => .inl (hworlds ▸ hworld)
      · have hcovered : xtablesWorldIsCovered excluded next.inspectedWorlds identity.world = true := by
          simp [xtablesWorldIsCovered, hworlds]
        refine h.extend hsub (hworlds ▸ List.subset_cons_self _ _)
          (fun _ => ⟨identity, hidentifies.2, hknown⟩)
          (fun path hpath => hcases path hpath hcovered) fun world hworld => ?_
        rw [hworlds] at hworld
        obtain rfl | hold := List.mem_cons.mp hworld
        · exact .inr ⟨tool, List.mem_singleton_self _, identity, hidentifies, hafter, rfl, hclean⟩
        · exact .inl hold

end WorldSearch.Covers

theorem failures_of_run {tools : List SaveTool} {search final : WorldSearch}
    (h : tools.foldlM (inspectTool excluded) search = some final) (hfinal : final.failures = []) :
    search.failures = [] := by
  induction tools generalizing search with
  | nil =>
    cases h
    exact hfinal
  | cons tool tools ih =>
    obtain ⟨next, hstep, h⟩ := Option.bind_eq_some_iff.mp h
    exact (inspectTool_cases hstep (ih h)).1

theorem WorldSearch.Covers.run {tools more : List SaveTool} {search final : WorldSearch}
    (h : search.Covers excluded tools)
    (hrun : more.foldlM (OpenShield.inspectTool excluded) search = some final)
    (hfinal : final.failures = []) : final.Covers excluded (tools ++ more) := by
  induction more generalizing search tools with
  | nil =>
    cases hrun
    simpa using h
  | cons tool more ih =>
    obtain ⟨next, hstep, hrun⟩ := Option.bind_eq_some_iff.mp hrun
    have hnext := h.inspectTool hstep (failures_of_run hrun hfinal)
    simpa using ih hnext hrun

def OneWorldEach (excluded : Option XtablesIdentity) (tools : List SaveTool) : Prop :=
  ∀ tool ∈ tools, ∀ identity, tool.Identifies identity →
    (∀ other ∈ excluded, other.resolved = identity.resolved → other.world = identity.world) ∧
    ∀ tool' ∈ tools, ∀ other, tool'.Identifies other → other.resolved = identity.resolved →
      other.world = identity.world

end Search

namespace Sample

def saveTool (world : XtablesWorld) (output : List String) : SaveTool :=
  ⟨"iptables-save", true, .ok ⟨"/x", world⟩, fun _ => .ok (.captured (output.map String.toList)),
    .ok ⟨"/x", world⟩⟩

def emptyFilter : List String := ["*filter", ":INPUT ACCEPT [0:0]", "COMMIT"]

end Sample

end OpenShield
