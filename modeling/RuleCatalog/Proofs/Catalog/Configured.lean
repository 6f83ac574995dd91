import RuleCatalog.Proofs.Bundle.RoundTrip
import RuleCatalog.Proofs.Subscribing.Supplied

/-! # Catalogs that settings describe

A catalog that could be started has opened every file that is set, and serves each bundle from the
last file that carries it. Nothing is left that could fail between finding the file and getting the
bundle, and a project that is subscribed gets what is in this file.
-/

namespace RuleCatalog

/-- A file at the root is read by its name. -/
theorem Disk.read_entry {entries : List (FileName × FileTree)} {name : String} {content : ByteArray}
    (start : (⟨.directory entries, []⟩ : Disk).start name = .ok ([], [.down name]))
    (short : (FileName.ofString name).length ≤ FileTree.maxName)
    (noDirectory : Path.endsInDirectory name = false)
    (there : FileTree.child? entries (.ofString name) = some (.file content)) :
    (⟨.directory entries, []⟩ : Disk).read name = .ok content := by
  have fits : ¬ (FileName.ofString name).length > FileTree.maxName := Nat.not_lt.mpr short
  have followed : (FileTree.directory entries).follow FileTree.maxLinks [] [.down name] =
      .ok ([.ofString name], some (.file content)) := by
    rw [FileTree.follow]
    simp only [FileTree.at?, fits, if_false, there, List.nil_append]
    rw [FileTree.follow]
    simp only [FileTree.at?, there, Option.bind_some]
  simp only [Disk.read, Disk.find, start, bind, Except.bind, followed, noDirectory]
  rfl

namespace BundleFile

/-- The id of the bundle in a file. -/
def id (f : BundleFile) : BundleId := f.bundle.manifest.metadata.id

/-- A file into which a bundle was packed can be opened. -/
theorem load_packed {disk : Disk} {location : String} {p : BundleParts} {file : ByteArray}
    (read : disk.read location = .ok file) (packed : p.pack = .ok file) :
    load disk location = .ok ⟨location, ⟨p.manifest.told, p.packedContents⟩⟩ := by
  rw [load, read, Except.mapError]
  simp only [bind, Except.bind, BundleParts.ofArchive_eq packed, Except.mapError]
  rfl

end BundleFile

namespace Catalog

open Store Store.Memory Subscribing

variable {disk : Disk} {c : Catalog} {files : List BundleFile} {routes : Routes} {id : BundleId}

/-! ## Starting -/

/-- Files that were opened one after another where sources are set. -/
def Opened (disk : Disk) (sources : List SourceSetting) (files : List BundleFile) : Prop :=
  List.Forall₂ (fun source file => BundleFile.load disk source.normalized = .ok file) sources files

/-- The files that were opened are determined by the disk. -/
theorem Opened.unique {sources : List SourceSetting} {files' : List BundleFile}
    (opened : Opened disk sources files) (opened' : Opened disk sources files') : files = files' :=
  List.right_unique_forall₂'
    (fun _ _ _ loaded loaded' => Except.ok.inj (loaded.symm.trans loaded')) opened opened'

/-- The routes to files, those to the last ones first. -/
def routesTo (files : List BundleFile) : Routes := files.reverse.map fun f => (f.id, f.source)

theorem openSource_eq_ok_iff {setting : SourceSetting} {source : Source} :
    openSource disk setting = .ok source ↔
      ∃ file, BundleFile.load disk setting.normalized = .ok file ∧ file.source = source := by
  unfold openSource
  cases BundleFile.load disk setting.normalized <;> simp

theorem mapM_openSource_eq_ok_iff {settings : List SourceSetting} {sources : List Source} :
    settings.mapM (openSource disk) = .ok sources ↔
      ∃ files, Opened disk settings files ∧ files.map BundleFile.source = sources := by
  constructor
  · intro gathered
    induction settings generalizing sources with
    | nil =>
      cases gathered
      exact ⟨[], .nil, rfl⟩
    | cons setting settings ih =>
      rw [List.mapM_cons] at gathered
      obtain ⟨source, first, gathered⟩ := bind_eq_ok_iff.mp gathered
      obtain ⟨others, rest, gathered⟩ := bind_eq_ok_iff.mp gathered
      cases gathered
      obtain ⟨file, loaded, rfl⟩ := openSource_eq_ok_iff.mp first
      obtain ⟨files, later, rfl⟩ := ih rest
      exact ⟨file :: files, .cons loaded later, rfl⟩
  · rintro ⟨files, opened, rfl⟩
    induction opened with
    | nil => rfl
    | cons loaded _ ih =>
      have first := openSource_eq_ok_iff.mpr ⟨_, loaded, rfl⟩
      simp only [List.mapM_cons, first, ih]
      rfl

theorem foldlM_addRoutes (files : List BundleFile) (routes : Routes) :
    (files.map BundleFile.source).foldlM addRoutes routes = .ok (routesTo files ++ routes) := by
  induction files generalizing routes with
  | nil => rfl
  | cons f files ih =>
    have added : addRoutes routes f.source = .ok ((f.id, f.source) :: routes) := rfl
    simp only [List.map_cons, List.foldlM_cons, added, bind, Except.bind, ih]
    simp [routesTo]

/-- A catalog that is in use starts if nothing is wrong with the settings and all files that are
set can be opened. -/
theorem ofSettings_eq_ok_iff {settings : Settings} (enabled : settings.enabled = true) :
    ofSettings disk settings = .ok c ↔ settings.check = .ok () ∧
      ∃ files, Opened disk settings.sources files ∧ .routed (routesTo files) = c := by
  have start (files : List BundleFile) :
      ofSources (files.map BundleFile.source) = .ok (.routed (routesTo files)) := by
    rw [ofSources, foldlM_addRoutes, List.append_nil]
    rfl
  simp only [ofSettings, enabled, Bool.not_true, Bool.false_eq_true, if_false]
  cases checked : settings.check with
  | error flaw => exact ⟨nofun, nofun⟩
  | ok =>
    rw [bind_eq_ok_iff]
    constructor
    · rintro ⟨sources, gathered, started⟩
      obtain ⟨files, opened, rfl⟩ := mapM_openSource_eq_ok_iff.mp gathered
      exact ⟨rfl, files, opened, Except.ok.inj ((start files).symm.trans started)⟩
    · rintro ⟨-, files, opened, rfl⟩
      exact ⟨_, mapM_openSource_eq_ok_iff.mpr ⟨files, opened, rfl⟩, start files⟩

/-! ## Routing -/

theorem lookup_routesTo :
    (routesTo files).lookup id = (lastWith BundleFile.id files id).map BundleFile.source := by
  rw [routesTo, lastWith]
  induction files.reverse with
  | nil => rfl
  | cons f files ih =>
    rw [List.map_cons, List.lookup_cons, List.find?_cons, BEq.comm, ih]
    cases f.id == id <;> rfl

theorem resolve_of_absent (absent : lastWith BundleFile.id files id = none) :
    resolve (routesTo files) id = .error (.unknown id) := by
  rw [resolve, lookup_routesTo, absent]
  rfl

/-- A file to which there is a route has the bundle that is asked for. -/
theorem resolve_of_last {f : BundleFile} (last : lastWith BundleFile.id files id = some f) :
    resolve (routesTo files) id = .ok f.bundle.offering := by
  have carried : f.id = id := by simpa using List.find?_some last
  have fetched : f.source.fetch id = .ok f.bundle.offering := if_pos carried
  rw [resolve, lookup_routesTo, last]
  simp only [Option.map_some, fetched]
  rfl

/-- An operation gets to a bundle that is known, and whatever it tells then, it is not about the
way to the bundle. -/
theorem told_of_resolved {σ : Type} (h : Handler σ) (state : σ) {o : Operation}
    {offering : Offering} (resolved : resolve routes o.bundle = .ok offering) :
    (∀ id, ((o.script (.routed routes)).run h state).1 ≠ .error (.unknown id)) ∧
      ∀ id e, ((o.script (.routed routes)).run h state).1 ≠ .error (.fetch id e) := by
  cases o with
  | subscribe project bundle =>
    simp only [Operation.bundle] at resolved
    simp only [Operation.script, subscribe, resolved, Script.run_andThen, Script.run]
    cases ((Subscribing.subscribe project offering).run h state).1 <;> simp [Except.mapError]
  | addProfile project bundle profile =>
    simp only [Operation.bundle] at resolved
    simp only [Operation.script, addProfile, resolved, Script.run_andThen, Script.run]
    cases ((Subscribing.addProfile project offering profile).run h state).1 <;>
      simp [Except.mapError]

theorem told_of_unresolved {σ : Type} (h : Handler σ) (state : σ) {o : Operation} {e : Error}
    (unresolved : resolve routes o.bundle = .error e) :
    ((o.script (.routed routes)).run h state).1 = .error e := by
  cases o <;> simp only [Operation.bundle] at unresolved <;>
    simp only [Operation.script, subscribe, addProfile, unresolved, Script.run]

/-! ## Serving -/

/-- How a handle looks for the subscription of a project to the bundle with an id. -/
def look (project : Project) (id : BundleId) : Request :=
  .findSubscription project.id id.space id.name

/-- What a handle finds after it has been used to subscribe a project to a bundle. -/
structure Found (files : List BundleFile) (project : Project) (id : BundleId) (h : Handle)
    (before after : Memory) (rows : Rows) (s : Subscription) : Prop where
  view : after.view? h = some rows
  found : Memory.answer h (look project id) after = (.ok s, after)
  subscribed : Subscribed rows s project.id id.space id.name
  /-- If it was not there before, it is one to the bundle in the last file that carries it, and the
  project has the rule types of this bundle. -/
  offered : (∀ old, (Memory.answer h (look project id) before).1 ≠ .ok old) →
    ∃ f, lastWith BundleFile.id files id = some f ∧
      s.version = f.bundle.manifest.metadata.version ∧
      ∃ installed, f.bundle.ruleTypes = installed.map .ok ∧ Supplied rows project s.id installed

/-- What a catalog does with the bundles in files. -/
structure Serves (c : Catalog) (files : List BundleFile) : Prop where
  /-- An operation is told that a bundle is unknown if and only if no file carries it. -/
  unknown : ∀ {σ : Type} (h : Handler σ) (state : σ) (o : Operation) (id : BundleId),
    ((o.script c).run h state).1 = .error (.unknown id) ↔ o.bundle = id ∧ ∀ f ∈ files, f.id ≠ id
  /-- No operation is told that a bundle cannot be fetched. -/
  fetched : ∀ {σ : Type} (h : Handler σ) (state : σ) (o : Operation) (id : BundleId)
    (e : Source.Error), ((o.script c).run h state).1 ≠ .error (.fetch id e)
  /-- A project that was subscribed is found to be, whatever was done with the store before. -/
  subscribed : ∀ (actions : List Action) (h : Handle) (project : Project) (id : BundleId),
    ((c.subscribe project id).run (Memory.answer h) (empty.run actions)).1 = .ok () →
    ∃ rows s, Found files project id h (empty.run actions)
      ((c.subscribe project id).run (Memory.answer h) (empty.run actions)).2 rows s

/-- What is found is what subscribing to the bundle has provided. -/
theorem found_of_provided {project : Project} {f : BundleFile} {h : Handle} {m m' : Memory}
    {rows rows' : Rows} {s : Subscription} (sound : m.Sound) (sound' : m'.Sound)
    (view : m.view? h = some rows) (view' : m'.view? h = some rows')
    (last : lastWith BundleFile.id files id = some f)
    (provided : Provided rows rows' project f.bundle.offering s) :
    Found files project id h m m' rows' s := by
  obtain rfl : f.id = id := by simpa using List.find?_some last
  refine ⟨view', ?_, provided.subscribed, fun unseen => ⟨f, last, provided.offered ?_⟩⟩
  · have found := provided.subscribed.found (sound'.view_intact view')
    exact sound'.answer_findSubscription view' found
  · -- a subscription that was there would have been seen
    refine Option.eq_none_iff_forall_ne_some.mpr fun old found => unseen old ?_
    exact congrArg Prod.fst (sound.answer_findSubscription view found)

theorem serves_routesTo (files : List BundleFile) : Serves (.routed (routesTo files)) files where
  unknown h state o id := by
    cases last : lastWith BundleFile.id files o.bundle with
    | none =>
      rw [told_of_unresolved h state (resolve_of_absent last), Except.error.injEq,
        Error.unknown.injEq]
      refine ⟨fun same => ⟨same, ?_⟩, And.left⟩
      exact same ▸ lastWith_eq_none_iff.mp last
    | some f =>
      refine iff_of_false ((told_of_resolved h state (resolve_of_last last)).1 id) ?_
      rintro ⟨rfl, absent⟩
      exact Option.some_ne_none f (last.symm.trans (lastWith_eq_none_iff.mpr absent))
  fetched h state o id e := by
    cases last : lastWith BundleFile.id files o.bundle with
    | none =>
      rw [told_of_unresolved h state (resolve_of_absent last)]
      exact nofun
    | some f => exact (told_of_resolved h state (resolve_of_last last)).2 id e
  subscribed actions h project id := by
    have sound := sound_run actions
    generalize empty.run actions = m at sound ⊢
    intro ok
    cases last : lastWith BundleFile.id files id with
    | none =>
      simp only [subscribe, resolve_of_absent last, Script.run] at ok
      cases ok
    | some f =>
      simp only [subscribe, resolve_of_last last, Script.run_andThen, Script.run] at ok ⊢
      have subscribed := eq_ok_of_mapError ok
      obtain ⟨rows, rows', s, view, view', sound', provided⟩ := provided_run sound subscribed
      exact ⟨rows', s, found_of_provided sound sound' view view' last provided⟩

/-- A catalog that was started from settings serves the bundles in the files that are set: an
operation is told that a bundle is unknown if and only if none of them carries it, no bundle fails
to be fetched, and whoever was subscribed to a bundle has it as it is in the last of these files. -/
theorem serves_ofSettings {settings : Settings} (enabled : settings.enabled = true)
    (started : ofSettings disk settings = .ok c) :
    ∃ files, Opened disk settings.sources files ∧ Serves c files := by
  obtain ⟨-, files, opened, rfl⟩ := (ofSettings_eq_ok_iff enabled).mp started
  exact ⟨files, opened, serves_routesTo files⟩

/-- An edition of a bundle with one rule type. -/
private def edition (version ruleType : String) : BundleParts :=
  ⟨⟨"a", "b", version, none⟩, [], [("r1.yaml", ruleType.toUTF8)]⟩

private def firstEdition : BundleParts := edition "1.0.0" "name: r1\ndef: old\n"

private def secondEdition : BundleParts := edition "2.0.0" "name: r1\ndef: new\n"

/-- The rule type of the second edition. -/
private def newRuleType : RuleType := { RuleType.named "r1" with definition := .string "new" }

/-- A disk with two files, and settings with both of them. -/
private def twoFiles (first second : ByteArray) : Disk :=
  ⟨.directory [(.ofString "1.tar.gz", .file first), (.ofString "2.tar.gz", .file second)], []⟩

private def bothSet : Settings := ⟨true, [⟨"tarball", "1.tar.gz"⟩, ⟨"tarball", "2.tar.gz"⟩]⟩

/-- What is in the two files. -/
private def bothFiles : List BundleFile :=
  [⟨"1.tar.gz", ⟨firstEdition.manifest, firstEdition.packedContents⟩⟩,
    ⟨"2.tar.gz", ⟨secondEdition.manifest, secondEdition.packedContents⟩⟩]

private theorem exists_editions : ∃ first second,
    firstEdition.pack = .ok first ∧ secondEdition.pack = .ok second := by
  obtain ⟨first, packedFirst⟩ : ∃ file, firstEdition.pack = .ok file :=
    BundleParts.exists_pack (by decide) (by decide +kernel) (by decide)
  obtain ⟨second, packedSecond⟩ : ∃ file, secondEdition.pack = .ok file :=
    BundleParts.exists_pack (by decide) (by decide +kernel) (by decide)
  exact ⟨first, second, packedFirst, packedSecond⟩

private theorem opened_twoEditions {first second : ByteArray}
    (packedFirst : firstEdition.pack = .ok first) (packedSecond : secondEdition.pack = .ok second) :
    Opened (twoFiles first second) bothSet.sources bothFiles := by
  have readFirst : (twoFiles first second).read "1.tar.gz" = .ok first :=
    Disk.read_entry rfl (by decide) (by decide) rfl
  have readSecond : (twoFiles first second).read "2.tar.gz" = .ok second :=
    Disk.read_entry rfl (by decide) (by decide) rfl
  have normalFirst : SourceSetting.normalized ⟨"tarball", "1.tar.gz"⟩ = "1.tar.gz" := by decide
  have normalSecond : SourceSetting.normalized ⟨"tarball", "2.tar.gz"⟩ = "2.tar.gz" := by decide
  refine .cons ?_ (.cons ?_ .nil)
  · exact normalFirst ▸ BundleFile.load_packed readFirst packedFirst
  · exact normalSecond ▸ BundleFile.load_packed readSecond packedSecond

private theorem ruleTypes_secondEdition :
    Bundle.ruleTypes ⟨secondEdition.manifest, secondEdition.packedContents⟩ =
      [.ok newRuleType] := by
  have decoded : (RuleType.ofYaml "name: r1\ndef: new\n".toUTF8).toOption = some newRuleType := by
    decide +kernel
  have given : Bundle.ruleTypes ⟨secondEdition.manifest, secondEdition.packedContents⟩ =
      [(RuleType.ofYaml "name: r1\ndef: new\n".toUTF8).mapError
        (.brokenDocument "rule_types/r1.yaml")] := rfl
  rw [given, eq_ok_of_toOption decoded]
  rfl

theorem serves_ofSettings_twoEditions : ∃ first second c,
    firstEdition.pack = .ok first ∧ secondEdition.pack = .ok second ∧
    bothSet.enabled = true ∧ ofSettings (twoFiles first second) bothSet = .ok c ∧
    (∀ project profile, ((c.addProfile project ⟨"a", "c"⟩ profile).run (Memory.answer .direct)
      empty).1 = .error (.unknown ⟨"a", "c"⟩)) ∧
    ∀ project, ∃ m rows s row,
      (c.subscribe project ⟨"a", "b"⟩).run (Memory.answer .direct) empty = (.ok (), m) ∧
      m.view? .direct = some rows ∧
      (Memory.answer .direct (look project ⟨"a", "b"⟩) m).1 = .ok s ∧ s.version = "2.0.0" ∧
      rows.ruleType? project.id "r1" = some row ∧
      row.subscription = some s.id ∧ row.definition = newRuleType := by
  obtain ⟨first, second, packedFirst, packedSecond⟩ := exists_editions
  have started := (ofSettings_eq_ok_iff rfl).mpr
    ⟨by decide, bothFiles, opened_twoEditions packedFirst packedSecond, rfl⟩
  obtain ⟨files, opened, serves⟩ := serves_ofSettings rfl started
  obtain rfl : files = bothFiles := opened.unique (opened_twoEditions packedFirst packedSecond)
  refine ⟨first, second, _, packedFirst, packedSecond, rfl, started, fun project profile => ?_,
    fun project => ?_⟩
  · apply (serves.unknown (Memory.answer .direct) empty (.addProfile project ⟨"a", "c"⟩ profile)
      ⟨"a", "c"⟩).mpr
    exact ⟨rfl, by decide⟩
  · have ok : ((subscribe (.routed (routesTo bothFiles)) project ⟨"a", "b"⟩).run
        (Memory.answer .direct) empty).1 = .ok () := by
      have last : lastWith BundleFile.id bothFiles ⟨"a", "b"⟩ = some bothFiles[1] := rfl
      have offered : bothFiles[1].bundle.offering.ruleTypes = [.ok newRuleType] :=
        ruleTypes_secondEdition
      rw [subscribe, resolve_of_last last]
      simp only [Subscribing.subscribe, offered]
      rfl
    obtain ⟨rows, s, found⟩ := serves.subscribed [] .direct project ⟨"a", "b"⟩ ok
    have unseen (old : Subscription) :
        (Memory.answer .direct (look project ⟨"a", "b"⟩) empty).1 ≠ .ok old := by rintro ⟨⟩
    obtain ⟨f, last, version, installed, given, supplied⟩ := found.offered unseen
    cases last
    obtain rfl : installed = [newRuleType] := List.map_injective_iff.mpr
      (fun _ _ => Except.ok.inj) (given.symm.trans ruleTypes_secondEdition)
    obtain ⟨row, there, brings⟩ := supplied.present "r1" newRuleType rfl
    exact ⟨_, rows, s, row, Prod.ext ok rfl, found.view, congrArg Prod.fst found.found, version,
      there, brings.subscription, List.mem_singleton.mp brings.given⟩

end Catalog

end RuleCatalog
