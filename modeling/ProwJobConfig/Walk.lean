import ProwJobConfig.Merge

/-!
Contract: the directory walk of `ReadJobConfig`: the function it passes `filepath.Walk`, and
`filepath.Walk` itself with the path functions `Join`, `Clean` and `Ext`, as Go documents them.

Owns: which files the walk reads, and in what order. It reads the `.yaml` and `.yml` files
that are not named `..…` and lie in no directory so named, in the order the walk meets them,
and it folds the base-name check, the read and the merge over them
(`readJobConfigDir_eq_foldlM`). Over files that all read, this is `readJobConfig` on those
files, so what `Merge.lean` proves of that fold holds of the walk.

Does not own: the file system. A tree of entries is what `os.Lstat` and `readDirNames` find,
and `read` is what `ReadFileMaybeGZIP` and `yaml.Unmarshal` make of each path.
-/

set_option autoImplicit false

namespace ProwJobConfig

variable {Regexp DecorationConfig : Type}

/-! ## Paths -/

/-- `strings.HasPrefix(s, prefix)`. -/
def stringsHasPrefix (s pre : String) : Bool :=
  pre.toList.isPrefixOf s.toList

/-- One element of the pass `filepath.Clean` makes over a path, onto the elements kept so far
(last first): empty and `.` elements vanish, and `..` removes the element before it, or stays
in a relative path when there is none to remove. -/
def cleanStep (rooted : Bool) (kept : List (List Char)) (element : List Char) :
    List (List Char) :=
  if element = [] ∨ element = ['.'] then kept
  else if element = ['.', '.'] then
    match kept with
    | last :: rest => if last = ['.', '.'] then element :: kept else rest
    | [] => if rooted then [] else [element]
  else element :: kept

/-- `filepath.Clean`: the shortest path naming the same file, by lexical processing. -/
def filepathClean (path : String) : String :=
  if path = "" then "."
  else
    let rooted := path.toList.head? = some '/'
    let kept := ((path.toList.splitOn '/').foldl (cleanStep rooted) []).reverse
    let cleaned := (if rooted then ['/'] else []) ++ (kept.intersperse ['/']).flatten
    if cleaned = [] then "." else String.mk cleaned

/-- `filepath.Join(dir, name)`: from the first non-empty element on, the elements joined by
`/` and cleaned. -/
def filepathJoin (dir name : String) : String :=
  if dir ≠ "" then filepathClean (dir ++ "/" ++ name)
  else if name ≠ "" then filepathClean name
  else ""

/-- `filepath.Ext`: the last element's suffix from its last dot, or `""` when it has none. -/
def filepathExt (path : String) : String :=
  let last := path.toList.reverse.takeWhile (· ≠ '/')
  match last.findIdx? (· = '.') with
  | some i => String.mk (last.take (i + 1)).reverse
  | none => ""

/-! ## The file tree -/

/-- An entry of a directory tree as `filepath.Walk` finds it with `os.Lstat`, which follows
no symbolic link: a file (a link among them, as `Lstat` reports none as a directory); a
directory, with the entries `readDirNames` lists, in its order (sorted by name); a
directory `readDirNames` cannot list; or a name `Lstat` fails on. -/
inductive Entry where
  | file (name : String)
  | dir (name : String) (entries : List Entry)
  | unlistable (name : String)
  | unstatable (name : String)

/-- The entry's name, as `info.Name()` gives it. -/
def Entry.name : Entry → String
  | .file name | .dir name _ | .unlistable name | .unstatable name => name

/-- What `filepath.Walk` passes its function about one path: an error, from `Lstat` or from
listing a directory; or the name of what is there and whether it is a directory. -/
inductive WalkReport where
  | failed
  | found (name : String) (isDir : Bool)

/-- What a walk function answers besides an error: `nil`, or `filepath.SkipDir`. -/
inductive WalkControl where
  | proceed
  | skipDir
deriving DecidableEq

/-- Whether the loop over a directory's entries stops after walking `entry` with this answer:
`SkipDir` from a file skips the rest of the directory; from a directory it skips only that
directory, and after an error from `Lstat` it is ignored. -/
def WalkControl.endsLoop : WalkControl → Entry → Bool
  | .skipDir, .file _ => true
  | _, _ => false

/-! ## `filepath.Walk` -/

section Walk

variable {σ : Type} (fn : String → WalkReport → σ → Except String (WalkControl × σ))

mutual

/-- `walk(path, info, walkFn)`: a file is reported; a directory is listed and reported, and
then its entries are walked unless the function answered `SkipDir`; a directory that cannot be
listed is reported with the error, and the function's answer is the walk's. -/
def walk (path : String) : Entry → σ → Except String (WalkControl × σ)
  | .file name, s => fn path (.found name false) s
  | .dir name entries, s => do
      let (control, s) ← fn path (.found name true) s
      match control with
      | .skipDir => pure (.skipDir, s)
      | .proceed => walkEntries path entries s
  | .unlistable _, s => fn path .failed s
  | .unstatable _, s => fn path .failed s

/-- The loop of `walk` over a directory's entries, each at its path joined to the directory's. -/
def walkEntries (dir : String) : List Entry → σ → Except String (WalkControl × σ)
  | [], s => pure (.proceed, s)
  | entry :: rest, s => do
      let (control, s) ← walk (filepathJoin dir entry.name) entry s
      if control.endsLoop entry then pure (.skipDir, s) else walkEntries dir rest s

end

/-- `filepath.Walk(root, fn)`: the walk from `root`, which `SkipDir` ends without an error;
`root` is `.unstatable` when `Lstat` fails on it. -/
def filepathWalk (root : String) (entry : Entry) (s : σ) : Except String σ := do
  let (_, s) ← walk fn root entry s
  pure s

end Walk

/-! ## The walk of `ReadJobConfig` -/

/-- What the walk of `ReadJobConfig` carries from file to file: the base names read so far
(`uniqueBasenames`), and the jobs merged so far. -/
structure WalkState (Regexp DecorationConfig : Type) where
  uniqueBasenames : GoMap Unit := ∅
  jc : JobConfig Regexp DecorationConfig := {}

/-- How reading a file can fail: in `ReadFileMaybeGZIP`, or in `yaml.Unmarshal`. -/
inductive YamlError where
  | reading (err : String)
  | unmarshaling (err : String)

/-- `yamlToConfig(path, &jc)` into a `JobConfig`, given what reading and unmarshalling `path`
gives: its jobs, each stamped with `path`. -/
def yamlToConfig (order : MapOrder) (path : String)
    (document : Except YamlError (JobConfig Regexp DecorationConfig)) :
    Except String (JobConfig Regexp DecorationConfig) :=
  match document with
  | .error (.reading err) => .error s!"error reading {path}: {err}"
  | .error (.unmarshaling err) => .error s!"error unmarshaling {path}: {err}"
  | .ok jc => .ok (jc.setSourcePath order path)

section ReadJobConfig

variable (order : MapOrder) (read : String → Except YamlError (JobConfig Regexp DecorationConfig))

/-- The walk function's work on a `.yaml` or `.yml` file: reject a base name read before, then
read the file and merge its jobs after those read so far. -/
def readFragment (s : WalkState Regexp DecorationConfig) (path : String) :
    Except String (WalkState Regexp DecorationConfig) :=
  let base := filepathBase path
  if base ∈ s.uniqueBasenames then .error s!"duplicated basename is not allowed: {base}"
  else do
    let uniqueBasenames := s.uniqueBasenames.insert base ()
    let subConfig ← yamlToConfig order path (read path)
    let jc ← mergeJobConfigs order s.jc subConfig
    pure { uniqueBasenames, jc }

/-- The function `ReadJobConfig` passes `filepath.Walk`: an error is logged and passed over;
an entry named `..…` is passed over, and a directory so named skipped; a file with another
extension than `.yaml` or `.yml`, and a directory, are passed over; a file is read. -/
def readJobConfigVisit (path : String) :
    WalkReport → WalkState Regexp DecorationConfig →
      Except String (WalkControl × WalkState Regexp DecorationConfig)
  | .failed, s => .ok (.proceed, s)
  | .found name isDir, s =>
      if stringsHasPrefix name ".." then .ok (if isDir then .skipDir else .proceed, s)
      else if filepathExt path ≠ ".yaml" ∧ filepathExt path ≠ ".yml" then .ok (.proceed, s)
      else if isDir then .ok (.proceed, s)
      else (readFragment order read s path).map ((.proceed, ·))

/-- `ReadJobConfig` on a directory `jobConfig`, where `Lstat` finds `root`: the walk from no
base names and no jobs. -/
def readJobConfigDir (jobConfig : String) (root : Entry) :
    Except String (JobConfig Regexp DecorationConfig) := do
  let s ← filepathWalk (readJobConfigVisit order read) jobConfig root {}
  pure s.jc

end ReadJobConfig

/-! ## The files the walk reads -/

/-- A path whose extension `ReadJobConfig` reads. -/
def isYamlPath (path : String) : Bool :=
  filepathExt path = ".yaml" ∨ filepathExt path = ".yml"

mutual

/-- The files the walk of `ReadJobConfig` reads at and below an entry at `path`, in the
order it reads them. -/
def yamlPaths (path : String) : Entry → List String
  | .file name => if ¬ stringsHasPrefix name ".." ∧ isYamlPath path then [path] else []
  | .dir name entries => if stringsHasPrefix name ".." then [] else yamlPathsOf path entries
  | .unlistable _ => []
  | .unstatable _ => []

/-- The files the walk reads below the entries of the directory at `dir`. -/
def yamlPathsOf (dir : String) : List Entry → List String
  | [] => []
  | entry :: rest => yamlPaths (filepathJoin dir entry.name) entry ++ yamlPathsOf dir rest

end

/-- The answer the walk function gives on an entry when it does not fail: `SkipDir` on a
directory named `..…`. -/
def skippedBy : Entry → WalkControl
  | .dir name _ => if stringsHasPrefix name ".." then .skipDir else .proceed
  | _ => .proceed

theorem endsLoop_skippedBy (entry : Entry) : (skippedBy entry).endsLoop entry = false := by
  cases entry with
  | dir name _ => by_cases dotted : stringsHasPrefix name ".." <;> simp [skippedBy, dotted, WalkControl.endsLoop]
  | _ => rfl

/-! ## The walk is a fold over the files it reads -/

section Refinement

variable {order : MapOrder} {read : String → Except YamlError (JobConfig Regexp DecorationConfig)}

/-- A step that succeeds with an answer hands its state on. -/
theorem Except.map_bind {ε α β γ : Type} (x : Except ε α) (f : α → β) (g : β → Except ε γ) :
    x.map f >>= g = x >>= fun a => g (f a) := by
  cases x <;> rfl

/-- The walk function on a file at `path`: the file is read when its name does not start
with `..` and its path ends in `.yaml` or `.yml`. -/
theorem readJobConfigVisit_file (path name : String) (s : WalkState Regexp DecorationConfig) :
    readJobConfigVisit order read path (.found name false) s =
      ((yamlPaths path (.file name)).foldlM (readFragment order read) s).map ((.proceed, ·)) := by
  unfold readJobConfigVisit
  by_cases dotted : stringsHasPrefix name ".." = true
  · simp only [dotted, yamlPaths, if_true]
    rfl
  · by_cases yaml : isYamlPath path = true
    · have other : ¬ (filepathExt path ≠ ".yaml" ∧ filepathExt path ≠ ".yml") := by
        simpa [isYamlPath, or_iff_not_and_not] using yaml
      simp only [dotted, yaml, other, yamlPaths, if_false, not_false_eq_true, and_self, if_true,
        Bool.false_eq_true, List.foldlM_cons, List.foldlM_nil, bind_pure]
    · have other : filepathExt path ≠ ".yaml" ∧ filepathExt path ≠ ".yml" := by
        simpa [isYamlPath] using yaml
      simp only [dotted, yaml, yamlPaths, if_false, and_false, Bool.false_eq_true, if_pos other]
      rfl

mutual

/-- **The walk reads the files of `yamlPaths`, in order.** From any state, walking an entry
is folding the base-name check, the read and the merge over the files `yamlPaths` lists, and
the walk answers `SkipDir` exactly on a directory named `..…`. -/
theorem walk_readJobConfigVisit (path : String) :
    ∀ (entry : Entry) (s : WalkState Regexp DecorationConfig),
      walk (readJobConfigVisit order read) path entry s =
        ((yamlPaths path entry).foldlM (readFragment order read) s).map ((skippedBy entry, ·))
  | .file name, s => readJobConfigVisit_file path name s
  | .dir name entries, s => by
      by_cases dotted : stringsHasPrefix name ".."
      · simp [walk, readJobConfigVisit, yamlPaths, skippedBy, dotted, bind, Except.bind, pure,
          Except.pure, Except.map]
      · have entriesWalk := walkEntries_readJobConfigVisit path entries s
        have visit : readJobConfigVisit order read path (.found name true) s = .ok (.proceed, s) := by
          simp [readJobConfigVisit, dotted]
        simp only [walk, visit, Except.ok_bind, entriesWalk, yamlPaths, skippedBy, dotted,
          if_false, Bool.false_eq_true]
  | .unlistable _, s => rfl
  | .unstatable _, s => rfl

/-- The loop over a directory's entries folds over the files `yamlPathsOf` lists. -/
theorem walkEntries_readJobConfigVisit (dir : String) :
    ∀ (entries : List Entry) (s : WalkState Regexp DecorationConfig),
      walkEntries (readJobConfigVisit order read) dir entries s =
        ((yamlPathsOf dir entries).foldlM (readFragment order read) s).map ((.proceed, ·))
  | [], s => rfl
  | entry :: rest, s => by
      rw [walkEntries, walk_readJobConfigVisit, Except.map_bind, yamlPathsOf, List.foldlM_append]
      cases (yamlPaths (filepathJoin dir entry.name) entry).foldlM (readFragment order read) s with
      | error err => rfl
      | ok t =>
          simp only [Except.ok_bind, endsLoop_skippedBy, Bool.false_eq_true, if_false]
          exact walkEntries_readJobConfigVisit dir rest t

end

/-- `ReadJobConfig` on a directory folds the base-name check, the read and the merge over the
files `yamlPaths` lists, from no base names and no jobs. -/
theorem readJobConfigDir_eq_foldlM (jobConfig : String) (root : Entry) :
    readJobConfigDir order read jobConfig root =
      ((yamlPaths jobConfig root).foldlM (readFragment order read) {}).map (·.jc) := by
  rw [readJobConfigDir, filepathWalk, walk_readJobConfigVisit]
  cases (yamlPaths jobConfig root).foldlM (readFragment order read) {} <;> rfl

/-- Over files that all read, the fold of the walk is the fold of `readJobConfigFiles`. -/
theorem foldlM_readFragment_of_reads (docs : String → JobConfig Regexp DecorationConfig) :
    ∀ (paths : List String) (s : WalkState Regexp DecorationConfig),
      (∀ p ∈ paths, read p = .ok (docs p)) →
      (paths.foldlM (readFragment order read) s).map (·.jc) =
        readJobConfigFiles order s.uniqueBasenames s.jc (paths.map fun p => (p, docs p))
  | [], _, _ => rfl
  | p :: rest, s, reads => by
      rw [List.foldlM_cons, List.map_cons, readJobConfigFiles, readFragment]
      by_cases seen : filepathBase p ∈ s.uniqueBasenames
      · simp only [seen, if_true]
        rfl
      · simp only [seen, if_false, reads p (List.mem_cons_self p rest), yamlToConfig,
          Except.ok_bind]
        cases mergeJobConfigs order s.jc ((docs p).setSourcePath order p) with
        | error err => rfl
        | ok merged =>
            exact foldlM_readFragment_of_reads docs rest _
              fun q member => reads q (List.mem_cons_of_mem p member)

/-- Reads that agree on the files of a fold leave the fold alike. -/
theorem foldlM_readFragment_congr {read' : String → Except YamlError (JobConfig Regexp DecorationConfig)} :
    ∀ (paths : List String) (s : WalkState Regexp DecorationConfig),
      (∀ p ∈ paths, read p = read' p) →
      paths.foldlM (readFragment order read) s = paths.foldlM (readFragment order read') s
  | [], _, _ => rfl
  | p :: rest, s, same => by
      have step : readFragment order read s p = readFragment order read' s p := by
        simp only [readFragment, same p (List.mem_cons_self p rest)]
      rw [List.foldlM_cons, List.foldlM_cons, step]
      cases readFragment order read' s p with
      | error err => rfl
      | ok t =>
          exact foldlM_readFragment_congr rest t fun q member => same q (List.mem_cons_of_mem p member)

/-- A file with a new base name that reads is merged after the jobs read so far. -/
theorem readFragment_of_read {s : WalkState Regexp DecorationConfig} {p : String}
    {d : JobConfig Regexp DecorationConfig} (fresh : filepathBase p ∉ s.uniqueBasenames)
    (reading : read p = .ok d) :
    readFragment order read s p = (mergeJobConfigs order s.jc (d.setSourcePath order p)).map
      fun jc => { uniqueBasenames := s.uniqueBasenames.insert (filepathBase p) (), jc } := by
  simp only [readFragment, fresh, if_false, reading, yamlToConfig, Except.ok_bind]
  cases mergeJobConfigs order s.jc (d.setSourcePath order p) <;> rfl

/-- `mapM` succeeds on a list iff it succeeds on the head and then on the tail. -/
theorem exists_mapM_cons_ok {α β ε : Type} (f : α → Except ε β) (a : α) (as : List α)
    (P : List β → Prop) :
    (∃ bs, (a :: as).mapM f = .ok bs ∧ P bs) ↔
      ∃ b, f a = .ok b ∧ ∃ bs, as.mapM f = .ok bs ∧ P (b :: bs) := by
  rw [List.mapM_cons]
  cases f a <;> cases as.mapM f <;> simp [bind, Except.bind, pure, Except.pure]

/-- The fold of the walk succeeds iff the base names of its files are new and distinct,
every file reads, and no two presets, of the jobs merged before and of the files, share a
`label:value` pair. -/
theorem foldlM_readFragment_ok_iff :
    ∀ (paths : List String) (s : WalkState Regexp DecorationConfig),
      (presetPairs order s.jc.presets).Nodup →
      ((∃ t, paths.foldlM (readFragment order read) s = .ok t) ↔
        (s.uniqueBasenames.keys ++ paths.map filepathBase).Nodup ∧
          ∃ docs, paths.mapM read = .ok docs ∧
            (presetPairs order (s.jc.presets ++ docs.flatMap (·.presets))).Nodup)
  | [], s, fresh =>
      iff_of_true ⟨s, rfl⟩ ⟨by simpa using s.uniqueBasenames.keys_nodup, [], rfl, by simpa using fresh⟩
  | p :: rest, s, fresh => by
      rw [List.foldlM_cons, List.map_cons, exists_mapM_cons_ok]
      by_cases seen : filepathBase p ∈ s.uniqueBasenames
      · have repeated : ¬ (s.uniqueBasenames.keys ++ filepathBase p :: rest.map filepathBase).Nodup :=
          fun nodup => List.disjoint_of_nodup_append nodup (AList.mem_keys.1 seen)
            (List.mem_cons_self _ _)
        simp [readFragment, seen, repeated, bind, Except.bind]
      · cases reading : read p with
        | error err =>
            cases err <;> simp [readFragment, seen, reading, yamlToConfig, bind, Except.bind]
        | ok d =>
            have merges := mergeJobConfigs_succeeds_iff order s.jc (d.setSourcePath order p)
            have presets : ∀ ds : List (JobConfig Regexp DecorationConfig),
                presetPairs order (s.jc.presets ++ (d :: ds).flatMap (·.presets)) =
                  presetPairs order (s.jc.presets ++ d.presets) ++
                    presetPairs order (ds.flatMap (·.presets)) := by
              simp [presetPairs_append]
            rw [readFragment_of_read seen reading]
            cases merging : mergeJobConfigs order s.jc (d.setSourcePath order p) with
            | error err =>
                have unmerged : ¬ (presetPairs order (s.jc.presets ++ d.presets)).Nodup :=
                  fun nodup => by simpa [merging] using merges.2 nodup
                simp only [reading, Except.ok.injEq, exists_eq_left', presets]
                simp [Except.map, bind, Except.bind]
                intro _ ds _ nodup
                exact unmerged (nodup.sublist (List.sublist_append_left _ _))
            | ok m =>
                have keys : (s.uniqueBasenames.insert (filepathBase p) ()).keys =
                    filepathBase p :: s.uniqueBasenames.keys := by
                  rw [AList.keys_insert, List.erase_of_not_mem (mt AList.mem_keys.2 seen)]
                obtain ⟨mPresets, -⟩ := mergeJobConfigs_ok merging
                have fresh' : (presetPairs order m.presets).Nodup := by
                  rw [mPresets]
                  exact merges.1 ⟨m, merging⟩
                rw [Except.map, Except.ok_bind, foldlM_readFragment_ok_iff rest _ fresh']
                simp only [keys, reading, Except.ok.injEq, exists_eq_left', mPresets,
                  List.flatMap_cons, List.append_assoc, List.cons_append]
                rw [List.perm_middle.nodup_iff]
                rfl

end Refinement

/-! ## What the walk of `ReadJobConfig` reads -/

/-- A job-config directory as Kubernetes mounts a ConfigMap: each file is a link to the same
name under `..data`, itself a link to the timestamped directory that holds the files. -/
def configMapMount : Entry :=
  .dir "job-config"
    [.dir "..2024_01_01_00_00_00.000000000" [.file "README.md", .file "jobs.yaml"],
     .file "..data", .file "README.md", .file "jobs.yaml"]

theorem yamlPaths_configMapMount :
    yamlPaths "/etc/job-config" configMapMount = ["/etc/job-config/jobs.yaml"] := by
  decide

/-- **The walk of `ReadJobConfig` is `readJobConfig` on the files it reads.** When every file
the walk reads parses, `ReadJobConfig` on a directory gives what `readJobConfig` gives on the
`.yaml` and `.yml` files that are not named `..…` and lie in no directory so named, in the
walk's order, each with its document. -/
theorem readJobConfigDir_eq_readJobConfig (order : MapOrder)
    (read : String → Except YamlError (JobConfig Regexp DecorationConfig))
    (docs : String → JobConfig Regexp DecorationConfig) (jobConfig : String) (root : Entry)
    (reads : ∀ p ∈ yamlPaths jobConfig root, read p = .ok (docs p)) :
    readJobConfigDir order read jobConfig root =
      readJobConfig order (.dir ((yamlPaths jobConfig root).map fun p => (p, docs p))) := by
  rw [readJobConfigDir_eq_foldlM, foldlM_readFragment_of_reads docs _ _ reads]
  rfl

theorem readJobConfigDir_eq_readJobConfig_configMap :
    (∀ p ∈ yamlPaths "/etc/job-config" configMapMount,
        (fun _ => .ok {} : String → Except YamlError (JobConfig Unit Unit)) p =
          .ok ((fun _ => {}) p)) ∧
      readJobConfigDir .stored (fun _ => .ok {} : String → Except YamlError (JobConfig Unit Unit))
          "/etc/job-config" configMapMount =
        readJobConfig .stored (.dir ((yamlPaths "/etc/job-config" configMapMount).map
          fun p => (p, ({} : JobConfig Unit Unit)))) :=
  ⟨fun _ _ => rfl, readJobConfigDir_eq_readJobConfig .stored (fun _ => .ok {}) (fun _ => {})
    "/etc/job-config" configMapMount fun _ _ => rfl⟩

/-- **The walk of `ReadJobConfig` reads no other file.** Two file systems that give the same
documents at the files `yamlPaths` lists, whatever they hold elsewhere (under a directory
named `..…`, or in a file with another extension), give the same result. -/
theorem readJobConfigDir_congr (order : MapOrder)
    {read read' : String → Except YamlError (JobConfig Regexp DecorationConfig)}
    (jobConfig : String) (root : Entry) (same : ∀ p ∈ yamlPaths jobConfig root, read p = read' p) :
    readJobConfigDir order read jobConfig root = readJobConfigDir order read' jobConfig root := by
  rw [readJobConfigDir_eq_foldlM, readJobConfigDir_eq_foldlM, foldlM_readFragment_congr _ _ same]

/-- Every file of `configMapMount` but `jobs.yaml` at the top fails to parse. -/
def configMapBroken (path : String) : Except YamlError (JobConfig Unit Unit) :=
  if path = "/etc/job-config/jobs.yaml" then .ok {} else .error (.unmarshaling "not a job config")

theorem readJobConfigDir_congr_configMap :
    (∀ p ∈ yamlPaths "/etc/job-config" configMapMount,
        (fun _ => .ok {} : String → Except YamlError (JobConfig Unit Unit)) p = configMapBroken p) ∧
      readJobConfigDir .stored (fun _ => .ok {} : String → Except YamlError (JobConfig Unit Unit))
          "/etc/job-config" configMapMount =
        readJobConfigDir .stored configMapBroken "/etc/job-config" configMapMount :=
  have same : ∀ p ∈ yamlPaths "/etc/job-config" configMapMount,
      (fun _ => .ok {} : String → Except YamlError (JobConfig Unit Unit)) p = configMapBroken p := by
    simp [yamlPaths_configMapMount, configMapBroken]
  ⟨same, readJobConfigDir_congr .stored "/etc/job-config" configMapMount same⟩

/-- **When the walk of `ReadJobConfig` fails.** It succeeds iff no two files it reads share a
base name, wherever they lie in the tree, every one of them reads and parses, and the
`label:value` strings of their presets are distinct across all presets, even within one
preset. -/
theorem readJobConfigDir_succeeds_iff (order : MapOrder)
    (read : String → Except YamlError (JobConfig Regexp DecorationConfig)) (jobConfig : String)
    (root : Entry) :
    (∃ jc, readJobConfigDir order read jobConfig root = .ok jc) ↔
      ((yamlPaths jobConfig root).map filepathBase).Nodup ∧
        ∃ docs, (yamlPaths jobConfig root).mapM read = .ok docs ∧
          (presetPairs order (docs.flatMap (·.presets))).Nodup := by
  have folds := @foldlM_readFragment_ok_iff _ _ order read (yamlPaths jobConfig root) {}
    List.nodup_nil
  simp only [AList.keys_empty, List.nil_append] at folds
  rw [readJobConfigDir_eq_foldlM, ← folds]
  cases (yamlPaths jobConfig root).foldlM (readFragment order read) {} <;> simp [Except.map]

end ProwJobConfig
