/-
  A3m.Server.PackageFiles

  The path of a `Package` (`a3m/server/packages.py`) and the file listing built on it.

  `current_path` holds the real path: its setter replaces every `%sharedPath%` by
  `SHARED_DIRECTORY`, and `current_path_for_db` puts back `%sharedPath%` for the first
  occurrence of `SHARED_DIRECTORY` only. Stored paths come back unchanged
  (`currentPath_round_trip`, second part), and so do real paths, except where the text
  `%sharedPath` stands right before that first occurrence: `%sharedPath%` has `%` at both
  ends, so the token put back there overlaps the text before it, and the setter replaces
  the overlap (`sharedPath_border`, `noStart_sharedPath`).
-/
import A3m.Main.Models
import A3m.Python.Walk

namespace A3m.Server

open A3m.Python A3m.Main

/-- The Django settings `packages.py` reads through `_get_setting`. -/
structure Settings where
  sharedDirectory : String
  processingDirectory : String
  rejectedDirectory : String
  deriving DecidableEq, Repr

/-- `Stage`. -/
inductive Stage where
  | transfer
  | ingest
  deriving DecidableEq, Repr

/-- What a `Package` keeps that its path methods read: `stage`, the primary keys of `sip`
    and `transfer`, and `_current_path`. -/
structure PackageAttrs where
  stage : Stage
  sipPk : String
  transferPk : String
  currentPath : String
  deriving DecidableEq, Repr

namespace PackageAttrs

/-- The `current_path` setter. -/
def setCurrentPath (settings : Settings) (pkg : PackageAttrs) (value : String) : PackageAttrs :=
  { pkg with currentPath := Str.replace value "%sharedPath%" settings.sharedDirectory (-1) }

/-- `current_path_for_db`. -/
def currentPathForDb (settings : Settings) (pkg : PackageAttrs) : String :=
  Str.replace pkg.currentPath settings.sharedDirectory "%sharedPath%" 1

theorem setCurrentPath_data (settings : Settings) (pkg : PackageAttrs) (value : String) :
    (pkg.setCurrentPath settings value).currentPath.data =
      replaceScan "%sharedPath%".data settings.sharedDirectory.data none 0 value.data := by
  rw [setCurrentPath, Str.replace_data, if_neg (show ¬ "%sharedPath%".data = [] by decide),
    if_pos (show (-1 : Int) < 0 by decide)]

end PackageAttrs

/-! ## `files` -/

/-- `BASE_REPLACEMENTS`. -/
def baseReplacements (settings : Settings) : List (String × String) :=
  [("%tmpDirectory%", join (join settings.sharedDirectory "tmp") ""),
   ("%processingDirectory%", settings.processingDirectory),
   ("%rejectedDirectory%", settings.rejectedDirectory)]

/-- The absolute path of a row: its `currentlocation` with every `%SIPDirectory%`, then every
    `%transferDirectory%`, replaced by the unit's directory. -/
def absolutePath (f : File) (unitDirectory : String) : String :=
  Str.replace (Str.replace f.currentlocation "%SIPDirectory%" unitDirectory (-1))
    "%transferDirectory%" unitDirectory (-1)

/-- `get_file_replacement_mapping(file_obj, unit_directory)`: `BASE_REPLACEMENTS`, then the
    row's keys, which are all new, so `update` appends them in this order. -/
def getFileReplacementMapping (settings : Settings) (f : File) (unitDirectory : String) :
    List (String × String) :=
  let (name, ext) := splitext f.currentlocation
  baseReplacements settings ++
    [("%fileUUID%", f.uuid),
     ("%originalLocation%", f.originallocation),
     ("%currentLocation%", f.currentlocation),
     ("%fileGrpUse%", f.filegrpuse),
     ("%fileDirectory%", dirname f.currentlocation),
     ("%fileName%", basename name),
     ("%fileExtension%", ⟨ext.data.drop 1⟩),
     ("%fileExtensionWithDot%", ext),
     ("%relativeLocation%", absolutePath f unitDirectory),
     ("%inputFile%", absolutePath f unitDirectory),
     ("%fileFullName%", absolutePath f unitDirectory)]

namespace PackageAttrs

/-- `replacement_path_string`. -/
def replacementPathString (pkg : PackageAttrs) : String :=
  match pkg.stage with
  | .ingest => "%SIPDirectory%"
  | .transfer => "%transferDirectory%"

/-- `base_queryset`: the rows of the SIP, or of the transfer. -/
def baseQueryset (pkg : PackageAttrs) (table : List File) : List File :=
  match pkg.stage with
  | .ingest => table.filter fun f => f.sip = some pkg.sipPk
  | .transfer => table.filter fun f => f.transfer = some pkg.transferPk

/-- The mapping `files` yields for a file only the walk finds. -/
def walkMapping (filePath : String) : List (String × String) :=
  [("%relativeLocation%", filePath), ("%fileUUID%", "None"), ("%fileGrpUse%", "")]

/-- The rows `files` reads: `base_queryset`, narrowed to the locations under
    `filter_subdir` when one is given (`None` is the empty string, as falsy). -/
def filesQueryset (pkg : PackageAttrs) (table : List File) (filterSubdir : String) : List File :=
  if filterSubdir = "" then pkg.baseQueryset table
  else (pkg.baseQueryset table).filter fun f =>
    Str.startswith f.currentlocation (pkg.replacementPathString ++ filterSubdir)

/-- `start_path`. -/
def startPath (pkg : PackageAttrs) (filterSubdir : String) : String :=
  if filterSubdir = "" then pkg.currentPath else pkg.currentPath ++ filterSubdir

/-- The catalog mappings `files` yields: those of the rows whose `%inputFile%` exists, in
    the table's order. -/
def catalogMappings (settings : Settings) (root : Node) (table : List File) (pkg : PackageAttrs)
    (filterSubdir : String) : List (List (String × String)) :=
  ((pkg.filesQueryset table filterSubdir).map fun f =>
    getFileReplacementMapping settings f pkg.currentPath).filter fun m =>
      exists_ root ((m.lookup "%inputFile%").getD "")

/-- `files(filter_subdir)`, run to its end over the tree `root`: the catalog mappings, then
    the walk mapping of every file `os.walk(start_path)` lists whose joined path is not one
    of their `%inputFile%` strings (`files_returned_already`). -/
def files (settings : Settings) (root : Node) (table : List File) (pkg : PackageAttrs)
    (filterSubdir : String) : List (List (String × String)) :=
  let catalog := pkg.catalogMappings settings root table filterSubdir
  let returned := catalog.map fun m => (m.lookup "%inputFile%").getD ""
  catalog ++ ((walkFiles root (pkg.startPath filterSubdir)).filter fun p =>
    !returned.contains p).map walkMapping

end PackageAttrs

/-- The path a mapping `files` yields is about: its `%relativeLocation%`. -/
def relativeLocation (m : List (String × String)) : String :=
  (m.lookup "%relativeLocation%").getD ""

theorem relativeLocation_mapping (settings : Settings) (f : File) (unitDirectory : String) :
    relativeLocation (getFileReplacementMapping settings f unitDirectory) =
      ((getFileReplacementMapping settings f unitDirectory).lookup "%inputFile%").getD "" :=
  rfl

/-- A list without repeats, followed by the rest of a list holding it, is that list up to
    order. -/
theorem perm_append_filter_not_contains {l₁ l₂ : List String} (h₁ : l₁.Nodup) (h₂ : l₂.Nodup)
    (hsub : ∀ p ∈ l₁, p ∈ l₂) : (l₁ ++ l₂.filter fun p => !l₁.contains p).Perm l₂ := by
  have hperm : l₁.Perm (l₂.filter fun p => l₁.contains p) :=
    (List.perm_ext_iff_of_nodup h₁ (h₂.filter _)).2 fun p => by
      simpa using fun hp => hsub p hp
  exact (hperm.append_right _).trans (List.filter_append_perm _ l₂)

/-- On a tree a file system can hold, where every catalog path is a path the walk lists
    and no two catalog rows share one, `files` yields each listed file exactly once: the
    catalog rows' mappings, then the walk's mapping for every other file. -/
theorem files_once_each (settings : Settings) (root : Node) (table : List File)
    (pkg : PackageAttrs) (filterSubdir : String) (hroot : root.WF)
    (hrows : ((pkg.catalogMappings settings root table filterSubdir).map
      fun m => (m.lookup "%inputFile%").getD "").Nodup)
    (hlisted : ∀ m ∈ pkg.catalogMappings settings root table filterSubdir,
      (m.lookup "%inputFile%").getD "" ∈ walkFiles root (pkg.startPath filterSubdir)) :
    ((pkg.files settings root table filterSubdir).map relativeLocation).Perm
      (walkFiles root (pkg.startPath filterSubdir)) := by
  have hcat : (pkg.catalogMappings settings root table filterSubdir).map relativeLocation =
      (pkg.catalogMappings settings root table filterSubdir).map
        fun m => (m.lookup "%inputFile%").getD "" := by
    refine List.map_congr_left fun m hm => ?_
    obtain ⟨f, -, rfl⟩ := List.mem_map.1 (List.mem_filter.1 hm).1
    exact relativeLocation_mapping settings f pkg.currentPath
  have hwalkMap : ∀ p, relativeLocation (PackageAttrs.walkMapping p) = p := fun _ => rfl
  simp only [PackageAttrs.files, List.map_append, hcat, List.map_map, Function.comp_def, hwalkMap,
    List.map_id']
  exact perm_append_filter_not_contains hrows (walkFiles_nodup hroot _) (by simpa using hlisted)

/-! ## Overlaps of `%sharedPath%` -/

/-- Where the token starts inside `w` and runs on into a second token, `w` is the start of
    the token and the rest of the token is a start of the token too. -/
theorem overlap_of_prefix {tok w b : List Char} (hw : w.length < tok.length)
    (h : tok <+: w ++ (tok ++ b)) : w = tok.take w.length ∧ tok.drop w.length <+: tok := by
  obtain ⟨rest, rfl⟩ := List.prefix_of_prefix_length_le (List.prefix_append _ _) h hw.le
  have h' : rest <+: w ++ rest ++ b := (List.prefix_append_right_inj w).1 h
  have hrest : rest.length ≤ (w ++ rest).length := by simp
  simpa using List.prefix_of_prefix_length_le h' (List.prefix_append _ _) hrest

/-- The only proper end of `%sharedPath%` that also starts it is the last `%`. -/
theorem sharedPath_border {k : Nat} (hk : 0 < k) (hk' : k < 12)
    (h : "%sharedPath%".data.drop k <+: "%sharedPath%".data) : k = 11 := by
  have key : ∀ k < 12, 0 < k →
      ("%sharedPath%".data.drop k).isPrefixOf "%sharedPath%".data = true → k = 11 := by
    decide
  exact key k hk' hk (List.isPrefixOf_iff_prefix.2 h)

/-- No `%sharedPath%` starts in a stretch without one that does not end in `%sharedPath`,
    when a token follows it. -/
theorem noStart_sharedPath {a b : List Char} (ha : ¬ "%sharedPath%".data <:+: a)
    (hend : ¬ "%sharedPath".data <:+ a) :
    NoStart "%sharedPath%".data a ("%sharedPath%".data ++ b) := by
  intro w hw hsuf hpre
  by_cases hlen : "%sharedPath%".data.length ≤ w.length
  · exact ha ((List.prefix_of_prefix_length_le hpre (List.prefix_append _ _) hlen).isInfix.trans
      hsuf.isInfix)
  · have hlen' : w.length < 12 := by simpa using hlen
    obtain ⟨hw', hdrop⟩ := overlap_of_prefix (by simpa using hlen') hpre
    have h11 := sharedPath_border (List.length_pos.2 hw) hlen' hdrop
    have htake : "%sharedPath%".data.take 11 = "%sharedPath".data := by decide
    rw [hw', h11, htake] at hsuf
    exact hend hsuf

/-! ## The round trip -/

section RoundTrip

variable (settings : Settings) (pkg : PackageAttrs)

/-- The setter reads `%sharedPath%` + `r` as `SHARED_DIRECTORY` + `r` when `r` holds no
    other token. -/
theorem replaceScan_sharedPath_append (shared : List Char) {r : List Char}
    (hr : ¬ "%sharedPath%".data <:+: r) :
    replaceScan "%sharedPath%".data shared none 0 ("%sharedPath%".data ++ r) = shared ++ r := by
  rw [replaceScan_append_of_ne (by simp) (by decide), Option.map_none',
    replaceScan_of_not_occurs _ hr]

/-- A stored path `%sharedPath%` + `r` is set as `SHARED_DIRECTORY` + `r` and read back
    as it was. -/
theorem currentPathForDb_setCurrentPath_stored {r : String}
    (hr : ¬ Str.contains r "%sharedPath%") :
    (pkg.setCurrentPath settings ("%sharedPath%" ++ r)).currentPathForDb settings =
      "%sharedPath%" ++ r := by
  apply String.ext
  rw [PackageAttrs.currentPathForDb, Str.replace_one_data, PackageAttrs.setCurrentPath_data,
    String.data_append, replaceScan_sharedPath_append _ hr]
  split_ifs with hS
  · simp [hS]
  · simpa using @replaceScan_one _ "%sharedPath%".data hS [] r.data (NoStart.nil _ _)

/-- A real path without `%sharedPath%` is set unchanged, and comes back from its stored form
    unless `%sharedPath` stands right before the first `SHARED_DIRECTORY` in it. -/
theorem setCurrentPath_currentPathForDb_real {p : String}
    (hp : ¬ Str.contains p "%sharedPath%")
    (hfirst : ∀ i, Str.find p settings.sharedDirectory = some i →
      ¬ "%sharedPath".data <:+ p.data.take i) :
    let pkg' := pkg.setCurrentPath settings p
    (pkg'.setCurrentPath settings (pkg'.currentPathForDb settings)).currentPath = p := by
  have hp' : ¬ "%sharedPath%".data <:+: p.data := hp
  have hset : (pkg.setCurrentPath settings p).currentPath = p :=
    String.ext (by rw [PackageAttrs.setCurrentPath_data, replaceScan_of_not_occurs _ hp'])
  intro pkg'
  apply String.ext
  rw [PackageAttrs.setCurrentPath_data, PackageAttrs.currentPathForDb, hset, Str.replace_one_data]
  split_ifs with hS
  · rw [replaceScan_sharedPath_append _ hp', hS, List.nil_append]
  · cases hfind : findSub settings.sharedDirectory.data p.data with
    | none =>
      rw [replaceScan_of_not_occurs _ (findSub_eq_none hfind), replaceScan_of_not_occurs _ hp']
    | some i =>
      obtain ⟨a, b, hab, rfl, hn⟩ := findSub_eq_some hfind
      have hend := hfirst a.length hfind
      rw [hab, List.append_assoc, List.take_left] at hend
      have ha : ¬ "%sharedPath%".data <:+: a := fun h =>
        hp' (by rw [hab, List.append_assoc]; exact h.trans (List.prefix_append _ _).isInfix)
      have hb : ¬ "%sharedPath%".data <:+: b := fun h =>
        hp' (by rw [hab]; exact h.trans (List.suffix_append _ _).isInfix)
      rw [hab, replaceScan_one hS hn, List.append_assoc,
        replaceScan_append_of_noStart _ (noStart_sharedPath ha hend),
        replaceScan_sharedPath_append _ hb, List.append_assoc]

/-- The database encoding of the package path round-trips: a real path without
    `%sharedPath%` comes back from its stored form unless `%sharedPath` stands right before
    the first `SHARED_DIRECTORY` in it, and a stored path `%sharedPath%` + `r` is read back
    as it was. -/
theorem currentPath_round_trip :
    (∀ p : String, ¬ Str.contains p "%sharedPath%" →
      (∀ i, Str.find p settings.sharedDirectory = some i →
        ¬ "%sharedPath".data <:+ p.data.take i) →
      ((pkg.setCurrentPath settings p).setCurrentPath settings
        ((pkg.setCurrentPath settings p).currentPathForDb settings)).currentPath = p) ∧
    (∀ r : String, ¬ Str.contains r "%sharedPath%" →
      (pkg.setCurrentPath settings ("%sharedPath%" ++ r)).currentPathForDb settings =
        "%sharedPath%" ++ r) :=
  ⟨fun _ hp hfirst => setCurrentPath_currentPathForDb_real settings pkg hp hfirst,
    fun _ hr => currentPathForDb_setCurrentPath_stored settings pkg hr⟩

end RoundTrip

namespace PackageFiles

/-- Settings with the shared directory at `/shared/`. -/
def settings : Settings := ⟨"/shared/", "/shared/currentlyProcessing/", "/shared/rejected/"⟩

/-- A transfer being processed in the shared directory. -/
def transferPkg : PackageAttrs := ⟨.transfer, "s", "t", "/shared/currentlyProcessing/t/"⟩

end PackageFiles

/-- Part (2) of the round trip at the transfer's stored path, and part (1) at its real
    path. -/
theorem currentPath_round_trip_transfer :
    (PackageFiles.transferPkg.setCurrentPath PackageFiles.settings
        "%sharedPath%currentlyProcessing/t/").currentPathForDb PackageFiles.settings =
      "%sharedPath%currentlyProcessing/t/" ∧
    ((PackageFiles.transferPkg.setCurrentPath PackageFiles.settings
        "/shared/currentlyProcessing/t/").setCurrentPath PackageFiles.settings
      ((PackageFiles.transferPkg.setCurrentPath PackageFiles.settings
        "/shared/currentlyProcessing/t/").currentPathForDb PackageFiles.settings)).currentPath =
      "/shared/currentlyProcessing/t/" :=
  ⟨(currentPath_round_trip PackageFiles.settings PackageFiles.transferPkg).2
      "currentlyProcessing/t/" (by decide),
    (currentPath_round_trip PackageFiles.settings PackageFiles.transferPkg).1
      "/shared/currentlyProcessing/t/" (by decide) (fun i hi => by
        have h0 : Str.find "/shared/currentlyProcessing/t/" PackageFiles.settings.sharedDirectory =
            some 0 := by decide
        obtain rfl := Option.some.inj (h0.symm.trans hi)
        decide)⟩

/-- A real path without `%sharedPath%` that does not come back: `%sharedPath` followed by
    the shared directory is stored as `%sharedPath%sharedPath%x`, which the setter reads as
    the shared directory followed by `sharedPath%x`. -/
theorem currentPath_round_trip_breaks :
    ¬ Str.contains "%sharedPath/shared/x" "%sharedPath%" ∧
    (PackageFiles.transferPkg.setCurrentPath PackageFiles.settings
        "%sharedPath/shared/x").currentPathForDb PackageFiles.settings =
      "%sharedPath%sharedPath%x" ∧
    ((PackageFiles.transferPkg.setCurrentPath PackageFiles.settings
        "%sharedPath/shared/x").setCurrentPath PackageFiles.settings
      ((PackageFiles.transferPkg.setCurrentPath PackageFiles.settings
        "%sharedPath/shared/x").currentPathForDb PackageFiles.settings)).currentPath =
      "/shared/sharedPath%x" := by
  decide

namespace PackageFiles

/-- A tree whose only file is `/sip/objects/a.txt`. -/
def tree : Node := .dir [("sip", .dir [("objects", .dir [("a.txt", .file)])])]

/-- The SIP at `/sip/`. -/
def sipPkg : PackageAttrs := ⟨.ingest, "s", "t", "/sip/"⟩

/-- The catalog row of that file, stored with a doubled slash. -/
def doubledSlashRow : File :=
  ⟨"f", some "s", some "t", "%transferDirectory%objects/a.txt", "%SIPDirectory%objects//a.txt",
    "original"⟩

end PackageFiles

/-- One file, two mappings: the catalog row's `%inputFile%` `/sip/objects//a.txt` exists,
    so its mapping is yielded, and the walk's `/sip/objects/a.txt` is another string, so
    the same file is yielded again with `%fileUUID%` `None`. -/
theorem files_yields_file_twice :
    walkFiles PackageFiles.tree "/" = ["/sip/objects/a.txt"] ∧
    PackageFiles.sipPkg.files PackageFiles.settings PackageFiles.tree
        [PackageFiles.doubledSlashRow] "" =
      [getFileReplacementMapping PackageFiles.settings PackageFiles.doubledSlashRow "/sip/",
        PackageAttrs.walkMapping "/sip/objects/a.txt"] ∧
    (getFileReplacementMapping PackageFiles.settings PackageFiles.doubledSlashRow "/sip/").lookup
      "%fileUUID%" = some "f" := by
  decide

end A3m.Server
