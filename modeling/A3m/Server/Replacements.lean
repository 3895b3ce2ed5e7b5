/-
  A3m.Server.Replacements

  `get_replacement_mapping` of the package classes of `a3m/server/packages.py`: the
  replacements a package offers the commands of its jobs. `Package` starts from
  `BASE_REPLACEMENTS` and updates it three times: with the unit's keys and paths, with the
  processing configuration, and with the entries of its stage. `DIP`, `Transfer` and `SIP`
  update what `super()` returns once more. An update assigns its items in order, and a key
  already there keeps its place (`dictUpdate`); a value is a string or `None`.

  * In every class and stage, the stage's path key (`replacement_path_string`) and
    `%SIPDirectory%` give the current path, and `%unitType%` is the class's own name for
    `Transfer`, `SIP` and `DIP` and the stage's `unit_variable_type` for `Package` and
    `SIPDIP` (`getReplacementMapping_spec`).
  * `SIPDIP.get_or_create_from_db_by_path` ends with
    `cls(path, sip_obj.uuid, None, transfer, sip_obj)`, which `Package.__init__(name, url,
    config, transfer, sip)` takes as a name, a url and no config, at the transfer stage. So
    a `SIP` or `DIP` it returns keeps its unit variables under `"Transfer"` while its
    mapping says `"SIP"` or `"DIP"`, its `%SIPName%` is its path and its `%URL%` is its UUID
    (`SIPDIP.getReplacementMapping_of_path`).
-/
import A3m.Server.Basic
import A3m.Server.PackageDb
import A3m.Assets.WorkflowChecker

namespace A3m.Server

open A3m.Python A3m.Main A3m.Assets

/-! ## `dict.update` -/

section Update

variable {V : Type}

/-- `d.update(items)` with the items of a dict: one assignment per item, in order. -/
def dictUpdate (d items : List (String × V)) : List (String × V) :=
  items.foldl (fun d kv => setItem d kv.1 kv.2) d

theorem dictUpdate_nil (d : List (String × V)) : dictUpdate d [] = d := rfl

theorem dictUpdate_singleton (d : List (String × V)) (k : String) (v : V) :
    dictUpdate d [(k, v)] = setItem d k v := rfl

theorem lookup_setItem (d : List (String × V)) (k k' : String) (v : V) :
    (setItem d k v).lookup k' = ([(k, v)].lookup k').or (d.lookup k') := by
  by_cases h : k' = k
  · subst h
    rw [lookup_setItem_self, List.lookup_cons_self]
    rfl
  · rw [lookup_setItem_of_ne v h, lookup_cons_of_ne [] v (Ne.symm h)]
    rfl

/-- A key's value after an update: its last assignment among the items, or its value
    before. -/
theorem lookup_dictUpdate (d items : List (String × V)) (k : String) :
    (dictUpdate d items).lookup k = (items.reverse.lookup k).or (d.lookup k) := by
  induction items generalizing d with
  | nil => rfl
  | cons kv items ih =>
    obtain ⟨k', v⟩ := kv
    show (dictUpdate (setItem d k' v) items).lookup k = _
    rw [ih, lookup_setItem, List.reverse_cons, List.lookup_append, Option.or_assoc]

theorem lookup_dictUpdate_of_not_mem {d items : List (String × V)} {k : String}
    (h : k ∉ items.map Prod.fst) : (dictUpdate d items).lookup k = d.lookup k := by
  rw [lookup_dictUpdate, lookup_eq_none_of_not_mem (by simpa using h)]
  rfl

end Update

/-! ## The mappings -/

/-- What `get_replacement_mapping` reads of a package: its class, the attributes its path
    methods read, `name`, `url`, the processing configuration as `str` of each field of
    `ProcessingConfig`, in the order of its descriptor, `aip_filename`, and the `sip_type`
    a `SIP` sets. -/
structure MappingAttrs where
  cls : PackageClass
  pkg : PackageAttrs
  name : String
  url : Option String
  config : List (String × String)
  aipFilename : Option String
  sipType : Option String
  deriving DecidableEq, Repr

/-- The items of a package's mapping. -/
abbrev Mapping := List (String × Option String)

/-- The `%config:<field>%` items. -/
def configItems (config : List (String × String)) : Mapping :=
  config.map fun field => ("%config:" ++ field.1 ++ "%", some field.2)

/-- The unit's keys and paths, the first update of `Package.get_replacement_mapping`. -/
def unitItems (settings : Settings) (cwd : String) (a : MappingAttrs) : Mapping :=
  [("%SIPUUID%", some a.pkg.sipPk),
   ("%TransferUUID%", some a.pkg.transferPk),
   ("%SIPName%", some a.name),
   ("%SIPLogsDirectory%", some (join (join a.pkg.currentPath "logs") "")),
   ("%SIPObjectsDirectory%", some (join (join a.pkg.currentPath "objects") "")),
   ("%SIPDirectory%", some a.pkg.currentPath),
   ("%SIPDirectoryBasename%", some (basename (abspath cwd a.pkg.currentPath))),
   ("%relativeLocation%", some (a.pkg.currentPathForDb settings))]

/-- The entries of the stage, the last update of `Package.get_replacement_mapping`. -/
def stageItems (a : MappingAttrs) : Mapping :=
  match a.pkg.stage with
  | .ingest => [("%unitType%", some a.pkg.unitVariableType), ("%AIPFilename%", a.aipFilename)]
  | .transfer =>
    [(a.pkg.replacementPathString, some a.pkg.currentPath),
     ("%unitType%", some a.pkg.unitVariableType),
     ("%URL%", a.url)]

/-- `Package.get_replacement_mapping()`: `BASE_REPLACEMENTS.copy()` and three updates. -/
def Package.getReplacementMapping (settings : Settings) (cwd : String) (a : MappingAttrs) :
    Mapping :=
  dictUpdate (dictUpdate (dictUpdate ((baseReplacements settings).map fun kv => (kv.1, some kv.2))
    (unitItems settings cwd a)) (configItems a.config)) (stageItems a)

/-- `DIP.get_replacement_mapping(filter_subdir_path)`, with `""` for `None` (both falsy). -/
def DIP.getReplacementMapping (settings : Settings) (cwd : String) (a : MappingAttrs)
    (filterSubdirPath : String) : Mapping :=
  let mapping := setItem (Package.getReplacementMapping settings cwd a) "%unitType%" (some "DIP")
  if filterSubdirPath = "" then mapping
  else
    setItem mapping "%relativeLocation%"
      (some (Str.replace filterSubdirPath settings.sharedDirectory "%sharedPath%" 1))

/-- The update of `Transfer.get_replacement_mapping()`. -/
def Transfer.replacementItems (a : MappingAttrs) : Mapping :=
  [("%transferDirectory%", some a.pkg.currentPath), ("%unitType%", some "Transfer"),
   ("%URL%", a.url)]

/-- `Transfer.get_replacement_mapping()`. -/
def Transfer.getReplacementMapping (settings : Settings) (cwd : String) (a : MappingAttrs) :
    Mapping :=
  dictUpdate (Package.getReplacementMapping settings cwd a) (Transfer.replacementItems a)

/-- The update of `SIP.get_replacement_mapping()`. -/
def SIP.replacementItems (a : MappingAttrs) : Mapping :=
  [("%unitType%", some "SIP"), ("%AIPFilename%", a.aipFilename), ("%SIPType%", a.sipType)]

/-- `SIP.get_replacement_mapping()`. -/
def SIP.getReplacementMapping (settings : Settings) (cwd : String) (a : MappingAttrs) :
    Mapping :=
  dictUpdate (Package.getReplacementMapping settings cwd a) (SIP.replacementItems a)

/-- `package.get_replacement_mapping()`, by the package's class (`SIPDIP` has `Package`'s;
    a `DIP` is called with no `filter_subdir_path`). -/
def getReplacementMapping (settings : Settings) (cwd : String) (a : MappingAttrs) : Mapping :=
  match a.cls with
  | .package | .sipdip => Package.getReplacementMapping settings cwd a
  | .dip => DIP.getReplacementMapping settings cwd a ""
  | .transfer => Transfer.getReplacementMapping settings cwd a
  | .sip => SIP.getReplacementMapping settings cwd a

/-! ## What the mappings hold -/

section Spec

variable (settings : Settings) (cwd : String) (a : MappingAttrs)

/-- What the subclasses add to `Package`'s mapping, by class. -/
def classItems (a : MappingAttrs) : Mapping :=
  match a.cls with
  | .package | .sipdip => []
  | .dip => [("%unitType%", some "DIP")]
  | .transfer => Transfer.replacementItems a
  | .sip => SIP.replacementItems a

theorem getReplacementMapping_eq :
    getReplacementMapping settings cwd a =
      dictUpdate (Package.getReplacementMapping settings cwd a) (classItems a) := by
  unfold getReplacementMapping classItems
  split
  · exact (dictUpdate_nil _).symm
  · exact (dictUpdate_nil _).symm
  · rw [DIP.getReplacementMapping, if_pos rfl, dictUpdate_singleton]
  · rfl
  · rfl

theorem configKey_ne {n k : String} (h : ¬ "%config:".data <+: k.data) :
    "%config:" ++ n ++ "%" ≠ k := by
  rintro rfl
  exact h ⟨n.data ++ ['%'], by simp⟩

theorem lookup_dictUpdate_configItems {d : Mapping} {k : String}
    (h : ¬ "%config:".data <+: k.data) (config : List (String × String)) :
    (dictUpdate d (configItems config)).lookup k = d.lookup k :=
  lookup_dictUpdate_of_not_mem fun hk => by
    rw [configItems, List.map_map] at hk
    obtain ⟨field, -, hf⟩ := List.mem_map.1 hk
    exact configKey_ne h hf

/-- A key that is not a configuration field's: its last assignment by the class, by the
    stage, by the unit's items, or in `BASE_REPLACEMENTS`. -/
theorem lookup_getReplacementMapping {k : String} (hk : ¬ "%config:".data <+: k.data) :
    (getReplacementMapping settings cwd a).lookup k =
      ((classItems a).reverse.lookup k).or (((stageItems a).reverse.lookup k).or
        (((unitItems settings cwd a).reverse.lookup k).or
          (((baseReplacements settings).map fun kv => (kv.1, some kv.2)).lookup k))) := by
  rw [getReplacementMapping_eq, lookup_dictUpdate, Package.getReplacementMapping,
    lookup_dictUpdate, lookup_dictUpdate_configItems hk, lookup_dictUpdate]

/-- In every class and stage, the stage's path key and `%SIPDirectory%` give the current
    path, and `%unitType%` is the class's name for `Transfer`, `SIP` and `DIP`, the stage's
    `unit_variable_type` for `Package` and `SIPDIP`. -/
theorem getReplacementMapping_spec :
    (getReplacementMapping settings cwd a).lookup "%SIPDirectory%" =
        some (some a.pkg.currentPath) ∧
      (getReplacementMapping settings cwd a).lookup a.pkg.replacementPathString =
        some (some a.pkg.currentPath) ∧
      (getReplacementMapping settings cwd a).lookup "%unitType%" =
        some (some (if a.cls = .package ∨ a.cls = .sipdip then a.pkg.unitVariableType
          else a.cls.name)) := by
  have hpath : a.pkg.replacementPathString = "%SIPDirectory%" ∨
      a.pkg.replacementPathString = "%transferDirectory%" := by
    unfold PackageAttrs.replacementPathString
    split <;> simp
  rw [@lookup_getReplacementMapping settings cwd a "%SIPDirectory%" (by decide),
    @lookup_getReplacementMapping settings cwd a "%unitType%" (by decide),
    @lookup_getReplacementMapping settings cwd a a.pkg.replacementPathString
      (by rcases hpath with h | h <;> rw [h] <;> decide)]
  obtain ⟨cls, ⟨stage, sipPk, transferPk, currentPath⟩, name, url, config, aipFilename, sipType⟩ := a
  cases cls <;> cases stage <;> exact ⟨rfl, rfl, rfl⟩

end Spec

/-! ## The packages made from a path -/

/-- `cls(path, sip_obj.uuid, None, transfer, sip_obj)` at the end of
    `SIPDIP.get_or_create_from_db_by_path`, for `SIP` or `DIP`: `Package.__init__(name, url,
    config, transfer, sip)` takes the path as the name, the SIP's UUID as the url and the
    default configuration (`_prepare_config(None)`); `SIP.__init__` sets `aip_filename` and
    `sip_type` to `None`. -/
def SIPDIP.mappingAttrs (cls : PackageClass) (defaults : List (String × String)) (path : String)
    (pkg : PackageAttrs) : MappingAttrs :=
  ⟨cls, pkg, path, some pkg.sipPk, defaults, none, none⟩

/-- `SIPDIP.get_or_create_from_db_by_path` returns a package of the rows it found or made. -/
theorem SIPDIP.getOrCreateFromDbByPath_ofRows {settings : Settings}
    {uuidFromPath : String → Option String} {sipId path : String} {db : Db} {pkg : PackageAttrs}
    (h : (SIPDIP.getOrCreateFromDbByPath settings uuidFromPath sipId path db).1 = .ok pkg) :
    ∃ sip transfer, pkg = .ofRows sip transfer := by
  unfold SIPDIP.getOrCreateFromDbByPath at h
  dsimp only at h
  repeat' split at h
  all_goals first | exact ⟨_, _, (Except.ok.inj h).symm⟩ | cases h

/-- A `SIP` or `DIP` that `SIPDIP.get_or_create_from_db_by_path` returns is at the transfer
    stage: its unit variables go under `"Transfer"` while its mapping says `"SIP"` or
    `"DIP"`, its `%SIPName%` is its path, and its `%URL%` is its own UUID. -/
theorem SIPDIP.getReplacementMapping_of_path {settings : Settings}
    {uuidFromPath : String → Option String} {sipId path : String} {db : Db} {pkg : PackageAttrs}
    {cls : PackageClass} (hcls : cls = .sip ∨ cls = .dip)
    (h : (SIPDIP.getOrCreateFromDbByPath settings uuidFromPath sipId path db).1 = .ok pkg)
    (defaults : List (String × String)) (cwd : String) :
    let name := Str.replace path settings.sharedDirectory "%sharedPath%" 1
    let m := getReplacementMapping settings cwd (SIPDIP.mappingAttrs cls defaults name pkg)
    pkg.unitVariableType = "Transfer" ∧ m.lookup "%unitType%" = some (some cls.name) ∧
      m.lookup "%SIPName%" = some (some name) ∧ m.lookup "%URL%" = some (some pkg.uuid) := by
  intro name m
  obtain ⟨sip, transfer, rfl⟩ := SIPDIP.getOrCreateFromDbByPath_ofRows h
  rw [@lookup_getReplacementMapping settings cwd _ "%unitType%" (by decide),
    @lookup_getReplacementMapping settings cwd _ "%SIPName%" (by decide),
    @lookup_getReplacementMapping settings cwd _ "%URL%" (by decide)]
  rcases hcls with rfl | rfl <;> exact ⟨rfl, rfl, rfl, rfl⟩

theorem SIPDIP.getReplacementMapping_of_path_sip :
    ((PackageClass.sip = .sip ∨ PackageClass.sip = .dip) ∧
      (SIPDIP.getOrCreateFromDbByPath ⟨"/s", "/p", "/r"⟩ (fun _ => none) "s" "p"
        ⟨[], [], [], []⟩).1 = .ok (.ofRows ⟨"s", some "p"⟩ ⟨"s", "p"⟩)) ∧
      let name := Str.replace "p" "/s" "%sharedPath%" 1
      let m := getReplacementMapping ⟨"/s", "/p", "/r"⟩ "/"
        (SIPDIP.mappingAttrs .sip [] name (.ofRows ⟨"s", some "p"⟩ ⟨"s", "p"⟩))
      (PackageAttrs.ofRows ⟨"s", some "p"⟩ ⟨"s", "p"⟩).unitVariableType = "Transfer" ∧
        m.lookup "%unitType%" = some (some PackageClass.sip.name) ∧
        m.lookup "%SIPName%" = some (some name) ∧
        m.lookup "%URL%" = some (some (PackageAttrs.ofRows ⟨"s", some "p"⟩ ⟨"s", "p"⟩).uuid) :=
  have h : (SIPDIP.getOrCreateFromDbByPath ⟨"/s", "/p", "/r"⟩ (fun _ => none) "s" "p"
      ⟨[], [], [], []⟩).1 = .ok (.ofRows ⟨"s", some "p"⟩ ⟨"s", "p"⟩) := rfl
  ⟨⟨.inl rfl, h⟩, SIPDIP.getReplacementMapping_of_path (.inl rfl) h [] "/"⟩

end A3m.Server
