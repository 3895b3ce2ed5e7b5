/-
  A3m.Assets.WorkflowChecker

  `a3m/assets/workflow_checker.py`: the script that carries jobs of an old workflow
  document over into the current one. `migrate_old_job` rewrites one job's `config`, or
  refuses a job whose `@manager` is deprecated; `migrate_and_add_jobs` adds each migrated
  job to the current document and, for a refused job, calls itself on the links the job
  leads to; `check_dict_dead_links` lists the UUIDs the document links to but has no job
  for.

  Both documents are read with `json.load` and their `links` are objects, as the workflow
  schema has them (`Links`); what the script does with the values inside is Python's, on
  any JSON value (`A3m.Python.Json`). `migrate_old_job` changes the job in place, and the
  job is the dict both documents hold: the model writes it back to both. An exception
  ends the script before it writes anything, so the documents an exception leaves are not
  modelled.

  `migrate_and_add_jobs` has no visited set, so it is modelled with the number of nested
  calls the interpreter's recursion limit still allows (`depth`), past which it raises
  `RecursionError`; only its own frames are counted.
-/
import A3m.Python.Json
import A3m.Server.PackageContext
import Mathlib.Data.List.Dedup

namespace A3m.Assets

open A3m.Python A3m.Server JsonValue

/-- A workflow document's `links`: its jobs by UUID. -/
abbrev Links := List (String × JsonValue)

/-! ## Gathering strings -/

mutual
/-- The walk of `gather_linking_uuids` and `gather_dip_jobs_uuids` over one value of a
    dict: a string is passed to `leaf`, a dict is walked, and of a list the strings and
    the dicts are taken in turn; any other value, and a list inside a list, is passed over. -/
def gatherValue (leaf : String → List String) : JsonValue → List String
  | .str s => leaf s
  | .dict d => gatherItems leaf d
  | .list xs => gatherList leaf xs
  | _ => []

/-- The walk over a dict's values, in order. -/
def gatherItems (leaf : String → List String) : List (String × JsonValue) → List String
  | [] => []
  | (_, v) :: d => gatherValue leaf v ++ gatherItems leaf d

/-- The walk over a list's items. -/
def gatherList (leaf : String → List String) : List JsonValue → List String
  | [] => []
  | .str s :: xs => leaf s ++ gatherList leaf xs
  | .dict d :: xs => gatherItems leaf d ++ gatherList leaf xs
  | _ :: xs => gatherList leaf xs
end

/-- `attributes.values()`, walked. -/
def gather (leaf : String → List String) (attributes : JsonValue) :
    Except JsonExc (List String) :=
  match attributes with
  | .dict d => .ok (gatherItems leaf d)
  | _ => .error (attributes.noAttribute "values")

/-- A character of `[0-9a-f]`. -/
def isLowerHex (c : Char) : Bool := ('0' ≤ c && c ≤ '9') || ('a' ≤ c && c ≤ 'f')

/-- Where the pattern's dashes stand. -/
def uuidDashes : List Nat := [8, 13, 18, 23]

/-- The characters `[0-9a-f]{8}-[0-9a-f]{4}-[0-9a-f]{4}-[0-9a-f]{4}-[0-9a-f]{12}`. -/
def isUuidChars (cs : List Char) : Bool :=
  cs.length == 36 && cs.enum.all fun (i, c) => if i ∈ uuidDashes then c == '-' else isLowerHex c

/-- `re.match(r"^...$", s)` with that pattern: `$` also matches before a final newline. -/
def matchesUuid (s : String) : Bool :=
  isUuidChars s.data || (s.data.getLast? == some '\n' && isUuidChars s.data.dropLast)

/-- `gather_linking_uuids(data)`: the strings that match the UUID pattern. -/
def gatherLinkingUuids (data : JsonValue) : Except JsonExc (List String) :=
  gather (fun s => if matchesUuid s then [s] else []) data

/-- `gather_dip_jobs_uuids(attributes, job_id)`: `job_id` once for each string holding
    `DIP`. -/
def gatherDipJobsUuids (attributes : JsonValue) (jobId : String) : Except JsonExc (List String) :=
  gather (fun s => if Str.contains s "DIP" then [jobId] else []) attributes

/-- `check_dict_dead_links(data)`: the linked UUIDs that are not jobs. `list(set(...))`
    orders them by the set's hash table; the model keeps each once, in an order of its
    own, and the results below are about which UUIDs there are. -/
def checkDictDeadLinks (links : Links) : Except JsonExc (List String) := do
  let linkingUuids ← links.mapM fun (_, attributes) => gatherLinkingUuids attributes
  let uniqueJobs := (links.map Prod.fst).dedup
  let uniqueLinks := linkingUuids.flatten.dedup
  pure (uniqueLinks.filter fun a => a ∉ uniqueJobs)

/-! ## Sample documents -/

namespace WorkflowChecker

def ua : String := "aaaaaaaa-aaaa-aaaa-aaaa-aaaaaaaaaaaa"
def ub : String := "bbbbbbbb-bbbb-bbbb-bbbb-bbbbbbbbbbbb"

/-- A job of the deprecated manager, leading to `k`. -/
def setVariableJob (k : String) : JsonValue :=
  .dict [("config", .dict [("@manager", .str "linkTaskManagerSetUnitVariable")]),
    ("exit_codes", .dict [("0", .dict [("link_id", .str k)])]), ("fallback_link_id", .str k)]

/-- A job in the old form, leading to `k`: a model, an old client script name and a null. -/
def oldJob (k : String) : JsonValue :=
  .dict [("config", .dict [("@model", .str "StandardTaskConfig"), ("execute", .str "normalize_v1.0"),
    ("arguments", .null)]), ("exit_codes", .dict [("0", .dict [("link_id", .str k)])])]

/-- A job of the deprecated manager with no exit codes and no fallback link. -/
def noFallbackJob : List (String × JsonValue) :=
  [("config", .dict [("@manager", .str "linkTaskManagerSetUnitVariable")]), ("exit_codes", .dict [])]

/-- A rank that the suggestion of `setVariableJob ub` under `ua` lowers. -/
def rank (k : String) : Nat := if k = ua then 1 else 0

end WorkflowChecker

/-! ### The walk -/

/-- The strings the walk reaches in a dict, whatever they are. -/
def stringsIn (d : List (String × JsonValue)) : List String := gatherItems (fun s => [s]) d

mutual
/-- The walk passes each string it reaches to `leaf`, in order. -/
theorem gatherValue_eq_flatMap (leaf : String → List String) :
    ∀ v, gatherValue leaf v = (gatherValue (fun s => [s]) v).flatMap leaf
  | .str s => by simp [gatherValue]
  | .dict d => by simp only [gatherValue, gatherItems_eq_flatMap leaf d]
  | .list xs => by simp only [gatherValue, gatherList_eq_flatMap leaf xs]
  | .null | .bool _ | .num _ => rfl

theorem gatherItems_eq_flatMap (leaf : String → List String) :
    ∀ d, gatherItems leaf d = (gatherItems (fun s => [s]) d).flatMap leaf
  | [] => rfl
  | (_, v) :: d => by
    simp only [gatherItems, List.flatMap_append, gatherValue_eq_flatMap leaf v,
      gatherItems_eq_flatMap leaf d]

theorem gatherList_eq_flatMap (leaf : String → List String) :
    ∀ xs, gatherList leaf xs = (gatherList (fun s => [s]) xs).flatMap leaf
  | [] => rfl
  | .str s :: xs => by simp [gatherList, gatherList_eq_flatMap leaf xs]
  | .dict d :: xs => by
    simp only [gatherList, List.flatMap_append, gatherItems_eq_flatMap leaf d,
      gatherList_eq_flatMap leaf xs]
  | .null :: xs | .bool _ :: xs | .num _ :: xs | .list _ :: xs => by
    simp only [gatherList, gatherList_eq_flatMap leaf xs]
end

/-- The walk over every job: it returns when every job is a dict, with what the walk finds
    in each. -/
theorem mem_flatten_of_mapM_gather {leaf : String → List String} :
    ∀ {links : Links} {ls : List (List String)}, links.mapM (fun p => gather leaf p.2) = .ok ls →
      ∀ x, x ∈ ls.flatten ↔ ∃ job d, (job, JsonValue.dict d) ∈ links ∧ x ∈ gatherItems leaf d
  | [], _, h, _ => by cases h; simp
  | (job, a) :: links, ls, h, x => by
    rw [List.mapM_cons] at h
    obtain ⟨b, hb, h⟩ := bind_eq_ok h
    obtain ⟨bs, hbs, h⟩ := bind_eq_ok h
    cases h
    cases a with
    | dict d =>
      cases hb
      simp only [List.flatten_cons, List.mem_append, mem_flatten_of_mapM_gather hbs x,
        List.mem_cons, Prod.mk.injEq, JsonValue.dict.injEq]
      constructor
      · rintro (hx | ⟨job', d', hm, hx⟩)
        · exact ⟨job, d, .inl ⟨rfl, rfl⟩, hx⟩
        · exact ⟨job', d', .inr hm, hx⟩
      · rintro ⟨job', d', ⟨-, rfl⟩ | hm, hx⟩
        · exact .inl hx
        · exact .inr ⟨job', d', hm, hx⟩
    | _ => cases hb

/-- `check_dict_dead_links` returns the strings matching the UUID pattern that some job
    holds where the walk reaches and that are not the key of a job, each once. -/
theorem checkDictDeadLinks_mem {links : Links} {dead : List String}
    (h : checkDictDeadLinks links = .ok dead) :
    dead.Nodup ∧ ∀ x, x ∈ dead ↔
      matchesUuid x ∧ (∃ job d, (job, JsonValue.dict d) ∈ links ∧ x ∈ stringsIn d) ∧
        x ∉ links.map Prod.fst := by
  obtain ⟨ls, hls, h⟩ := bind_eq_ok h
  cases h
  refine ⟨(List.nodup_dedup _).filter _, fun x => ?_⟩
  have hwalk := @mem_flatten_of_mapM_gather (fun s => if matchesUuid s then [s] else []) links ls
    hls x
  simp only [gatherItems_eq_flatMap (fun s => if matchesUuid s then [s] else [])] at hwalk
  simp only [List.mem_filter, List.mem_dedup, hwalk, List.mem_flatMap, decide_eq_true_eq]
  constructor
  · rintro ⟨⟨job, d, hm, s, hs, hx⟩, hj⟩
    split at hx
    · cases List.mem_singleton.mp hx; exact ⟨‹_›, ⟨job, d, hm, hs⟩, hj⟩
    · cases hx
  · rintro ⟨hu, ⟨job, d, hm, hs⟩, hj⟩
    exact ⟨⟨job, d, hm, x, hs, by simp [hu]⟩, hj⟩

theorem checkDictDeadLinks_mem_oldJob :
    checkDictDeadLinks [(WorkflowChecker.ua, WorkflowChecker.oldJob WorkflowChecker.ub)] =
        .ok [WorkflowChecker.ub] ∧
      [WorkflowChecker.ub].Nodup ∧ ∀ x, x ∈ [WorkflowChecker.ub] ↔ matchesUuid x ∧
        (∃ job d, (job, JsonValue.dict d) ∈
          [(WorkflowChecker.ua, WorkflowChecker.oldJob WorkflowChecker.ub)] ∧ x ∈ stringsIn d) ∧
        x ∉ [(WorkflowChecker.ua, WorkflowChecker.oldJob WorkflowChecker.ub)].map Prod.fst :=
  ⟨rfl, checkDictDeadLinks_mem rfl⟩

/-! ## Migrating one job -/

/-- `depreciated_managers`. -/
def depreciatedManagers : List String := ["linkTaskManagerSetUnitVariable"]

/-- `execute_updates`: old client script names and their new ones. -/
def executeUpdates : List (String × String) :=
  [("createDirectory_v0.0", "cmd_mkdir"),
   ("validateFile_v1.0", "validate_file"),
   ("normalize_v1.0", "normalize"),
   ("manualNormalizationMoveAccessFilesToDIP_v0.0", "manual_normalization_move_access_files_to_dip"),
   ("checkForAccessDirectory_v0.0", "check_for_access_directory"),
   ("moveSIP_v0.0", "move_sip"),
   ("failedSIPCleanup_v1.0", "failed_sip_cleanup")]

/-- `if config.get(key): config.pop(key)`. -/
def popIfTruthy (config : List (String × JsonValue)) (key : String) : List (String × JsonValue) :=
  if (dictGet config key).truthy then config.filter (·.1 != key) else config

/-- The update of `execute`: an old name is replaced by its new one. `in
    execute_updates.keys()` hashes the value, so a list or a dict raises `TypeError`. -/
def updateExecute (config : List (String × JsonValue)) :
    Except JsonExc (List (String × JsonValue)) :=
  if (dictGet config "execute").truthy then
    (fun key => match key.bind executeUpdates.lookup with
      | some new => setItem config "execute" (.str new)
      | none => config) <$> strKey (dictGet config "execute")
  else .ok config

/-- The rewriting of a config whose manager is not deprecated: `@model` and `chain_id`
    removed, `execute` updated, and the keys with null values dropped. -/
def migrateConfig (config : List (String × JsonValue)) :
    Except JsonExc (List (String × JsonValue)) :=
  (fun c => c.filter fun kv => !kv.2.isNone) <$>
    updateExecute (popIfTruthy (popIfTruthy config "@model") "chain_id")

/-- `migrate_old_job(data)`: `false` for a job of a deprecated manager, left as it is;
    otherwise `true` and the job with its `config` migrated. -/
def migrateOldJob (data : JsonValue) : Except JsonExc (Bool × JsonValue) :=
  match data with
  | .dict job =>
    let config := dictGet job "config"
    if !config.truthy then .ok (true, data) else
    match config with
    | .dict c =>
      if pyIn (dictGet c "@manager") (depreciatedManagers.map .str) then .ok (false, data) else
      (fun c => (true, .dict (setItem job "config" (.dict c)))) <$> migrateConfig c
    | _ => .error (config.noAttribute "get")
  | _ => .error (data.noAttribute "get")

/-! ## Migrating and adding jobs -/

/-- The links a refused job suggests: each exit code's truthy `link_id`, then its
    `fallback_link_id` unless that is among them already. -/
def suggestionsOf (jobData : JsonValue) : Except JsonExc (List JsonValue) := do
  let exitCodes ← jobData.get "exit_codes"
  -- `job_data['exit_codes'][l]`: the key is there once the loop has an item
  let linkIds ← (← exitCodes.iter).mapM fun l => do (← exitCodes.getItem l).get "link_id"
  let suggestions := linkIds.filter truthy
  if pyIn (← jobData.get "fallback_link_id") suggestions then pure suggestions
  else pure (suggestions ++ [← jobData.getItem (.str "fallback_link_id")])

/-- One turn of the loop of `migrate_and_add_jobs` over the state `(data, old_data)`,
    with `recur` for its recursive call. -/
def addJob (recur : List JsonValue → Links → Links → Except JsonExc (Links × Links))
    (st : Links × Links) (jobId : JsonValue) : Except JsonExc (Links × Links) := do
  let (key, jobData) ← dictItem st.2 jobId
  let (added, jobData) ← migrateOldJob jobData
  let oldData := setItem st.2 key jobData
  if added then pure (setItem st.1 key jobData, oldData)
  else
    let suggestions ← suggestionsOf jobData
    if suggestions.isEmpty then pure (st.1, oldData) else recur suggestions st.1 oldData

/-- `migrate_and_add_jobs(uuid_list, data, old_data)`, allowed `depth` nested calls, on
    the two documents' `links`. -/
def migrateAndAddJobs : Nat → List JsonValue → Links → Links → Except JsonExc (Links × Links)
  | 0, _, _, _ => .error (.py (.recursionError "maximum recursion depth exceeded"))
  | depth + 1, uuidList, data, oldData => do
    let st ← uuidList.foldlM (addJob (migrateAndAddJobs depth)) (data, oldData)
    let _ ← checkDictDeadLinks st.1
    pure st

/-! ## Assignments -/

section Assign

variable {β : Type}

theorem lookup_setItem_self (d : List (String × β)) (k : String) (v : β) :
    (setItem d k v).lookup k = some v := by
  induction d with
  | nil => exact List.lookup_cons_self
  | cons p d ih =>
    by_cases h : p.1 = k
    · rw [setItem, if_pos h, h, List.lookup_cons_self]
    · rw [setItem, if_neg h, lookup_cons_of_ne _ _ h, ih]

theorem lookup_setItem_of_ne {d : List (String × β)} {k k' : String} (v : β) (h : k' ≠ k) :
    (setItem d k v).lookup k' = d.lookup k' := by
  induction d with
  | nil => exact lookup_cons_of_ne [] v (Ne.symm h)
  | cons p d ih =>
    obtain ⟨k'', v'⟩ := p
    by_cases hp : k'' = k
    · subst hp
      rw [setItem, if_pos rfl, lookup_cons_of_ne _ _ (Ne.symm h), lookup_cons_of_ne _ _ (Ne.symm h)]
    · rw [setItem, if_neg hp]
      by_cases hq : k'' = k'
      · subst hq; rw [List.lookup_cons_self, List.lookup_cons_self]
      · rw [lookup_cons_of_ne _ _ hq, lookup_cons_of_ne _ _ hq, ih]

/-- Assigning a key the value it has changes nothing. -/
theorem setItem_of_lookup {d : List (String × β)} {k : String} {v : β}
    (h : d.lookup k = some v) : setItem d k v = d := by
  induction d with
  | nil => cases h
  | cons p d ih =>
    obtain ⟨k', v'⟩ := p
    by_cases h' : k' = k
    · subst h'; rw [List.lookup_cons_self] at h; cases h; rw [setItem, if_pos rfl]
    · rw [lookup_cons_of_ne _ _ h'] at h; rw [setItem, if_neg h', ih h]

theorem mem_keys_setItem {d : List (String × β)} {k x : String} {v : β}
    (h : x ∈ (setItem d k v).map Prod.fst) : x ∈ d.map Prod.fst ∨ x = k := by
  induction d with
  | nil => simpa [setItem] using h
  | cons p d ih =>
    by_cases hp : p.1 = k
    · rw [setItem, if_pos hp] at h; exact .inl (by simpa using h)
    · rw [setItem, if_neg hp] at h
      simp only [List.map_cons, List.mem_cons] at h ⊢
      rcases h with h | h
      · exact .inl (.inl h)
      · exact (ih h).imp .inr id

theorem nodup_keys_setItem {d : List (String × β)} (hd : (d.map Prod.fst).Nodup) (k : String)
    (v : β) : ((setItem d k v).map Prod.fst).Nodup := by
  induction d with
  | nil => simp [setItem]
  | cons p d ih =>
    simp only [List.map_cons, List.nodup_cons] at hd
    by_cases hp : p.1 = k
    · rw [setItem, if_pos hp]; simpa using hd
    · rw [setItem, if_neg hp, List.map_cons, List.nodup_cons]
      exact ⟨fun hm => (mem_keys_setItem hm).elim hd.1 hp, ih hd.2⟩

theorem lookup_filter_key_of_ne {d : List (String × β)} {key k : String} (h : k ≠ key) :
    (d.filter (·.1 != key)).lookup k = d.lookup k := by
  induction d with
  | nil => rfl
  | cons p d ih =>
    obtain ⟨k', v⟩ := p
    by_cases hk : k' = key
    · subst hk; simp [List.filter_cons, ih, lookup_cons_of_ne _ _ (Ne.symm h)]
    · simp only [List.filter_cons, bne_iff_ne, ne_eq, hk, not_false_eq_true, if_true]
      by_cases hk' : k' = k
      · subst hk'; rw [List.lookup_cons_self, List.lookup_cons_self]
      · rw [lookup_cons_of_ne _ _ hk', lookup_cons_of_ne _ _ hk', ih]

end Assign

/-! ## One job's migration -/

theorem dictGet_popIfTruthy_self (c : List (String × JsonValue)) (key : String) :
    (dictGet (popIfTruthy c key) key).truthy = false := by
  unfold popIfTruthy
  split
  · have : key ∉ (c.filter (·.1 != key)).map Prod.fst := by simp
    simp [dictGet, lookup_eq_none_of_not_mem this]
  · rename_i h; simpa using h

theorem dictGet_popIfTruthy_of_ne (c : List (String × JsonValue)) {key k : String} (h : k ≠ key) :
    dictGet (popIfTruthy c key) k = dictGet c k := by
  unfold popIfTruthy
  split
  · simp only [dictGet, lookup_filter_key_of_ne h]
  · rfl

theorem nodup_keys_popIfTruthy {c : List (String × JsonValue)} (hc : (c.map Prod.fst).Nodup)
    (key : String) : ((popIfTruthy c key).map Prod.fst).Nodup := by
  unfold popIfTruthy
  split
  · exact hc.sublist ((List.filter_sublist c).map _)
  · exact hc

/-- No new name of `execute_updates` is an old one. -/
theorem executeUpdates_lookup_new {new : String} (h : new ∈ executeUpdates.map Prod.snd) :
    executeUpdates.lookup new = none := by
  simp only [executeUpdates, List.map_cons, List.map_nil, List.mem_cons, List.not_mem_nil,
    or_false] at h
  rcases h with rfl | rfl | rfl | rfl | rfl | rfl | rfl <;> rfl

/-- An `execute` value the update keeps. -/
def ExecuteKept (v : JsonValue) : Prop :=
  v.truthy = false ∨ ∃ key, strKey v = .ok key ∧ key.bind executeUpdates.lookup = none

theorem updateExecute_of_kept {c : List (String × JsonValue)} (h : ExecuteKept (dictGet c "execute")) :
    updateExecute c = .ok c := by
  unfold updateExecute
  split
  · rcases h with h | ⟨key, hk, hl⟩
    · simp_all
    · simp only [hk, Functor.map, Except.map, hl]
  · rfl

/-- `updateExecute` either keeps the config, whose `execute` it keeps, or writes a new
    name to `execute`. -/
theorem updateExecute_eq_ok {c c' : List (String × JsonValue)} (h : updateExecute c = .ok c') :
    c' = c ∧ ExecuteKept (dictGet c "execute") ∨
      ∃ new, new ∈ executeUpdates.map Prod.snd ∧ c' = setItem c "execute" (.str new) := by
  unfold updateExecute at h
  split at h
  · rcases hk : strKey (dictGet c "execute") with e | key <;> simp only [hk] at h
    · cases h
    · rcases hl : key.bind executeUpdates.lookup with _ | new <;>
        simp only [hl, Functor.map, Except.map, Except.ok.injEq] at h
      · exact .inl ⟨h.symm, .inr ⟨key, hk, hl⟩⟩
      · obtain ⟨old, -, hold⟩ := Option.bind_eq_some.mp hl
        exact .inr ⟨new, List.mem_map.mpr ⟨(old, new), mem_of_lookup_eq_some hold, rfl⟩, h.symm⟩
  · rename_i hn; exact .inl ⟨(Except.ok.inj h).symm, .inl (by simpa using hn)⟩

theorem executeKept_of_updateExecute {c c' : List (String × JsonValue)}
    (h : updateExecute c = .ok c') : ExecuteKept (dictGet c' "execute") := by
  rcases updateExecute_eq_ok h with ⟨rfl, hk⟩ | ⟨new, hnew, rfl⟩
  · exact hk
  · rw [dictGet, lookup_setItem_self]
    exact .inr ⟨some new, rfl, executeUpdates_lookup_new hnew⟩

theorem dictGet_updateExecute_of_ne {c c' : List (String × JsonValue)}
    (h : updateExecute c = .ok c') {k : String} (hk : k ≠ "execute") :
    dictGet c' k = dictGet c k := by
  rcases updateExecute_eq_ok h with ⟨rfl, -⟩ | ⟨new, -, rfl⟩
  · rfl
  · simp only [dictGet, lookup_setItem_of_ne _ hk]

theorem nodup_keys_updateExecute {c c' : List (String × JsonValue)} (hc : (c.map Prod.fst).Nodup)
    (h : updateExecute c = .ok c') : (c'.map Prod.fst).Nodup := by
  rcases updateExecute_eq_ok h with ⟨rfl, -⟩ | ⟨new, -, rfl⟩
  · exact hc
  · exact nodup_keys_setItem hc _ _

/-- Dropping the null values of a dict with distinct keys changes no `get`. -/
theorem dictGet_filter_isNone {d : List (String × JsonValue)} (hd : (d.map Prod.fst).Nodup)
    (k : String) : dictGet (d.filter fun kv => !kv.2.isNone) k = dictGet d k := by
  rw [dictGet_filter_of_nodup hd]
  split
  · rfl
  · rename_i h; cases hv : dictGet d k <;> simp_all [isNone]

theorem migrateConfig_eq_ok {c c' : List (String × JsonValue)} (h : migrateConfig c = .ok c') :
    ∃ c₃, updateExecute (popIfTruthy (popIfTruthy c "@model") "chain_id") = .ok c₃ ∧
      c' = c₃.filter fun kv => !kv.2.isNone := by
  unfold migrateConfig at h
  rcases hu : updateExecute (popIfTruthy (popIfTruthy c "@model") "chain_id") with e | c₃ <;>
    simp only [hu, Functor.map, Except.map, Except.ok.injEq, reduceCtorEq] at h
  exact ⟨c₃, rfl, h.symm⟩

section MigrateConfig

variable {c c' : List (String × JsonValue)} (hc : (c.map Prod.fst).Nodup)
  (h : migrateConfig c = .ok c')
include hc h

/-- The migration leaves every key but `@model`, `chain_id` and `execute` as it was. -/
theorem dictGet_migrateConfig_of_ne {k : String} (hm : k ≠ "@model") (hch : k ≠ "chain_id")
    (he : k ≠ "execute") : dictGet c' k = dictGet c k := by
  obtain ⟨c₃, hu, rfl⟩ := migrateConfig_eq_ok h
  have h₂ := nodup_keys_popIfTruthy (nodup_keys_popIfTruthy hc "@model") "chain_id"
  rw [dictGet_filter_isNone (nodup_keys_updateExecute h₂ hu), dictGet_updateExecute_of_ne hu he,
    dictGet_popIfTruthy_of_ne _ hch, dictGet_popIfTruthy_of_ne _ hm]

/-- Migrating a migrated config changes nothing. -/
theorem migrateConfig_idem : migrateConfig c' = .ok c' := by
  obtain ⟨c₃, hu, hc'⟩ := migrateConfig_eq_ok h
  have h₃ := nodup_keys_updateExecute (nodup_keys_popIfTruthy (nodup_keys_popIfTruthy hc _) _) hu
  have hget (k : String) : dictGet c' k = dictGet c₃ k := hc' ▸ dictGet_filter_isNone h₃ k
  have hm : popIfTruthy c' "@model" = c' := by
    rw [popIfTruthy, hget, dictGet_updateExecute_of_ne hu (by decide),
      dictGet_popIfTruthy_of_ne _ (by decide), dictGet_popIfTruthy_self]
    rfl
  have hch : popIfTruthy c' "chain_id" = c' := by
    rw [popIfTruthy, hget, dictGet_updateExecute_of_ne hu (by decide), dictGet_popIfTruthy_self]
    rfl
  have he : updateExecute c' = .ok c' :=
    updateExecute_of_kept (by rw [hget]; exact executeKept_of_updateExecute hu)
  rw [migrateConfig, hm, hch, he]
  simp only [Functor.map, Except.map, hc', List.filter_filter, Bool.and_self]

end MigrateConfig

/-- What `migrate_old_job` can do: a job whose config is falsy is kept as it is, a job of a
    deprecated manager is refused as it is, and any other job is kept with its config
    migrated. -/
theorem migrateOldJob_eq_ok {j : JsonValue} {r : Bool × JsonValue} (h : migrateOldJob j = .ok r) :
    ∃ job, j = .dict job ∧
      ((dictGet job "config").truthy = false ∧ r = (true, j) ∨
       ∃ c, dictGet job "config" = .dict c ∧
         (pyIn (dictGet c "@manager") (depreciatedManagers.map .str) = true ∧ r = (false, j) ∨
          pyIn (dictGet c "@manager") (depreciatedManagers.map .str) = false ∧
            ∃ c', migrateConfig c = .ok c' ∧ r = (true, .dict (setItem job "config" (.dict c'))))) := by
  cases j with
  | dict job =>
    refine ⟨job, rfl, ?_⟩
    unfold migrateOldJob at h
    dsimp only at h
    by_cases ht : (dictGet job "config").truthy
    · rw [if_neg (by simpa using ht)] at h
      refine .inr ?_
      cases hc : dictGet job "config" with
      | dict c =>
        rw [hc] at h
        dsimp only at h
        refine ⟨c, rfl, ?_⟩
        by_cases hm : pyIn (dictGet c "@manager") (depreciatedManagers.map .str)
        · rw [if_pos hm] at h; exact .inl ⟨hm, (Except.ok.inj h).symm⟩
        · rw [if_neg hm] at h
          rcases hmc : migrateConfig c with e | c' <;>
            simp only [hmc, Functor.map, Except.map, reduceCtorEq, Except.ok.injEq] at h
          exact .inr ⟨by simpa using hm, c', rfl, h.symm⟩
      | _ => rw [hc] at h; cases h
    · rw [if_pos (by simpa using ht)] at h
      exact .inl ⟨by simpa using ht, (Except.ok.inj h).symm⟩
  | _ => cases h

/-- A refused job is left as it is. -/
theorem migrateOldJob_refused {j j' : JsonValue} (h : migrateOldJob j = .ok (false, j')) : j' = j := by
  obtain ⟨job, rfl, ⟨-, h⟩ | ⟨c, -, ⟨-, h⟩ | ⟨-, c', -, h⟩⟩⟩ := migrateOldJob_eq_ok h <;>
    simp_all

/-- A job whose config migrates to `c'` is kept, with `c'` as its config. -/
theorem migrateOldJob_of_migrateConfig {job c c' : List (String × JsonValue)}
    (hc : dictGet job "config" = .dict c)
    (hm : pyIn (dictGet c "@manager") (depreciatedManagers.map .str) = false)
    (hmc : migrateConfig c = .ok c') :
    migrateOldJob (.dict job) = .ok (true, .dict (setItem job "config" (.dict c'))) := by
  unfold migrateOldJob
  dsimp only
  rw [hc]
  cases c with
  | nil =>
    rw [show migrateConfig [] = .ok [] from rfl, Except.ok.injEq] at hmc
    subst hmc
    have hl : job.lookup "config" = some (.dict []) := by
      cases hl : job.lookup "config" <;> simp_all [dictGet]
    rw [setItem_of_lookup hl]
    rfl
  | cons p c =>
    simp only [truthy, List.isEmpty_cons, Bool.not_false, Bool.not_true, if_false, hm, hmc,
      Functor.map, Except.map]
    rfl

/-- `migrate_old_job` is idempotent on what `json.load` returns: a kept job migrates to
    itself. -/
theorem migrateOldJob_idempotent {j j' : JsonValue} (hj : j.distinctKeys = true)
    (h : migrateOldJob j = .ok (true, j')) : migrateOldJob j' = .ok (true, j') := by
  obtain ⟨job, rfl, ⟨-, h'⟩ | ⟨c, hc, ⟨-, h'⟩ | ⟨hm, c', hmc, h'⟩⟩⟩ := migrateOldJob_eq_ok h
  · cases h'; exact h
  · cases h'
  · cases h'
    have hnodup := nodup_keys_of_get hj hc
    have hl : (setItem job "config" (.dict c')).lookup "config" = some (.dict c') :=
      lookup_setItem_self _ _ _
    have hman : dictGet c' "@manager" = dictGet c "@manager" :=
      dictGet_migrateConfig_of_ne hnodup hmc (by decide) (by decide) (by decide)
    rw [migrateOldJob_of_migrateConfig (by simp [dictGet, hl]) (hman ▸ hm)
      (migrateConfig_idem hnodup hmc), setItem_of_lookup hl]

theorem migrateOldJob_idempotent_oldJob :
    ∃ j', migrateOldJob (WorkflowChecker.oldJob WorkflowChecker.ua) = .ok (true, j') ∧
      migrateOldJob j' = .ok (true, j') :=
  ⟨_, rfl, @migrateOldJob_idempotent (WorkflowChecker.oldJob WorkflowChecker.ua) _ (by decide) rfl⟩

/-! ## Suggestions -/

/-- What a refused job suggests: its exit codes' truthy link ids, with its
    `fallback_link_id` after them unless it is among them. -/
theorem suggestionsOf_eq_ok {j : JsonValue} {ss : List JsonValue} (h : suggestionsOf j = .ok ss) :
    ∃ job ids, j = .dict job ∧ (∀ x ∈ ids, x.truthy = true) ∧
      (pyIn (dictGet job "fallback_link_id") ids = true ∧ ss = ids ∨
       ∃ v, job.lookup "fallback_link_id" = some v ∧ ss = ids ++ [v]) := by
  unfold suggestionsOf at h
  obtain ⟨ec, hec, h⟩ := bind_eq_ok h
  obtain ⟨job, rfl, rfl⟩ := get_eq_ok hec
  obtain ⟨xs, -, h⟩ := bind_eq_ok h
  obtain ⟨ids, -, h⟩ := bind_eq_ok h
  obtain ⟨fb, hfb, h⟩ := bind_eq_ok h
  obtain ⟨_, ⟨⟩, rfl⟩ := get_eq_ok hfb
  refine ⟨job, ids.filter truthy, rfl, fun x hx => (List.mem_filter.mp hx).2, ?_⟩
  split at h
  · exact .inl ⟨‹_›, (Except.ok.inj h).symm⟩
  · obtain ⟨v, hv, h⟩ := bind_eq_ok h
    exact .inr ⟨v, getItem_dict_str hv, (Except.ok.inj h).symm⟩

/-- `if suggestions:` never fails: a refused job always suggests something. -/
theorem suggestionsOf_ne_nil {j : JsonValue} {ss : List JsonValue} (h : suggestionsOf j = .ok ss) :
    ss ≠ [] := by
  obtain ⟨job, ids, -, -, ⟨hin, rfl⟩ | ⟨v, -, rfl⟩⟩ := suggestionsOf_eq_ok h
  · rintro rfl; simp [pyIn] at hin
  · simp

/-! ## Runs -/

/-- A refused job's turn is the recursive call on its suggestions. -/
theorem addJob_of_refused {recur : List JsonValue → Links → Links → Except JsonExc (Links × Links)}
    {st : Links × Links} {k : String} {j : JsonValue} {ss : List JsonValue}
    (hk : st.2.lookup k = some j) (hm : migrateOldJob j = .ok (false, j))
    (hs : suggestionsOf j = .ok ss) : addJob recur st (.str k) = recur ss st.1 st.2 := by
  have hd : dictItem st.2 (.str k) = .ok (k, j) := dictItem_eq_ok.mpr ⟨rfl, hk⟩
  have hne : ss.isEmpty = false := by
    cases ss with
    | nil => exact absurd rfl (suggestionsOf_ne_nil hs)
    | cons => rfl
  simp only [addJob, hd, hm, hs, hne, setItem_of_lookup hk, bind, Except.bind, pure, Except.pure,
    Bool.false_eq_true, if_false]

/-- What one turn of the loop can do, whatever the recursive call: raise, add a kept job
    under its key to both documents, or call itself on a refused job's suggestions. -/
theorem addJob_cases (st : Links × Links) (x : JsonValue) :
    (∃ e, ∀ recur, addJob recur st x = .error e) ∨
    (∃ k j j', x = .str k ∧ st.2.lookup k = some j ∧ migrateOldJob j = .ok (true, j') ∧
       ∀ recur, addJob recur st x = .ok (setItem st.1 k j', setItem st.2 k j')) ∨
    (∃ k j ss, x = .str k ∧ st.2.lookup k = some j ∧ migrateOldJob j = .ok (false, j) ∧
       suggestionsOf j = .ok ss ∧ ∀ recur, addJob recur st x = recur ss st.1 st.2) := by
  rcases hd : dictItem st.2 x with e | ⟨k, j⟩
  · exact .inl ⟨e, fun _ => by simp only [addJob, hd, bind, Except.bind]⟩
  obtain ⟨rfl, hk⟩ := dictItem_eq_ok.mp hd
  rcases hm : migrateOldJob j with e | ⟨_ | _, j'⟩
  · exact .inl ⟨e, fun _ => by simp only [addJob, hd, hm, bind, Except.bind]⟩
  · cases migrateOldJob_refused hm
    rcases hs : suggestionsOf j with e | ss
    · refine .inl ⟨e, fun _ => ?_⟩
      simp only [addJob, hd, hm, hs, bind, Except.bind, Bool.false_eq_true, if_false]
    · exact .inr (.inr ⟨k, j, ss, rfl, hk, hm, hs, fun _ => addJob_of_refused hk hm hs⟩)
  · exact .inr (.inl ⟨k, j, j', rfl, hk, hm, fun _ => by
      simp only [addJob, hd, hm, bind, Except.bind, pure, Except.pure, if_true]⟩)

theorem foldlM_inv {σ α ε : Type} {f : σ → α → Except ε σ} (P : σ → Prop) :
    ∀ {l : List α} {s s' : σ}, (∀ s x s', x ∈ l → P s → f s x = .ok s' → P s') → P s →
      l.foldlM f s = .ok s' → P s'
  | [], _, _, _, hs, h => by cases h; exact hs
  | x :: l, s, _, hf, hs, h => by
    rw [List.foldlM_cons] at h
    obtain ⟨s₁, h₁, h⟩ := bind_eq_ok h
    exact foldlM_inv P (fun s y s' hy => hf s y s' (List.mem_cons_of_mem _ hy))
      (hf s x s₁ (List.mem_cons_self _ _) hs h₁) h

theorem foldlM_congr {σ α ε : Type} {f g : σ → α → Except ε σ} (P : σ → Prop) :
    ∀ {l : List α} {s : σ}, (∀ s x, x ∈ l → P s → f s x = g s x) →
      (∀ s x s', x ∈ l → P s → f s x = .ok s' → P s') → P s → l.foldlM f s = l.foldlM g s
  | [], _, _, _, _ => rfl
  | x :: l, s, hfg, hP, hs => by
    rw [List.foldlM_cons, List.foldlM_cons, ← hfg s x (List.mem_cons_self _ _) hs]
    rcases h₁ : f s x with e | s₁
    · rfl
    · exact foldlM_congr P (fun s y hy => hfg s y (List.mem_cons_of_mem _ hy))
        (fun s y s' hy => hP s y s' (List.mem_cons_of_mem _ hy)) (hP s x s₁ (List.mem_cons_self _ _) hs h₁)

/-- A run that returns returns the state its loop reached. -/
theorem migrateAndAddJobs_succ_eq_ok {d : Nat} {l : List JsonValue} {data oldData : Links}
    {st : Links × Links} (h : migrateAndAddJobs (d + 1) l data oldData = .ok st) :
    l.foldlM (addJob (migrateAndAddJobs d)) (data, oldData) = .ok st := by
  obtain ⟨st₁, h₁, h⟩ := bind_eq_ok h
  obtain ⟨_, -, h⟩ := bind_eq_ok h
  cases h
  exact h₁

/-- What a run of `migrate_and_add_jobs` keeps of the documents `data₀` and `old₀` it
    started from. -/
structure RunInv (data₀ old₀ : Links) (st : Links × Links) : Prop where
  /-- every job of `old_data` migrates as the job of `old₀` under its key does -/
  old_migrates : ∀ k, (st.2.lookup k).map migrateOldJob = (old₀.lookup k).map migrateOldJob
  /-- every job of `data` is one of `data₀`, or a kept migration of one of `old₀` -/
  data_from : ∀ k v, st.1.lookup k = some v →
    data₀.lookup k = some v ∨ ∃ j, old₀.lookup k = some j ∧ migrateOldJob j = .ok (true, v)

/-- A job of `old_data` that migrates as `old₀`'s does is that job, when it is refused. -/
theorem RunInv.lookup_of_refused {data₀ old₀ : Links} {st : Links × Links} (hi : RunInv data₀ old₀ st) {k : String}
    {j : JsonValue} (hk : st.2.lookup k = some j) (hm : migrateOldJob j = .ok (false, j)) :
    old₀.lookup k = some j := by
  have := hi.old_migrates k
  rw [hk] at this
  cases h₀ : old₀.lookup k with
  | none => simp [h₀] at this
  | some j₀ =>
    simp only [h₀, Option.map_some', Option.some.injEq, hm] at this
    rw [migrateOldJob_refused this.symm]

section RunInv

variable {data₀ old₀ : Links} (hold : ∀ p ∈ old₀, p.2.distinctKeys = true)
include hold

/-- Adding a kept job keeps the invariant: the job migrated again is the same. -/
theorem RunInv.add {st : Links × Links} (hi : RunInv data₀ old₀ st) {k : String} {j j' : JsonValue}
    (hk : st.2.lookup k = some j) (hm : migrateOldJob j = .ok (true, j')) :
    RunInv data₀ old₀ (setItem st.1 k j', setItem st.2 k j') := by
  have hmk := hi.old_migrates k
  rw [hk] at hmk
  obtain ⟨j₀, hj₀, hm₀⟩ : ∃ j₀, old₀.lookup k = some j₀ ∧ migrateOldJob j₀ = .ok (true, j') := by
    cases h₀ : old₀.lookup k with
    | none => simp [h₀] at hmk
    | some j₀ => simp only [h₀, Option.map_some', Option.some.injEq, hm] at hmk; exact ⟨j₀, rfl, hmk.symm⟩
  have hidem := migrateOldJob_idempotent (hold _ (mem_of_lookup_eq_some hj₀)) hm₀
  constructor
  · intro k'
    by_cases hk' : k' = k
    · subst hk'; rw [lookup_setItem_self, hj₀]; simp only [Option.map_some', hidem, hm₀]
    · rw [lookup_setItem_of_ne _ hk']; exact hi.old_migrates k'
  · intro k' v hv
    by_cases hk' : k' = k
    · subst hk'; rw [lookup_setItem_self] at hv; cases hv; exact .inr ⟨j₀, hj₀, hm₀⟩
    · rw [lookup_setItem_of_ne _ hk'] at hv; exact hi.data_from k' v hv

/-- Every run keeps the invariant. -/
theorem RunInv.run :
    ∀ (d : Nat) (l : List JsonValue) {st st' : Links × Links}, RunInv data₀ old₀ st →
      migrateAndAddJobs d l st.1 st.2 = .ok st' → RunInv data₀ old₀ st'
  | 0, _, _, _, _, h => by cases h
  | d + 1, l, st, st', hi, h => by
    refine foldlM_inv (RunInv data₀ old₀) (fun s x s' _ hs hx => ?_) hi
      (migrateAndAddJobs_succ_eq_ok h)
    rcases addJob_cases s x with ⟨e, he⟩ | ⟨k, j, j', -, hk, hm, he⟩ | ⟨k, j, ss, -, -, -, -, he⟩
    · rw [he] at hx; cases hx
    · rw [he] at hx; cases hx; exact hs.add hold hk hm
    · rw [he] at hx; exact RunInv.run d ss hs hx

end RunInv

/-- Every job a run of `migrate_and_add_jobs` leaves in the current document was there
    before, or is the migration of the old job under its key, which `migrate_old_job`
    kept: a refused job is never added. -/
theorem migrateAndAddJobs_adds_migrated {old : Links} (hold : ∀ p ∈ old, p.2.distinctKeys = true)
    {d : Nat} {l : List JsonValue} {data data' old' : Links}
    (h : migrateAndAddJobs d l data old = .ok (data', old')) {k : String} {v : JsonValue}
    (hv : data'.lookup k = some v) :
    data.lookup k = some v ∨ ∃ j, old.lookup k = some j ∧ migrateOldJob j = .ok (true, v) :=
  (@RunInv.run data old hold d l (data, old) _ ⟨fun _ => rfl, fun _ _ h => .inl h⟩ h).data_from k v hv

theorem migrateAndAddJobs_adds_migrated_oldJob :
    ∃ data' old' v, migrateAndAddJobs 3 [.str WorkflowChecker.ua] []
        [(WorkflowChecker.ua, WorkflowChecker.oldJob WorkflowChecker.ub)] = .ok (data', old') ∧
      data'.lookup WorkflowChecker.ua = some v ∧
      (([] : Links).lookup WorkflowChecker.ua = some v ∨
        ∃ j, [(WorkflowChecker.ua, WorkflowChecker.oldJob WorkflowChecker.ub)].lookup
          WorkflowChecker.ua = some j ∧ migrateOldJob j = .ok (true, v)) :=
  ⟨_, _, _, rfl, rfl, @migrateAndAddJobs_adds_migrated
    [(WorkflowChecker.ua, WorkflowChecker.oldJob WorkflowChecker.ub)] (by decide) 3
    [.str WorkflowChecker.ua] [] _ _ rfl WorkflowChecker.ua _ rfl⟩

section Depth

variable {old : Links} (hold : ∀ p ∈ old, p.2.distinctKeys = true) (r : String → Nat)
  (hr : ∀ k j ss, old.lookup k = some j → migrateOldJob j = .ok (false, j) →
    suggestionsOf j = .ok ss → ∀ k', JsonValue.str k' ∈ ss → r k' < r k)
include hold hr

theorem migrateAndAddJobs_depth_independent_of_inv :
    ∀ (d : Nat) (l : List JsonValue) (st : Links × Links), RunInv st.1 old st →
      (∀ k, JsonValue.str k ∈ l → r k < d) → ∀ n,
        migrateAndAddJobs (d + 1 + n) l st.1 st.2 = migrateAndAddJobs (d + 1) l st.1 st.2
  | d, l, st, hi, hl, n => by
    have hfold : l.foldlM (addJob (migrateAndAddJobs (d + n))) st =
        l.foldlM (addJob (migrateAndAddJobs d)) st := by
      refine foldlM_congr (RunInv st.1 old) (fun s x hx hs => ?_) (fun s x s' _ hs hx => ?_) hi
      · rcases addJob_cases s x with ⟨e, he⟩ | ⟨k, j, j', -, -, -, he⟩ |
          ⟨k, j, ss, rfl, hk, hm, hs', he⟩
        · rw [he, he]
        · rw [he, he]
        · rw [he, he]
          have hrank := hr k j ss (hs.lookup_of_refused hk hm) hm hs'
          obtain ⟨d', rfl⟩ : ∃ d', d = d' + 1 := ⟨d - 1, by have := hl k hx; omega⟩
          exact migrateAndAddJobs_depth_independent_of_inv d' ss s
            ⟨hs.old_migrates, fun _ _ h => .inl h⟩
            (fun k' hk' => by have := hrank k' hk'; have := hl k hx; omega) n
      · rcases addJob_cases s x with ⟨e, he⟩ | ⟨k, j, j', -, hk, hm, he⟩ | ⟨k, j, ss, -, -, -, -, he⟩
        · rw [he] at hx; cases hx
        · rw [he] at hx; cases hx; exact hs.add hold hk hm
        · rw [he] at hx; exact RunInv.run hold _ ss hs hx
    rw [show d + 1 + n = d + n + 1 by omega]
    simp only [migrateAndAddJobs, hfold]

/-- When every refused job suggests only jobs of lower rank, the run does not depend on the
    recursion limit once the limit exceeds the ranks of the jobs it starts from: the
    recursion ends. -/
theorem migrateAndAddJobs_depth_independent {d : Nat} {l : List JsonValue} {data : Links}
    (hl : ∀ k, JsonValue.str k ∈ l → r k < d) (n : Nat) :
    migrateAndAddJobs (d + 1 + n) l data old = migrateAndAddJobs (d + 1) l data old :=
  migrateAndAddJobs_depth_independent_of_inv hold r hr d l (data, old)
    ⟨fun _ => rfl, fun _ _ h => .inl h⟩ hl n

end Depth

theorem migrateAndAddJobs_depth_independent_setVariableJob :
    migrateAndAddJobs (2 + 1 + 5) [.str WorkflowChecker.ua] []
        [(WorkflowChecker.ua, WorkflowChecker.setVariableJob WorkflowChecker.ub),
          (WorkflowChecker.ub, WorkflowChecker.oldJob WorkflowChecker.ua)] =
      migrateAndAddJobs (2 + 1) [.str WorkflowChecker.ua] []
        [(WorkflowChecker.ua, WorkflowChecker.setVariableJob WorkflowChecker.ub),
          (WorkflowChecker.ub, WorkflowChecker.oldJob WorkflowChecker.ua)] := by
  refine migrateAndAddJobs_depth_independent (by decide) WorkflowChecker.rank ?_ (fun k hk => ?_) 5
  · intro k j ss hk hm hs k' hk'
    by_cases h1 : k = WorkflowChecker.ua
    · subst h1
      cases hk
      rw [show suggestionsOf (WorkflowChecker.setVariableJob WorkflowChecker.ub) =
        .ok [.str WorkflowChecker.ub] from rfl] at hs
      cases hs
      simp only [List.mem_singleton, JsonValue.str.injEq] at hk'
      subst hk'
      decide
    · by_cases h2 : k = WorkflowChecker.ub
      · subst h2; cases hk; cases hm
      · rw [lookup_cons_of_ne _ _ (Ne.symm h1), lookup_cons_of_ne _ _ (Ne.symm h2)] at hk
        cases hk
  · simp only [List.mem_singleton, JsonValue.str.injEq] at hk
    subst hk; decide

/-- Refused jobs whose first suggestions lead from one to another in a cycle make the run
    raise `RecursionError` whatever the limit: `migrate_and_add_jobs` keeps no set of the
    jobs it has seen. -/
theorem migrateAndAddJobs_of_cycle {old : Links} {cycle : List String}
    (hc : ∀ k ∈ cycle, ∃ j k' rest, old.lookup k = some j ∧ migrateOldJob j = .ok (false, j) ∧
      k' ∈ cycle ∧ suggestionsOf j = .ok (.str k' :: rest)) :
    ∀ (d : Nat) (k : String) (rest : List JsonValue) (data : Links), k ∈ cycle →
      migrateAndAddJobs d (.str k :: rest) data old =
        .error (.py (.recursionError "maximum recursion depth exceeded"))
  | 0, _, _, _, _ => rfl
  | d + 1, k, rest, data, hk => by
    obtain ⟨j, k', rest', hj, hm, hk', hs⟩ := hc k hk
    have hstep : addJob (migrateAndAddJobs d) (data, old) (.str k) =
        migrateAndAddJobs d (.str k' :: rest') data old := addJob_of_refused hj hm hs
    simp only [migrateAndAddJobs, List.foldlM_cons, hstep,
      migrateAndAddJobs_of_cycle hc d k' rest' data hk', bind, Except.bind]

theorem migrateAndAddJobs_of_cycle_setVariableJobs :
    migrateAndAddJobs 1000 [.str WorkflowChecker.ua] []
        [(WorkflowChecker.ua, WorkflowChecker.setVariableJob WorkflowChecker.ub),
          (WorkflowChecker.ub, WorkflowChecker.setVariableJob WorkflowChecker.ua)] =
      .error (.py (.recursionError "maximum recursion depth exceeded")) := by
  refine @migrateAndAddJobs_of_cycle _ [WorkflowChecker.ua, WorkflowChecker.ub] ?_ 1000
    WorkflowChecker.ua [] [] (by simp)
  intro k hk
  simp only [List.mem_cons, List.mem_singleton, List.not_mem_nil, or_false] at hk
  rcases hk with rfl | rfl
  · exact ⟨_, WorkflowChecker.ub, [], rfl, rfl, by simp, rfl⟩
  · exact ⟨_, WorkflowChecker.ua, [], rfl, rfl, by simp, rfl⟩

/-- A run whose list ends in `None` raises: `old_data['links'][None]` is a `KeyError`. -/
theorem migrateAndAddJobs_append_null (d : Nat) (l : List JsonValue) (data old : Links) :
    ∃ e, migrateAndAddJobs d (l ++ [.null]) data old = .error e := by
  cases d with
  | zero => exact ⟨_, rfl⟩
  | succ d =>
    rcases h : l.foldlM (addJob (migrateAndAddJobs d)) (data, old) with e | st
    · exact ⟨e, by simp only [migrateAndAddJobs, List.foldlM_append, h, bind, Except.bind]⟩
    · exact ⟨.keyError .null, by
        simp only [migrateAndAddJobs, List.foldlM_append, h, bind, Except.bind]; rfl⟩

/-- A refused job whose `fallback_link_id` is missing or null makes the run raise, whatever
    the limit: `None` is never among the truthy link ids, so it is looked up, and missing it
    is a `KeyError` there, null a `KeyError` when the recursive call looks it up. -/
theorem migrateAndAddJobs_of_no_fallback {old : Links} {k : String} {job : List (String × JsonValue)}
    (hk : old.lookup k = some (.dict job)) (hm : migrateOldJob (.dict job) = .ok (false, .dict job))
    (hfb : dictGet job "fallback_link_id" = .null) (d : Nat) (rest : List JsonValue) (data : Links) :
    ∃ e, migrateAndAddJobs d (.str k :: rest) data old = .error e := by
  cases d with
  | zero => exact ⟨_, rfl⟩
  | succ d =>
    have hfold : ∃ e, addJob (migrateAndAddJobs d) (data, old) (.str k) = .error e := by
      rcases hs : suggestionsOf (.dict job) with e | ss
      · refine ⟨e, ?_⟩
        have hd : dictItem old (.str k) = .ok (k, .dict job) := dictItem_eq_ok.mpr ⟨rfl, hk⟩
        simp only [addJob, hd, hm, hs, bind, Except.bind, Bool.false_eq_true, if_false]
      · rw [addJob_of_refused hk hm hs]
        obtain ⟨job', ids, hj, hids, ⟨hin, -⟩ | ⟨v, hv, rfl⟩⟩ := suggestionsOf_eq_ok hs
        · cases hj; rw [hfb, pyIn_null hids] at hin; cases hin
        · cases hj
          rw [show v = .null by simpa [dictGet, hv] using hfb]
          exact migrateAndAddJobs_append_null d ids data old
    obtain ⟨e, he⟩ := hfold
    exact ⟨e, by simp only [migrateAndAddJobs, List.foldlM_cons, he, bind, Except.bind]⟩

theorem migrateAndAddJobs_of_no_fallback_job :
    ∃ e, migrateAndAddJobs 1000 [.str WorkflowChecker.ua] []
      [(WorkflowChecker.ua, .dict WorkflowChecker.noFallbackJob)] = .error e :=
  @migrateAndAddJobs_of_no_fallback [(WorkflowChecker.ua, .dict WorkflowChecker.noFallbackJob)]
    WorkflowChecker.ua WorkflowChecker.noFallbackJob rfl rfl rfl 1000 [] []

end A3m.Assets
