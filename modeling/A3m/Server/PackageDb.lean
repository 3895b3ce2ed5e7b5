/-
  A3m.Server.PackageDb

  The database side of `a3m/server/packages.py`: the rows `Package.create_package` writes,
  the matching of a path to its rows (`SIPDIP.get_or_create_from_db_by_path`,
  `Transfer.get_or_create_from_db_by_path` and `Transfer.__init__`), `set_variable`, the
  values `PackageContext.load_from_db` reads, and `get_package_status`.

  `uuid_from_path` (`a3m.server.utils`, not among the sources) is a parameter; `if uuid:`
  treats `None` and `""` as false (`uuidIn`). The `uuid4` values a call draws are its
  arguments. A call that raises keeps the writes it made before (`Main.Tables`).

  `SIP` has no `transfer_id` field (`Main.Tables`), so each read of `sip_obj.transfer_id` on
  a row the manager returned raises `AttributeError`: `SIPDIP.get_or_create_from_db_by_path`
  raises whenever it finds or makes a SIP row with `get_or_create` or finds one by path
  (`SIPDIP.getOrCreateFromDbByPath_of_uuid`), and `get_package_status` of a package that is
  not active never returns (`getPackageStatus_of_inactive`).

  What each call keeps (`Db.Inv`): unique primary keys and unit-variable keys, at most one
  transfer at each location where `uuid_from_path` finds no UUID, and a SIP row at the
  location of each such transfer. The runs of these calls are in `Server.PackageRuns`.

  `cls.unit_variable_type` in `SIPDIP.get_or_create_from_db_by_path` reads `Package`'s
  property on the class (the subclasses define `UNIT_VARIABLE_TYPE`): the property object,
  never equal to `"SIP"`; the update of the SIP's `currentpath` that it guards comes after
  the read of `transfer_id` and is not reached either.
-/
import A3m.Main.Tables
import A3m.Server.PackageFiles
import A3m.Server.PackageContext

namespace A3m.Server

open A3m.Python A3m.Main

/-! ## Packages from rows -/

/-- `if uuid:` on what `uuid_from_path(path)` returns: `None` and `""` are false. -/
def uuidIn (uuidFromPath : String → Option String) (path : String) : Option String :=
  (uuidFromPath path).filter (· ≠ "")

/-- `cls(...)` on a SIP row and a transfer row: `Package.__init__` puts the package at the
    transfer stage, with `_current_path` the transfer's `currentlocation` as stored (the
    setter is not used). -/
def PackageAttrs.ofRows (sip : SipRow) (transfer : TransferRow) : PackageAttrs :=
  ⟨.transfer, sip.uuid, transfer.uuid, transfer.currentlocation⟩

/-- `Package.uuid`: the SIP's primary key. -/
def PackageAttrs.uuid (pkg : PackageAttrs) : String := pkg.sipPk

/-- `Package.subid`: the SIP's key at the ingest stage, the transfer's before. -/
def PackageAttrs.subid (pkg : PackageAttrs) : String :=
  match pkg.stage with
  | .ingest => pkg.sipPk
  | .transfer => pkg.transferPk

/-- `Package.unit_variable_type`, on an instance. -/
def PackageAttrs.unitVariableType (pkg : PackageAttrs) : String :=
  match pkg.stage with
  | .ingest => "SIP"
  | .transfer => "Transfer"

/-! ## `create_package` -/

/-- `os.path.join(PROCESSING_DIRECTORY, "transfer", transfer_id, "")`. -/
def transferDir (settings : Settings) (transferId : String) : String :=
  joinAll settings.processingDirectory ["transfer", transferId, ""]

/-- `os.path.join(PROCESSING_DIRECTORY, "ingest", sip_id, "")`. -/
def sipDir (settings : Settings) (sipId : String) : String :=
  joinAll settings.processingDirectory ["ingest", sipId, ""]

/-- The writes of `Package.create_package` after its checks, with the two `uuid4` it draws:
    the transfer row, then the SIP row. `sip.transfer_id = transfer_id` sets an attribute
    of the instance, which is not saved. -/
def createPackageRows (settings : Settings) (transferId sipId : String) (db : Db) :
    Except DbExc PackageAttrs × Db :=
  let transfer : TransferRow := ⟨transferId, transferDir settings transferId⟩
  match create "Transfer" TransferRow.uuid transfer db.transfers with
  | .error e => (.error e, db)
  | .ok transfers =>
    let db := { db with transfers }
    let sip : SipRow := ⟨sipId, some (sipDir settings sipId)⟩
    match create "SIP" SipRow.uuid sip db.sips with
    | .error e => (.error e, db)
    | .ok sips => (.ok (.ofRows sip transfer), { db with sips })

/-! ## Matching a path to its rows -/

/-- `cls.unit_variable_type` on a package class. -/
inductive ClassAttr where
  | str (s : String)
  | property
  deriving DecidableEq, Repr

/-- `SIPDIP.unit_variable_type`: `Package`'s property, read on the class. -/
def SIPDIP.unitVariableType : ClassAttr := .property

/-- `SIPDIP.get_or_create_from_db_by_path(path)`, with the `uuid4` drawn when a new SIP is
    made. Only `SIP.DoesNotExist` is caught; `sip_obj.transfer_id` raises
    (`SipRow.transferId`). -/
def SIPDIP.getOrCreateFromDbByPath (settings : Settings) (uuidFromPath : String → Option String)
    (sipId path : String) (db : Db) : Except DbExc PackageAttrs × Db :=
  let path := Str.replace path settings.sharedDirectory "%sharedPath%" 1
  let packageType := SIPDIP.unitVariableType
  match uuidIn uuidFromPath path with
  | some sipUuid =>
    match getOrCreate "SIP" SipRow.uuid SipRow.uuid sipUuid ⟨sipUuid, some path⟩ db.sips with
    | .error e => (.error e, db)
    | .ok ((sipObj, created), sips) =>
      let db := { db with sips }
      let transfer : Except DbExc (TransferRow × List TransferRow) :=
        match sipObj.transferId with
        | .error e => .error e
        | .ok none =>
          (getOrCreate "Transfer" TransferRow.uuid TransferRow.uuid sipUuid ⟨sipUuid, path⟩
            db.transfers).map fun r => (r.1.1, r.2)
        | .ok (some transferId) =>
          (getBy "Transfer" (·.uuid = transferId) db.transfers).map fun t => (t, db.transfers)
      match transfer with
      | .error e => (.error e, db)
      | .ok (transfer, transfers) =>
        let db := { db with transfers }
        if packageType = .str "SIP" ∧ created = false ∧ sipObj.currentpath ≠ some path then
          let sipObj := { sipObj with currentpath := some path }
          (.ok (.ofRows sipObj transfer), { db with sips := save SipRow.uuid sipObj db.sips })
        else (.ok (.ofRows sipObj transfer), db)
  | none =>
    match getBy "SIP" (·.currentpath = some path) db.sips with
    | .ok sipObj =>
      match sipObj.transferId.bind fun transferId =>
          getBy "Transfer" (fun t => some t.uuid = transferId) db.transfers with
      | .ok transfer => (.ok (.ofRows sipObj transfer), db)
      | .error e => (.error e, db)
    | .error (.py (.doesNotExist "SIP")) =>
      let sipObj : SipRow := ⟨sipId, some path⟩
      match create "SIP" SipRow.uuid sipObj db.sips with
      | .error e => (.error e, db)
      | .ok sips =>
        let db := { db with sips }
        let transfer : TransferRow := ⟨sipId, path⟩
        match create "Transfer" TransferRow.uuid transfer db.transfers with
        | .error e => (.error e, db)
        | .ok transfers => (.ok (.ofRows sipObj transfer), { db with transfers })
    | .error e => (.error e, db)

/-- Where `uuid_from_path` finds a UUID, `SIPDIP.get_or_create_from_db_by_path` raises
    `AttributeError` at `sip_obj.transfer_id`, keeping the SIP row `get_or_create` made. -/
theorem SIPDIP.getOrCreateFromDbByPath_of_uuid {settings : Settings}
    {uuidFromPath : String → Option String} {sipId path u : String} {db : Db}
    (hU : uuidIn uuidFromPath (Str.replace path settings.sharedDirectory "%sharedPath%" 1) = some u) :
    SIPDIP.getOrCreateFromDbByPath settings uuidFromPath sipId path db =
      match getOrCreate "SIP" SipRow.uuid SipRow.uuid u
          ⟨u, some (Str.replace path settings.sharedDirectory "%sharedPath%" 1)⟩ db.sips with
      | .error e => (.error e, db)
      | .ok (_, sips) =>
        (.error (.py (.attributeError "'SIP' object has no attribute 'transfer_id'")),
          { db with sips }) := by
  unfold SIPDIP.getOrCreateFromDbByPath
  dsimp only
  rw [hU]
  dsimp only
  split <;> rename_i h <;> simp only [h, SipRow.transferId]

/-- Where `uuid_from_path` finds no UUID, `SIPDIP.get_or_create_from_db_by_path` raises
    `AttributeError` at `sip_obj.transfer_id` if one SIP row has the path, and makes a SIP
    row and a transfer row of the drawn key if none has. -/
theorem SIPDIP.getOrCreateFromDbByPath_of_noUuid {settings : Settings}
    {uuidFromPath : String → Option String} {sipId path : String} {db : Db}
    (hU : uuidIn uuidFromPath (Str.replace path settings.sharedDirectory "%sharedPath%" 1) = none) :
    SIPDIP.getOrCreateFromDbByPath settings uuidFromPath sipId path db =
      let p := Str.replace path settings.sharedDirectory "%sharedPath%" 1
      match getBy "SIP" (·.currentpath = some p) db.sips with
      | .ok _ => (.error (.py (.attributeError "'SIP' object has no attribute 'transfer_id'")), db)
      | .error (.py (.doesNotExist "SIP")) =>
        match create "SIP" SipRow.uuid ⟨sipId, some p⟩ db.sips with
        | .error e => (.error e, db)
        | .ok sips =>
          match create "Transfer" TransferRow.uuid ⟨sipId, p⟩ db.transfers with
          | .error e => (.error e, { db with sips })
          | .ok transfers =>
            (.ok (.ofRows ⟨sipId, some p⟩ ⟨sipId, p⟩), { db with sips, transfers })
      | .error e => (.error e, db) := by
  unfold SIPDIP.getOrCreateFromDbByPath
  dsimp only
  rw [hU]
  dsimp only
  split <;> rename_i h <;> simp only [h, SipRow.transferId, Except.bind]

/-- `Transfer.__init__(current_path, uuid, url)`: the transfer row, and the SIP row of the
    same key, made from the transfer when it is missing. `if not transfer` never holds: a
    row that `get` returns is true. -/
def Transfer.init (uuid : String) (db : Db) : Except DbExc PackageAttrs × Db :=
  match getBy "Transfer" (·.uuid = uuid) db.transfers with
  | .error e => (.error e, db)
  | .ok transfer =>
    match getBy "SIP" (·.uuid = transfer.uuid) db.sips with
    | .ok sip => (.ok (.ofRows sip transfer), db)
    | .error (.py (.doesNotExist "SIP")) =>
      let sip : SipRow := ⟨transfer.uuid, some transfer.currentlocation⟩
      match create "SIP" SipRow.uuid sip db.sips with
      | .error e => (.error e, db)
      | .ok sips => (.ok (.ofRows sip transfer), { db with sips })
    | .error e => (.error e, db)

/-- The lookup of `Transfer.get_or_create_from_db_by_path(path)`, up to `cls(...)`, with the
    `uuid4` drawn when a new transfer is made. Only `Transfer.DoesNotExist` is caught. -/
def Transfer.findByPath (uuidFromPath : String → Option String) (newUuid path : String)
    (db : Db) : Except DbExc TransferRow × Db :=
  match uuidIn uuidFromPath path with
  | some transferUuid =>
    match getOrCreate "Transfer" TransferRow.uuid TransferRow.uuid transferUuid
        ⟨transferUuid, path⟩ db.transfers with
    | .error e => (.error e, db)
    | .ok ((transferObj, created), transfers) =>
      if created = false ∧ transferObj.currentlocation ≠ path then
        let transferObj := { transferObj with currentlocation := path }
        (.ok transferObj, { db with transfers := save TransferRow.uuid transferObj transfers })
      else (.ok transferObj, { db with transfers })
  | none =>
    match getBy "Transfer" (·.currentlocation = path) db.transfers with
    | .ok transferObj => (.ok transferObj, db)
    | .error (.py (.doesNotExist "Transfer")) =>
      let transferObj : TransferRow := ⟨newUuid, path⟩
      match create "Transfer" TransferRow.uuid transferObj db.transfers with
      | .error e => (.error e, db)
      | .ok transfers => (.ok transferObj, { db with transfers })
    | .error e => (.error e, db)

/-- `Transfer.get_or_create_from_db_by_path(path)`: the lookup, then
    `cls(path, transfer_obj.uuid, None)`. -/
def Transfer.getOrCreateFromDbByPath (settings : Settings) (uuidFromPath : String → Option String)
    (newUuid path : String) (db : Db) : Except DbExc PackageAttrs × Db :=
  let path := Str.replace path settings.sharedDirectory "%sharedPath%" 1
  match Transfer.findByPath uuidFromPath newUuid path db with
  | (.error e, db) => (.error e, db)
  | (.ok transferObj, db) => Transfer.init transferObj.uuid db

/-! ## Unit variables and the context -/

/-- `Package.set_variable(key, value, chain_link_id)`, for a value that is a `str` or `None`:
    `""` for a false value, else `str(value)`, stored with the same `update_or_create` as
    `update_variable`, under the instance's `unit_variable_type` and the SIP's key. -/
def PackageAttrs.setVariable (pkg : PackageAttrs) (key : String) (value chainLinkId : Option String)
    (db : Db) : Except DbExc Db :=
  (updateVariable pkg.unitVariableType pkg.uuid key (some (value.getD "")) chainLinkId
    db.unitVariables).map fun rows => { db with unitVariables := rows }

/-- What `PackageContext.load_from_db(uuid)` reads: `variablevalue` of the rows with
    `unituuid=uuid` and `variable="replacementDict"`, of any `unittype`, each value once
    (`distinct()`), in table order. -/
def replacementDictValues (uuid : String) (rows : List UnitVariableRow) : List (Option String) :=
  ((rows.filter fun r => r.unituuid = some uuid ∧ r.variable_ = some "replacementDict").map
    (·.variablevalue)).eraseDups

/-- `Package.context`: `PackageContext.load_from_db(self.subid)`. -/
def PackageAttrs.context {K V : Type} [DecidableEq K] (literalEval : String → Except PyExc (Literal K V))
    (pkg : PackageAttrs) (db : Db) : Except PyExc (List (K × V)) :=
  loadFromDb literalEval (replacementDictValues pkg.subid db.unitVariables)

/-! ## `get_package_status` -/

/-- The package statuses of the transfer service API. -/
inductive PackageStatusCode where
  | processing
  | failed
  | rejected
  | complete
  deriving DecidableEq, Repr

/-- A `Job` message of the transfer service API: `id`, `name`, `group`, `link_id`, `status`
    and `start_time`. -/
structure JobMessage where
  id : String
  name : String
  group : String
  linkId : String
  status : Int
  startTime : Nat
  deriving DecidableEq, Repr

/-- `PackageStatus(status, job, jobs)`. -/
structure PackageStatus where
  status : Option PackageStatusCode
  job : Option String
  jobs : List JobMessage
  deriving DecidableEq, Repr

/-- `j` comes first in `order_by("-createdtime", "-createdtimedec")`. -/
def JobRow.newerEq (j k : JobRow) : Prop :=
  k.createdtime < j.createdtime ∨ (k.createdtime = j.createdtime ∧ k.createdtimedec ≤ j.createdtimedec)

instance : DecidableRel JobRow.newerEq := fun _ _ => inferInstanceAs (Decidable (_ ∨ _))

/-- `j` comes first in `order_by("createdtime")`. -/
def JobRow.olderEq (j k : JobRow) : Prop := j.createdtime ≤ k.createdtime

instance : DecidableRel JobRow.olderEq := fun _ _ => inferInstanceAs (Decidable (_ ≤ _))

/-- `get_latest_job(unit_id)`: the first job of the unit by `-createdtime, -createdtimedec`,
    ties in table order. -/
def getLatestJob (unitId : String) (jobs : List JobRow) : Option JobRow :=
  ((jobs.filter (·.sipuuid = unitId)).insertionSort JobRow.newerEq).head?

instance : IsTotal JobRow JobRow.newerEq := ⟨fun j k => by unfold JobRow.newerEq; omega⟩

instance : IsTrans JobRow JobRow.newerEq := ⟨fun i j k => by unfold JobRow.newerEq; omega⟩

theorem getLatestJob_eq_none {unitId : String} {jobs : List JobRow} :
    getLatestJob unitId jobs = none ↔ ∀ j ∈ jobs, j.sipuuid ≠ unitId := by
  rw [getLatestJob, List.head?_eq_none_iff, ← List.length_eq_zero,
    (List.perm_insertionSort _ _).length_eq, List.length_eq_zero, List.filter_eq_nil_iff]
  simp

/-- `get_latest_job` returns a job of the unit at least as new as each job of the unit. -/
theorem getLatestJob_newest {unitId : String} {jobs : List JobRow} {j : JobRow}
    (h : getLatestJob unitId jobs = some j) :
    j ∈ jobs ∧ j.sipuuid = unitId ∧ ∀ k ∈ jobs, k.sipuuid = unitId → JobRow.newerEq j k := by
  obtain ⟨rest, hsort⟩ := List.head?_eq_some_iff.1 h
  have hperm := List.perm_insertionSort JobRow.newerEq (jobs.filter (·.sipuuid = unitId))
  have hsorted := hsort ▸ List.sorted_insertionSort JobRow.newerEq (jobs.filter (·.sipuuid = unitId))
  have hj := List.mem_filter.1 (hperm.mem_iff.1 (hsort ▸ List.mem_cons_self j rest))
  refine ⟨hj.1, of_decide_eq_true hj.2, fun k hk hku => ?_⟩
  have hk' : k ∈ j :: rest := hsort ▸ hperm.mem_iff.2 (List.mem_filter.2 ⟨hk, decide_eq_true hku⟩)
  rcases List.mem_cons.1 hk' with rfl | hk'
  · exact Or.inr ⟨rfl, le_rfl⟩
  · exact List.rel_of_sorted_cons hsorted k hk'

/-- The `Job` message of a row; a null link is `str(None)`. -/
def JobRow.toMessage (j : JobRow) : JobMessage :=
  ⟨j.jobuuid, j.jobtype, j.microservicegroup, j.microservicechainlink.getD "None", j.currentstep,
    j.createdtime⟩

/-- The status `get_package_status` reads off the latest job of an inactive package. -/
def jobStatus (job : JobRow) : Except DbExc PackageStatusCode :=
  let group := Str.lower job.microservicegroup
  if Str.contains group "failed" then .ok .failed
  else if Str.contains group "reject" then .ok .rejected
  else if job.jobtype = "a3m - Store AIP" then .ok .complete
  else .error (.exception ("Package status cannot be determined (job.currentstep=" ++
    toString job.currentstep ++ ", job.type=" ++ job.jobtype ++ ", job.microservicegroup=" ++
    job.microservicegroup ++ ")"))

/-- `get_package_status(package_queue, package_id)`, given the `subid` of the package
    `active_packages.get(package_id)` finds (`none` when it finds none). Both reads of
    `sip.transfer_id` give the same value, read once here; the read raises
    (`SipRow.transferId`). -/
def getPackageStatus (activeSubid : Option String) (packageId : String) (db : Db) :
    Except DbExc PackageStatus :=
  match getBy "SIP" (·.uuid = packageId) db.sips with
  | .error (.py (.doesNotExist "SIP")) => .error .packageNotFound
  | .error e => .error e
  | .ok sip =>
    match activeSubid with
    | some subid => .ok ⟨some .processing, (getLatestJob subid db.jobs).map (·.jobtype), []⟩
    | none =>
      let latest : Except DbExc (Option JobRow) :=
        match getLatestJob packageId db.jobs with
        | some job => .ok (some job)
        | none =>
          sip.transferId.bind fun
            | none => .error (.exception "Package status cannot be determined: transfer_id is undefined")
            | some transferId => .ok (getLatestJob transferId db.jobs)
      match latest with
      | .error e => .error e
      | .ok none => .ok ⟨some .processing, none, []⟩
      | .ok (some job) =>
        (jobStatus job).bind fun status => sip.transferId.map fun transferId =>
          ⟨some status, some job.microservicegroup,
            ((db.jobs.filter fun j => j.sipuuid = sip.uuid ∨ some j.sipuuid = transferId).insertionSort
              JobRow.olderEq).map JobRow.toMessage⟩

/-- `get_package_status` of a stored package that is not active never returns: it raises
    `AttributeError` at `sip.transfer_id`, when the package has no job of its own or after
    the status of its latest job was read, or the exception of a status it cannot read. -/
theorem getPackageStatus_of_inactive {packageId : String} {db : Db} {sip : SipRow}
    (h : getBy "SIP" (·.uuid = packageId) db.sips = .ok sip) :
    ∃ e, getPackageStatus none packageId db = .error e ∧
      (e = .py (.attributeError "'SIP' object has no attribute 'transfer_id'") ∨
        ∃ job, getLatestJob packageId db.jobs = some job ∧ jobStatus job = .error e) := by
  simp only [getPackageStatus, h]
  rcases hj : getLatestJob packageId db.jobs with _ | job
  · exact ⟨_, rfl, .inl rfl⟩
  · rcases hs : jobStatus job with e | status
    · exact ⟨e, by simp only [hs]; rfl, .inr ⟨job, rfl, hs⟩⟩
    · exact ⟨_, by simp only [hs]; rfl, .inl rfl⟩

/-! ## What every run keeps -/

section Runs

variable (uuidFromPath : String → Option String)

/-- A stored location in which `uuid_from_path` finds no UUID. -/
def NoUuid (s : String) : Prop := uuidIn uuidFromPath s = none

/-- What the calls keep: unique primary keys and unit-variable keys, at most one transfer at
    a location without a UUID, and a SIP row at the location of each such transfer. -/
structure Db.Inv (db : Db) : Prop where
  sipKeys : (db.sips.map SipRow.uuid).Nodup
  transferKeys : (db.transfers.map TransferRow.uuid).Nodup
  varKeys : (db.unitVariables.map UnitVariableRow.key).Nodup
  pathsUnique : ∀ q, NoUuid uuidFromPath q →
    (db.transfers.filter (·.currentlocation = q)).length ≤ 1
  pathsHaveSip : ∀ t ∈ db.transfers, NoUuid uuidFromPath t.currentlocation →
    ∃ s ∈ db.sips, s.currentpath = some t.currentlocation

variable {uuidFromPath} {db : Db}

theorem Db.Inv.addSip (h : Db.Inv uuidFromPath db) {s : SipRow}
    (hfresh : s.uuid ∉ db.sips.map SipRow.uuid) :
    Db.Inv uuidFromPath { db with sips := db.sips ++ [s] } where
  sipKeys := nodup_map_append_of_not_mem h.sipKeys hfresh
  transferKeys := h.transferKeys
  varKeys := h.varKeys
  pathsUnique := h.pathsUnique
  pathsHaveSip t ht hq := by
    obtain ⟨s', hs', he⟩ := h.pathsHaveSip t ht hq
    exact ⟨s', List.mem_append_left _ hs', he⟩

theorem Db.Inv.addTransfer (h : Db.Inv uuidFromPath db) {t : TransferRow}
    (hfresh : t.uuid ∉ db.transfers.map TransferRow.uuid)
    (hloc : NoUuid uuidFromPath t.currentlocation →
      db.transfers.filter (·.currentlocation = t.currentlocation) = [] ∧
        ∃ s ∈ db.sips, s.currentpath = some t.currentlocation) :
    Db.Inv uuidFromPath { db with transfers := db.transfers ++ [t] } where
  sipKeys := h.sipKeys
  transferKeys := nodup_map_append_of_not_mem h.transferKeys hfresh
  varKeys := h.varKeys
  pathsUnique q hq := by
    have := h.pathsUnique q hq
    rw [List.filter_append, List.length_append]
    by_cases e : t.currentlocation = q
    · subst e
      simp [(hloc hq).1]
    · simpa [e] using this
  pathsHaveSip t' ht' hq := by
    rcases List.mem_append.1 ht' with ht' | ht'
    · exact h.pathsHaveSip t' ht' hq
    · rw [List.mem_singleton.1 ht'] at hq ⊢
      exact (hloc hq).2

theorem Db.Inv.saveTransfer (h : Db.Inv uuidFromPath db) {t : TransferRow} {loc : String}
    (hloc : ¬ NoUuid uuidFromPath loc) :
    Db.Inv uuidFromPath
      { db with transfers := save TransferRow.uuid { t with currentlocation := loc } db.transfers } := by
  let f : TransferRow → TransferRow := fun r =>
    if r.uuid = { t with currentlocation := loc }.uuid then { t with currentlocation := loc } else r
  have hf : ∀ r, (f r).uuid = r.uuid := fun r => by
    simp only [f]; split_ifs with e <;> simp [e]
  have hmem : ∀ r, f r = r ∨ (f r).currentlocation = loc := fun r => by
    simp only [f]; split_ifs <;> simp
  refine ⟨h.sipKeys, ?_, h.varKeys, fun q hq => ?_, fun t' ht' hq => ?_⟩
  · show ((db.transfers.map f).map TransferRow.uuid).Nodup
    rw [List.map_map, show TransferRow.uuid ∘ f = TransferRow.uuid from funext hf]
    exact h.transferKeys
  · show ((db.transfers.map f).filter (·.currentlocation = q)).length ≤ 1
    rw [List.filter_map, List.length_map, ← List.countP_eq_length_filter]
    refine le_trans (List.countP_mono_left fun r _ hr => ?_)
      ((List.countP_eq_length_filter _ _).symm ▸ h.pathsUnique q hq)
    simp only [Function.comp_apply, decide_eq_true_eq] at hr ⊢
    rcases hmem r with e | e
    · rwa [e] at hr
    · exact absurd (e.symm.trans hr ▸ hq) hloc
  · obtain ⟨r, hr, rfl⟩ := List.mem_map.1 ht'
    change NoUuid uuidFromPath (f r).currentlocation at hq
    show ∃ s ∈ db.sips, s.currentpath = some (f r).currentlocation
    rcases hmem r with e | e
    · rw [e] at hq ⊢
      exact h.pathsHaveSip r hr hq
    · exact absurd (e ▸ hq) hloc

theorem Db.Inv.setUnitVariables (h : Db.Inv uuidFromPath db) {rows : List UnitVariableRow}
    (hrows : (rows.map UnitVariableRow.key).Nodup) :
    Db.Inv uuidFromPath { db with unitVariables := rows } :=
  ⟨h.sipKeys, h.transferKeys, hrows, h.pathsUnique, h.pathsHaveSip⟩

theorem uuidIn_some_not_noUuid {path sipUuid : String} (h : uuidIn uuidFromPath path = some sipUuid) :
    ¬ NoUuid uuidFromPath path := by
  simp [NoUuid, h]

/-- `create_package` keeps `Inv` where `uuid_from_path` finds a UUID in the transfer
    directory it makes. -/
theorem Db.Inv.createPackage (h : Db.Inv uuidFromPath db) {settings : Settings}
    {transferId sipId : String} (hdir : ¬ NoUuid uuidFromPath (transferDir settings transferId)) :
    Db.Inv uuidFromPath (createPackageRows settings transferId sipId db).2 := by
  unfold createPackageRows
  dsimp only
  split
  · exact h
  · rename_i ts ht
    obtain ⟨hfresh, rfl⟩ := create_eq_ok ht
    have h1 := h.addTransfer hfresh fun hq => absurd hq hdir
    split
    · exact h1
    · rename_i ss hs
      obtain ⟨hfresh', rfl⟩ := create_eq_ok hs
      exact h1.addSip hfresh'

theorem Db.Inv.sipdipByPath (h : Db.Inv uuidFromPath db) {settings : Settings} {sipId path : String} :
    Db.Inv uuidFromPath (SIPDIP.getOrCreateFromDbByPath settings uuidFromPath sipId path db).2 := by
  rcases hU : uuidIn uuidFromPath (Str.replace path settings.sharedDirectory "%sharedPath%" 1) with
    _ | u
  · rw [SIPDIP.getOrCreateFromDbByPath_of_noUuid hU]
    dsimp only
    generalize Str.replace path settings.sharedDirectory "%sharedPath%" 1 = p at hU
    split
    · exact h
    · rename_i hget
      have hnil := (getBy_eq_doesNotExist hget).resolve_right fun ⟨_, e⟩ => by cases e
      split
      · exact h
      · rename_i ss hs
        obtain ⟨hfresh, rfl⟩ := create_eq_ok hs
        have h1 := h.addSip hfresh
        split
        · exact h1
        · rename_i ts ht
          obtain ⟨hfresh', rfl⟩ := create_eq_ok ht
          refine h1.addTransfer hfresh' fun hq => ⟨List.filter_eq_nil_iff.2 fun t ht e => ?_,
            _, List.mem_append_right _ (List.mem_singleton_self _), rfl⟩
          have he : t.currentlocation = p := of_decide_eq_true e
          obtain ⟨s, hs, hse⟩ := h.pathsHaveSip t ht (he ▸ hq)
          have : s ∈ db.sips.filter (·.currentpath = some p) :=
            List.mem_filter.2 ⟨hs, decide_eq_true (he ▸ hse)⟩
          rw [hnil.1] at this
          cases this
    · exact h
  · rw [SIPDIP.getOrCreateFromDbByPath_of_uuid hU]
    split
    · exact h
    · rename_i hgc
      rcases getOrCreate_eq_ok hgc with ⟨-, -, rfl⟩ | ⟨-, -, -, hfresh, rfl⟩
      · exact h
      · exact h.addSip hfresh

theorem Db.Inv.transferInit (h : Db.Inv uuidFromPath db) {uuid : String} :
    Db.Inv uuidFromPath (Transfer.init uuid db).2 := by
  unfold Transfer.init
  dsimp only
  split
  · exact h
  · split
    · exact h
    · split
      · exact h
      · rename_i ss hs
        obtain ⟨hfresh, rfl⟩ := create_eq_ok hs
        exact h.addSip hfresh
    · exact h

/-- `Transfer.__init__` on a stored transfer, with unique keys: the package of that transfer
    and of the SIP of its key, made when missing; called again, it finds both and writes
    nothing. -/
theorem Transfer.init_of_mem (d : Db) {t : TransferRow}
    (htk : (d.transfers.map TransferRow.uuid).Nodup) (hsk : (d.sips.map SipRow.uuid).Nodup)
    (ht : t ∈ d.transfers) :
    ∃ s d', Transfer.init t.uuid d = (.ok (.ofRows s t), d') ∧ d'.transfers = d.transfers ∧
      ((t.uuid ∈ d.sips.map SipRow.uuid ∧ d' = d) ∨
        (t.uuid ∉ d.sips.map SipRow.uuid ∧ s = ⟨t.uuid, some t.currentlocation⟩ ∧
          d' = { d with sips := d.sips ++ [s] })) ∧
      Transfer.init t.uuid d' = (.ok (.ofRows s t), d') := by
  have hget : ∀ d' : Db, d'.transfers = d.transfers →
      getBy "Transfer" (·.uuid = t.uuid) d'.transfers = .ok t := fun d' e =>
    e ▸ getBy_pk_of_mem htk ht
  by_cases hm : t.uuid ∈ d.sips.map SipRow.uuid
  · obtain ⟨s, hs, hst⟩ := List.mem_map.1 hm
    have hfound : getBy "SIP" (·.uuid = t.uuid) d.sips = .ok s := hst ▸ getBy_pk_of_mem hsk hs
    have hinit : Transfer.init t.uuid d = (.ok (.ofRows s t), d) := by
      simp only [Transfer.init, hget d rfl, hfound]
    exact ⟨s, d, hinit, rfl, .inl ⟨hm, rfl⟩, hinit⟩
  · let s : SipRow := ⟨t.uuid, some t.currentlocation⟩
    have hsk' : ((d.sips ++ [s]).map SipRow.uuid).Nodup := nodup_map_append_of_not_mem hsk hm
    have hfound : getBy "SIP" (·.uuid = t.uuid) (d.sips ++ [s]) = .ok s :=
      getBy_pk_of_mem hsk' (List.mem_append_right _ (List.mem_singleton_self s))
    refine ⟨s, { d with sips := d.sips ++ [s] }, ?_, rfl, .inr ⟨hm, rfl, rfl⟩, ?_⟩
    · simp only [Transfer.init, hget d rfl, getBy_pk_of_not_mem hm,
        @create_of_fresh _ "SIP" SipRow.uuid s d.sips hm]
    · simp only [Transfer.init, hget { d with sips := d.sips ++ [s] } rfl, hfound]

/-! The four outcomes of `Transfer.findByPath`, one lemma each. -/

theorem Transfer.findByPath_of_uuid_mem {u path : String} {t : TransferRow} (d : Db)
    (hU : uuidIn uuidFromPath path = some t.uuid) (hkeys : (d.transfers.map TransferRow.uuid).Nodup)
    (ht : t ∈ d.transfers) :
    Transfer.findByPath uuidFromPath u path d =
      if t.currentlocation = path then (.ok t, d)
      else (.ok { t with currentlocation := path },
        { d with transfers := save TransferRow.uuid { t with currentlocation := path } d.transfers }) := by
  unfold Transfer.findByPath
  rw [hU]
  dsimp only
  rw [getOrCreate_of_mem hkeys ht]
  dsimp only
  by_cases hloc : t.currentlocation = path
  · rw [if_pos hloc, if_neg fun hc => hc.2 hloc]
  · rw [if_neg hloc, if_pos ⟨rfl, hloc⟩]

theorem Transfer.findByPath_of_uuid_fresh {u path U : String} (d : Db)
    (hU : uuidIn uuidFromPath path = some U) (hfree : U ∉ d.transfers.map TransferRow.uuid) :
    Transfer.findByPath uuidFromPath u path d =
      (.ok ⟨U, path⟩, { d with transfers := d.transfers ++ [⟨U, path⟩] }) := by
  unfold Transfer.findByPath
  rw [hU]
  dsimp only
  rw [@getOrCreate_of_fresh _ "Transfer" TransferRow.uuid U ⟨U, path⟩ d.transfers rfl hfree]
  dsimp only
  rw [if_neg fun hc => Bool.noConfusion hc.1]

theorem Transfer.findByPath_of_located {u path : String} {t : TransferRow} (d : Db)
    (hnone : NoUuid uuidFromPath path) (hf : d.transfers.filter (·.currentlocation = path) = [t]) :
    Transfer.findByPath uuidFromPath u path d = (.ok t, d) := by
  unfold Transfer.findByPath
  rw [hnone]
  dsimp only
  rw [getBy_eq_ok.2 hf]

theorem Transfer.findByPath_of_unlocated {u path : String} (d : Db)
    (hnone : NoUuid uuidFromPath path) (hf : d.transfers.filter (·.currentlocation = path) = [])
    (hfresh : u ∉ d.transfers.map TransferRow.uuid) :
    Transfer.findByPath uuidFromPath u path d =
      (.ok ⟨u, path⟩, { d with transfers := d.transfers ++ [⟨u, path⟩] }) := by
  unfold Transfer.findByPath
  rw [hnone]
  dsimp only
  rw [getBy_of_filter_eq_nil hf, @create_of_fresh _ "Transfer" TransferRow.uuid ⟨u, path⟩ d.transfers hfresh]
  rfl

theorem Transfer.findByPath_of_uuid_at {u path : String} {t : TransferRow} (d : Db)
    (hU : uuidIn uuidFromPath path = some t.uuid) (hkeys : (d.transfers.map TransferRow.uuid).Nodup)
    (ht : t ∈ d.transfers) (hloc : t.currentlocation = path) :
    Transfer.findByPath uuidFromPath u path d = (.ok t, d) := by
  rw [Transfer.findByPath_of_uuid_mem d hU hkeys ht, if_pos hloc]

/-- The lookup of `Transfer.get_or_create_from_db_by_path` with a fresh `uuid4`, from `Inv`:
    it returns a transfer at the path, in the table it leaves, where a second lookup
    returns it again without a write; that table keeps `Inv`, except after a new transfer
    at a location without a UUID, whose SIP row `Transfer.__init__` makes next. -/
theorem Transfer.findByPath_spec (h : Db.Inv uuidFromPath db) {u path : String}
    (hfresh : u ∉ db.transfers.map TransferRow.uuid) :
    ∃ t ts, Transfer.findByPath uuidFromPath u path db = (.ok t, { db with transfers := ts }) ∧
      t ∈ ts ∧ t.currentlocation = path ∧ (ts.map TransferRow.uuid).Nodup ∧
      (∀ u' (d : Db), d.transfers = ts → Transfer.findByPath uuidFromPath u' path d = (.ok t, d)) ∧
      (Db.Inv uuidFromPath { db with transfers := ts } ∨
        (NoUuid uuidFromPath path ∧ t = ⟨u, path⟩ ∧ ts = db.transfers ++ [t] ∧
          db.transfers.filter (·.currentlocation = path) = [])) := by
  rcases hU : uuidIn uuidFromPath path with _ | U
  case none =>
    rcases hf : db.transfers.filter (·.currentlocation = path) with _ | ⟨t, _ | ⟨t₂, l⟩⟩
    · have hf' : (db.transfers ++ [(⟨u, path⟩ : TransferRow)]).filter (·.currentlocation = path) =
          [⟨u, path⟩] := by
        simp [hf]
      rw [Transfer.findByPath_of_unlocated db hU hf hfresh]
      exact ⟨_, _, rfl, List.mem_append_right _ (List.mem_singleton_self _), rfl,
        nodup_map_append_of_not_mem h.transferKeys hfresh,
        fun u' d hd => Transfer.findByPath_of_located d hU (hd ▸ hf'), .inr ⟨hU, rfl, rfl, hf⟩⟩
    · have ht := List.mem_filter.1 (hf ▸ List.mem_singleton_self t)
      rw [Transfer.findByPath_of_located db hU hf]
      exact ⟨t, db.transfers, rfl, ht.1, of_decide_eq_true ht.2, h.transferKeys,
        fun u' d hd => Transfer.findByPath_of_located d hU (hd ▸ hf), .inl h⟩
    · simpa [hf] using h.pathsUnique path hU
  case some =>
    have hnot := uuidIn_some_not_noUuid hU
    by_cases hmem : U ∈ db.transfers.map TransferRow.uuid
    · obtain ⟨t, ht, rfl⟩ := List.mem_map.1 hmem
      rw [Transfer.findByPath_of_uuid_mem db hU h.transferKeys ht]
      by_cases hloc : t.currentlocation = path
      · rw [if_pos hloc]
        exact ⟨t, db.transfers, rfl, ht, hloc, h.transferKeys,
          fun u' d hd => Transfer.findByPath_of_uuid_at d hU (hd ▸ h.transferKeys) (hd ▸ ht) hloc,
          .inl h⟩
      · rw [if_neg hloc]
        have hnd := (map_pk_save TransferRow.uuid { t with currentlocation := path } _).symm ▸
          h.transferKeys
        have ht' := @mem_save _ TransferRow.uuid { t with currentlocation := path } t _ ht rfl
        exact ⟨_, _, rfl, ht', rfl, hnd,
          fun u' d hd => Transfer.findByPath_of_uuid_at d hU (hd ▸ hnd) (hd ▸ ht') rfl,
          .inl (h.saveTransfer hnot)⟩
    · let t : TransferRow := ⟨U, path⟩
      have hnd := @nodup_map_append_of_not_mem _ _ TransferRow.uuid _ t h.transferKeys hmem
      have ht := List.mem_append_right db.transfers (List.mem_singleton_self t)
      rw [Transfer.findByPath_of_uuid_fresh db hU hmem]
      exact ⟨_, _, rfl, ht, rfl, hnd,
        fun u' d hd => Transfer.findByPath_of_uuid_at d hU (hd ▸ hnd) (hd ▸ ht) rfl,
        .inl (h.addTransfer hmem fun hq => absurd hq hnot)⟩

/-- `Transfer.get_or_create_from_db_by_path` from `Inv`, with a `uuid4` that no row has as
    its key: it returns the transfer package at the path and keeps `Inv`; called again on the
    tables it leaves, with any `uuid4`, it returns the same package and writes nothing. -/
theorem Db.Inv.transferByPath (h : Db.Inv uuidFromPath db) (settings : Settings) {u path : String}
    (hfresh : u ∉ db.transfers.map TransferRow.uuid ∧ u ∉ db.sips.map SipRow.uuid) :
    ∃ pkg db', Transfer.getOrCreateFromDbByPath settings uuidFromPath u path db = (.ok pkg, db') ∧
      pkg.stage = .transfer ∧
      pkg.currentPath = Str.replace path settings.sharedDirectory "%sharedPath%" 1 ∧
      Db.Inv uuidFromPath db' ∧
      ∀ u', Transfer.getOrCreateFromDbByPath settings uuidFromPath u' path db' = (.ok pkg, db') := by
  unfold Transfer.getOrCreateFromDbByPath
  dsimp only
  generalize Str.replace path settings.sharedDirectory "%sharedPath%" 1 = p
  obtain ⟨t, ts, hfind, ht, hloc, hnd, hagain, hinv⟩ := @Transfer.findByPath_spec _ _ h u p hfresh.1
  obtain ⟨s, d', hinit, htr, hcase, hinit'⟩ :=
    Transfer.init_of_mem { db with transfers := ts } hnd h.sipKeys ht
  rw [hfind]
  dsimp only
  rw [hinit]
  refine ⟨_, d', rfl, rfl, hloc, ?_, fun u' => ?_⟩
  · rcases hinv with hI | ⟨-, rfl, rfl, hnil⟩
    · have := @Db.Inv.transferInit _ _ hI t.uuid
      rwa [hinit] at this
    · rcases hcase with ⟨hm, -⟩ | ⟨-, rfl, rfl⟩
      · exact absurd hm hfresh.2
      · exact (h.addSip hfresh.2).addTransfer hfresh.1 fun _ =>
          ⟨hnil, _, List.mem_append_right _ (List.mem_singleton_self _), rfl⟩
  · rw [hagain u' d' htr]
    exact hinit'

end Runs

end A3m.Server
