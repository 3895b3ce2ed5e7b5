/-
  A3m.Server.PackageRuns

  Runs of the calls of `a3m/server/packages.py` that write the tables, and of
  `UnitVariableManager.update_variable` (`a3m/main/models.py`), from the empty tables of a
  new database: `DbReachable`. Each call draws fresh `uuid4` values (`DbCall.Fresh`); between
  the calls the workflow adds `Job` rows, which no function here writes (`DbCall.addJob`).

  Every reachable state keeps `Db.Inv` (`DbReachable.db_inv`), and no call removes or changes a
  SIP row (`steps_sips_grow`). From these:
  * `Transfer.get_or_create_from_db_by_path` always returns, and a second call with the same
    path returns the same package and writes nothing (`DbReachable.transferByPath_idempotent`);
  * `SIPDIP.get_or_create_from_db_by_path` raises `AttributeError` at `sip_obj.transfer_id`
    on every path in which `uuid_from_path` finds a UUID, after making the SIP row of that
    UUID (`DbReachable.sipdipByPath_raises_of_uuid`), and on every path without a UUID that
    a SIP row has, from then on (`sipdipByPath_raises_on_known_path`);
  * `get_package_status` of a stored package that is not active raises, `AttributeError`
    at `sip.transfer_id` unless the status of its latest job cannot be read
    (`DbReachable.getPackageStatus_raises_of_inactive`);
  * `set_variable` always returns, and the variable reads back what it stored
    (`DbReachable.setVariable_getVariable`).
-/
import A3m.Server.PackageDb
import Mathlib.Logic.Relation

namespace A3m.Server

open A3m.Python A3m.Main

/-! ## Calls and runs -/

/-- The calls that write the tables, with the `uuid4` values each draws. `addJob` is a `Job`
    row the workflow writes. -/
inductive DbCall where
  | createPackage (transferId sipId : String)
  | sipdipByPath (sipId path : String)
  | transferByPath (newUuid path : String)
  | setVariable (pkg : PackageAttrs) (key : String) (value chainLinkId : Option String)
  | updateVariable (unitType unitUuid variable_ : String) (value linkId : Option String)
  | addJob (job : JobRow)

/-- The tables after a call, whether it returns or raises. -/
def DbCall.run (settings : Settings) (uuidFromPath : String → Option String) : DbCall → Db → Db
  | .createPackage transferId sipId, db => (createPackageRows settings transferId sipId db).2
  | .sipdipByPath sipId path, db =>
    (SIPDIP.getOrCreateFromDbByPath settings uuidFromPath sipId path db).2
  | .transferByPath newUuid path, db =>
    (Transfer.getOrCreateFromDbByPath settings uuidFromPath newUuid path db).2
  | .setVariable pkg key value chainLinkId, db =>
    match pkg.setVariable key value chainLinkId db with
    | .ok db' => db'
    | .error _ => db
  | .updateVariable unitType unitUuid variable_ value linkId, db =>
    match Main.updateVariable unitType unitUuid variable_ value linkId db.unitVariables with
    | .ok rows => { db with unitVariables := rows }
    | .error _ => db
  | .addJob job, db => { db with jobs := db.jobs ++ [job] }

/-- What the `uuid4` values of a call are: the directory of a new transfer is one in which
    `uuid_from_path` finds its UUID, and a transfer found by path gets a key no row has. -/
def DbCall.Fresh (settings : Settings) (uuidFromPath : String → Option String) :
    DbCall → Db → Prop
  | .createPackage transferId _, _ => ¬ NoUuid uuidFromPath (transferDir settings transferId)
  | .transferByPath newUuid _, db =>
    newUuid ∉ db.transfers.map TransferRow.uuid ∧ newUuid ∉ db.sips.map SipRow.uuid
  | _, _ => True

/-- One call, with fresh `uuid4` values. -/
inductive DbStep (settings : Settings) (uuidFromPath : String → Option String) : Db → Db → Prop
  | call {db : Db} (c : DbCall) :
      c.Fresh settings uuidFromPath db → DbStep settings uuidFromPath db (c.run settings uuidFromPath db)

/-- The tables of a new database. -/
def Db.empty : Db := ⟨[], [], [], []⟩

/-- The tables a run of calls reaches from those of a new database. -/
def DbReachable (settings : Settings) (uuidFromPath : String → Option String) (db : Db) : Prop :=
  Relation.ReflTransGen (DbStep settings uuidFromPath) Db.empty db

section Runs

variable {settings : Settings} {uuidFromPath : String → Option String} {db : Db}

theorem PackageAttrs.setVariable_eq_ok {pkg : PackageAttrs} {key : String}
    {value chainLinkId : Option String} {db' : Db}
    (h : pkg.setVariable key value chainLinkId db = .ok db') :
    ∃ rows, updateVariable pkg.unitVariableType pkg.uuid key (some (value.getD "")) chainLinkId
      db.unitVariables = .ok rows ∧ db' = { db with unitVariables := rows } := by
  unfold PackageAttrs.setVariable at h
  rcases hu : updateVariable pkg.unitVariableType pkg.uuid key (some (value.getD "")) chainLinkId
    db.unitVariables with _ | rows <;> rw [hu] at h <;> cases h
  exact ⟨rows, rfl, rfl⟩

/-! ## What every run keeps -/

theorem Db.Inv.empty : Db.Inv uuidFromPath Db.empty :=
  ⟨List.nodup_nil, List.nodup_nil, List.nodup_nil, fun _ _ => by simp [Db.empty], nofun⟩

theorem Db.Inv.run (h : Db.Inv uuidFromPath db) {c : DbCall} (hc : c.Fresh settings uuidFromPath db) :
    Db.Inv uuidFromPath (c.run settings uuidFromPath db) := by
  cases c with
  | createPackage transferId sipId => exact h.createPackage hc
  | sipdipByPath sipId path => exact h.sipdipByPath
  | transferByPath newUuid path =>
    obtain ⟨_, _, e, -, -, hI, -⟩ := h.transferByPath settings hc
    rwa [DbCall.run, e]
  | setVariable pkg key value chainLinkId =>
    obtain ⟨rows, hu, hnd, -⟩ := @updateVariable_spec pkg.unitVariableType pkg.uuid key
      (some (value.getD "")) chainLinkId _ h.varKeys
    rw [DbCall.run, PackageAttrs.setVariable, hu]
    exact h.setUnitVariables hnd
  | updateVariable unitType unitUuid variable_ value linkId =>
    obtain ⟨rows, hu, hnd, -⟩ := @updateVariable_spec unitType unitUuid variable_ value linkId _
      h.varKeys
    rw [DbCall.run, hu]
    exact h.setUnitVariables hnd
  | addJob job =>
    exact ⟨h.sipKeys, h.transferKeys, h.varKeys, h.pathsUnique, h.pathsHaveSip⟩

theorem Db.Inv.steps (h : Db.Inv uuidFromPath db) {db' : Db}
    (hrun : Relation.ReflTransGen (DbStep settings uuidFromPath) db db') : Db.Inv uuidFromPath db' := by
  induction hrun with
  | refl => exact h
  | tail _ hstep ih =>
    cases hstep with
    | call c hc => exact ih.run hc

/-- Every reachable state keeps `Db.Inv`. -/
theorem DbReachable.db_inv (hr : DbReachable settings uuidFromPath db) : Db.Inv uuidFromPath db :=
  Db.Inv.empty.steps hr

theorem inv_after_transferByPath :
    DbReachable ⟨"/s", "/p", "/r"⟩ (fun _ => none)
        ((DbCall.transferByPath "t" "p").run ⟨"/s", "/p", "/r"⟩ (fun _ => none) Db.empty) ∧
      Db.Inv (fun _ => none)
        ((DbCall.transferByPath "t" "p").run ⟨"/s", "/p", "/r"⟩ (fun _ => none) Db.empty) :=
  have hr : DbReachable ⟨"/s", "/p", "/r"⟩ (fun _ => none)
      ((DbCall.transferByPath "t" "p").run ⟨"/s", "/p", "/r"⟩ (fun _ => none) Db.empty) :=
    Relation.ReflTransGen.single (DbStep.call _ (by simp [DbCall.Fresh, Db.empty]))
  ⟨hr, DbReachable.db_inv hr⟩

/-! ## SIP rows are only added -/

theorem createPackageRows_sips_grow (transferId sipId : String) :
    db.sips <+: (createPackageRows settings transferId sipId db).2.sips := by
  unfold createPackageRows
  dsimp only
  split
  · exact List.prefix_refl _
  · split
    · exact List.prefix_refl _
    · rename_i ss hs
      rw [(create_eq_ok hs).2]
      exact List.prefix_append _ _

theorem SIPDIP.sips_grow (sipId path : String) :
    db.sips <+: (SIPDIP.getOrCreateFromDbByPath settings uuidFromPath sipId path db).2.sips := by
  rcases hU : uuidIn uuidFromPath (Str.replace path settings.sharedDirectory "%sharedPath%" 1) with
    _ | u
  · rw [SIPDIP.getOrCreateFromDbByPath_of_noUuid hU]
    dsimp only
    split
    · exact List.prefix_refl _
    · split
      · exact List.prefix_refl _
      · rename_i ss hs
        obtain ⟨-, rfl⟩ := create_eq_ok hs
        split <;> exact List.prefix_append _ _
    · exact List.prefix_refl _
  · rw [SIPDIP.getOrCreateFromDbByPath_of_uuid hU]
    split
    · exact List.prefix_refl _
    · rename_i hgc
      rcases getOrCreate_eq_ok hgc with ⟨-, -, rfl⟩ | ⟨-, -, -, -, rfl⟩
      · exact List.prefix_refl _
      · exact List.prefix_append _ _

theorem Transfer.findByPath_sips (newUuid path : String) :
    (Transfer.findByPath uuidFromPath newUuid path db).2.sips = db.sips := by
  unfold Transfer.findByPath
  dsimp only
  repeat' split
  all_goals rfl

theorem Transfer.init_sips_grow (uuid : String) : db.sips <+: (Transfer.init uuid db).2.sips := by
  unfold Transfer.init
  dsimp only
  split
  · exact List.prefix_refl _
  · split
    · exact List.prefix_refl _
    · split
      · exact List.prefix_refl _
      · rename_i ss hs
        rw [(create_eq_ok hs).2]
        exact List.prefix_append _ _
    · exact List.prefix_refl _

theorem Transfer.sips_grow (newUuid path : String) :
    db.sips <+: (Transfer.getOrCreateFromDbByPath settings uuidFromPath newUuid path db).2.sips := by
  unfold Transfer.getOrCreateFromDbByPath
  dsimp only
  have hs := @Transfer.findByPath_sips uuidFromPath db newUuid
    (Str.replace path settings.sharedDirectory "%sharedPath%" 1)
  rcases hf : Transfer.findByPath uuidFromPath newUuid
    (Str.replace path settings.sharedDirectory "%sharedPath%" 1) db with ⟨_ | t, d⟩ <;>
    rw [hf] at hs <;> dsimp only at hs ⊢ <;> rw [← hs]
  exact Transfer.init_sips_grow t.uuid

/-- No call removes or changes a SIP row: a call adds SIP rows at the end, if any. -/
theorem DbCall.sips_grow (c : DbCall) : db.sips <+: (c.run settings uuidFromPath db).sips := by
  cases c with
  | createPackage transferId sipId => exact createPackageRows_sips_grow transferId sipId
  | sipdipByPath sipId path => exact SIPDIP.sips_grow sipId path
  | transferByPath newUuid path => exact Transfer.sips_grow newUuid path
  | setVariable pkg key value chainLinkId =>
    rw [DbCall.run]
    split
    · rename_i db' h
      obtain ⟨rows, -, rfl⟩ := PackageAttrs.setVariable_eq_ok h
      exact List.prefix_refl _
    · exact List.prefix_refl _
  | updateVariable unitType unitUuid variable_ value linkId =>
    rw [DbCall.run]
    split <;> exact List.prefix_refl _
  | addJob job => exact List.prefix_refl _

theorem steps_sips_grow {db' : Db}
    (hrun : Relation.ReflTransGen (DbStep settings uuidFromPath) db db') : db.sips <+: db'.sips := by
  induction hrun with
  | refl => exact List.prefix_refl _
  | tail _ hstep ih =>
    cases hstep with
    | call c _ => exact ih.trans c.sips_grow

/-! ## What the calls return in reachable states -/

/-- In every reachable state, `Transfer.get_or_create_from_db_by_path` with a fresh `uuid4`
    returns a transfer-stage package at the path as stored; the tables it leaves are
    reachable, and on them a second call with the same path, whatever `uuid4` it draws,
    returns the same package and writes nothing. -/
theorem DbReachable.transferByPath_idempotent (hr : DbReachable settings uuidFromPath db)
    {u path : String}
    (hfresh : u ∉ db.transfers.map TransferRow.uuid ∧ u ∉ db.sips.map SipRow.uuid) :
    ∃ pkg db', Transfer.getOrCreateFromDbByPath settings uuidFromPath u path db = (.ok pkg, db') ∧
      pkg.stage = .transfer ∧
      pkg.currentPath = Str.replace path settings.sharedDirectory "%sharedPath%" 1 ∧
      DbReachable settings uuidFromPath db' ∧
      ∀ u', Transfer.getOrCreateFromDbByPath settings uuidFromPath u' path db' = (.ok pkg, db') := by
  obtain ⟨pkg, db', e, hstage, hpath, -, hagain⟩ := (Db.Inv.empty.steps hr).transferByPath settings hfresh
  have hr' := hr.tail (DbStep.call (.transferByPath u path) hfresh)
  rw [DbCall.run, e] at hr'
  exact ⟨pkg, db', e, hstage, hpath, hr', hagain⟩

namespace PackageRuns

/-- Settings with the shared directory `/s`. -/
def sampleSettings : Settings := ⟨"/s", "/p", "/r"⟩

/-- The tables after `Transfer.get_or_create_from_db_by_path("p")`, with the key `t`, on a
    new database where `uuid_from_path` finds no UUID: the transfer `t` at `p` and its SIP. -/
def afterTransfer : Db := (DbCall.transferByPath "t" "p").run sampleSettings (fun _ => none) Db.empty

theorem reachable_afterTransfer : DbReachable sampleSettings (fun _ => none) afterTransfer :=
  Relation.ReflTransGen.single (DbStep.call _ (by simp [DbCall.Fresh, Db.empty]))

end PackageRuns

open PackageRuns in
/-- On a new database the call makes the transfer; on the tables it leaves, a call with
    another `uuid4` finds that transfer. -/
theorem transferByPath_idempotent_made_and_found :
    (∃ pkg db', Transfer.getOrCreateFromDbByPath sampleSettings (fun _ => none) "t" "p" Db.empty =
          (.ok pkg, db') ∧
        pkg.stage = .transfer ∧ pkg.currentPath = Str.replace "p" "/s" "%sharedPath%" 1 ∧
        DbReachable sampleSettings (fun _ => none) db' ∧
        ∀ u', Transfer.getOrCreateFromDbByPath sampleSettings (fun _ => none) u' "p" db' = (.ok pkg, db')) ∧
      ("u" ∉ afterTransfer.transfers.map TransferRow.uuid ∧
        "u" ∉ afterTransfer.sips.map SipRow.uuid) ∧
      Transfer.getOrCreateFromDbByPath sampleSettings (fun _ => none) "u" "p" afterTransfer =
        (.ok ⟨.transfer, "t", "t", "p"⟩, afterTransfer) ∧
      ∃ pkg db', Transfer.getOrCreateFromDbByPath sampleSettings (fun _ => none) "u" "p" afterTransfer =
          (.ok pkg, db') ∧
        pkg.stage = .transfer ∧ pkg.currentPath = Str.replace "p" "/s" "%sharedPath%" 1 ∧
        DbReachable sampleSettings (fun _ => none) db' ∧
        ∀ u', Transfer.getOrCreateFromDbByPath sampleSettings (fun _ => none) u' "p" db' = (.ok pkg, db') :=
  have hfresh : "u" ∉ afterTransfer.transfers.map TransferRow.uuid ∧
      "u" ∉ afterTransfer.sips.map SipRow.uuid := by decide
  ⟨DbReachable.transferByPath_idempotent .refl (by simp [Db.empty]), hfresh, rfl,
    DbReachable.transferByPath_idempotent reachable_afterTransfer hfresh⟩

/-- `SIPDIP.get_or_create_from_db_by_path` of a path without a UUID that a SIP row has
    raises and writes nothing: reading `transfer_id` on the SIP it finds raises
    `AttributeError`; two SIP rows at the path raise first. -/
theorem SIPDIP.getOrCreateFromDbByPath_of_known {sipId path p : String}
    (hp : Str.replace path settings.sharedDirectory "%sharedPath%" 1 = p)
    (hnone : NoUuid uuidFromPath p) (hknown : ∃ s ∈ db.sips, s.currentpath = some p) :
    ∃ e, SIPDIP.getOrCreateFromDbByPath settings uuidFromPath sipId path db = (.error e, db) ∧
      (e = .py (.attributeError "'SIP' object has no attribute 'transfer_id'") ∨
        e = .py (.multipleObjectsReturned "SIP")) := by
  obtain ⟨s, hs, hsp⟩ := hknown
  rw [SIPDIP.getOrCreateFromDbByPath_of_noUuid (hp ▸ hnone)]
  dsimp only
  rw [hp]
  rcases hf : db.sips.filter (·.currentpath = some p) with _ | ⟨s₁, _ | ⟨s₂, l⟩⟩
  · exact absurd (hf ▸ List.mem_filter.2 ⟨hs, decide_eq_true hsp⟩) (List.not_mem_nil s)
  · rw [getBy_eq_ok.2 hf]
    exact ⟨_, rfl, .inl rfl⟩
  · rw [getBy_of_filter_eq_cons_cons hf]
    exact ⟨_, rfl, .inr rfl⟩

/-- Once a SIP row has a path in which `uuid_from_path` finds no UUID (the row that
    `SIPDIP.get_or_create_from_db_by_path` or `Transfer.__init__` makes for such a path), every
    later `SIPDIP.get_or_create_from_db_by_path` of that path, in every state a run reaches from
    there, raises and writes nothing: `AttributeError` at `sip_obj.transfer_id`, or
    `MultipleObjectsReturned` if two SIP rows have the path. -/
theorem sipdipByPath_raises_on_known_path {sip : SipRow} (hs : sip ∈ db.sips) {path : String}
    (hp : sip.currentpath = some (Str.replace path settings.sharedDirectory "%sharedPath%" 1))
    (hnone : NoUuid uuidFromPath (Str.replace path settings.sharedDirectory "%sharedPath%" 1))
    {db' : Db} (hrun : Relation.ReflTransGen (DbStep settings uuidFromPath) db db') (sipId : String) :
    ∃ e, SIPDIP.getOrCreateFromDbByPath settings uuidFromPath sipId path db' = (.error e, db') ∧
      (e = .py (.attributeError "'SIP' object has no attribute 'transfer_id'") ∨
        e = .py (.multipleObjectsReturned "SIP")) :=
  SIPDIP.getOrCreateFromDbByPath_of_known rfl hnone ⟨sip, (steps_sips_grow hrun).subset hs, hp⟩

open PackageRuns in
theorem sipdipByPath_raises_after_transferByPath :
    DbReachable sampleSettings (fun _ => none) afterTransfer ∧ (⟨"t", some "p"⟩ : SipRow) ∈ afterTransfer.sips ∧
      (⟨"t", some "p"⟩ : SipRow).currentpath = some (Str.replace "p" "/s" "%sharedPath%" 1) ∧
      NoUuid (fun _ => none) (Str.replace "p" "/s" "%sharedPath%" 1) ∧
      ∃ e, SIPDIP.getOrCreateFromDbByPath sampleSettings (fun _ => none) "s" "p" afterTransfer =
          (.error e, afterTransfer) ∧
        (e = .py (.attributeError "'SIP' object has no attribute 'transfer_id'") ∨
          e = .py (.multipleObjectsReturned "SIP")) :=
  have hs : (⟨"t", some "p"⟩ : SipRow) ∈ afterTransfer.sips := by decide
  have hp : (⟨"t", some "p"⟩ : SipRow).currentpath = some (Str.replace "p" "/s" "%sharedPath%" 1) := by
    decide
  ⟨reachable_afterTransfer, hs, hp, rfl,
    @sipdipByPath_raises_on_known_path sampleSettings (fun _ => none) _ _ hs "p" hp rfl _ .refl "s"⟩

/-- In every reachable state, `SIPDIP.get_or_create_from_db_by_path` of a path in which
    `uuid_from_path` finds a UUID raises `AttributeError` at `sip_obj.transfer_id`, leaving
    the SIP row of that UUID that `get_or_create` made when it was missing. -/
theorem DbReachable.sipdipByPath_raises_of_uuid (hr : DbReachable settings uuidFromPath db)
    {sipId path u : String}
    (hU : uuidIn uuidFromPath (Str.replace path settings.sharedDirectory "%sharedPath%" 1) = some u) :
    SIPDIP.getOrCreateFromDbByPath settings uuidFromPath sipId path db =
      (.error (.py (.attributeError "'SIP' object has no attribute 'transfer_id'")),
        if u ∈ db.sips.map SipRow.uuid then db
        else { db with sips := db.sips ++
          [⟨u, some (Str.replace path settings.sharedDirectory "%sharedPath%" 1)⟩] }) := by
  have hkeys := (Db.Inv.empty.steps hr).sipKeys
  rw [SIPDIP.getOrCreateFromDbByPath_of_uuid hU]
  by_cases hm : u ∈ db.sips.map SipRow.uuid
  · obtain ⟨s, hs, rfl⟩ := List.mem_map.1 hm
    rw [getOrCreate_of_mem hkeys hs, if_pos hm]
  · rw [@getOrCreate_of_fresh _ "SIP" SipRow.uuid u _ db.sips rfl hm, if_neg hm]

open PackageRuns in
/-- On a new database, a path that ends in its UUID gets its SIP row, and then the call
    raises. -/
theorem sipdipByPath_raises_of_uuid_new :
    DbReachable sampleSettings (fun _ => some "u1") Db.empty ∧
      uuidIn (fun _ => some "u1") (Str.replace "/s/u1" "/s" "%sharedPath%" 1) = some "u1" ∧
      SIPDIP.getOrCreateFromDbByPath sampleSettings (fun _ => some "u1") "s" "/s/u1" Db.empty =
        (.error (.py (.attributeError "'SIP' object has no attribute 'transfer_id'")),
          if "u1" ∈ Db.empty.sips.map SipRow.uuid then Db.empty
          else { Db.empty with
            sips := Db.empty.sips ++ [⟨"u1", some (Str.replace "/s/u1" "/s" "%sharedPath%" 1)⟩] }) :=
  have hU : uuidIn (fun _ => some "u1") (Str.replace "/s/u1" "/s" "%sharedPath%" 1) = some "u1" := by
    decide
  ⟨.refl, hU, DbReachable.sipdipByPath_raises_of_uuid .refl hU⟩

/-- In every reachable state, `get_package_status` of a stored package that is not active
    never returns: it raises `AttributeError` at `sip.transfer_id`, unless the status of its
    latest job cannot be read, and always when the package has no job of its own. -/
theorem DbReachable.getPackageStatus_raises_of_inactive (hr : DbReachable settings uuidFromPath db)
    {sip : SipRow} (hs : sip ∈ db.sips) :
    (∃ e, getPackageStatus none sip.uuid db = .error e ∧
      (e = .py (.attributeError "'SIP' object has no attribute 'transfer_id'") ∨
        ∃ job, getLatestJob sip.uuid db.jobs = some job ∧ jobStatus job = .error e)) ∧
    ((∀ j ∈ db.jobs, j.sipuuid ≠ sip.uuid) →
      getPackageStatus none sip.uuid db =
        .error (.py (.attributeError "'SIP' object has no attribute 'transfer_id'"))) := by
  obtain ⟨e, he, hcase⟩ := getPackageStatus_of_inactive (getBy_pk_of_mem (Db.Inv.empty.steps hr).sipKeys hs)
  refine ⟨⟨e, he, hcase⟩, fun hjobs => ?_⟩
  rcases hcase with rfl | ⟨job, hj, -⟩
  · exact he
  · rw [getLatestJob_eq_none.2 hjobs] at hj
    cases hj

namespace PackageRuns

/-- The tables after `SIPDIP.get_or_create_from_db_by_path("p")`, with the key `s`, on a new
    database where `uuid_from_path` finds no UUID, and a job of `s` in a failed group. -/
def afterFailedJob : Db :=
  (DbCall.addJob ⟨"j", "Move to the failed directory", 1, 0, "s", 0, "Failed transfer", none⟩).run
    sampleSettings (fun _ => none) ((DbCall.sipdipByPath "s" "p").run sampleSettings (fun _ => none) Db.empty)

end PackageRuns

open PackageRuns in
/-- A stored package whose latest job failed: `get_package_status` reads the status and then
    raises at `sip.transfer_id`. -/
theorem getPackageStatus_raises_after_failed_job :
    DbReachable sampleSettings (fun _ => none) afterFailedJob ∧ (⟨"s", some "p"⟩ : SipRow) ∈ afterFailedJob.sips ∧
      (jobStatus ⟨"j", "Move to the failed directory", 1, 0, "s", 0, "Failed transfer", none⟩ = .ok .failed) ∧
      (∃ e, getPackageStatus none "s" afterFailedJob = .error e ∧
        (e = .py (.attributeError "'SIP' object has no attribute 'transfer_id'") ∨
          ∃ job, getLatestJob "s" afterFailedJob.jobs = some job ∧ jobStatus job = .error e)) ∧
      ((∀ j ∈ afterFailedJob.jobs, j.sipuuid ≠ "s") →
        getPackageStatus none "s" afterFailedJob =
          .error (.py (.attributeError "'SIP' object has no attribute 'transfer_id'"))) :=
  have hr : DbReachable sampleSettings (fun _ => none) afterFailedJob :=
    (Relation.ReflTransGen.single (DbStep.call (.sipdipByPath "s" "p") trivial)).tail
      (DbStep.call (.addJob ⟨"j", "Move to the failed directory", 1, 0, "s", 0, "Failed transfer", none⟩)
        trivial)
  have hs : (⟨"s", some "p"⟩ : SipRow) ∈ afterFailedJob.sips := by decide
  ⟨hr, hs, rfl, DbReachable.getPackageStatus_raises_of_inactive hr hs⟩

/-- In every reachable state `set_variable` returns, and leaves reachable tables in which the
    variable, under the package's `unit_variable_type` and SIP key, reads back the value it
    stored (`""` for a false one) and the chain link, while every other variable reads as
    before. -/
theorem DbReachable.setVariable_getVariable (hr : DbReachable settings uuidFromPath db)
    (pkg : PackageAttrs) (key : String) (value chainLinkId : Option String) :
    ∃ db', pkg.setVariable key value chainLinkId db = .ok db' ∧ DbReachable settings uuidFromPath db' ∧
      (∃ row, getVariable pkg.unitVariableType pkg.uuid key db'.unitVariables = .ok row ∧
        row.variablevalue = some (value.getD "") ∧ row.microservicechainlink = chainLinkId) ∧
      ∀ k ≠ varKey pkg.unitVariableType pkg.uuid key,
        db'.unitVariables.filter (·.key = k) = db.unitVariables.filter (·.key = k) := by
  obtain ⟨rows, hu, -, hget, hframe⟩ := @updateVariable_spec pkg.unitVariableType pkg.uuid key
    (some (value.getD "")) chainLinkId _ (Db.Inv.empty.steps hr).varKeys
  have hset : pkg.setVariable key value chainLinkId db = .ok { db with unitVariables := rows } := by
    rw [PackageAttrs.setVariable, hu]
    rfl
  have hr' := hr.tail (DbStep.call (.setVariable pkg key value chainLinkId) trivial)
  rw [DbCall.run, hset] at hr'
  exact ⟨_, hset, hr', hget, hframe⟩

namespace PackageRuns

/-- The tables after `set_variable("k", "v")` of a transfer-stage package with SIP key `s`,
    on a new database. -/
def afterSetVariable : Db :=
  (DbCall.setVariable ⟨.transfer, "s", "t", "p"⟩ "k" (some "v") none).run sampleSettings
    (fun _ => none) Db.empty

end PackageRuns

open PackageRuns in
/-- `set_variable` makes the variable's row on a new database, then updates that row. -/
theorem setVariable_getVariable_made_and_updated :
    (∃ db', (⟨.transfer, "s", "t", "p"⟩ : PackageAttrs).setVariable "k" (some "v") none Db.empty =
          .ok db' ∧ DbReachable sampleSettings (fun _ => none) db' ∧
        (∃ row, getVariable "Transfer" "s" "k" db'.unitVariables = .ok row ∧
          row.variablevalue = some "v" ∧ row.microservicechainlink = none) ∧
        ∀ k ≠ varKey "Transfer" "s" "k",
          db'.unitVariables.filter (·.key = k) = Db.empty.unitVariables.filter (·.key = k)) ∧
      DbReachable sampleSettings (fun _ => none) afterSetVariable ∧
      getVariable "Transfer" "s" "k" afterSetVariable.unitVariables =
        .ok ⟨some "Transfer", some "s", some "k", some "v", none⟩ ∧
      ∃ db', (⟨.transfer, "s", "t", "p"⟩ : PackageAttrs).setVariable "k" (some "w") none
          afterSetVariable = .ok db' ∧ DbReachable sampleSettings (fun _ => none) db' ∧
        (∃ row, getVariable "Transfer" "s" "k" db'.unitVariables = .ok row ∧
          row.variablevalue = some "w" ∧ row.microservicechainlink = none) ∧
        ∀ k ≠ varKey "Transfer" "s" "k",
          db'.unitVariables.filter (·.key = k) = afterSetVariable.unitVariables.filter (·.key = k) :=
  have hr : DbReachable sampleSettings (fun _ => none) afterSetVariable :=
    Relation.ReflTransGen.single (DbStep.call (.setVariable ⟨.transfer, "s", "t", "p"⟩ "k" (some "v") none)
      trivial)
  ⟨DbReachable.setVariable_getVariable .refl ⟨.transfer, "s", "t", "p"⟩ "k" (some "v") none, hr, rfl,
    DbReachable.setVariable_getVariable hr ⟨.transfer, "s", "t", "p"⟩ "k" (some "w") none⟩

/-- At the transfer stage of a package whose SIP and transfer keys differ, as those of
    `create_package` do, `context` does not see what `set_variable` stores: `set_variable`
    writes under the SIP's key (`self.uuid`), `context` reads the transfer's (`self.subid`). -/
theorem PackageAttrs.context_setVariable_of_transfer {K V : Type} [DecidableEq K]
    (literalEval : String → Except PyExc (Literal K V)) {pkg : PackageAttrs}
    (hstage : pkg.stage = .transfer) (hne : pkg.sipPk ≠ pkg.transferPk) {key : String}
    {value chainLinkId : Option String} {db' : Db}
    (h : pkg.setVariable key value chainLinkId db = .ok db') :
    pkg.context literalEval db' = pkg.context literalEval db := by
  obtain ⟨rows, hu, rfl⟩ := PackageAttrs.setVariable_eq_ok h
  have hsub : pkg.subid = pkg.transferPk := by simp [PackageAttrs.subid, hstage]
  have hp : ∀ r : UnitVariableRow,
      decide (r.unituuid = some pkg.subid ∧ r.variable_ = some "replacementDict") = true →
        r.key ≠ varKey pkg.unitVariableType pkg.uuid key := by
    intro r hr he
    have hu' := (of_decide_eq_true hr).1
    simp only [UnitVariableRow.key, varKey, Prod.mk.injEq] at he
    rw [he.2.1, hsub] at hu'
    exact hne (Option.some.inj hu')
  simp only [PackageAttrs.context, replacementDictValues, updateVariable_filter_of_ne hp hu]

theorem context_setVariable_of_transfer_new :
    (⟨.transfer, "s", "t", "p"⟩ : PackageAttrs).stage = .transfer ∧
      (⟨.transfer, "s", "t", "p"⟩ : PackageAttrs).sipPk ≠ (⟨.transfer, "s", "t", "p"⟩ : PackageAttrs).transferPk ∧
      (⟨.transfer, "s", "t", "p"⟩ : PackageAttrs).setVariable "replacementDict" (some "x") none Db.empty =
        .ok { Db.empty with
          unitVariables := [⟨some "Transfer", some "s", some "replacementDict", some "x", none⟩] } ∧
      (⟨.transfer, "s", "t", "p"⟩ : PackageAttrs).context (fun v => .ok (.dict [(v, v)]))
          { Db.empty with
            unitVariables := [⟨some "Transfer", some "s", some "replacementDict", some "x", none⟩] } =
        (⟨.transfer, "s", "t", "p"⟩ : PackageAttrs).context (fun v => .ok (.dict [(v, v)])) Db.empty :=
  have h : (⟨.transfer, "s", "t", "p"⟩ : PackageAttrs).setVariable "replacementDict" (some "x") none
      Db.empty = .ok { Db.empty with
        unitVariables := [⟨some "Transfer", some "s", some "replacementDict", some "x", none⟩] } := rfl
  ⟨rfl, by decide, h, PackageAttrs.context_setVariable_of_transfer _ rfl (by decide) h⟩

end Runs

end A3m.Server
