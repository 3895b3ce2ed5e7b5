/-
  A3m.Main.Tables

  The `SIPs`, `Transfers`, `UnitVariables` and `Jobs` tables of `a3m/main/models.py`, as the
  package code of `a3m/server/packages.py` reads and writes them, and the manager calls it
  makes on them. A table is its rows in the order the database returns them; a row keeps
  the columns that code uses.

  `get` raises `DoesNotExist` or `MultipleObjectsReturned` as in `Main.Models`. `create`
  inserts a row, and a primary key already taken raises `IntegrityError`. `get_or_create`
  and `update_or_create` look up with `get`: the one row found is returned (given the
  defaults and saved, for `update_or_create`), no row makes a new one from the lookups and
  the defaults, more than one raises. None of these calls runs in a transaction, so a call
  that raises keeps the writes made before it.

  The unit-variable key `(unittype, unituuid, variable)` is no constraint of the table:
  only the lookup of `update_or_create` keeps it unique. With unique keys
  `update_variable` always returns, writes its value under its key and leaves every other
  key's rows as they were (`updateVariable_spec`).

  The `SIP` model has no `transfer_id` field, which `packages.py` reads: on an instance the
  manager returns, the read raises `AttributeError` (`SipRow.transferId`).
  `create_package` sets the attribute on its own instance only, which it does not save.
-/
import A3m.Main.Models

namespace A3m.Main

open A3m.Python

/-! ## Rows -/

/-- A row of `SIPs`: the primary key `uuid` and `currentpath` (`none` for null). -/
structure SipRow where
  uuid : String
  currentpath : Option String
  deriving DecidableEq, Repr

/-- A row of `Transfers`: the primary key `uuid` and `currentlocation`. -/
structure TransferRow where
  uuid : String
  currentlocation : String
  deriving DecidableEq, Repr

/-- A row of `UnitVariables`: `unittype`, `unituuid`, `variable` (`variable_`, a keyword
    of Lean), `variablevalue` and `microservicechainlink`, all nullable. -/
structure UnitVariableRow where
  unittype : Option String
  unituuid : Option String
  variable_ : Option String
  variablevalue : Option String
  microservicechainlink : Option String
  deriving DecidableEq, Repr

/-- The lookup key of a unit variable. -/
def UnitVariableRow.key (r : UnitVariableRow) : Option String × Option String × Option String :=
  (r.unittype, r.unituuid, r.variable_)

/-- A row of `Jobs`: `jobuuid`, `jobtype`, `createdtime` and `createdtimedec` (as numbers of
    one unit), `sipuuid`, `currentstep`, `microservicegroup` and `microservicechainlink`. -/
structure JobRow where
  jobuuid : String
  jobtype : String
  createdtime : Nat
  createdtimedec : Nat
  sipuuid : String
  currentstep : Int
  microservicegroup : String
  microservicechainlink : Option String
  deriving DecidableEq, Repr

/-- The tables the package code uses. -/
structure Db where
  sips : List SipRow
  transfers : List TransferRow
  unitVariables : List UnitVariableRow
  jobs : List JobRow
  deriving DecidableEq, Repr

/-- What a database call of the package code raises: `DoesNotExist` and
    `MultipleObjectsReturned`, `IntegrityError` for a primary key already taken, a bare
    `Exception` with its message, and `PackageNotFoundError`. -/
inductive DbExc where
  | py (e : PyExc)
  | integrityError (model : String)
  | exception (msg : String)
  | packageNotFound
  deriving DecidableEq, Repr

/-- `sip.transfer_id` on a `SIP` instance the manager returned: the model has no such field,
    so the read raises `AttributeError` before any value, a key or `None`, is seen. -/
def SipRow.transferId (_ : SipRow) : Except DbExc (Option String) :=
  .error (.py (.attributeError "'SIP' object has no attribute 'transfer_id'"))

/-! ## Manager calls -/

section Queries

variable {α κ : Type} [DecidableEq κ]

/-- `Model.objects.get(...)` over the rows the lookups `p` accept. -/
def getBy (model : String) (p : α → Bool) (rows : List α) : Except DbExc α :=
  (objectsGet model (rows.filter p)).mapError .py

/-- `Model.objects.create(...)`: the row goes last, unless its primary key is taken. -/
def create (model : String) (pk : α → String) (row : α) (rows : List α) : Except DbExc (List α) :=
  if rows.any (fun r => pk r = pk row) then .error (.integrityError model) else .ok (rows ++ [row])

/-- `Model.objects.get_or_create(lookups, defaults=...)`, for lookups `key = k`: the row
    found, with `False`; with none, `new` (the lookups and the defaults) is created, with
    `True`. -/
def getOrCreate (model : String) (pk : α → String) (key : α → κ) (k : κ) (new : α)
    (rows : List α) : Except DbExc ((α × Bool) × List α) :=
  match rows.filter (key · = k) with
  | [row] => .ok ((row, false), rows)
  | [] => (create model pk new rows).map fun rows' => ((new, true), rows')
  | _ :: _ :: _ => .error (.py (.multipleObjectsReturned model))

/-- `Model.objects.update_or_create(lookups, defaults=...)` on a table whose primary key is
    a new `uuid4` of each row: the row found is given the defaults (`set`) and saved; with
    none, `new` is inserted. -/
def updateOrCreate (model : String) (key : α → κ) (k : κ) (set : α → α) (new : α)
    (rows : List α) : Except DbExc ((α × Bool) × List α) :=
  match rows.filter (key · = k) with
  | [row] => .ok ((set row, false), rows.map fun r => if key r = k then set r else r)
  | [] => .ok ((new, true), rows ++ [new])
  | _ :: _ :: _ => .error (.py (.multipleObjectsReturned model))

/-- `obj.save()` on a stored row: the row with its primary key is replaced. -/
def save (pk : α → String) (row : α) (rows : List α) : List α :=
  rows.map fun r => if pk r = pk row then row else r

/-- `save` keeps every primary key where it was. -/
theorem map_pk_save (pk : α → String) (row : α) (rows : List α) :
    (save pk row rows).map pk = rows.map pk := by
  rw [save, List.map_map]
  exact List.map_congr_left fun r _ => by
    by_cases e : pk r = pk row <;> simp [e]

theorem mem_save {pk : α → String} {row r : α} {rows : List α} (hr : r ∈ rows)
    (hk : pk r = pk row) : row ∈ save pk row rows :=
  List.mem_map.2 ⟨r, hr, if_pos hk⟩

theorem nodup_map_append_of_not_mem {β : Type} {f : α → β} {l : List α} {x : α}
    (h : (l.map f).Nodup) (hx : f x ∉ l.map f) : ((l ++ [x]).map f).Nodup := by
  rw [List.map_append, List.map_singleton, List.nodup_append_comm]
  exact h.cons hx

theorem getBy_eq_ok {model : String} {p : α → Bool} {rows : List α} {row : α} :
    getBy model p rows = .ok row ↔ rows.filter p = [row] := by
  unfold getBy
  rcases rows.filter p with _ | ⟨a, _ | ⟨b, l⟩⟩ <;>
    simp [objectsGet, Except.mapError, eq_comm]

theorem getBy_eq_doesNotExist {model : String} {p : α → Bool} {rows : List α} {e : DbExc}
    (h : getBy model p rows = .error e) :
    (rows.filter p = [] ∧ e = .py (.doesNotExist model)) ∨
      (2 ≤ (rows.filter p).length ∧ e = .py (.multipleObjectsReturned model)) := by
  unfold getBy at h
  rcases hf : rows.filter p with _ | ⟨a, _ | ⟨b, l⟩⟩ <;>
    simp [hf, objectsGet, Except.mapError] at h ⊢ <;> simp [h]

/-- A lookup that at most one row passes never raises `MultipleObjectsReturned`. -/
theorem getBy_ne_multiple {model : String} {p : α → Bool} {rows : List α}
    (h : (rows.filter p).length ≤ 1) :
    getBy model p rows ≠ .error (.py (.multipleObjectsReturned model)) := by
  intro he
  rcases getBy_eq_doesNotExist he with ⟨-, he'⟩ | ⟨hlen, -⟩
  · cases he'
  · omega

/-- A lookup no row passes raises `DoesNotExist`. -/
theorem getBy_of_filter_eq_nil {model : String} {p : α → Bool} {rows : List α}
    (h : rows.filter p = []) : getBy model p rows = .error (.py (.doesNotExist model)) := by
  simp [getBy, h, objectsGet, Except.mapError]

/-- A lookup two rows pass raises `MultipleObjectsReturned`. -/
theorem getBy_of_filter_eq_cons_cons {model : String} {p : α → Bool} {rows l : List α} {a b : α}
    (h : rows.filter p = a :: b :: l) :
    getBy model p rows = .error (.py (.multipleObjectsReturned model)) := by
  simp [getBy, h, objectsGet, Except.mapError]

/-- With unique primary keys, `get(pk=...)` on a stored row returns it. -/
theorem getBy_pk_of_mem {model : String} {pk : α → String} {rows : List α} {row : α}
    (hkeys : (rows.map pk).Nodup) (hrow : row ∈ rows) :
    getBy model (pk · = pk row) rows = .ok row := by
  rw [getBy_eq_ok]
  induction rows with
  | nil => cases hrow
  | cons r rs ih =>
    simp only [List.map_cons, List.nodup_cons, List.mem_map] at hkeys
    rcases List.mem_cons.1 hrow with rfl | hrow
    · rw [List.filter_cons_of_pos (by simp), List.filter_eq_nil_iff.2]
      exact fun r' hr' e => hkeys.1 ⟨r', hr', by simpa using e⟩
    · rw [List.filter_cons_of_neg, ih hkeys.2 hrow]
      exact fun e => hkeys.1 ⟨row, hrow, (by simpa using e : pk r = pk row).symm⟩

/-- `get(pk=...)` on a key no row has raises `DoesNotExist`. -/
theorem getBy_pk_of_not_mem {model : String} {pk : α → String} {rows : List α} {k : String}
    (hk : k ∉ rows.map pk) : getBy model (pk · = k) rows = .error (.py (.doesNotExist model)) :=
  getBy_of_filter_eq_nil (List.filter_eq_nil_iff.2 fun r hr e =>
    hk (List.mem_map.2 ⟨r, hr, by simpa using e⟩))

theorem create_eq_ok {model : String} {pk : α → String} {row : α} {rows rows' : List α}
    (h : create model pk row rows = .ok rows') :
    pk row ∉ rows.map pk ∧ rows' = rows ++ [row] := by
  unfold create at h
  split_ifs at h with hany
  cases h
  simp only [List.any_eq_true, decide_eq_true_eq, not_exists, not_and] at hany
  exact ⟨by simpa using hany, rfl⟩

theorem create_of_fresh {model : String} {pk : α → String} {row : α} {rows : List α}
    (h : pk row ∉ rows.map pk) : create model pk row rows = .ok (rows ++ [row]) := by
  rw [create, if_neg]
  simpa using fun r hr e => h (List.mem_map.2 ⟨r, hr, e⟩)

/-- What `get_or_create` leaves in the table: the same rows, with the one it found, or the
    rows and `new`, when nothing matched and the key of `new` was free. -/
theorem getOrCreate_eq_ok {model : String} {pk : α → String} {key : α → κ} {k : κ} {new : α}
    {rows rows' : List α} {row : α} {created : Bool}
    (h : getOrCreate model pk key k new rows = .ok ((row, created), rows')) :
    (rows.filter (key · = k) = [row] ∧ created = false ∧ rows' = rows) ∨
      (rows.filter (key · = k) = [] ∧ created = true ∧ row = new ∧ pk new ∉ rows.map pk ∧
        rows' = rows ++ [new]) := by
  unfold getOrCreate at h
  split at h
  · cases h
    exact .inl ⟨‹_›, rfl, rfl⟩
  · rcases hc : create model pk new rows with e | rows'' <;> rw [hc] at h <;> cases h
    exact .inr ⟨‹_›, rfl, rfl, create_eq_ok hc⟩
  · cases h

/-- `get_or_create` on a free primary key creates its row. -/
theorem getOrCreate_of_fresh {model : String} {pk : α → String} {k : String} {new : α}
    {rows : List α} (hk : pk new = k) (hfree : k ∉ rows.map pk) :
    getOrCreate model pk pk k new rows = .ok ((new, true), rows ++ [new]) := by
  have hnil : rows.filter (pk · = k) = [] :=
    List.filter_eq_nil_iff.2 fun r hr e => hfree (List.mem_map.2 ⟨r, hr, by simpa using e⟩)
  rw [getOrCreate, hnil]
  simp only [create_of_fresh (hk ▸ hfree : pk new ∉ rows.map pk)]
  rfl

/-- On a primary key already taken, `get_or_create` returns its row and writes nothing. -/
theorem getOrCreate_of_mem {model : String} {pk : α → String} {new row : α} {rows : List α}
    (hkeys : (rows.map pk).Nodup) (hrow : row ∈ rows) :
    getOrCreate model pk pk (pk row) new rows = .ok ((row, false), rows) := by
  have hone : rows.filter (pk · = pk row) = [row] :=
    getBy_eq_ok.1 (@getBy_pk_of_mem _ model _ _ _ hkeys hrow)
  rw [getOrCreate, hone]

/-- With distinct keys, at most one row has a given key. -/
theorem length_filter_key_le_one {key : α → κ} {rows : List α} (hkeys : (rows.map key).Nodup)
    (k : κ) : (rows.filter (key · = k)).length ≤ 1 := by
  have hnd : ((rows.filter (key · = k)).map key).Nodup :=
    hkeys.sublist ((List.filter_sublist rows).map key)
  have hrep : (rows.filter (key · = k)).map key = List.replicate (rows.filter (key · = k)).length k :=
    List.eq_replicate_iff.2 ⟨by simp, fun b hb => by
      obtain ⟨r, hr, rfl⟩ := List.mem_map.1 hb
      simpa using (List.mem_filter.1 hr).2⟩
  rw [hrep, List.nodup_replicate] at hnd
  exact hnd

/-- With at most one row per key, `update_or_create` returns; the row of key `k` is then
    the saved one or `new`, and the rows of every other key are as they were. -/
theorem updateOrCreate_spec {model : String} {key : α → κ} {k : κ} {set : α → α} {new : α}
    {rows : List α} (hset : ∀ r, key (set r) = key r) (hnew : key new = k)
    (hkeys : (rows.map key).Nodup) :
    ∃ row created rows', updateOrCreate model key k set new rows = .ok ((row, created), rows') ∧
      (rows'.map key).Nodup ∧ rows'.filter (key · = k) = [row] ∧ (row = new ∨ ∃ old, row = set old) ∧
      ∀ k' ≠ k, rows'.filter (key · = k') = rows.filter (key · = k') := by
  have hle := length_filter_key_le_one hkeys k
  unfold updateOrCreate
  split
  · rename_i row hrow
    let f : α → α := fun r => if key r = k then set r else r
    have hf : ∀ r, key (f r) = key r := fun r => by
      simp only [f]; split_ifs <;> simp [hset]
    have hfilter : ∀ k', (rows.map f).filter (key · = k') = (rows.filter (key · = k')).map f := by
      intro k'
      rw [List.filter_map]
      congr 1
      exact List.filter_congr fun r _ => by simp [hf]
    refine ⟨_, _, _, rfl, ?_, ?_, .inr ⟨row, rfl⟩, fun k' hk' => ?_⟩
    · rwa [List.map_map, show key ∘ f = key from funext hf]
    · have hmem : row ∈ rows.filter (key · = k) := hrow ▸ List.mem_singleton_self row
      have hk : key row = k := of_decide_eq_true (List.mem_filter.1 hmem).2
      rw [hfilter, hrow]
      simp [f, hk]
    · rw [hfilter, List.map_congr_left fun r hr => ?_, List.map_id']
      have : key r = k' := of_decide_eq_true (List.mem_filter.1 hr).2
      simp [f, this, hk']
  · rename_i hnil
    refine ⟨_, _, _, rfl, ?_, by simp [hnil, hnew], .inl rfl,
      fun k' hk' => by simp [hnew, Ne.symm hk']⟩
    rw [List.map_append, List.nodup_append]
    refine ⟨hkeys, List.nodup_singleton _, ?_⟩
    simp only [List.map_cons, List.map_nil, List.disjoint_singleton, List.mem_map, not_exists,
      not_and, hnew]
    exact fun r hr e => by
      have : r ∈ rows.filter (key · = k) := List.mem_filter.2 ⟨hr, by simpa using e⟩
      simp [hnil] at this
  · rename_i a b l hl
    rw [hl] at hle
    simp at hle

/-- A query none of whose rows has key `k` reads the same rows after `update_or_create` of
    `k`: the row it saves and the row it inserts both have key `k`. -/
theorem updateOrCreate_filter_of_ne {model : String} {key : α → κ} {k : κ} {set : α → α}
    {new : α} {rows rows' : List α} {res : α × Bool} {p : α → Bool}
    (hset : ∀ r, key (set r) = key r) (hnew : key new = k) (hp : ∀ r, p r → key r ≠ k)
    (h : updateOrCreate model key k set new rows = .ok (res, rows')) :
    rows'.filter p = rows.filter p := by
  have hoff : ∀ r, key r = k → p r = false := fun r e =>
    Bool.eq_false_iff.2 fun hr => hp r hr e
  unfold updateOrCreate at h
  split at h
  · cases h
    have hpf : ∀ r, p (if key r = k then set r else r) = p r := fun r => by
      by_cases e : key r = k
      · rw [if_pos e, hoff r e, hoff _ ((hset r).trans e)]
      · rw [if_neg e]
    rw [List.filter_map, show rows.filter (p ∘ fun r => if key r = k then set r else r) =
        rows.filter p from List.filter_congr fun r _ => hpf r,
      List.map_congr_left fun r hr => if_neg (hp r (List.mem_filter.1 hr).2), List.map_id']
  · cases h
    rw [List.filter_append, List.filter_singleton, hoff new hnew, cond_false, List.append_nil]
  · cases h

end Queries


/-! ## Unit variables -/

/-- The lookup `unittype=unit_type, unituuid=unit_uuid, variable=variable`. -/
def varKey (unitType unitUuid variable_ : String) : Option String × Option String × Option String :=
  (some unitType, some unitUuid, some variable_)

/-- `UnitVariableManager.update_variable(unit_type, unit_uuid, variable, value, link_id)`:
    `update_or_create` with the defaults `variablevalue=value` and
    `microservicechainlink=link_id`. -/
def updateVariable (unitType unitUuid variable_ : String) (value linkId : Option String)
    (rows : List UnitVariableRow) : Except DbExc (List UnitVariableRow) :=
  (updateOrCreate "UnitVariable" UnitVariableRow.key (varKey unitType unitUuid variable_)
    (fun r => { r with variablevalue := value, microservicechainlink := linkId })
    ⟨some unitType, some unitUuid, some variable_, value, linkId⟩ rows).map (·.2)

/-- `UnitVariable.objects.get(unittype=..., unituuid=..., variable=...)`. -/
def getVariable (unitType unitUuid variable_ : String) (rows : List UnitVariableRow) :
    Except DbExc UnitVariableRow :=
  getBy "UnitVariable" (UnitVariableRow.key · = varKey unitType unitUuid variable_) rows

/-- A query none of whose rows has the key of an `update_variable` reads the same rows
    after it. -/
theorem updateVariable_filter_of_ne {unitType unitUuid variable_ : String}
    {value linkId : Option String} {rows rows' : List UnitVariableRow} {p : UnitVariableRow → Bool}
    (hp : ∀ r, p r → r.key ≠ varKey unitType unitUuid variable_)
    (h : updateVariable unitType unitUuid variable_ value linkId rows = .ok rows') :
    rows'.filter p = rows.filter p := by
  unfold updateVariable at h
  rcases hu : updateOrCreate "UnitVariable" UnitVariableRow.key (varKey unitType unitUuid variable_)
      (fun r => { r with variablevalue := value, microservicechainlink := linkId })
      ⟨some unitType, some unitUuid, some variable_, value, linkId⟩ rows with _ | ⟨res, rows''⟩ <;>
    rw [hu] at h <;> cases h
  refine updateOrCreate_filter_of_ne ?_ ?_ hp hu <;> intros <;> rfl

/-- `Transfer.set_processing_configuration(processing_configuration)`. -/
def setProcessingConfiguration (uuid : String) (processingConfiguration : Option String)
    (rows : List UnitVariableRow) : Except DbExc (List UnitVariableRow) :=
  updateVariable "Transfer" uuid "processingConfiguration" processingConfiguration none rows

/-- `Transfer.processing_configuration`: the stored value, or `"default"` when there is none
    or it is empty or null (`result or "default"`). -/
def processingConfiguration (uuid : String) (rows : List UnitVariableRow) : Except DbExc String :=
  match getVariable "Transfer" uuid "processingConfiguration" rows with
  | .ok row =>
    match row.variablevalue with
    | some v => .ok (if v = "" then "default" else v)
    | none => .ok "default"
  | .error (.py (.doesNotExist "UnitVariable")) => .ok "default"
  | .error e => .error e

/-- With distinct keys, `update_variable` returns and keeps them distinct; its key then
    reads back the value and the link, and every other key reads as before. -/
theorem updateVariable_spec {unitType unitUuid variable_ : String} {value linkId : Option String}
    {rows : List UnitVariableRow} (hkeys : (rows.map UnitVariableRow.key).Nodup) :
    ∃ rows', updateVariable unitType unitUuid variable_ value linkId rows = .ok rows' ∧
      (rows'.map UnitVariableRow.key).Nodup ∧
      (∃ row, getVariable unitType unitUuid variable_ rows' = .ok row ∧
        row.variablevalue = value ∧ row.microservicechainlink = linkId) ∧
      ∀ k ≠ varKey unitType unitUuid variable_,
        rows'.filter (UnitVariableRow.key · = k) = rows.filter (UnitVariableRow.key · = k) := by
  obtain ⟨row, created, rows', h, hnd, hrow, hset, hframe⟩ :=
    @updateOrCreate_spec _ _ _ "UnitVariable" UnitVariableRow.key (varKey unitType unitUuid variable_)
      (fun r => { r with variablevalue := value, microservicechainlink := linkId })
      ⟨some unitType, some unitUuid, some variable_, value, linkId⟩ rows (fun _ => rfl) rfl hkeys
  refine ⟨rows', by simp [updateVariable, h, Except.map], hnd, ⟨row, getBy_eq_ok.2 hrow, ?_⟩, hframe⟩
  rcases hset with rfl | ⟨old, rfl⟩ <;> exact ⟨rfl, rfl⟩

/-- The processing configuration a transfer reads back is the one last set for it, or
    `"default"` for a false one, and setting it leaves every other transfer's as it was. -/
theorem processingConfiguration_setProcessingConfiguration {uuid : String} {c : Option String}
    {rows : List UnitVariableRow} (hkeys : (rows.map UnitVariableRow.key).Nodup) :
    ∃ rows', setProcessingConfiguration uuid c rows = .ok rows' ∧
      processingConfiguration uuid rows' = .ok ((c.filter (· ≠ "")).getD "default") ∧
      ∀ uuid' ≠ uuid, processingConfiguration uuid' rows' = processingConfiguration uuid' rows := by
  obtain ⟨rows', h, -, ⟨row, hrow, hval, -⟩, hframe⟩ := @updateVariable_spec "Transfer" uuid
    "processingConfiguration" c none rows hkeys
  refine ⟨rows', h, ?_, fun uuid' hne => ?_⟩
  · rw [processingConfiguration, hrow]
    dsimp only
    rw [hval]
    rcases c with _ | v
    · rfl
    · by_cases e : v = "" <;> simp [Option.filter, e]
  · have hk : varKey "Transfer" uuid' "processingConfiguration" ≠
        varKey "Transfer" uuid "processingConfiguration" := by simp [varKey, hne]
    simp only [processingConfiguration, getVariable, getBy, hframe _ hk]

/-- The stored processing configurations of two transfers, `t` and `u`. -/
def twoConfigurations : List UnitVariableRow :=
  [⟨some "Transfer", some "t", some "processingConfiguration", some "automated", none⟩,
   ⟨some "Transfer", some "u", some "processingConfiguration", some "default", none⟩]

/-- Setting a configuration on a new database, and clearing the stored one of `t`: `t` then
    reads `"default"` and `u` keeps its own. -/
theorem processingConfiguration_setProcessingConfiguration_made_and_updated :
    (([] : List UnitVariableRow).map UnitVariableRow.key).Nodup ∧
      (∃ rows', setProcessingConfiguration "t" (some "automated") [] = .ok rows' ∧
        processingConfiguration "t" rows' =
          .ok (((some "automated").filter (· ≠ "")).getD "default") ∧
        ∀ uuid' ≠ "t", processingConfiguration uuid' rows' = processingConfiguration uuid' []) ∧
      (twoConfigurations.map UnitVariableRow.key).Nodup ∧
      processingConfiguration "t" twoConfigurations = .ok "automated" ∧
      ∃ rows', setProcessingConfiguration "t" (some "") twoConfigurations = .ok rows' ∧
        processingConfiguration "t" rows' = .ok (((some "").filter (· ≠ "")).getD "default") ∧
        ∀ uuid' ≠ "t", processingConfiguration uuid' rows' =
          processingConfiguration uuid' twoConfigurations :=
  have hkeys : (twoConfigurations.map UnitVariableRow.key).Nodup := by decide
  ⟨List.nodup_nil, processingConfiguration_setProcessingConfiguration List.nodup_nil, hkeys, rfl,
    processingConfiguration_setProcessingConfiguration hkeys⟩

end A3m.Main
