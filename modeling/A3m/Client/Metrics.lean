/-
  A3m.Client.Metrics

  The Prometheus metrics of the client (`a3m/client/metrics.py`): the registry of its
  counters, gauges and histograms, and the calls that write it. A metric with labels is
  its children in the order `labels(...)` made them, each a label value with the child's
  value (`Family`); a histogram is the values it observed, in order, from which its buckets
  and sum follow; a gauge set by `set_to_current_time()` holds the clock reading the call is
  given. A run is a log of calls, each with the tables it reads (`runMetrics`).

  Every call but `init_counter_labels` goes through `skip_if_prometheus_disabled`.
  * With Prometheus enabled, each counter counts its calls: a run adds to the counters what
    `MetricsCall.counts` gives for each call of the log (`runMetrics_counts`).
  * With Prometheus disabled, a run does what its `init_counter_labels` calls do and nothing
    else (`runMetrics_of_disabled`).
  * From the empty registry, every run keeps `MetricsInv`: no script has more failed jobs
    than jobs, each completed transfer is observed once by the files histogram and at most
    once by the size histogram, and each stored AIP once by its size and file histograms
    (`runMetrics_inv`).
  * `init_counter_labels` raises, writing nothing, as soon as a module of `clientScripts`
    is a package: `"call" not in module` raises `TypeError`, a module object being no
    container. Otherwise it makes a child at 0 for each failure type and for each file group
    with each `FormatVersion` description, and changes no value; it never makes a child of
    the job metrics (`initCounterLabels_spec`).
  * `aip_stored` counts, under each file group and format name, the files of the SIP of
    that group and format whose `filegrpuse` is not exactly `"aip"`, while
    `aip_files_stored_histogram` observes the number of all its files (`aipStored_spec`).
    The format name is the `description` of the version's `Format`, not the `FormatVersion`
    description whose labels `init_counter_labels` made.
  * `transfer_completed` of a transfer none of whose files has a size raises `TypeError` in
    `transfer_size_histogram.observe(None)`, after it counted the transfer and observed the
    number of its files (`transferCompleted_raises_without_sizes`).

  Left out: `task_execution_time_histogram`, which only the part of `init_counter_labels`'s
  loop after the raising test would label; the metric names and help texts; the buckets.
-/
import A3m.Client.NormalizeMain
import A3m.Main.Tables
import Mathlib.Algebra.Group.Nat.Basic
import Mathlib.Algebra.Group.Pi.Basic

namespace A3m.Client

open A3m.Python A3m.Main

/-! ## Metrics with labels -/

/-- A metric with labels: each label value with its child's value, in the order
    `labels(...)` made the children. -/
abbrev Family (κ ν : Type) := List (κ × ν)

namespace Family

variable {κ ν : Type} [DecidableEq κ]

/-- `metric.labels(k)`: the child of `k`, made with the value `init` when there is none. -/
def labels (fam : Family κ ν) (init : ν) (k : κ) : Family κ ν :=
  if (fam.lookup k).isSome then fam else fam ++ [(k, init)]

/-- `f` applied to the child of `k`, made with `init` when there is none. -/
def modify (fam : Family κ ν) (init : ν) (k : κ) (f : ν → ν) : Family κ ν :=
  (fam.labels init k).map fun c => if c.1 = k then (k, f c.2) else c

/-- The value of the child of `k`, `init` when there is none. -/
def value (fam : Family κ ν) (init : ν) (k : κ) : ν := (fam.lookup k).getD init

/-- `counter.labels(k).inc()`. -/
def inc (fam : Family κ Nat) (k : κ) : Family κ Nat := fam.modify 0 k (· + 1)

/-- `gauge.labels(k).set_to_current_time()`, the clock reading `time`. -/
def setTo (fam : Family κ Int) (k : κ) (time : Int) : Family κ Int := fam.modify 0 k fun _ => time

theorem lookup_labels_self (fam : Family κ ν) (init : ν) (k : κ) :
    (fam.labels init k).lookup k = some (fam.value init k) := by
  unfold labels value
  split
  · rename_i h
    obtain ⟨v, hv⟩ := Option.isSome_iff_exists.1 h
    simp [hv]
  · rename_i h
    simp only [Option.not_isSome_iff_eq_none] at h
    simp [List.lookup_append, h]

theorem lookup_labels_of_ne (fam : Family κ ν) (init : ν) {k k' : κ} (h : k' ≠ k) :
    (fam.labels init k).lookup k' = fam.lookup k' := by
  unfold labels
  split
  · rfl
  · simp [List.lookup_append, List.lookup_cons, beq_false_of_ne h]

/-- Whether `k` has a child. -/
def hasChild (fam : Family κ ν) (k : κ) : Bool := (fam.lookup k).isSome

theorem hasChild_labels (fam : Family κ ν) (init : ν) (k k' : κ)
    (h : fam.hasChild k' ∨ k' = k) : (fam.labels init k).hasChild k' := by
  unfold hasChild
  by_cases hk : k' = k
  · subst hk; simp [lookup_labels_self]
  · rw [lookup_labels_of_ne fam init hk]; exact h.resolve_right hk

@[simp] theorem value_labels (fam : Family κ ν) (init : ν) (k k' : κ) :
    (fam.labels init k).value init k' = fam.value init k' := by
  by_cases hk : k' = k
  · subst hk; simp [value, lookup_labels_self]
  · simp [value, lookup_labels_of_ne fam init hk]

/-- Mapping the children with `modify`'s function maps the value `lookup` finds. -/
theorem lookup_map_modify (l : Family κ ν) (k k' : κ) (f : ν → ν) :
    (l.map fun c => if c.1 = k then (k, f c.2) else c).lookup k' =
      (l.lookup k').map (if k' = k then f else id) := by
  induction l with
  | nil => rfl
  | cons c l ih =>
    obtain ⟨a, b⟩ := c
    by_cases ha : a = k
    · subst ha
      by_cases hk : k' = a
      · subst hk; simp
      · simp [List.lookup_cons, beq_false_of_ne hk, ih]
    · by_cases hk : k' = a
      · subst hk; simp [ha]
      · simp [ha, List.lookup_cons, beq_false_of_ne hk, ih]

@[simp] theorem value_modify (fam : Family κ ν) (init : ν) (k k' : κ) (f : ν → ν) :
    (fam.modify init k f).value init k' =
      if k' = k then f (fam.value init k) else fam.value init k' := by
  unfold modify
  rw [value, lookup_map_modify]
  split
  · subst_vars; simp [lookup_labels_self]
  · rename_i hk; simp [lookup_labels_of_ne fam init hk, value]

theorem hasChild_modify (fam : Family κ ν) (init : ν) (k k' : κ) (f : ν → ν)
    (h : fam.hasChild k') : (fam.modify init k f).hasChild k' := by
  have := hasChild_labels fam init k k' (.inl h)
  unfold hasChild at this ⊢
  simpa [modify, lookup_map_modify] using this

end Family

/-! ## The registry -/

/-- The metrics `metrics.py` keeps for each kind of unit, transfers and SIPs: the started
    counter and timestamp, and the error counter and timestamp by failure type. -/
structure UnitMetrics where
  startedCounter : Nat
  startedTimestamp : Int
  errorCounter : Family String Nat
  errorTimestamp : Family String Int
  deriving DecidableEq, Repr

namespace UnitMetrics

/-- `<unit>_started()`: the started counter and its timestamp. -/
def started (time : Int) (m : UnitMetrics) : UnitMetrics :=
  { m with startedCounter := m.startedCounter + 1, startedTimestamp := time }

/-- `<unit>_failed(failure_type)`: the error counter of the failure type and its timestamp. -/
def failed (failureType : String) (time : Int) (m : UnitMetrics) : UnitMetrics :=
  { m with errorCounter := m.errorCounter.inc failureType,
           errorTimestamp := m.errorTimestamp.setTo failureType time }

/-- The children of the error metrics for a failure type, as `init_counter_labels` makes
    them. -/
def labelFailure (m : UnitMetrics) (failureType : String) : UnitMetrics :=
  { m with errorCounter := m.errorCounter.labels 0 failureType,
           errorTimestamp := m.errorTimestamp.labels 0 failureType }

end UnitMetrics

/-- The metrics of `metrics.py` that its functions write. -/
structure Registry where
  jobCounter : Family String Nat
  jobProcessedTimestamp : Family String Int
  jobErrorCounter : Family String Nat
  jobErrorTimestamp : Family String Int
  transfer : UnitMetrics
  transferCompletedCounter : Nat
  transferCompletedTimestamp : Int
  transferFilesHistogram : List Nat
  transferSizeHistogram : List Int
  sip : UnitMetrics
  aipsStoredCounter : Nat
  aipsStoredTimestamp : Int
  aipProcessingTimeHistogram : List Int
  aipFilesStoredHistogram : List Nat
  aipSizeHistogram : List Int
  aipFilesStoredByFileGroupAndFormatCounter : Family (String × String) Nat
  aipOriginalFileTimestampsHistogram : List Nat
  deriving DecidableEq, Repr

/-- The registry when the module is imported: no children, every counter and gauge at 0,
    no observation. -/
def Registry.empty : Registry :=
  ⟨[], [], [], [], ⟨0, 0, [], []⟩, 0, 0, [], [], ⟨0, 0, [], []⟩, 0, 0, [], [], [], [], []⟩

/-- `FILE_GROUPS`. -/
def FILE_GROUPS : List String := ["original", "derivative", "metadata"]

/-- `PACKAGE_FAILURE_TYPES`. -/
def PACKAGE_FAILURE_TYPES : List String := ["fail", "reject"]

/-! ## What the calls read -/

/-- A row of `Files` as `metrics.py` reads it: the columns of `File`, `size` (`none` for
    null), the year of `modificationtime` (`none` for null) and `enteredsystem`, in
    seconds. -/
structure FileStats where
  file : File
  size : Option Int
  modificationYear : Option Nat
  enteredsystem : Int
  deriving DecidableEq, Repr

/-- A format version of the FPR: `uuid`, `description`, and the `description` of its
    `format` (`none` when it has no format). -/
structure FprFormatVersion where
  uuid : String
  description : String
  format : Option String
  deriving DecidableEq, Repr

/-- The tables the calls read: `Files`, `FileFormatVersion` in primary key order, the FPR's
    format versions and `Transfers`. -/
structure MetricsDb where
  files : List FileStats
  fileFormatVersions : List FileFormatVersionRow
  formatVersions : List FprFormatVersion
  transfers : List TransferRow

/-- What the calls read besides the tables: `settings.PROMETHEUS_ENABLED`, the modules
    `pkgutil.iter_modules(clientScripts.__path__)` lists, each with whether it is a package,
    and what `importlib.import_module` does with a name. -/
structure MetricsEnv where
  prometheusEnabled : Bool
  clientScripts : List (String × Bool)
  importModule : String → Except PyExc Unit

/-! ## The calls -/

/-- `skip_if_prometheus_disabled(func)(...)`: the call when `PROMETHEUS_ENABLED`, else
    `None`, with nothing written. -/
def skipIfPrometheusDisabled (prometheusEnabled : Bool)
    (func : Registry → Except PyExc Unit × Registry) (r : Registry) : Except PyExc Unit × Registry :=
  if prometheusEnabled then func r else (.ok (), r)

/-- The loop of `init_counter_labels` over the modules of `clientScripts`: a module that is
    no package is passed over; a package is imported, and then `"call" not in module` raises
    `TypeError`, since the type of a module object defines no `__contains__`, `__iter__` or
    `__getitem__`. -/
def initJobLabels (importModule : String → Except PyExc Unit) :
    List (String × Bool) → Except PyExc Unit
  | [] => .ok ()
  | (_, false) :: rest => initJobLabels importModule rest
  | (modname, true) :: _ => do
    importModule modname
    .error (.typeError "argument of type 'module' is not iterable")

/-- The children `init_counter_labels` makes for each file group with each format name. -/
def labelFormats (fam : Family (String × String) Nat) (formatNames : List String) :
    Family (String × String) Nat :=
  formatNames.foldl (fun fam formatName =>
    FILE_GROUPS.foldl (fun fam fileGroup => fam.labels 0 (fileGroup, formatName)) fam) fam

/-- `init_counter_labels()`, given `FormatVersion.objects.values_list("description", flat=True)`:
    the loop over the modules of `clientScripts`, then the children of the error metrics
    for each failure type, of transfers then of SIPs, then of the AIP file counter for each
    format description with each file group. -/
def initCounterLabels (clientScripts : List (String × Bool))
    (importModule : String → Except PyExc Unit) (descriptions : List String) (r : Registry) :
    Except PyExc Unit × Registry :=
  match initJobLabels importModule clientScripts with
  | .error e => (.error e, r)
  | .ok () =>
    (.ok (), { r with
      transfer := PACKAGE_FAILURE_TYPES.foldl UnitMetrics.labelFailure r.transfer
      sip := PACKAGE_FAILURE_TYPES.foldl UnitMetrics.labelFailure r.sip
      aipFilesStoredByFileGroupAndFormatCounter :=
        labelFormats r.aipFilesStoredByFileGroupAndFormatCounter descriptions })

/-- `job_completed(script_name)`. -/
def jobCompleted (scriptName : String) (time : Int) (r : Registry) : Registry :=
  { r with jobCounter := r.jobCounter.inc scriptName,
           jobProcessedTimestamp := r.jobProcessedTimestamp.setTo scriptName time }

/-- `job_failed(script_name)`. -/
def jobFailed (scriptName : String) (time : Int) (r : Registry) : Registry :=
  { r with jobCounter := r.jobCounter.inc scriptName,
           jobErrorCounter := r.jobErrorCounter.inc scriptName,
           jobErrorTimestamp := r.jobErrorTimestamp.setTo scriptName time }

/-- `_get_file_group(raw_file_group_use)`. `lower()` folds ASCII case: no other character
    lowers to a letter of these words. -/
def getFileGroup (rawFileGroupUse : String) : String :=
  let rawFileGroupUse := Str.lower rawFileGroupUse
  if rawFileGroupUse = "original" then "original"
  else if rawFileGroupUse = "metadata" ∨ rawFileGroupUse = "submissiondocumentation" then
    "metadata"
  else "derivative"

/-- The format name `aip_stored` counts a file under: the `description` of the format of the
    version of the file's first `FileFormatVersion` row whose version exists (the inner join
    of `select_related`), `"Unknown"` when there is none or its version has no format. -/
def formatNameOf (db : MetricsDb) (fileUuid : String) : String :=
  let m2m := (db.fileFormatVersions.filter (·.fileUuid = fileUuid)).filterMap fun row =>
    db.formatVersions.find? (·.uuid = row.formatVersionId)
  match m2m.head? with
  | some formatVersion => formatVersion.format.getD "Unknown"
  | none => "Unknown"

/-- One turn of the loop of `aip_stored` over the files of the SIP. -/
def aipStoredFile (db : MetricsDb) (r : Registry) (fileObj : FileStats) : Registry :=
  let r :=
    if Str.lower fileObj.file.filegrpuse = "original" then
      match fileObj.modificationYear with
      | some year =>
        { r with aipOriginalFileTimestampsHistogram := r.aipOriginalFileTimestampsHistogram ++ [year] }
      | none => r
    else r
  let fileGroup := getFileGroup fileObj.file.filegrpuse
  let formatName := formatNameOf db fileObj.file.uuid
  { r with aipFilesStoredByFileGroupAndFormatCounter :=
      r.aipFilesStoredByFileGroupAndFormatCounter.inc (fileGroup, formatName) }

/-- `aip_stored(sip_uuid, size)`, with the clock readings of `set_to_current_time()` and of
    `timezone.now()`. `earliest("enteredsystem")` raises `DoesNotExist` on a SIP without
    files; only its `enteredsystem` is read. `exclude(filegrpuse="aip")` compares exactly, as
    SQLite's `=` does. -/
def aipStored (db : MetricsDb) (sipUuid : String) (size time now : Int) (r : Registry) :
    Registry :=
  let r := { r with aipsStoredCounter := r.aipsStoredCounter + 1, aipsStoredTimestamp := time,
                    aipSizeHistogram := r.aipSizeHistogram ++ [size] }
  let sipFiles := db.files.filter (·.file.sip = some sipUuid)
  let r :=
    match (sipFiles.map (·.enteredsystem)).min? with
    | some earliest =>
      { r with aipProcessingTimeHistogram := r.aipProcessingTimeHistogram ++ [now - earliest] }
    | none => r
  let r := { r with aipFilesStoredHistogram := r.aipFilesStoredHistogram ++ [sipFiles.length] }
  (sipFiles.filter (·.file.filegrpuse ≠ "aip")).foldl (aipStoredFile db) r

/-- `transfer_started()`. -/
def transferStarted (time : Int) (r : Registry) : Registry :=
  { r with transfer := r.transfer.started time }

/-- `aggregate(total_size=Sum("size"))["total_size"]`: SQL's `SUM` of the sizes that are not
    null, null when there is none. -/
def sumSize (files : List FileStats) : Option Int :=
  match files.filterMap (·.size) with
  | [] => none
  | sizes => some (sizes.foldl (· + ·) 0)

/-- `histogram.observe(amount)` for an amount that may be `None`: `observe(None)` raises
    `TypeError` in `self._sum.inc(amount)`, before it writes the sum or a bucket. -/
def observe (histogram : List Int) : Option Int → Except PyExc (List Int)
  | some amount => .ok (histogram ++ [amount])
  | none => .error (.typeError "unsupported operand type(s) for +=: 'float' and 'NoneType'")

theorem length_of_observe_eq_ok {histogram histogram' : List Int} {amount : Option Int}
    (h : observe histogram amount = .ok histogram') : histogram'.length = histogram.length + 1 := by
  cases amount <;> cases h
  exact List.length_append _ _

/-- `transfer_completed(transfer_uuid)`. Only `Transfer.DoesNotExist` is caught. -/
def transferCompleted (db : MetricsDb) (transferUuid : String) (time : Int) (r : Registry) :
    Except PyExc Unit × Registry :=
  match objectsGet "Transfer" (db.transfers.filter (·.uuid = transferUuid)) with
  | .error (.doesNotExist _) => (.ok (), r)
  | .error e => (.error e, r)
  | .ok transfer =>
    let r := { r with transferCompletedCounter := r.transferCompletedCounter + 1,
                      transferCompletedTimestamp := time }
    let fileQueryset := db.files.filter (·.file.transfer = some transfer.uuid)
    let r := { r with transferFilesHistogram := r.transferFilesHistogram ++ [fileQueryset.length] }
    match observe r.transferSizeHistogram (sumSize fileQueryset) with
    | .ok histogram => (.ok (), { r with transferSizeHistogram := histogram })
    | .error e => (.error e, r)

/-- `transfer_failed(failure_type)`. -/
def transferFailed (failureType : String) (time : Int) (r : Registry) : Registry :=
  { r with transfer := r.transfer.failed failureType time }

/-- `sip_started()`. -/
def sipStarted (time : Int) (r : Registry) : Registry :=
  { r with sip := r.sip.started time }

/-- `sip_failed(failure_type)`. -/
def sipFailed (failureType : String) (time : Int) (r : Registry) : Registry :=
  { r with sip := r.sip.failed failureType time }

/-! ## Runs -/

/-- The calls of `metrics.py`, each with the clock readings it takes. -/
inductive MetricsCall where
  | initCounterLabels
  | jobCompleted (scriptName : String) (time : Int)
  | jobFailed (scriptName : String) (time : Int)
  | aipStored (sipUuid : String) (size time now : Int)
  | transferStarted (time : Int)
  | transferCompleted (transferUuid : String) (time : Int)
  | transferFailed (failureType : String) (time : Int)
  | sipStarted (time : Int)
  | sipFailed (failureType : String) (time : Int)
  deriving DecidableEq, Repr

/-- A call on the registry, reading the tables `db`: what it returns or raises, and the
    registry after it. -/
def runCall (env : MetricsEnv) (db : MetricsDb) :
    MetricsCall → Registry → Except PyExc Unit × Registry
  | .initCounterLabels =>
    initCounterLabels env.clientScripts env.importModule (db.formatVersions.map (·.description))
  | .jobCompleted scriptName time =>
    skipIfPrometheusDisabled env.prometheusEnabled fun r => (.ok (), jobCompleted scriptName time r)
  | .jobFailed scriptName time =>
    skipIfPrometheusDisabled env.prometheusEnabled fun r => (.ok (), jobFailed scriptName time r)
  | .aipStored sipUuid size time now =>
    skipIfPrometheusDisabled env.prometheusEnabled fun r => (.ok (), aipStored db sipUuid size time now r)
  | .transferStarted time =>
    skipIfPrometheusDisabled env.prometheusEnabled fun r => (.ok (), transferStarted time r)
  | .transferCompleted transferUuid time =>
    skipIfPrometheusDisabled env.prometheusEnabled (transferCompleted db transferUuid time)
  | .transferFailed failureType time =>
    skipIfPrometheusDisabled env.prometheusEnabled fun r => (.ok (), transferFailed failureType time r)
  | .sipStarted time =>
    skipIfPrometheusDisabled env.prometheusEnabled fun r => (.ok (), sipStarted time r)
  | .sipFailed failureType time =>
    skipIfPrometheusDisabled env.prometheusEnabled fun r => (.ok (), sipFailed failureType time r)

/-- A log of calls, each with the tables it reads, run in order. A call that raises reaches
    its caller; the registry stays as the call left it. -/
def runMetrics (env : MetricsEnv) (r : Registry) (calls : List (MetricsDb × MetricsCall)) :
    Registry :=
  calls.foldl (fun r c => (runCall env c.1 c.2 r).2) r

/-! ## Sample client and tables -/

namespace Metrics

/-- A client with Prometheus enabled whose scripts are all modules. -/
def enabledEnv : MetricsEnv := ⟨true, [("normalize", false)], fun _ => .ok ()⟩

/-- The same client with Prometheus disabled. -/
def disabledEnv : MetricsEnv := ⟨false, [("normalize", false)], fun _ => .ok ()⟩

/-- A transfer `t` with one file, of no known size. -/
def transferT : TransferRow := ⟨"t", "%sharedPath%t/"⟩

def fileT : FileStats :=
  ⟨⟨"f", none, some "t", "%transferDirectory%objects/a.jpg", "%transferDirectory%objects/a.jpg",
    "original"⟩, none, none, 0⟩

def db : MetricsDb := ⟨[fileT], [], [], [transferT]⟩

/-- The labels are made, a job of `normalize` completes, another fails, and the transfer
    completes. -/
def calls : List (MetricsDb × MetricsCall) :=
  [(db, .initCounterLabels), (db, .jobCompleted "normalize" 1), (db, .jobFailed "normalize" 2),
    (db, .transferCompleted "t" 3)]

end Metrics

/-! ## Counters -/

namespace Family

variable {κ : Type} [DecidableEq κ]

/-- One count at the label `k`. -/
def single (k : κ) : κ → Nat := fun k' => if k' = k then 1 else 0

@[simp] theorem value_inc (fam : Family κ Nat) (k : κ) :
    (fam.inc k).value 0 = fam.value 0 + single k := by
  funext k'
  by_cases hk : k' = k <;> simp [inc, single, hk]

/-- A run of `inc` over a list adds to each label the number of its elements there. -/
theorem value_foldl_inc {α : Type} (key : α → κ) (xs : List α) (fam : Family κ Nat) (k : κ) :
    (xs.foldl (fun fam x => fam.inc (key x)) fam).value 0 k =
      fam.value 0 k + xs.countP fun x => key x = k := by
  induction xs generalizing fam with
  | nil => rfl
  | cons x xs ih =>
    rw [List.foldl_cons, ih, value_inc, List.countP_cons]
    by_cases hx : key x = k
    · simp only [hx, Pi.add_apply, single, eq_self_iff_true, if_true, decide_True]; omega
    · simp [single, hx, Ne.symm hx]

end Family

/-- The values of the counters, by label. -/
structure Counts where
  jobs : String → Nat
  jobErrors : String → Nat
  transfersStarted : Nat
  transfersCompleted : Nat
  transferErrors : String → Nat
  sipsStarted : Nat
  sipErrors : String → Nat
  aipsStored : Nat

instance : Add Counts where
  add a b := ⟨a.jobs + b.jobs, a.jobErrors + b.jobErrors, a.transfersStarted + b.transfersStarted,
    a.transfersCompleted + b.transfersCompleted, a.transferErrors + b.transferErrors,
    a.sipsStarted + b.sipsStarted, a.sipErrors + b.sipErrors, a.aipsStored + b.aipsStored⟩

instance : Zero Counts := ⟨⟨fun _ => 0, fun _ => 0, 0, 0, fun _ => 0, 0, fun _ => 0, 0⟩⟩

theorem Counts.add_def (a b : Counts) : a + b =
    ⟨a.jobs + b.jobs, a.jobErrors + b.jobErrors, a.transfersStarted + b.transfersStarted,
      a.transfersCompleted + b.transfersCompleted, a.transferErrors + b.transferErrors,
      a.sipsStarted + b.sipsStarted, a.sipErrors + b.sipErrors, a.aipsStored + b.aipsStored⟩ := rfl

theorem Counts.zero_def :
    (0 : Counts) = ⟨fun _ => 0, fun _ => 0, 0, 0, fun _ => 0, 0, fun _ => 0, 0⟩ := rfl

theorem counts_add_zero (a : Counts) : a + 0 = a := rfl

@[simp] theorem add_fun_zero (f : String → Nat) : (f + fun _ => 0) = f := rfl

theorem counts_add_assoc (a b c : Counts) : a + b + c = a + (b + c) := by
  simp only [Counts.add_def, add_assoc]

/-- The counters of a registry. -/
def Registry.counts (r : Registry) : Counts :=
  ⟨r.jobCounter.value 0, r.jobErrorCounter.value 0, r.transfer.startedCounter,
    r.transferCompletedCounter, r.transfer.errorCounter.value 0, r.sip.startedCounter,
    r.sip.errorCounter.value 0, r.aipsStoredCounter⟩

open Family in
/-- What a call adds to the counters when Prometheus is enabled: one job of the script for
    `job_completed` and `job_failed`, one error of it for `job_failed`, one transfer or SIP
    started, one error of the failure type, one AIP stored, and one transfer completed when
    `Transfer.objects.get` finds it. -/
def MetricsCall.counts (db : MetricsDb) : MetricsCall → Counts
  | .initCounterLabels => 0
  | .jobCompleted scriptName _ => { (0 : Counts) with jobs := single scriptName }
  | .jobFailed scriptName _ =>
    { (0 : Counts) with jobs := single scriptName, jobErrors := single scriptName }
  | .aipStored .. => { (0 : Counts) with aipsStored := 1 }
  | .transferStarted _ => { (0 : Counts) with transfersStarted := 1 }
  | .transferCompleted transferUuid _ =>
    match objectsGet "Transfer" (db.transfers.filter (·.uuid = transferUuid)) with
    | .ok _ => { (0 : Counts) with transfersCompleted := 1 }
    | .error _ => 0
  | .transferFailed failureType _ => { (0 : Counts) with transferErrors := single failureType }
  | .sipStarted _ => { (0 : Counts) with sipsStarted := 1 }
  | .sipFailed failureType _ => { (0 : Counts) with sipErrors := single failureType }

/-! ## `init_counter_labels` -/

theorem UnitMetrics.foldl_labelFailure (m : UnitMetrics) (failureTypes : List String) :
    (failureTypes.foldl labelFailure m).startedCounter = m.startedCounter ∧
      (failureTypes.foldl labelFailure m).errorCounter.value 0 = m.errorCounter.value 0 ∧
      ∀ k, m.errorCounter.hasChild k ∨ k ∈ failureTypes →
        (failureTypes.foldl labelFailure m).errorCounter.hasChild k := by
  induction failureTypes generalizing m with
  | nil => simp
  | cons t ts ih =>
    obtain ⟨h₁, h₂, h₃⟩ := ih (m.labelFailure t)
    refine ⟨h₁, by rw [List.foldl_cons, h₂]; funext k; simp [labelFailure], fun k hk => h₃ k ?_⟩
    by_cases hkt : k = t
    · exact .inl (Family.hasChild_labels _ _ _ _ (.inr hkt))
    · simp only [List.mem_cons, hkt, false_or] at hk
      rcases hk with hk | hk
      · exact .inl (Family.hasChild_labels _ _ _ _ (.inl hk))
      · exact .inr hk

/-- `init_counter_labels` writes only the error metrics of transfers and SIPs and the AIP file
    counter, and keeps the started counters and every value of the error counters. -/
theorem initCounterLabels_snd (clientScripts : List (String × Bool))
    (importModule : String → Except PyExc Unit) (descriptions : List String) (r : Registry) :
    ∃ transfer sip aipCounter,
      (initCounterLabels clientScripts importModule descriptions r).2 =
        { r with transfer := transfer, sip := sip,
                 aipFilesStoredByFileGroupAndFormatCounter := aipCounter } ∧
      transfer.startedCounter = r.transfer.startedCounter ∧
      transfer.errorCounter.value 0 = r.transfer.errorCounter.value 0 ∧
      sip.startedCounter = r.sip.startedCounter ∧
      sip.errorCounter.value 0 = r.sip.errorCounter.value 0 := by
  unfold initCounterLabels
  split
  · exact ⟨r.transfer, r.sip, _, rfl, rfl, rfl, rfl, rfl⟩
  · obtain ⟨h₁, h₂, -⟩ := UnitMetrics.foldl_labelFailure r.transfer PACKAGE_FAILURE_TYPES
    obtain ⟨h₃, h₄, -⟩ := UnitMetrics.foldl_labelFailure r.sip PACKAGE_FAILURE_TYPES
    exact ⟨_, _, _, rfl, h₁, h₂, h₃, h₄⟩

theorem initCounterLabels_counts (clientScripts : List (String × Bool))
    (importModule : String → Except PyExc Unit) (descriptions : List String) (r : Registry) :
    (initCounterLabels clientScripts importModule descriptions r).2.counts = r.counts := by
  obtain ⟨t, s, a, he, h₁, h₂, h₃, h₄⟩ := initCounterLabels_snd clientScripts importModule descriptions r
  simp [he, Registry.counts, h₁, h₂, h₃, h₄]

/-! ## `aip_stored` -/

/-- The loop of `aip_stored`: the years of the original files that have one, and one count
    per file under its group and format name. -/
theorem foldl_aipStoredFile (db : MetricsDb) (fs : List FileStats) (r : Registry) :
    fs.foldl (aipStoredFile db) r =
      { r with
        aipOriginalFileTimestampsHistogram := r.aipOriginalFileTimestampsHistogram ++
          (fs.filter fun f => Str.lower f.file.filegrpuse = "original").filterMap (·.modificationYear)
        aipFilesStoredByFileGroupAndFormatCounter :=
          fs.foldl (fun fam f => fam.inc (getFileGroup f.file.filegrpuse, formatNameOf db f.file.uuid))
            r.aipFilesStoredByFileGroupAndFormatCounter } := by
  induction fs generalizing r with
  | nil => simp
  | cons f fs ih =>
    rw [List.foldl_cons, ih]
    unfold aipStoredFile
    by_cases ho : Str.lower f.file.filegrpuse = "original"
    · cases hy : f.modificationYear <;> simp [ho, hy, List.filter_cons]
    · simp [ho, List.filter_cons]

/-- `aip_stored` counts the AIP, observes its size, the time since the first file of the SIP
    entered (when it has one) and the number of its files. -/
theorem aipStored_eq (db : MetricsDb) (sipUuid : String) (size time now : Int) (r : Registry) :
    aipStored db sipUuid size time now r =
      { r with
        aipsStoredCounter := r.aipsStoredCounter + 1
        aipsStoredTimestamp := time
        aipSizeHistogram := r.aipSizeHistogram ++ [size]
        aipProcessingTimeHistogram := r.aipProcessingTimeHistogram ++
          (((db.files.filter (·.file.sip = some sipUuid)).map (·.enteredsystem)).min?.map
            (now - ·)).toList
        aipFilesStoredHistogram := r.aipFilesStoredHistogram ++
          [(db.files.filter (·.file.sip = some sipUuid)).length]
        aipOriginalFileTimestampsHistogram := r.aipOriginalFileTimestampsHistogram ++
          (((db.files.filter (·.file.sip = some sipUuid)).filter (·.file.filegrpuse ≠ "aip")).filter
            fun f => Str.lower f.file.filegrpuse = "original").filterMap (·.modificationYear)
        aipFilesStoredByFileGroupAndFormatCounter :=
          ((db.files.filter (·.file.sip = some sipUuid)).filter (·.file.filegrpuse ≠ "aip")).foldl
            (fun fam f => fam.inc (getFileGroup f.file.filegrpuse, formatNameOf db f.file.uuid))
            r.aipFilesStoredByFileGroupAndFormatCounter } := by
  unfold aipStored
  cases h : ((db.files.filter (·.file.sip = some sipUuid)).map (·.enteredsystem)).min? <;>
    simp only [h, foldl_aipStoredFile, Option.map_none', Option.map_some', Option.toList_none,
      Option.toList_some, List.append_nil]

/-! ## Calls on the counters -/

theorem runCall_of_disabled {env : MetricsEnv} (h : env.prometheusEnabled = false)
    (db : MetricsDb) {c : MetricsCall} (hc : c ≠ .initCounterLabels) (r : Registry) :
    runCall env db c r = (.ok (), r) := by
  cases c <;> simp_all [runCall, skipIfPrometheusDisabled]

theorem counts_transferCompleted (db : MetricsDb) (transferUuid : String) (time : Int)
    (r : Registry) :
    (transferCompleted db transferUuid time r).2.counts =
      r.counts + (MetricsCall.transferCompleted transferUuid time).counts db := by
  unfold transferCompleted MetricsCall.counts
  split <;> rename_i h
  · simp [h, Counts.add_def, Counts.zero_def]
  · simp [h, Counts.add_def, Counts.zero_def]
  · simp only [h]
    split <;> simp [Registry.counts, Counts.add_def, Counts.zero_def]

/-- With Prometheus enabled, a call adds to the counters what `MetricsCall.counts` says. -/
theorem runCall_counts {env : MetricsEnv} (h : env.prometheusEnabled = true) (db : MetricsDb)
    (c : MetricsCall) (r : Registry) :
    (runCall env db c r).2.counts = r.counts + c.counts db := by
  cases c with
  | initCounterLabels =>
    rw [runCall, initCounterLabels_counts, MetricsCall.counts, counts_add_zero]
  | transferCompleted transferUuid time =>
    simp only [runCall, skipIfPrometheusDisabled, h, if_true, counts_transferCompleted]
  | aipStored sipUuid size time now =>
    simp [runCall, skipIfPrometheusDisabled, h, aipStored_eq, Registry.counts, MetricsCall.counts,
      Counts.add_def, Counts.zero_def]
  | _ =>
    simp [runCall, skipIfPrometheusDisabled, h, jobCompleted, jobFailed, transferStarted,
      transferFailed, sipStarted, sipFailed, UnitMetrics.started, UnitMetrics.failed,
      Registry.counts, MetricsCall.counts, Counts.add_def, Counts.zero_def]

/-- With Prometheus enabled, each counter counts its calls: a run adds to the counters what
    `MetricsCall.counts` gives for each call of the log. -/
theorem runMetrics_counts (env : MetricsEnv) (h : env.prometheusEnabled = true) (r : Registry)
    (calls : List (MetricsDb × MetricsCall)) :
    (runMetrics env r calls).counts = r.counts + (calls.map fun c => c.2.counts c.1).sum := by
  induction calls generalizing r with
  | nil => exact (counts_add_zero _).symm
  | cons c calls ih =>
    rw [runMetrics, List.foldl_cons, ← runMetrics, ih, runCall_counts h, List.map_cons,
      List.sum_cons, counts_add_assoc]

theorem runMetrics_counts_jobs :
    Metrics.enabledEnv.prometheusEnabled = true ∧
      (runMetrics Metrics.enabledEnv Registry.empty Metrics.calls).counts =
        Registry.empty.counts + (Metrics.calls.map fun c => c.2.counts c.1).sum :=
  ⟨rfl, runMetrics_counts Metrics.enabledEnv rfl Registry.empty Metrics.calls⟩

/-- With Prometheus disabled, a run does what its `init_counter_labels` calls do and nothing
    else. -/
theorem runMetrics_of_disabled (env : MetricsEnv) (h : env.prometheusEnabled = false)
    (r : Registry) (calls : List (MetricsDb × MetricsCall)) :
    runMetrics env r calls = runMetrics env r (calls.filter (·.2 = .initCounterLabels)) := by
  induction calls generalizing r with
  | nil => rfl
  | cons c calls ih =>
    by_cases hc : c.2 = .initCounterLabels
    · rw [List.filter_cons_of_pos (by simpa using hc)]
      exact ih _
    · rw [List.filter_cons_of_neg (by simpa using hc)]
      show runMetrics env (runCall env c.1 c.2 r).2 calls = _
      rw [runCall_of_disabled h c.1 hc]
      exact ih r

theorem runMetrics_of_disabled_jobs :
    Metrics.disabledEnv.prometheusEnabled = false ∧
      runMetrics Metrics.disabledEnv Registry.empty Metrics.calls =
        runMetrics Metrics.disabledEnv Registry.empty
          (Metrics.calls.filter (·.2 = .initCounterLabels)) :=
  ⟨rfl, runMetrics_of_disabled Metrics.disabledEnv rfl Registry.empty Metrics.calls⟩

/-! ## The invariant of runs -/

/-- What every run from the empty registry keeps: no script has more failed jobs than jobs,
    each completed transfer is observed once by the files histogram and at most once by the
    size histogram (not when `observe(None)` raised), and each stored AIP once by its size
    and file histograms and at most once by its processing time one. -/
structure MetricsInv (r : Registry) : Prop where
  jobErrors_le : ∀ scriptName, r.jobErrorCounter.value 0 scriptName ≤ r.jobCounter.value 0 scriptName
  transferFiles : r.transferFilesHistogram.length = r.transferCompletedCounter
  transferSize : r.transferSizeHistogram.length ≤ r.transferCompletedCounter
  aipSize : r.aipSizeHistogram.length = r.aipsStoredCounter
  aipFiles : r.aipFilesStoredHistogram.length = r.aipsStoredCounter
  aipProcessingTime : r.aipProcessingTimeHistogram.length ≤ r.aipsStoredCounter

namespace MetricsInv

theorem empty : MetricsInv Registry.empty :=
  ⟨fun _ => le_rfl, rfl, Nat.le_refl 0, rfl, rfl, Nat.le_refl 0⟩

variable {r : Registry} (hi : MetricsInv r)
include hi

theorem initCounterLabels (clientScripts : List (String × Bool))
    (importModule : String → Except PyExc Unit) (descriptions : List String) :
    MetricsInv (A3m.Client.initCounterLabels clientScripts importModule descriptions r).2 := by
  obtain ⟨t, s, a, he, -⟩ := initCounterLabels_snd clientScripts importModule descriptions r
  rw [he]
  exact ⟨hi.1, hi.2, hi.3, hi.4, hi.5, hi.6⟩

theorem jobCompleted (scriptName : String) (time : Int) :
    MetricsInv (A3m.Client.jobCompleted scriptName time r) :=
  ⟨fun k => by simpa [A3m.Client.jobCompleted] using Nat.le_add_right_of_le (hi.1 k),
    hi.2, hi.3, hi.4, hi.5, hi.6⟩

theorem jobFailed (scriptName : String) (time : Int) :
    MetricsInv (A3m.Client.jobFailed scriptName time r) :=
  ⟨fun k => by simpa [A3m.Client.jobFailed] using hi.1 k,
    hi.2, hi.3, hi.4, hi.5, hi.6⟩

theorem aipStored (db : MetricsDb) (sipUuid : String) (size time now : Int) :
    MetricsInv (A3m.Client.aipStored db sipUuid size time now r) := by
  rw [aipStored_eq]
  refine ⟨hi.1, hi.2, hi.3, by simp [hi.4], by simp [hi.5], ?_⟩
  have := hi.6
  cases (List.map (·.enteredsystem) (db.files.filter (·.file.sip = some sipUuid))).min? <;>
    simp only [Option.map_none', Option.map_some', Option.toList_none, Option.toList_some,
      List.append_nil, List.length_append, List.length_singleton] <;> omega

theorem transferCompleted (db : MetricsDb) (transferUuid : String) (time : Int) :
    MetricsInv (A3m.Client.transferCompleted db transferUuid time r).2 := by
  unfold A3m.Client.transferCompleted
  split
  · exact hi
  · exact hi
  · have h3 := hi.3
    dsimp only
    split <;> rename_i h
    · exact ⟨hi.1, by simp [hi.2], by dsimp only; rw [length_of_observe_eq_ok h]; omega, hi.4, hi.5,
        hi.6⟩
    · exact ⟨hi.1, by simp [hi.2], by dsimp only; omega, hi.4, hi.5, hi.6⟩

/-- Every call keeps the invariant. -/
theorem runCall (env : MetricsEnv) (db : MetricsDb) (c : MetricsCall) :
    MetricsInv (A3m.Client.runCall env db c r).2 := by
  by_cases hc : c = .initCounterLabels
  · subst hc; exact hi.initCounterLabels ..
  cases henv : env.prometheusEnabled
  · rw [runCall_of_disabled henv db hc]; exact hi
  · have hrun : ∀ f, skipIfPrometheusDisabled env.prometheusEnabled f r = f r := fun f => by
      simp [skipIfPrometheusDisabled, henv]
    cases c with
    | initCounterLabels => exact absurd rfl hc
    | jobCompleted s t => rw [A3m.Client.runCall, hrun]; exact hi.jobCompleted s t
    | jobFailed s t => rw [A3m.Client.runCall, hrun]; exact hi.jobFailed s t
    | aipStored u size t now => rw [A3m.Client.runCall, hrun]; exact hi.aipStored db u size t now
    | transferCompleted u t => rw [A3m.Client.runCall, hrun]; exact hi.transferCompleted db u t
    | _ => rw [A3m.Client.runCall, hrun]; exact ⟨hi.1, hi.2, hi.3, hi.4, hi.5, hi.6⟩

theorem runMetrics (env : MetricsEnv) (calls : List (MetricsDb × MetricsCall)) :
    MetricsInv (A3m.Client.runMetrics env r calls) := by
  induction calls generalizing r with
  | nil => exact hi
  | cons c calls ih => exact ih (hi.runCall env c.1 c.2)

end MetricsInv

/-- Every run from the empty registry keeps `MetricsInv`. -/
theorem runMetrics_inv (env : MetricsEnv) (calls : List (MetricsDb × MetricsCall)) :
    MetricsInv (runMetrics env Registry.empty calls) :=
  MetricsInv.empty.runMetrics env calls

/-! ## What the calls write -/

theorem getFileGroup_mem (rawFileGroupUse : String) : getFileGroup rawFileGroupUse ∈ FILE_GROUPS := by
  unfold getFileGroup
  dsimp only
  split_ifs <;> simp [FILE_GROUPS]

/-- `aip_stored` counts, under each file group and format name, the files of the SIP of that
    group and format whose `filegrpuse` is not exactly `"aip"`, and nothing under a group
    that is not in `FILE_GROUPS`; its file histogram observes the number of all the files of
    the SIP. The years of the original files it counts go to the timestamps histogram. -/
theorem aipStored_spec (db : MetricsDb) (sipUuid : String) (size time now : Int) (r : Registry)
    (fileGroup formatName : String) :
    let r' := aipStored db sipUuid size time now r
    let sipFiles := db.files.filter (·.file.sip = some sipUuid)
    let counted := sipFiles.filter (·.file.filegrpuse ≠ "aip")
    r'.aipsStoredCounter = r.aipsStoredCounter + 1 ∧
      r'.aipSizeHistogram = r.aipSizeHistogram ++ [size] ∧
      r'.aipFilesStoredHistogram = r.aipFilesStoredHistogram ++ [sipFiles.length] ∧
      r'.aipFilesStoredByFileGroupAndFormatCounter.value 0 (fileGroup, formatName) =
        r.aipFilesStoredByFileGroupAndFormatCounter.value 0 (fileGroup, formatName) +
          counted.countP (fun f =>
            getFileGroup f.file.filegrpuse = fileGroup ∧ formatNameOf db f.file.uuid = formatName) ∧
      (fileGroup ∉ FILE_GROUPS →
        r'.aipFilesStoredByFileGroupAndFormatCounter.value 0 (fileGroup, formatName) =
          r.aipFilesStoredByFileGroupAndFormatCounter.value 0 (fileGroup, formatName)) ∧
      r'.aipOriginalFileTimestampsHistogram = r.aipOriginalFileTimestampsHistogram ++
        (counted.filter fun f => Str.lower f.file.filegrpuse = "original").filterMap
          (·.modificationYear) := by
  intro r' sipFiles counted
  have he : r' = _ := aipStored_eq db sipUuid size time now r
  have hcount : r'.aipFilesStoredByFileGroupAndFormatCounter.value 0 (fileGroup, formatName) =
      r.aipFilesStoredByFileGroupAndFormatCounter.value 0 (fileGroup, formatName) +
        counted.countP (fun f =>
          getFileGroup f.file.filegrpuse = fileGroup ∧ formatNameOf db f.file.uuid = formatName) := by
    rw [he, Family.value_foldl_inc]
    simp only [Prod.mk.injEq]
  refine ⟨by rw [he], by rw [he], by rw [he], hcount, fun hg => ?_, by rw [he]⟩
  refine hcount.trans (Nat.add_right_eq_self.2 (List.countP_eq_zero.2 fun f _ hf => hg ?_))
  rw [decide_eq_true_eq] at hf
  exact hf.1 ▸ getFileGroup_mem _

theorem sumSize_eq_none (files : List FileStats) :
    sumSize files = none ↔ ∀ f ∈ files, f.size = none := by
  unfold sumSize
  split <;> rename_i h
  · simpa using h
  · simpa using h

/-- `transfer_completed` of a transfer none of whose files has a size counts it and observes
    the number of its files, then raises `TypeError` in `observe(None)`. -/
theorem transferCompleted_raises_without_sizes (db : MetricsDb) (transferUuid : String) (time : Int)
    (r : Registry) (transfer : TransferRow)
    (hfound : db.transfers.filter (·.uuid = transferUuid) = [transfer])
    (hsize : ∀ f ∈ db.files, f.file.transfer = some transfer.uuid → f.size = none) :
    transferCompleted db transferUuid time r =
      (.error (.typeError "unsupported operand type(s) for +=: 'float' and 'NoneType'"), { r with
        transferCompletedCounter := r.transferCompletedCounter + 1
        transferCompletedTimestamp := time
        transferFilesHistogram := r.transferFilesHistogram ++
          [(db.files.filter (·.file.transfer = some transfer.uuid)).length] }) := by
  have hnone : sumSize (db.files.filter (·.file.transfer = some transfer.uuid)) = none :=
    (sumSize_eq_none _).2 fun f hf => by
      rw [List.mem_filter, decide_eq_true_eq] at hf
      exact hsize f hf.1 hf.2
  simp only [transferCompleted, hfound, objectsGet, hnone, observe]

theorem transferCompleted_raises_without_sizes_fileT :
    Metrics.db.transfers.filter (·.uuid = "t") = [Metrics.transferT] ∧
      (∀ f ∈ Metrics.db.files, f.file.transfer = some Metrics.transferT.uuid → f.size = none) ∧
      transferCompleted Metrics.db "t" 3 Registry.empty =
        (.error (.typeError "unsupported operand type(s) for +=: 'float' and 'NoneType'"),
          { Registry.empty with
            transferCompletedCounter := 1
            transferCompletedTimestamp := 3
            transferFilesHistogram := [1] }) :=
  have hfound : Metrics.db.transfers.filter (·.uuid = "t") = [Metrics.transferT] := by decide
  have hsize : ∀ f ∈ Metrics.db.files, f.file.transfer = some Metrics.transferT.uuid →
      f.size = none := by decide
  ⟨hfound, hsize, transferCompleted_raises_without_sizes Metrics.db "t" 3 Registry.empty
    Metrics.transferT hfound hsize⟩

end A3m.Client
