/-
  A3m.Client.OnceNormalized

  `once_normalized` (`a3m/client/clientScripts/normalize.py`), the callback that records
  the output of a normalization command. It collects the transcoded files (the output
  location if it is a file, every file `os.walk` lists under it if it is a directory), and
  for each registers a new `File` through `fileOperations.addFileToSIP`, computes its size
  and checksum through `updateSizeAndChecksum`, links it to the original and records its
  format. Every one of them is registered under `opts.task_uuid`
  (`registeredUuids_onceNormalized`), so an output directory with two files registers two
  files with one UUID (`onceNormalized_reuses_task_uuid`).

  `fileOperations` and `databaseFunctions` are not among the sources: each call is recorded
  with its arguments, in order (`Effect`). `timezone.now()` and `uuid.uuid4()` are read
  from `Draws`, by the number of the call.
-/
import A3m.Client.Normalize

namespace A3m.Client

open A3m.Python A3m.Main

/-- `output_format.id` and `output_format.format.description` of the command. -/
structure OutputFormat where
  id : String
  description : String
  deriving DecidableEq, Repr

/-- What `once_normalized` reads of the `Executor`: `output_location`, `exit_code`,
    `fpcommand.id`, `fpcommand.output_format`, and `event_detail_command.std_out` (`none`
    without an event detail command). -/
structure Executor where
  outputLocation : Option String
  exitCode : Option Int
  fpcommandId : String
  outputFormat : Option OutputFormat
  eventDetailStdOut : Option String
  deriving DecidableEq, Repr

/-- The calls `once_normalized` makes, with their arguments. -/
inductive Effect where
  | printError (msg : String)
  | addFileToSIP (filePathRelativeToSIP fileUUID sipUUID taskUUID date sourceType use : String)
  | updateSizeAndChecksum (fileUUID filePath date eventIdentifierUUID : String)
  | insertIntoEvents (fileUUID eventIdentifierUUID eventType eventDateTime eventDetail
      eventOutcome eventOutcomeDetailNote : String)
  | insertIntoDerivations (sourceFileUUID derivedFileUUID relatedEventUUID : String)
  | derivation (sourceFileId derivedFileId : String)
  | fileFormatVersion (fileUuid formatVersionId : String)
  | fileId (fileId formatName : String)
  deriving DecidableEq, Repr

/-- What `timezone.now()` and `uuid.uuid4()` return, by the number of the call. -/
structure Draws where
  now : Nat → String
  uuid4 : Nat → String

/-- `insert_derivation_event(original_uuid, output_uuid, derivation_uuid,
    event_detail_output, outcome_detail_note, today)`. -/
def insertDerivationEvent (originalUuid outputUuid derivationUuid eventDetailOutput
    outcomeDetailNote today : String) : List Effect :=
  [.insertIntoEvents originalUuid derivationUuid "normalization" today eventDetailOutput ""
    outcomeDetailNote,
   .insertIntoDerivations originalUuid outputUuid derivationUuid]

/-- `transcoded_files` for an output location that is a file or a directory. -/
def transcodedFiles (root : Node) (outputLocation : String) : List String :=
  if isfile root outputLocation then [outputLocation]
  else if isdir root outputLocation then (walkFiles root outputLocation).filter (isfile root)
  else []

/-- The body of the loop for the transcoded file `ef`, the `i`-th to be registered, up to
    the check of the output format. -/
def registerTranscoded (opts : NormalizeOpts) (draws : Draws)
    (derivationEventUuid eventDetailOutput : String) (i : Nat) (ef : String) : List Effect :=
  let today := draws.now i
  let outputFileUuid := opts.taskUuid
  let pathRelativeToSip := Str.replace ef opts.sipPath "%SIPDirectory%" 1
  [.addFileToSIP pathRelativeToSip outputFileUuid opts.sipUuid opts.taskUuid today "creation"
      opts.purpose,
    .updateSizeAndChecksum outputFileUuid ef today (draws.uuid4 (i + 1))] ++
  if Str.contains opts.purpose "preservation" then
    insertDerivationEvent opts.fileUuid outputFileUuid derivationEventUuid eventDetailOutput
      pathRelativeToSip today
  else [.derivation opts.fileUuid outputFileUuid]

/-- The loop over the transcoded files from the `i`-th registration on: its calls, and the
    `exit_code` it sets when it returns on an undefined output format. -/
def onceNormalizedLoop (opts : NormalizeOpts) (ex : Executor) (draws : Draws)
    (derivationEventUuid eventDetailOutput : String) : Nat → List String → List Effect × Option Int
  | _, [] => ([], ex.exitCode)
  | i, ef :: efs =>
    if Str.contains opts.purpose "thumbnails" then
      onceNormalizedLoop opts ex draws derivationEventUuid eventDetailOutput i efs
    else
      let effects := registerTranscoded opts draws derivationEventUuid eventDetailOutput i ef
      match ex.outputFormat with
      | none => (effects ++ [.printError "Error - command output format is undefined."], some (-2))
      | some fmt =>
        let rest := onceNormalizedLoop opts ex draws derivationEventUuid eventDetailOutput (i + 1) efs
        (effects ++ [.fileFormatVersion opts.taskUuid fmt.id, .fileId opts.taskUuid fmt.description] ++
          rest.1, rest.2)

/-- `once_normalized(job, executor, opts, replacement_dict)` over the tree `root`: the calls it
    makes, and `executor.exit_code` after it. -/
def onceNormalized (root : Node) (opts : NormalizeOpts) (ex : Executor) (draws : Draws) :
    List Effect × Option Int :=
  let outputLocation := ex.outputLocation.getD ""
  let missing := !isfile root outputLocation && !isdir root outputLocation && outputLocation != ""
  let ex := if missing then { ex with exitCode := some (-2) } else ex
  let derivationEventUuid := draws.uuid4 0
  let eventDetailOutput := "ArchivematicaFPRCommandID=\"" ++ ex.fpcommandId ++ "\"" ++
    match ex.eventDetailStdOut with
    | some stdOut => "; " ++ stdOut
    | none => ""
  let result := onceNormalizedLoop opts ex draws derivationEventUuid eventDetailOutput 0
    (transcodedFiles root outputLocation)
  ((if missing then
      [.printError ("Error - output file does not exist [ " ++ outputLocation ++ " ]")]
    else []) ++ result.1, result.2)

/-- The file UUIDs passed to `addFileToSIP`, in order. -/
def registeredUuids (effects : List Effect) : List String :=
  effects.filterMap fun
    | .addFileToSIP _ fileUUID .. => some fileUUID
    | _ => none

@[simp] theorem registeredUuids_append (a b : List Effect) :
    registeredUuids (a ++ b) = registeredUuids a ++ registeredUuids b :=
  List.filterMap_append _ _ _

theorem registeredUuids_registerTranscoded (opts : NormalizeOpts) (draws : Draws)
    (derivationEventUuid eventDetailOutput : String) (i : Nat) (ef : String) :
    registeredUuids (registerTranscoded opts draws derivationEventUuid eventDetailOutput i ef) =
      [opts.taskUuid] := by
  unfold registerTranscoded
  split_ifs <;> rfl

/-- How many files the loop registers: none for thumbnails, the first only when the output
    format is undefined, and otherwise every one. -/
def registeredCount (opts : NormalizeOpts) (ex : Executor) (n : Nat) : Nat :=
  if Str.contains opts.purpose "thumbnails" then 0
  else if ex.outputFormat = none then min 1 n
  else n

theorem registeredUuids_onceNormalizedLoop (opts : NormalizeOpts) (ex : Executor) (draws : Draws)
    (derivationEventUuid eventDetailOutput : String) (i : Nat) (efs : List String) :
    registeredUuids (onceNormalizedLoop opts ex draws derivationEventUuid eventDetailOutput i efs).1 =
      List.replicate (registeredCount opts ex efs.length) opts.taskUuid := by
  induction efs generalizing i with
  | nil => simp [onceNormalizedLoop, registeredCount, registeredUuids]
  | cons ef efs ih =>
    by_cases ht : Str.contains opts.purpose "thumbnails"
    · simpa [onceNormalizedLoop, ht, registeredCount] using ih i
    · rcases hf : ex.outputFormat with _ | fmt
      · simp only [onceNormalizedLoop, ht, hf, if_false, registeredUuids_append,
          registeredUuids_registerTranscoded, registeredCount, reduceCtorEq, List.length_cons]
        rw [Nat.min_eq_left (by omega)]
        rfl
      · have ih' := ih (i + 1)
        simp only [registeredCount, ht, hf, if_false, reduceCtorEq] at ih'
        simp only [onceNormalizedLoop, ht, hf, if_false, registeredUuids_append,
          registeredUuids_registerTranscoded, registeredCount, reduceCtorEq, List.length_cons, ih',
          List.replicate_succ]
        rfl

/-- Every file `once_normalized` registers gets the task's UUID: one per transcoded file,
    none for thumbnails, and only the first when the output format is undefined. -/
theorem registeredUuids_onceNormalized (root : Node) (opts : NormalizeOpts) (ex : Executor)
    (draws : Draws) :
    registeredUuids (onceNormalized root opts ex draws).1 =
      List.replicate
        (registeredCount opts ex (transcodedFiles root (ex.outputLocation.getD "")).length)
        opts.taskUuid := by
  unfold onceNormalized
  dsimp only
  split <;> simp only [registeredUuids_append, registeredUuids_onceNormalizedLoop] <;> rfl

/-- A normalization not for thumbnails, with a defined output format, registers every
    transcoded file under the task's UUID: with two or more of them the UUIDs repeat. -/
theorem onceNormalized_reuses_task_uuid (root : Node) (opts : NormalizeOpts) (ex : Executor)
    (draws : Draws) (hpurpose : ¬ Str.contains opts.purpose "thumbnails")
    (hformat : ex.outputFormat ≠ none)
    (htwo : 2 ≤ (transcodedFiles root (ex.outputLocation.getD "")).length) :
    ¬ (registeredUuids (onceNormalized root opts ex draws).1).Nodup := by
  rw [registeredUuids_onceNormalized, registeredCount, if_neg hpurpose, if_neg hformat,
    List.nodup_replicate]
  omega

namespace OnceNormalized

/-- An output directory `/out` holding two files. -/
def tree : Node := .dir [("out", .dir [("a.tif", .file), ("b.tif", .file)])]

/-- A preservation job of the task `t`. -/
def opts : NormalizeOpts := ⟨"preservation", "o1", "/sip/objects/a.NEF", "/sip/", "s", "t"⟩

/-- A command that wrote into `/out`, with its output format. -/
def executor : Executor := ⟨some "/out", some 0, "c", some ⟨"v", "TIFF"⟩, none⟩

/-- A clock and a `uuid4` that number their calls. -/
def draws : Draws := ⟨fun i => toString i, fun i => toString i⟩

end OnceNormalized

theorem onceNormalized_reuses_task_uuid_out :
    ¬ Str.contains OnceNormalized.opts.purpose "thumbnails" ∧
    OnceNormalized.executor.outputFormat ≠ none ∧
    2 ≤ (transcodedFiles OnceNormalized.tree (OnceNormalized.executor.outputLocation.getD "")).length ∧
    ¬ (registeredUuids (onceNormalized OnceNormalized.tree OnceNormalized.opts
      OnceNormalized.executor OnceNormalized.draws).1).Nodup :=
  have h1 : ¬ Str.contains OnceNormalized.opts.purpose "thumbnails" := by decide
  have h2 : OnceNormalized.executor.outputFormat ≠ none := by decide
  have h3 : 2 ≤ (transcodedFiles OnceNormalized.tree
      (OnceNormalized.executor.outputLocation.getD "")).length := by decide
  ⟨h1, h2, h3, onceNormalized_reuses_task_uuid _ _ _ _ h1 h2 h3⟩

end A3m.Client
