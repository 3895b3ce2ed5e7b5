/-
  A3m.Client.NormalizeMain

  `main` of the normalization client script (`a3m/client/clientScripts/normalize.py`), with
  `get_default_rule`, `get_replacement_dict`, the `Executor` that runs an FPR command, and
  the status `call` sets for a job.

  `main` returns without running a command when the file is missing, lies in
  `objects/submissionDocumentation`, has another group use, or was normalized by hand. Else
  it takes the file's first rule, or the default rule of the purpose, and runs its command;
  an access or thumbnail command that fails without leaving its output file is followed by
  the default rule's command, if that is another command. So `main` runs at most two
  commands, never the same one twice, and two only for access and thumbnails
  (`normalizeMain_runs_at_most_two`). It writes to the database only through
  `once_normalized` after a command and its verification succeed, or for a file normalized
  by hand (`normalizeMain_registers_after_success`). It returns `RULE_FAILED` only after
  running a command and `NO_RULE_FOUND` only without one (`normalizeMain_code`). For a
  purpose that is none of preservation, access and thumbnail there is no replacement dict:
  `main` then runs nothing, and raises `AttributeError` once it has a rule
  (`normalizeMain_unsupported_purpose`).

  The FPR registry, `ReplacementDict` and `executeOrRun` are not among the sources: the
  registry's answers, `ReplacementDict.frommodel` and `ReplacementDict.replace` are
  parameters, and so are the exit code and standard output of each command (`Run`) and the
  file system after each normalization command. `print_output` and `print_error` of the job
  are left out.
-/
import A3m.Client.OnceNormalized
import A3m.Python.Walk
import A3m.Server.PackageContext

namespace A3m.Client

open A3m.Python A3m.Main

/-! ## The format policy registry -/

/-- `CommandScriptType`: `COMMAND` and `BASH_SCRIPT` have the replacement dict interpolated
    into their source, the other types get it as GNU-style options. -/
inductive ScriptType where
  | command
  | bashScript
  | other
  deriving DecidableEq, Repr

/-- An FPR `Command` as the normalization reads it: `id`, `description`, `script_type`,
    `output_location`, `output_format`, `verification_command` and `event_detail_command`. -/
inductive FprCommand where
  | mk (id description : String) (scriptType : ScriptType) (outputLocation : Option String)
      (outputFormat : Option OutputFormat) (verificationCommand eventDetailCommand : Option FprCommand)
  deriving Repr

namespace FprCommand

def id : FprCommand → String
  | mk id .. => id

def scriptType : FprCommand → ScriptType
  | mk _ _ scriptType .. => scriptType

def outputLocation : FprCommand → Option String
  | mk _ _ _ outputLocation .. => outputLocation

def outputFormat : FprCommand → Option OutputFormat
  | mk _ _ _ _ outputFormat .. => outputFormat

def eventDetailCommand : FprCommand → Option FprCommand
  | mk _ _ _ _ _ _ eventDetailCommand => eventDetailCommand

end FprCommand

/-- An FPR `Rule`: `id`, `enabled` and `command`. -/
structure Rule where
  id : String
  enabled : Bool
  command : FprCommand
  deriving Repr

/-- A format version of the JSON backend: `id` and `enabled`. -/
structure FormatVersion where
  id : String
  enabled : Bool
  deriving DecidableEq, Repr

/-- What the normalization reads of `FPR`: `get_file_rules(file=..., purpose=...)`, whether
    the backend is a `JSONBackend`, its `versions` in order, `replaced_versions`,
    `get_rules(version_id, purpose)`, `replaced_rules`, and the values of `RulePurpose`. -/
structure Fpr where
  getFileRules : String → String → List Rule
  jsonBackend : Bool
  versions : List FormatVersion
  replacedVersions : List String
  getRules : String → String → List Rule
  replacedRules : List String
  rulePurposes : List String

/-- `get_default_rule(purpose)`: the first enabled, unreplaced rule of `default_<purpose>` over
    the enabled, unreplaced format versions; `None` when `RulePurpose` has no such value or
    the backend is not a `JSONBackend`. -/
def getDefaultRule (fpr : Fpr) (purpose : String) : Option Rule :=
  let defaultPurpose := "default_" ++ purpose
  if defaultPurpose ∉ fpr.rulePurposes then none
  else if fpr.jsonBackend then
    let rules := fpr.versions.flatMap fun formatVersion =>
      if formatVersion.enabled ∧ formatVersion.id ∉ fpr.replacedVersions then
        fpr.getRules formatVersion.id defaultPurpose
      else []
    rules.find? fun rule => rule.enabled ∧ rule.id ∉ fpr.replacedRules
  else none

/-! ## The replacement dict and the executor -/

/-- A `ReplacementDict`, by its items in insertion order. -/
abbrev ReplacementDict := List (String × String)

/-- `get_replacement_dict(job, opts)` over `base`, what
    `ReplacementDict.frommodel(type_="file", file_=opts.file_uuid)` returns: the output
    directory, name and path of the derivative; `None` for an unsupported purpose. -/
def getReplacementDict (base : ReplacementDict) (opts : NormalizeOpts) : Option ReplacementDict :=
  let directory := dirname opts.filePath ++ "/"
  let filename := (splitext (basename opts.filePath)).1
  let naming : Option (String × String × String) :=
    if Str.contains opts.purpose "preservation" then some ("", "-" ++ opts.taskUuid, directory)
    else if Str.contains opts.purpose "access" then
      some (opts.fileUuid ++ "-", "", joinAll opts.sipPath ["DIP", "objects"] ++ "/")
    else if Str.contains opts.purpose "thumbnail" then
      some ("", opts.fileUuid, join opts.sipPath "thumbnails" ++ "/")
    else none
  naming.map fun (lead, trail, outputDir) =>
    let outputFilename := lead ++ filename ++ trail
    [("%outputDirectory%", outputDir), ("%prefix%", lead), ("%postfix%", trail),
      ("%outputFileName%", outputFilename), ("%outputFilePath%", join outputDir outputFilename)].foldl
      (fun d kv => A3m.Server.setItem d kv.1 kv.2) base

/-- The `output_location` of the executor of `command`: substituted by `replace`
    (`ReplacementDict.replace`) when it is true. -/
def outputLocationIn (replace : ReplacementDict → String → String) (d : ReplacementDict)
    (command : FprCommand) : Option String :=
  match command.outputLocation with
  | some location => if location = "" then some location else some (replace d location)
  | none => none

/-- The replacement dict after `Executor.__init__` for `command`: its executor and those of its
    verification and event detail commands, in that order, each set `%outputLocation%` to
    their substituted output location when they have one. -/
def initDict (replace : ReplacementDict → String → String) :
    FprCommand → ReplacementDict → ReplacementDict
  | .mk _ _ _ outputLocation _ verificationCommand eventDetailCommand, d =>
    let d := match outputLocation with
      | some location =>
        if location = "" then d else A3m.Server.setItem d "%outputLocation%" (replace d location)
      | none => d
    let d := match verificationCommand with
      | some command => initDict replace command d
      | none => d
    match eventDetailCommand with
    | some command => initDict replace command d
    | none => d

/-- Whether an executor of the tree `Executor.__init__` builds for `command` has a true output
    location, which it substitutes. -/
def FprCommand.substitutes : FprCommand → Bool
  | .mk _ _ _ outputLocation _ verificationCommand eventDetailCommand =>
    (outputLocation.getD "" != "") ||
      (match verificationCommand with
        | some command => command.substitutes
        | none => false) ||
      (match eventDetailCommand with
        | some command => command.substitutes
        | none => false)

/-- What `Executor(...)` and `execute()` raise for `command` when the replacement dict is
    `None`: the `replace` of the first output location, else the interpolation of a command
    or a Bash script, else `to_gnu_options`. -/
def noneDictError (command : FprCommand) : PyExc :=
  if command.substitutes then .attributeError "'NoneType' object has no attribute 'replace'"
  else match command.scriptType with
    | .command | .bashScript => .attributeError "'NoneType' object has no attribute 'replace'"
    | .other => .attributeError "'NoneType' object has no attribute 'to_gnu_options'"

/-- What `executeOrRun` gives for each FPR command: its exit code and standard output. -/
structure Run where
  exitCode : FprCommand → Int
  stdOut : FprCommand → String

/-- `execute(skip_on_success=True)` of the executor of a verification or event detail command:
    the exit code, after its own verification command when the command succeeds. -/
def FprCommand.checkedExit (run : Run) : FprCommand → Int
  | command@(.mk _ _ _ _ _ verificationCommand _) =>
    if run.exitCode command = 0 then
      match verificationCommand with
      | some verification => verification.checkedExit run
      | none => 0
    else run.exitCode command

/-- `cl.execute()` for the executor of a normalization command whose output location is
    `outputLocation`: the calls of `once_normalized`, which runs when the command and its
    verification succeed, and the exit code, which `once_normalized` may set to -2. The file
    system is `root` after the command. -/
def executeNormalization (root : Node) (opts : NormalizeOpts) (draws : Draws) (run : Run)
    (command : FprCommand) (outputLocation : Option String) : List Effect × Int :=
  let exitCode := command.checkedExit run
  if exitCode = 0 then
    let result := onceNormalized root opts
      ⟨outputLocation, some 0, command.id, command.outputFormat,
        command.eventDetailCommand.map run.stdOut⟩ draws
    (result.1, result.2.getD 0)
  else ([], exitCode)

/-! ## `main` -/

/-- The return codes of `main`: `SUCCESS`, `RULE_FAILED` and `NO_RULE_FOUND`. -/
def success : Nat := 0

def ruleFailed : Nat := 1

def noRuleFound : Nat := 2

/-- The arguments of the job: those of `NormalizeOpts`, `normalize_file_grp_use` and
    `--thumbnail_mode`. -/
structure MainOpts extends NormalizeOpts where
  normalizeFileGrpUse : String
  thumbnailMode : String

/-- A `FileFormatVersion` row: the file and its format version. -/
structure FileFormatVersionRow where
  fileUuid : String
  formatVersionId : String
  deriving DecidableEq, Repr

/-- What `main` reads besides its arguments: the `Files` and `FileFormatVersion` tables,
    `normalization.csv`, the FPR, `ReplacementDict.frommodel` and `replace`, the runs of the
    commands, the file system after the `n`-th normalization command, the draws of the `n`-th
    `once_normalized`, and `uuid4()` and `timezone.now()` for a file normalized by hand. -/
structure NormalizeEnv where
  files : List File
  formatVersions : List FileFormatVersionRow
  csv : Option CsvRead
  fpr : Fpr
  frommodel : ReplacementDict
  replace : ReplacementDict → String → String
  run : Run
  tree : Nat → Node
  draws : Nat → Draws
  manualUuid : String
  now : String

/-- `FileFormatVersion.objects.get(file_uuid=...)`, as whether the file has a format version:
    `DoesNotExist` is caught, `MultipleObjectsReturned` is not. -/
def hasFormatVersion (rows : List FileFormatVersionRow) (fileUuid : String) : Except PyExc Bool :=
  match objectsGet "FileFormatVersion" (rows.filter (·.fileUuid = fileUuid)) with
  | .ok _ => .ok true
  | .error (.doesNotExist "FileFormatVersion") => .ok false
  | .error e => .error e

/-- How `main` returns: its code, the calls it made, and the FPR commands it ran, in order. -/
structure MainResult where
  code : Nat
  effects : List Effect
  commands : List FprCommand

/-- `rule = get_default_rule(opts.purpose)`, or `NO_RULE_FOUND` when there is none. -/
def defaultRuleOrCode (fpr : Fpr) (purpose : String) : Except Nat Rule :=
  match getDefaultRule fpr purpose with
  | some rule => .ok rule
  | none => .error noRuleFound

/-- The rule `main` runs, or the code it returns without one: the file's first rule when it has
    a format version and rules, else the default rule of the purpose. -/
def selectRule (fpr : Fpr) (opts : MainOpts) (identified : Bool) : Except Nat Rule :=
  if identified then
    match fpr.getFileRules opts.fileUuid opts.purpose with
    | rule :: _ => .ok rule
    | [] =>
      if opts.purpose = "thumbnail" ∧ opts.thumbnailMode = "generate_non_default" then
        .error success
      else defaultRuleOrCode fpr opts.purpose
  else defaultRuleOrCode fpr opts.purpose

/-- The command `main` falls back to after the first one: the default rule's command, for an
    access or thumbnail command that failed without leaving its output file, when it is
    another command. -/
def fallbackCommand (env : NormalizeEnv) (opts : MainOpts) (command : FprCommand)
    (outputLocation : Option String) (exitstatus : Int) : Option FprCommand :=
  if exitstatus ≠ 0 ∧ (opts.purpose = "access" ∨ opts.purpose = "thumbnail") ∧
      outputLocation.getD "" ≠ "" ∧ isfile (env.tree 0) (outputLocation.getD "") = false then
    match getDefaultRule env.fpr opts.purpose with
    | some fallbackRule =>
      if fallbackRule.command.id ≠ command.id then some fallbackRule.command else none
    | none => none
  else none

/-- The code of an exit status: `SUCCESS` for 0, else `RULE_FAILED`. -/
def statusCode (exitstatus : Int) : Nat := if exitstatus = 0 then success else ruleFailed

/-- The part of `main` from `get_replacement_dict` on, for the rule it selected. -/
def runRule (env : NormalizeEnv) (opts : MainOpts) (rule : Rule) : Except PyExc MainResult :=
  match getReplacementDict env.frommodel opts.toNormalizeOpts with
  | none => .error (noneDictError rule.command)
  | some replacementDict =>
    let command := rule.command
    let outputLocation := outputLocationIn env.replace replacementDict command
    let first := executeNormalization (env.tree 0) opts.toNormalizeOpts (env.draws 0) env.run
      command outputLocation
    match fallbackCommand env opts command outputLocation first.2 with
    | none => .ok ⟨statusCode first.2, first.1, [command]⟩
    | some command' =>
      let replacementDict' := initDict env.replace command replacementDict
      let second := executeNormalization (env.tree 1) opts.toNormalizeOpts (env.draws 1) env.run
        command' (outputLocationIn env.replace replacementDict' command')
      .ok ⟨statusCode second.2, first.1 ++ second.1, [command, command']⟩

/-- `main(job, opts)`. Only `File.DoesNotExist` and `FileFormatVersion.DoesNotExist` are
    caught; a file normalized by hand gets a derivation event for preservation only. -/
def normalizeMain (env : NormalizeEnv) (opts : MainOpts) : Except PyExc MainResult :=
  match objectsGet "File" (env.files.filter (·.uuid = opts.fileUuid)) with
  | .error (.doesNotExist "File") => .ok ⟨noRuleFound, [], []⟩
  | .error e => .error e
  | .ok file_ =>
    if opts.normalizeFileGrpUse ≠ "submissionDocumentation" ∧
        Str.startswith file_.currentlocation "%SIPDirectory%objects/submissionDocumentation" then
      .ok ⟨success, [], []⟩
    else if file_.filegrpuse ≠ opts.normalizeFileGrpUse then .ok ⟨success, [], []⟩
    else do
      match ← checkManualNormalization opts.toNormalizeOpts env.files env.csv with
      | some manual =>
        if Str.contains opts.purpose "preservation" then
          pure ⟨success, insertDerivationEvent opts.fileUuid manual.uuid env.manualUuid
            "manual normalization" "" env.now, []⟩
        else pure ⟨success, [], []⟩
      | none =>
        let identified ← hasFormatVersion env.formatVersions opts.fileUuid
        match selectRule env.fpr opts identified with
        | .error code => pure ⟨code, [], []⟩
        | .ok rule => runRule env opts rule

/-- The status `call(jobs)` sets for a job with these arguments: `SUCCESS` when thumbnails are
    disabled, the code of `main`, or 1 when `main` raises. -/
def normalizeJobStatus (env : NormalizeEnv) (opts : MainOpts) : Nat :=
  if opts.purpose = "thumbnail" ∧ opts.thumbnailMode = "do_not_generate" then success
  else match normalizeMain env opts with
    | .ok result => result.code
    | .error _ => 1

/-! ## Sample jobs -/

namespace NormalizeMain

/-- A command that writes `a.jpg` into the output directory. -/
def cmdA : FprCommand := .mk "a" "convert" .command (some "%outputDirectory%a.jpg") none none none

/-- Another command, which writes `b.jpg`. -/
def cmdB : FprCommand := .mk "b" "default" .command (some "%outputDirectory%b.jpg") none none none

/-- A registry whose rule for every file runs `cmdA` and whose default access rule runs
    `cmdB`. -/
def fpr : Fpr :=
  ⟨fun _ _ => [⟨"ra", true, cmdA⟩], true, [⟨"v", true⟩], [], fun _ _ => [⟨"rb", true, cmdB⟩], [],
    ["default_access"]⟩

/-- The original `objects/a.NEF` of the SIP `s`, identified; `cmdA` fails, the other commands
    succeed, and no command leaves a file. -/
def env : NormalizeEnv :=
  ⟨[⟨"f", some "s", none, "%SIPDirectory%objects/a.NEF", "%SIPDirectory%objects/a.NEF", "original"⟩],
    [⟨"f", "fmt"⟩], none, fpr, [], fun _ location => location,
    ⟨fun c => if c.id = "a" then 1 else 0, fun _ => ""⟩, fun _ => .dir [],
    fun _ => ⟨fun _ => "", fun _ => ""⟩, "u", "now"⟩

/-- The access job of that file. -/
def opts : MainOpts :=
  { purpose := "access", fileUuid := "f", filePath := "/sip/objects/a.NEF", sipPath := "/sip/",
    sipUuid := "s", taskUuid := "t", normalizeFileGrpUse := "original", thumbnailMode := "generate" }

/-- A command that writes a TIFF next to the original. -/
def cmdP : FprCommand :=
  .mk "p" "to tiff" .command (some "/sip/objects/a-t.tif") (some ⟨"fmt-tif", "TIFF"⟩) none none

/-- The same file with a rule running `cmdP`, which succeeds and leaves its output. -/
def envP : NormalizeEnv :=
  { env with
    fpr := { fpr with getFileRules := fun _ _ => [⟨"rp", true, cmdP⟩] }
    run := ⟨fun _ => 0, fun _ => ""⟩
    tree := fun _ => .dir [("sip", .dir [("objects", .dir [("a-t.tif", .file)])])] }

/-- The preservation job of that file. -/
def optsP : MainOpts := { opts with purpose := "preservation" }

/-- A characterization job, a purpose `get_replacement_dict` does not know, with no rule. -/
def optsC : MainOpts := { opts with purpose := "characterization" }

end NormalizeMain

/-! ## What `main` does -/

section Main

variable {env : NormalizeEnv} {opts : MainOpts} {r : MainResult}

theorem executeNormalization_of_ne_zero {root : Node} {opts : NormalizeOpts} {draws : Draws}
    {run : Run} {command : FprCommand} {outputLocation : Option String}
    (h : command.checkedExit run ≠ 0) :
    executeNormalization root opts draws run command outputLocation = ([], command.checkedExit run) := by
  rw [executeNormalization, if_neg h]

/-- A normalization command registers files only once it and its verification succeed. -/
theorem checkedExit_of_registered {root : Node} {opts : NormalizeOpts} {draws : Draws}
    {run : Run} {command : FprCommand} {outputLocation : Option String}
    (h : registeredUuids (executeNormalization root opts draws run command outputLocation).1 ≠ []) :
    command.checkedExit run = 0 := by
  by_contra hne
  rw [executeNormalization_of_ne_zero hne] at h
  exact h rfl

theorem fallbackCommand_eq_some {command command' : FprCommand} {outputLocation : Option String}
    {exitstatus : Int} (h : fallbackCommand env opts command outputLocation exitstatus = some command') :
    (opts.purpose = "access" ∨ opts.purpose = "thumbnail") ∧ command'.id ≠ command.id ∧
      ∃ rule, getDefaultRule env.fpr opts.purpose = some rule ∧ rule.command = command' := by
  unfold fallbackCommand at h
  split_ifs at h with hc
  rcases hd : getDefaultRule env.fpr opts.purpose with _ | rule <;> rw [hd] at h
  · cases h
  · dsimp only at h
    split_ifs at h with hne
    cases h
    exact ⟨hc.2.1, hne, rule, rfl, rfl⟩

theorem statusCode_cases (exitstatus : Int) :
    statusCode exitstatus = success ∨ statusCode exitstatus = ruleFailed := by
  unfold statusCode
  split_ifs
  · exact .inl rfl
  · exact .inr rfl

theorem defaultRuleOrCode_eq_error {fpr : Fpr} {purpose : String} {code : Nat}
    (h : defaultRuleOrCode fpr purpose = .error code) : code = noRuleFound := by
  unfold defaultRuleOrCode at h
  split at h <;> cases h
  rfl

theorem selectRule_eq_error {fpr : Fpr} {identified : Bool} {code : Nat}
    (h : selectRule fpr opts identified = .error code) : code = success ∨ code = noRuleFound := by
  unfold selectRule at h
  by_cases hid : identified = true
  · rw [if_pos hid] at h
    split at h
    · cases h
    · split_ifs at h
      · cases h
        exact .inl rfl
      · exact .inr (defaultRuleOrCode_eq_error h)
  · rw [if_neg hid] at h
    exact .inr (defaultRuleOrCode_eq_error h)

/-- What `runRule` can return: the first command alone, or the first and the fallback
    command, with the calls of their executions in order. -/
theorem runRule_eq_ok {rule : Rule} (h : runRule env opts rule = .ok r) :
    ∃ d, getReplacementDict env.frommodel opts.toNormalizeOpts = some d ∧
      (r.code = success ∨ r.code = ruleFailed) ∧
      ((fallbackCommand env opts rule.command (outputLocationIn env.replace d rule.command)
            (executeNormalization (env.tree 0) opts.toNormalizeOpts (env.draws 0) env.run
              rule.command (outputLocationIn env.replace d rule.command)).2 = none ∧
          r.commands = [rule.command] ∧
          r.effects = (executeNormalization (env.tree 0) opts.toNormalizeOpts (env.draws 0) env.run
            rule.command (outputLocationIn env.replace d rule.command)).1) ∨
        ∃ command', fallbackCommand env opts rule.command (outputLocationIn env.replace d rule.command)
            (executeNormalization (env.tree 0) opts.toNormalizeOpts (env.draws 0) env.run
              rule.command (outputLocationIn env.replace d rule.command)).2 = some command' ∧
          r.commands = [rule.command, command'] ∧
          r.effects = (executeNormalization (env.tree 0) opts.toNormalizeOpts (env.draws 0) env.run
              rule.command (outputLocationIn env.replace d rule.command)).1 ++
            (executeNormalization (env.tree 1) opts.toNormalizeOpts (env.draws 1) env.run command'
              (outputLocationIn env.replace (initDict env.replace rule.command d) command')).1) := by
  unfold runRule at h
  rcases hd : getReplacementDict env.frommodel opts.toNormalizeOpts with _ | d <;> rw [hd] at h
  · cases h
  · dsimp only at h
    refine ⟨d, rfl, ?_⟩
    split at h <;> cases h
    · exact ⟨statusCode_cases _, .inl ⟨‹_›, rfl, rfl⟩⟩
    · exact ⟨statusCode_cases _, .inr ⟨_, ‹_›, rfl, rfl⟩⟩

/-- What `main` can return: without a command (its early returns, and the derivation event
    of a preservation file normalized by hand), or what `runRule` returns for a rule. -/
theorem normalizeMain_eq_ok (h : normalizeMain env opts = .ok r) :
    (r.commands = [] ∧ (r.code = success ∨ r.code = noRuleFound) ∧
      (r.effects = [] ∨ Str.contains opts.purpose "preservation" ∧
        ∃ manual : File, r.effects = insertDerivationEvent opts.fileUuid manual.uuid env.manualUuid
          "manual normalization" "" env.now)) ∨
    ∃ rule, runRule env opts rule = .ok r := by
  unfold normalizeMain at h
  split at h
  · cases h
    exact .inl ⟨rfl, .inr rfl, .inl rfl⟩
  · cases h
  · rename_i file_ _
    by_cases hdoc : opts.normalizeFileGrpUse ≠ "submissionDocumentation" ∧
        Str.startswith file_.currentlocation "%SIPDirectory%objects/submissionDocumentation"
    · rw [if_pos hdoc] at h
      cases h
      exact .inl ⟨rfl, .inl rfl, .inl rfl⟩
    rw [if_neg hdoc] at h
    by_cases hgrp : file_.filegrpuse ≠ opts.normalizeFileGrpUse
    · rw [if_pos hgrp] at h
      cases h
      exact .inl ⟨rfl, .inl rfl, .inl rfl⟩
    rw [if_neg hgrp] at h
    rcases hc : checkManualNormalization opts.toNormalizeOpts env.files env.csv with e | _ | manual <;>
      simp only [hc, bind, Except.bind] at h
    · cases h
    · rcases hi : hasFormatVersion env.formatVersions opts.fileUuid with e | identified <;>
        simp only [hi] at h
      · cases h
      · split at h
        · cases h
          exact .inl ⟨rfl, selectRule_eq_error ‹_›, .inl rfl⟩
        · exact .inr ⟨_, h⟩
    · split_ifs at h with hpres
      · cases h
        exact .inl ⟨rfl, .inl rfl, .inr ⟨hpres, manual, rfl⟩⟩
      · cases h
        exact .inl ⟨rfl, .inl rfl, .inl rfl⟩

/-- `main` runs at most two commands; two only for access or thumbnails, where the second
    is the default rule's command and not the first one again. -/
theorem normalizeMain_runs_at_most_two (h : normalizeMain env opts = .ok r) :
    r.commands.length ≤ 2 ∧ ∀ c₁ c₂, r.commands = [c₁, c₂] →
      (opts.purpose = "access" ∨ opts.purpose = "thumbnail") ∧ c₂.id ≠ c₁.id ∧
        ∃ rule, getDefaultRule env.fpr opts.purpose = some rule ∧ rule.command = c₂ := by
  rcases normalizeMain_eq_ok h with ⟨hc, -, -⟩ | ⟨rule, hr⟩
  · rw [hc]
    exact ⟨Nat.zero_le _, fun _ _ e => by cases e⟩
  · obtain ⟨d, -, -, ⟨-, hc, -⟩ | ⟨c, hf, hc, -⟩⟩ := runRule_eq_ok hr
    · rw [hc]
      exact ⟨by simp, fun _ _ e => by simp at e⟩
    · rw [hc]
      refine ⟨le_rfl, fun c₁ c₂ e => ?_⟩
      obtain ⟨rfl, rfl⟩ : rule.command = c₁ ∧ c = c₂ := by simpa using e
      exact fallbackCommand_eq_some hf

theorem normalizeMain_runs_at_most_two_fallback :
    normalizeMain NormalizeMain.env NormalizeMain.opts =
        .ok ⟨ruleFailed, [.printError "Error - output file does not exist [ %outputDirectory%b.jpg ]"],
          [NormalizeMain.cmdA, NormalizeMain.cmdB]⟩ ∧
      [NormalizeMain.cmdA, NormalizeMain.cmdB].length ≤ 2 ∧
      ∀ c₁ c₂, [NormalizeMain.cmdA, NormalizeMain.cmdB] = [c₁, c₂] →
        (NormalizeMain.opts.purpose = "access" ∨ NormalizeMain.opts.purpose = "thumbnail") ∧
          c₂.id ≠ c₁.id ∧ ∃ rule, getDefaultRule NormalizeMain.env.fpr NormalizeMain.opts.purpose =
            some rule ∧ rule.command = c₂ :=
  have h : normalizeMain NormalizeMain.env NormalizeMain.opts =
      .ok ⟨ruleFailed, [.printError "Error - output file does not exist [ %outputDirectory%b.jpg ]"],
        [NormalizeMain.cmdA, NormalizeMain.cmdB]⟩ := rfl
  ⟨h, normalizeMain_runs_at_most_two h⟩

/-- `main` registers a file (`addFileToSIP`) only after a command it ran and that command's
    verification succeeded. -/
theorem normalizeMain_registers_after_success (h : normalizeMain env opts = .ok r)
    (hreg : registeredUuids r.effects ≠ []) : ∃ c ∈ r.commands, c.checkedExit env.run = 0 := by
  rcases normalizeMain_eq_ok h with ⟨-, -, he | ⟨-, manual, he⟩⟩ | ⟨rule, hr⟩
  · exact absurd (by rw [he]; rfl) hreg
  · exact absurd (by rw [he]; rfl) hreg
  · obtain ⟨d, -, -, ⟨-, hc, he⟩ | ⟨c, -, hc, he⟩⟩ := runRule_eq_ok hr
    · rw [he] at hreg
      exact ⟨_, hc ▸ List.mem_singleton_self _, checkedExit_of_registered hreg⟩
    · rw [he, registeredUuids_append] at hreg
      rcases not_and_or.1 (mt List.append_eq_nil.2 hreg) with h1 | h2
      · exact ⟨_, by simp [hc], checkedExit_of_registered h1⟩
      · exact ⟨c, by simp [hc], checkedExit_of_registered h2⟩

theorem normalizeMain_registers_after_success_preservation :
    ∃ r, normalizeMain NormalizeMain.envP NormalizeMain.optsP = .ok r ∧
      registeredUuids r.effects ≠ [] ∧ ∃ c ∈ r.commands, c.checkedExit NormalizeMain.envP.run = 0 :=
  have ⟨r, h, hreg⟩ : ∃ r, normalizeMain NormalizeMain.envP NormalizeMain.optsP = .ok r ∧
      registeredUuids r.effects ≠ [] := ⟨_, rfl, by decide⟩
  ⟨r, h, hreg, normalizeMain_registers_after_success h hreg⟩

/-- `main` returns `NO_RULE_FOUND` only without running a command, and `RULE_FAILED` only
    after running one. -/
theorem normalizeMain_code (h : normalizeMain env opts = .ok r) :
    (r.commands = [] ∧ (r.code = success ∨ r.code = noRuleFound)) ∨
      (r.commands ≠ [] ∧ (r.code = success ∨ r.code = ruleFailed)) := by
  rcases normalizeMain_eq_ok h with ⟨hc, hcode, -⟩ | ⟨rule, hr⟩
  · exact .inl ⟨hc, hcode⟩
  · obtain ⟨d, -, hcode, ⟨-, hc, -⟩ | ⟨c, -, hc, -⟩⟩ := runRule_eq_ok hr <;>
      exact .inr ⟨by simp [hc], hcode⟩

theorem normalizeMain_code_fallback :
    normalizeMain NormalizeMain.env NormalizeMain.opts =
        .ok ⟨ruleFailed, [.printError "Error - output file does not exist [ %outputDirectory%b.jpg ]"],
          [NormalizeMain.cmdA, NormalizeMain.cmdB]⟩ ∧
      (([NormalizeMain.cmdA, NormalizeMain.cmdB] = [] ∧ (ruleFailed = success ∨ ruleFailed = noRuleFound)) ∨
        ([NormalizeMain.cmdA, NormalizeMain.cmdB] ≠ [] ∧
          (ruleFailed = success ∨ ruleFailed = ruleFailed))) :=
  have h : normalizeMain NormalizeMain.env NormalizeMain.opts =
      .ok ⟨ruleFailed, [.printError "Error - output file does not exist [ %outputDirectory%b.jpg ]"],
        [NormalizeMain.cmdA, NormalizeMain.cmdB]⟩ := rfl
  ⟨h, normalizeMain_code h⟩

theorem getReplacementDict_eq_none {base : ReplacementDict} {opts : NormalizeOpts}
    (hpres : ¬ Str.contains opts.purpose "preservation") (hacc : ¬ Str.contains opts.purpose "access")
    (hthumb : ¬ Str.contains opts.purpose "thumbnail") : getReplacementDict base opts = none := by
  simp [getReplacementDict, hpres, hacc, hthumb]

/-- For a purpose that is none of preservation, access and thumbnail, the run of a rule raises
    `AttributeError` on the `None` replacement dict. -/
theorem runRule_unsupported_purpose {rule : Rule} (hpres : ¬ Str.contains opts.purpose "preservation")
    (hacc : ¬ Str.contains opts.purpose "access") (hthumb : ¬ Str.contains opts.purpose "thumbnail") :
    runRule env opts rule = .error (noneDictError rule.command) := by
  rw [runRule, getReplacementDict_eq_none hpres hacc hthumb]

/-- For a purpose that is none of preservation, access and thumbnail, `main` never runs a
    command nor writes: it returns `SUCCESS` or `NO_RULE_FOUND` before choosing a rule, and
    raises once it has one (`runRule_unsupported_purpose`). -/
theorem normalizeMain_unsupported_purpose (hpres : ¬ Str.contains opts.purpose "preservation")
    (hacc : ¬ Str.contains opts.purpose "access") (hthumb : ¬ Str.contains opts.purpose "thumbnail")
    (h : normalizeMain env opts = .ok r) :
    r.commands = [] ∧ r.effects = [] ∧ (r.code = success ∨ r.code = noRuleFound) := by
  rcases normalizeMain_eq_ok h with ⟨hc, hcode, he | ⟨hp, -⟩⟩ | ⟨rule, hr⟩
  · exact ⟨hc, he, hcode⟩
  · exact absurd hp hpres
  · obtain ⟨d, hd, -⟩ := runRule_eq_ok hr
    rw [getReplacementDict_eq_none hpres hacc hthumb] at hd
    cases hd

theorem normalizeMain_unsupported_purpose_no_rule :
    ¬ Str.contains NormalizeMain.optsC.purpose "preservation" ∧
      ¬ Str.contains NormalizeMain.optsC.purpose "access" ∧
      ¬ Str.contains NormalizeMain.optsC.purpose "thumbnail" ∧
      normalizeMain { NormalizeMain.env with fpr := { NormalizeMain.fpr with getFileRules := fun _ _ => [] } }
        NormalizeMain.optsC = .ok ⟨noRuleFound, [], []⟩ ∧
      (([] : List FprCommand) = [] ∧ ([] : List Effect) = [] ∧
        (noRuleFound = success ∨ noRuleFound = noRuleFound)) :=
  have hpres : ¬ Str.contains NormalizeMain.optsC.purpose "preservation" := by decide
  have hacc : ¬ Str.contains NormalizeMain.optsC.purpose "access" := by decide
  have hthumb : ¬ Str.contains NormalizeMain.optsC.purpose "thumbnail" := by decide
  have h : normalizeMain { NormalizeMain.env with fpr := { NormalizeMain.fpr with getFileRules := fun _ _ => [] } }
      NormalizeMain.optsC = .ok ⟨noRuleFound, [], []⟩ := rfl
  ⟨hpres, hacc, hthumb, h, normalizeMain_unsupported_purpose hpres hacc hthumb h⟩

end Main

end A3m.Client

