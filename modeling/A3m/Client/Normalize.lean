/-
  A3m.Client.Normalize

  Two steps of the normalization client script (`a3m/client/clientScripts/normalize.py`).

  `check_manual_normalization` looks for a file the user normalized by hand. It first scans
  `normalization.csv` for the row of the file's original name; without such a row it looks
  up the `File` rows whose `currentlocation` starts with the file's path, extension removed,
  under `manualNormalization/<purpose>/` (up to ASCII case, as SQLite's `LIKE` compares),
  and takes the first of them in `sorted` order. The scan unpacks every row it reaches into
  three fields and catches only `csv.Error` (`csvScan_malformed`); the lookup is a prefix
  match, so it can return the derivative of another original whose name starts with this
  one's (`manualNormalizationLookup_spec`).

  `once_normalized` registers the files a normalization command wrote, one `addFileToSIP`
  and one `updateSizeAndChecksum` each, all under the task's UUID
  (`registeredUuids_onceNormalized`). `fileOperations` and `databaseFunctions` are not among
  the sources: their calls are recorded with their arguments, in order.
-/
import A3m.Main.Models
import A3m.Python.Os

namespace A3m.Client

open A3m.Python A3m.Main

/-- The arguments of the job that these steps read. -/
structure NormalizeOpts where
  purpose : String
  fileUuid : String
  filePath : String
  sipPath : String
  sipUuid : String
  taskUuid : String
  deriving DecidableEq, Repr

/-! ## `check_manual_normalization`: the CSV scan -/

/-- What `csv.reader` yields over `normalization.csv`: its rows, then whether it raises
    `csv.Error` instead of ending. -/
structure CsvRead where
  rows : List (List String)
  raisesError : Bool
  deriving DecidableEq, Repr

/-- How the CSV loop ends when it does not raise: on the row of the original, at its end,
    or in the `csv.Error` handler. -/
inductive CsvScan where
  | found (access preservation : String)
  | notFound
  | csvError
  deriving DecidableEq, Repr

/-- The `ValueError` of `original, access_file, preservation_file = row` on a row of `n`
    fields. -/
def unpackError (n : Nat) : PyExc :=
  if n < 3 then .valueError ("not enough values to unpack (expected 3, got " ++ toString n ++ ")")
  else .valueError "too many values to unpack (expected 3)"

/-- The loop over the rows: empty rows and rows whose first field holds `#` are skipped,
    every other row is unpacked into `original, access_file, preservation_file` and its
    `original` compared with `bname`. -/
def csvScan (bname : String) (raisesError : Bool) : List (List String) → Except PyExc CsvScan
  | [] => .ok (if raisesError then .csvError else .notFound)
  | [] :: rows => csvScan bname raisesError rows
  | (original :: fields) :: rows =>
    if Str.contains original "#" then csvScan bname raisesError rows
    else
      match fields with
      | [access, preservation] =>
        if original = bname then .ok (.found access preservation)
        else csvScan bname raisesError rows
      | _ => .error (unpackError (fields.length + 1))

/-- A row the loop goes past: empty, a comment, or the entry of another original. -/
def csvRowPassed (bname : String) : List String → Bool
  | [] => true
  | original :: fields =>
    decide (Str.contains original "#") || (fields.length == 2 && original != bname)

section CsvScan

variable {bname : String} {raisesError : Bool}

theorem csvScan_passed {row : List String} (h : csvRowPassed bname row) (rows : List (List String)) :
    csvScan bname raisesError (row :: rows) = csvScan bname raisesError rows := by
  match row, h with
  | [], _ => rfl
  | original :: fields, h =>
    by_cases hc : Str.contains original "#"
    · simp only [csvScan, hc, if_true]
    · simp only [csvRowPassed, hc, decide_False, Bool.false_or, Bool.and_eq_true, beq_iff_eq,
        bne_iff_ne] at h
      obtain ⟨a, b, rfl⟩ := List.length_eq_two.1 h.1
      simp [csvScan, hc, h.2]

/-- The only exception of the loop is the unpacking of a row of other than three fields. -/
theorem csvScan_error {rows : List (List String)} {e : PyExc}
    (h : csvScan bname raisesError rows = .error e) : ∃ n, n ≠ 3 ∧ e = unpackError n := by
  induction rows with
  | nil => cases raisesError <;> cases h
  | cons row rows ih =>
    match row, h with
    | [], h => exact ih h
    | original :: fields, h =>
      by_cases hc : Str.contains original "#"
      · simp only [csvScan, hc, if_true] at h
        exact ih h
      · match fields, h with
        | [access, preservation], h =>
          by_cases hb : original = bname
          · subst hb
            simp [csvScan, hc] at h
          · simp only [csvScan, hc, hb, if_false] at h
            exact ih h
        | [], h | [_], h | _ :: _ :: _ :: _, h =>
          simp only [csvScan, hc, if_false] at h
          exact ⟨_, by simp only [List.length_cons, List.length_nil]; omega,
            (Except.error.inj h).symm⟩

/-- A malformed row that the loop reaches makes it raise: every row before it is passed,
    and it is not empty, not a comment, and not of three fields. -/
theorem csvScan_malformed {pre post : List (List String)} {original : String}
    {fields : List String} (hpre : ∀ r ∈ pre, csvRowPassed bname r)
    (hcomment : ¬ Str.contains original "#") (hlen : fields.length ≠ 2) :
    csvScan bname raisesError (pre ++ (original :: fields) :: post) =
      .error (unpackError (fields.length + 1)) := by
  induction pre with
  | nil =>
    simp only [List.nil_append, csvScan, hcomment, if_false]
    split
    · simp at hlen
    · rfl
  | cons r pre ih =>
    rw [List.cons_append, csvScan_passed (hpre r (List.mem_cons_self _ _)),
      ih fun r' h => hpre r' (List.mem_cons_of_mem _ h)]

end CsvScan

/-! ## `check_manual_normalization`: the path lookup -/

/-- The path the lookup matches against: the file's path with the SIP path replaced by
    `%SIPDirectory%` and its extension removed, moved under
    `objects/manualNormalization/<purpose>/`; `none` for a purpose that is neither. -/
def manualNormalizationPath (opts : NormalizeOpts) : Option String :=
  let path := (splitext (Str.replace opts.filePath opts.sipPath "%SIPDirectory%" 1)).1
  if Str.contains opts.purpose "preservation" then
    some (Str.replace path "%SIPDirectory%objects/"
      "%SIPDirectory%objects/manualNormalization/preservation/" (-1))
  else if Str.contains opts.purpose "access" then
    some (Str.replace path "%SIPDirectory%objects/"
      "%SIPDirectory%objects/manualNormalization/access/" (-1))
  else none

/-- The rows of the SIP whose `currentlocation` starts with `path`, up to ASCII case
    (`currentlocation__startswith`). -/
def manualNormalizationMatches (opts : NormalizeOpts) (files : List File) (path : String) :
    List File :=
  files.filter fun f => f.sip = some opts.sipUuid && startswith f.currentlocation path

/-- The path-based lookup: no match is `None`, one match is returned, and of several the
    first in `sorted` order by `currentlocation`. -/
def manualNormalizationLookup (opts : NormalizeOpts) (files : List File) : Option File :=
  match manualNormalizationPath opts with
  | none => none
  | some path =>
    match manualNormalizationMatches opts files path with
    | [] => none
    | [f] => some f
    | candidates => (sortByLocation candidates).head?

/-- `check_manual_normalization(job, opts)` over the `Files` table, with `csv` the reading of
    `normalization.csv` (`none` when it is not a file). -/
def checkManualNormalization (opts : NormalizeOpts) (files : List File) (csv : Option CsvRead) :
    Except PyExc (Option File) := do
  let file_ ← objectsGet "File" (files.filter fun f => f.uuid = opts.fileUuid)
  let bname := Str.replace (Str.replace file_.originallocation "%transferDirectory%objects/" "" 1)
    "%SIPDirectory%objects/" "" 1
  let scan ← match csv with
    | none => pure CsvScan.notFound
    | some r => csvScan bname r.raisesError r.rows
  match scan with
  | .csvError => pure none
  | .found access preservation =>
    if Str.contains opts.purpose "preservation" ∧ preservation = "" then pure none
    else if Str.contains opts.purpose "access" ∧ access = "" then pure none
    else if Str.contains opts.purpose "preservation" then
      some <$> objectsGet "File" (files.filter fun f =>
        f.sip = some opts.sipUuid && iendswith f.originallocation preservation)
    else if Str.contains opts.purpose "access" then
      some <$> objectsGet "File" (files.filter fun f =>
        f.sip = some opts.sipUuid && iendswith f.originallocation access)
    else pure none
  | .notFound => pure (manualNormalizationLookup opts files)

theorem manualNormalizationMatches_mem {opts : NormalizeOpts} {files : List File} {path : String}
    {f : File} : f ∈ manualNormalizationMatches opts files path ↔
      f ∈ files ∧ f.sip = some opts.sipUuid ∧ startswith f.currentlocation path := by
  simp [manualNormalizationMatches]

/-- What the path-based lookup guarantees: the row it returns belongs to the SIP, its
    location starts with the looked-up path up to ASCII case, and no such row sorts before
    it. It does not say that the location is the looked-up path plus an extension. -/
theorem manualNormalizationLookup_spec {opts : NormalizeOpts} {files : List File} {f : File}
    (h : manualNormalizationLookup opts files = some f) :
    ∃ path, manualNormalizationPath opts = some path ∧
      f ∈ files ∧ f.sip = some opts.sipUuid ∧ startswith f.currentlocation path ∧
      ∀ g ∈ files, g.sip = some opts.sipUuid → startswith g.currentlocation path →
        File.locationLe f g := by
  unfold manualNormalizationLookup at h
  rcases hp : manualNormalizationPath opts with _ | path
  · simp [hp] at h
  simp only [hp] at h
  have key : f ∈ manualNormalizationMatches opts files path ∧
      ∀ g ∈ manualNormalizationMatches opts files path, File.locationLe f g := by
    rcases hm : manualNormalizationMatches opts files path with _ | ⟨g, _ | ⟨g', rest⟩⟩
    · simp [hm] at h
    · simp only [hm, Option.some.injEq] at h
      subst h
      exact ⟨List.mem_singleton_self _, fun g hg => by
        rw [List.mem_singleton.1 hg]
        exact (total_of File.locationLe _ _).elim id id⟩
    · simp only [hm] at h
      exact head_sortByLocation h
  obtain ⟨hf, hmin⟩ := key
  rw [manualNormalizationMatches_mem] at hf
  exact ⟨path, rfl, hf.1, hf.2.1, hf.2.2, fun g hg hs hst =>
    hmin g (manualNormalizationMatches_mem.2 ⟨hg, hs, hst⟩)⟩

namespace Normalize

/-- A preservation job for `objects/IMG_1.NEF` of the SIP `s` at `/sip/`. -/
def img1Opts : NormalizeOpts := ⟨"preservation", "o1", "/sip/objects/IMG_1.NEF", "/sip/", "s", "t"⟩

/-- The row of `IMG_1.NEF`. -/
def img1 : File :=
  ⟨"o1", some "s", none, "%SIPDirectory%objects/IMG_1.NEF", "%SIPDirectory%objects/IMG_1.NEF",
    "original"⟩

/-- The manually normalized preservation copy of another original, `IMG_10.NEF`. -/
def img10Tif : File :=
  ⟨"m10", some "s", none, "%SIPDirectory%objects/manualNormalization/preservation/IMG_10.tif",
    "%SIPDirectory%objects/manualNormalization/preservation/IMG_10.tif", "original"⟩

/-- A preservation job for `objects/abc.NEF`. -/
def abcOpts : NormalizeOpts := ⟨"preservation", "o2", "/sip/objects/abc.NEF", "/sip/", "s", "t"⟩

/-- The row of `abc.NEF`. -/
def abc : File :=
  ⟨"o2", some "s", none, "%SIPDirectory%objects/abc.NEF", "%SIPDirectory%objects/abc.NEF",
    "original"⟩

/-- The manually normalized preservation copy of `abc.NEF`. -/
def abcTif : File :=
  ⟨"m1", some "s", none, "%SIPDirectory%objects/manualNormalization/preservation/abc.tif",
    "%SIPDirectory%objects/manualNormalization/preservation/abc.tif", "original"⟩

/-- The manually normalized preservation copy of another original, `abc-1.NEF`. -/
def abc1Tif : File :=
  ⟨"m2", some "s", none, "%SIPDirectory%objects/manualNormalization/preservation/abc-1.tif",
    "%SIPDirectory%objects/manualNormalization/preservation/abc-1.tif", "original"⟩

end Normalize

/-- The lookup returns the derivative of another original: alone, `IMG_10.tif` is taken for
    `IMG_1.NEF`; and beside `abc.tif`, `abc-1.tif` is taken for `abc.NEF`, since `-` sorts
    before `.`. Neither location is the looked-up path plus an extension. -/
theorem manual_normalization_returns_other_derivative :
    manualNormalizationPath Normalize.img1Opts =
      some "%SIPDirectory%objects/manualNormalization/preservation/IMG_1" ∧
    checkManualNormalization Normalize.img1Opts [Normalize.img1, Normalize.img10Tif] none =
      .ok (some Normalize.img10Tif) ∧
    (splitext Normalize.img10Tif.currentlocation).1 =
      "%SIPDirectory%objects/manualNormalization/preservation/IMG_10" ∧
    manualNormalizationPath Normalize.abcOpts =
      some "%SIPDirectory%objects/manualNormalization/preservation/abc" ∧
    checkManualNormalization Normalize.abcOpts [Normalize.abc, Normalize.abcTif, Normalize.abc1Tif]
      none = .ok (some Normalize.abc1Tif) ∧
    (splitext Normalize.abcTif.currentlocation).1 =
      "%SIPDirectory%objects/manualNormalization/preservation/abc" ∧
    (splitext Normalize.abc1Tif.currentlocation).1 =
      "%SIPDirectory%objects/manualNormalization/preservation/abc-1" :=
  ⟨by decide, rfl, by decide, by decide, rfl, by decide, by decide⟩

/-- A `normalization.csv` with a row of two fields stops the scan with `ValueError`, which
    the `csv.Error` handler does not catch: after a comment and the entry of another
    original, the row `IMG_1.NEF,IMG_1.tif` is reached. -/
theorem manual_normalization_csv_row_raises :
    checkManualNormalization Normalize.img1Opts [Normalize.img1]
        (some ⟨[["# original", "access", "preservation"], ["IMG_2.NEF", "", "IMG_2.tif"],
          ["IMG_1.NEF", "IMG_1.tif"]], false⟩) =
      .error (.valueError "not enough values to unpack (expected 3, got 2)") :=
  rfl

end A3m.Client
