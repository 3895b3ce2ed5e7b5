/-
  A3m.Python.Os

  The parts of `os` and `os.path` (`posixpath`, `genericpath`) the scripts call, over a
  file-system tree: `join`, `basename`, `dirname`, `splitext`, `normpath` and `abspath` on
  path strings, and
  `exists`, `isfile`, `isdir` and `walk` on the tree.

  A path is resolved one component at a time from the root, which is also the working
  directory: an empty component and `.` stay where they are, `..` goes up (the root is its
  own parent), and every component needs a directory to be read in, so a trailing `/`
  after a regular file fails as `ENOTDIR` does. `os.walk` is top-down, lists a directory's
  entries in the order the tree gives them (the order of `os.scandir`), and yields nothing
  for a path that is not a directory (its `onerror` is `None`).
-/
import A3m.Python.Builtins

namespace A3m.Python

/-! ## Path strings -/

/-- The characters before and after the last `c`, or `none` when there is no `c`
    (`p.rfind(c)`). -/
def splitLast (c : Char) : List Char → Option (List Char × List Char)
  | [] => none
  | x :: s =>
    match splitLast c s with
    | some (a, b) => some (x :: a, b)
    | none => if x = c then some ([], s) else none

/-- `posixpath.join(a, b)`. -/
def join (a b : String) : String :=
  if b.data.head? = some '/' then b
  else if a = "" ∨ a.data.getLast? = some '/' then a ++ b
  else a ++ "/" ++ b

/-- `posixpath.basename(p)`: what follows the last `/`. -/
def basename (p : String) : String :=
  match splitLast '/' p.data with
  | some (_, b) => ⟨b⟩
  | none => p

/-- `posixpath.dirname(p)`: up to the last `/`, without the trailing slashes unless it is
    all slashes. -/
def dirname (p : String) : String :=
  let head := match splitLast '/' p.data with
    | some (a, _) => a ++ ['/']
    | none => []
  if head ≠ [] ∧ ¬ head.all (· = '/') then ⟨(head.reverse.dropWhile (· = '/')).reverse⟩
  else ⟨head⟩

/-- `posixpath.splitext(p)` (`genericpath._splitext`): the cut before the last `.` of the
    base name, unless only dots precede it there. -/
def splitext (p : String) : String × String :=
  let (head, tail) := match splitLast '/' p.data with
    | some (a, b) => (a ++ ['/'], b)
    | none => ([], p.data)
  match splitLast '.' tail with
  | some (stem, ext) => if stem.all (· = '.') then (p, "") else (⟨head ++ stem⟩, ⟨'.' :: ext⟩)
  | none => (p, "")

/-- One component of the loop of `posixpath.normpath`, on the components kept so far, the
    last first: empty components and `.` are dropped, and `..` drops the last kept one,
    unless there is none to drop under a leading `/` or the last one is itself `..`. -/
def normComp (initialSlashes : Nat) (kept : List String) (comp : String) : List String :=
  if comp = "" ∨ comp = "." then kept
  else if comp ≠ ".." ∨ (initialSlashes = 0 ∧ kept = []) ∨ kept.head? = some ".." then
    comp :: kept
  else kept.tail

/-- `posixpath.normpath(path)`: two leading slashes are kept, one or three and more become
    one. -/
def normpath (path : String) : String :=
  if path = "" then "."
  else
    let initialSlashes :=
      if Str.startswith path "/" then
        if Str.startswith path "//" ∧ ¬ Str.startswith path "///" then 2 else 1
      else 0
    let kept := (path.splitOn "/").foldl (normComp initialSlashes) []
    let path := String.mk (List.replicate initialSlashes '/') ++ "/".intercalate kept.reverse
    if path = "" then "." else path

/-- `posixpath.abspath(path)`, with `os.getcwd()` the working directory `cwd`. -/
def abspath (cwd path : String) : String :=
  normpath (if Str.startswith path "/" then path else join cwd path)

/-! ## The tree -/

/-- A file-system tree: a regular file, or a directory with its entries in `os.scandir`
    order. -/
inductive Node where
  | file
  | dir (entries : List (String × Node))

/-- Resolution of the components `cs` in `cur`, below the ancestors `up` (innermost
    first). -/
def resolveIn : Node → List Node → List String → Option Node
  | n, _, [] => some n
  | .file, _, _ :: _ => none
  | .dir es, up, c :: cs =>
    if c = "" ∨ c = "." then resolveIn (.dir es) up cs
    else if c = ".." then
      match up with
      | [] => resolveIn (.dir es) [] cs
      | p :: up' => resolveIn p up' cs
    else
      match es.lookup c with
      | some n => resolveIn n (.dir es :: up) cs
      | none => none

/-- `os.stat(path)` on the tree: the node a path names; the empty path names none. -/
def stat (root : Node) (path : String) : Option Node :=
  if path = "" then none
  else resolveIn root [] ((path.data.splitOn '/').map String.mk)

/-- `os.path.exists(path)`. -/
def exists_ (root : Node) (path : String) : Bool := (stat root path).isSome

/-- `os.path.isfile(path)`. -/
def isfile (root : Node) (path : String) : Bool :=
  match stat root path with
  | some .file => true
  | _ => false

/-- `os.path.isdir(path)`. -/
def isdir (root : Node) (path : String) : Bool :=
  match stat root path with
  | some (.dir _) => true
  | _ => false

/-- The names of the subdirectories among a directory's entries. -/
def dirNames (es : List (String × Node)) : List String :=
  es.filterMap fun
    | (name, .dir _) => some name
    | (_, .file) => none

/-- The names of the other entries. -/
def fileNames (es : List (String × Node)) : List String :=
  es.filterMap fun
    | (_, .dir _) => none
    | (name, .file) => some name

mutual

/-- `os.walk` from a node found at `top`: the triple `(top, dirnames, filenames)` of a
    directory, then the walk of each subdirectory at `join(top, name)`. -/
def walkNode (top : String) : Node → List (String × List String × List String)
  | .file => []
  | .dir es => (top, dirNames es, fileNames es) :: walkEntries top es

/-- The walks of a directory's entries, in order; a regular file adds nothing. -/
def walkEntries (top : String) : List (String × Node) → List (String × List String × List String)
  | [] => []
  | (name, n) :: es => walkNode (join top name) n ++ walkEntries top es

end

/-- `os.walk(top)`. -/
def walk (root : Node) (top : String) : List (String × List String × List String) :=
  match stat root top with
  | some n => walkNode top n
  | none => []

/-- The paths `join(dirpath, name)` of the files `os.walk(top)` lists, in its order. -/
def walkFiles (root : Node) (top : String) : List String :=
  (walk root top).flatMap fun (dirpath, _, files) => files.map (join dirpath)

end A3m.Python
