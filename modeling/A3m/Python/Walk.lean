/-
  A3m.Python.Walk

  What `os.walk` lists on a tree a file system can hold (`Node.WF`: in each directory the
  entry names are distinct, and none is empty, `.`, `..` or holds a `/`). The paths it
  yields are the names on the way to each file joined by `posixpath.join`
  (`nodeFiles_eq`); a join of such names splits back into them (`joinAll_data`), and the
  name lists are distinct (`Node.filePaths_nodup`), so the walk lists no path twice
  (`walkFiles_nodup`).
-/
import A3m.Python.Os
import Mathlib.Data.List.Basic
import Mathlib.Data.List.Nodup

namespace A3m.Python

/-! ## Trees a file system can hold -/

/-- A name a directory entry can have: not empty, not `.` or `..`, and without `/`. -/
def validName (name : String) : Prop :=
  name ≠ "" ∧ name ≠ "." ∧ name ≠ ".." ∧ '/' ∉ name.data

mutual

/-- A tree a file system can hold: in every directory the entry names are valid and
    distinct. -/
def Node.WF : Node → Prop
  | .file => True
  | .dir es => (es.map Prod.fst).Nodup ∧ entriesWF es

/-- Every entry has a valid name and a well-formed node. -/
def entriesWF : List (String × Node) → Prop
  | [] => True
  | (name, n) :: es => validName name ∧ n.WF ∧ entriesWF es

end

theorem lookup_wf {c : String} {m : Node} {es : List (String × Node)} (hes : entriesWF es)
    (h : es.lookup c = some m) : m.WF := by
  induction es with
  | nil => cases h
  | cons e es ih =>
    obtain ⟨name, n⟩ := e
    simp only [entriesWF] at hes
    rw [List.lookup_cons] at h
    split at h
    · cases h
      exact hes.2.1
    · exact ih hes.2.2 h

/-- Resolution in a well-formed tree, below well-formed ancestors, finds a well-formed
    node. -/
theorem resolveIn_wf {m : Node} {cs : List String} :
    ∀ {n : Node} {up : List Node}, n.WF → (∀ p ∈ up, p.WF) → resolveIn n up cs = some m →
      m.WF := by
  induction cs with
  | nil =>
    intro n up hn _ h
    simp only [resolveIn, Option.some.injEq] at h
    exact h ▸ hn
  | cons c cs ih =>
    intro n up hn hup h
    cases n with
    | file => cases h
    | dir es =>
      simp only [resolveIn] at h
      split_ifs at h
      · exact ih hn hup h
      · split at h
        · exact ih hn hup h
        · exact ih (hup _ (List.mem_cons_self _ _)) (fun p hp => hup p (List.mem_cons_of_mem _ hp)) h
      · split at h
        · exact ih (lookup_wf (by simp only [Node.WF] at hn; exact hn.2) ‹_›)
            (List.forall_mem_cons.2 ⟨hn, hup⟩) h
        · cases h

theorem stat_wf {root n : Node} {path : String} (hroot : root.WF) (h : stat root path = some n) :
    n.WF := by
  unfold stat at h
  split_ifs at h
  exact resolveIn_wf hroot (by simp) h

/-! ## Joining names -/

/-- `os.path.join(top, *names)`. -/
def joinAll (top : String) (names : List String) : String := names.foldl join top

/-- What `posixpath.join(top, name)` puts before a name that does not start with `/`: `top`,
    with a `/` added unless it is empty or ends in one. -/
def dirPrefix (top : String) : List Char :=
  if top = "" ∨ top.data.getLast? = some '/' then top.data else top.data ++ ['/']

theorem join_data {top name : String} (h : '/' ∉ name.data) :
    (join top name).data = dirPrefix top ++ name.data := by
  have hhead : name.data.head? ≠ some '/' := fun h' => h (List.mem_of_mem_head? h')
  unfold join dirPrefix
  rw [if_neg hhead]
  split_ifs <;> simp

theorem dirPrefix_join {top name : String} (hname : validName name) :
    dirPrefix (join top name) = dirPrefix top ++ name.data ++ ['/'] := by
  obtain ⟨hne, -, -, hslash⟩ := hname
  obtain h | ⟨l, c, hl⟩ := name.data.eq_nil_or_concat
  · exact absurd (String.ext h) hne
  have hc : c ≠ '/' := fun e => hslash (by simp [hl, e])
  have hdata := @join_data top _ hslash
  rw [dirPrefix, if_neg, hdata]
  rw [String.ext_iff, hdata, hl]
  simp [hc]

/-- The path joined from valid names is the first name's prefix followed by the names
    separated by `/`. -/
theorem joinAll_data (top c : String) (cs : List String) (h : ∀ d ∈ c :: cs, validName d) :
    (joinAll top (c :: cs)).data =
      dirPrefix top ++ ['/'].intercalate ((c :: cs).map String.data) := by
  induction cs generalizing top c with
  | nil => simpa [joinAll, List.intercalate] using join_data (h c (List.mem_singleton_self c)).2.2.2
  | cons c' cs ih =>
    calc (joinAll top (c :: c' :: cs)).data
        = dirPrefix (join top c) ++ ['/'].intercalate ((c' :: cs).map String.data) :=
          ih (join top c) c' fun d hd => h d (List.mem_cons_of_mem c hd)
      _ = dirPrefix top ++ ['/'].intercalate ((c :: c' :: cs).map String.data) := by
          rw [dirPrefix_join (h c (List.mem_cons_self c _))]
          simp only [List.append_assoc]
          rfl

/-- Two nonempty lists of valid names joined below one `top` give one path only when they
    are the same list. -/
theorem joinAll_injective {top : String} {cs ds : List String} (hcs : cs ≠ []) (hds : ds ≠ [])
    (hc : ∀ c ∈ cs, validName c) (hd : ∀ d ∈ ds, validName d)
    (h : joinAll top cs = joinAll top ds) : cs = ds := by
  obtain ⟨c, cs, rfl⟩ := List.exists_cons_of_ne_nil hcs
  obtain ⟨d, ds, rfl⟩ := List.exists_cons_of_ne_nil hds
  have hdata := congrArg String.data h
  rw [joinAll_data top c cs hc, joinAll_data top d ds hd, List.append_cancel_left_eq] at hdata
  have hsep : ∀ {xs : List String}, (∀ x ∈ xs, validName x) → ∀ l ∈ xs.map String.data, '/' ∉ l :=
    fun hx _ hl => by
      obtain ⟨x, hx', rfl⟩ := List.mem_map.1 hl
      exact (hx x hx').2.2.2
  have hmap : (c :: cs).map String.data = (d :: ds).map String.data := by
    rw [← List.splitOn_intercalate _ '/' (hsep hc) (by simp), hdata,
      List.splitOn_intercalate _ '/' (hsep hd) (by simp)]
  exact List.map_injective_iff.2 (fun _ _ => String.ext) hmap

/-! ## The files below a node -/

/-- The paths `os.walk` lists below a node found at `top`. -/
def nodeFiles (top : String) (n : Node) : List String :=
  (walkNode top n).flatMap fun (dirpath, _, files) => files.map (join dirpath)

mutual

/-- The files below a node, by the names on the way to them, in the order `os.walk` lists
    them: the directory's own files, then each subdirectory's. -/
def Node.filePaths : Node → List (List String)
  | .file => []
  | .dir es => (fileNames es).map (fun name => [name]) ++ entriesFilePaths es

/-- The files below a directory's subdirectories, in order. -/
def entriesFilePaths : List (String × Node) → List (List String)
  | [] => []
  | (name, n) :: es => n.filePaths.map (name :: ·) ++ entriesFilePaths es

end

mutual

/-- `os.walk` lists the names on the way to each file joined below `top`. -/
theorem nodeFiles_eq : ∀ (top : String) (n : Node), nodeFiles top n = n.filePaths.map (joinAll top)
  | _, .file => rfl
  | top, .dir es => by
    have h := entriesFiles_eq top es
    simp only [nodeFiles, walkNode, List.flatMap_cons, Node.filePaths, List.map_append,
      List.map_map] at h ⊢
    rw [h]
    rfl

theorem entriesFiles_eq : ∀ (top : String) (es : List (String × Node)),
    (walkEntries top es).flatMap (fun (dirpath, _, files) => files.map (join dirpath)) =
      (entriesFilePaths es).map (joinAll top)
  | _, [] => rfl
  | top, (name, n) :: es => by
    have h1 := nodeFiles_eq (join top name) n
    have h2 := entriesFiles_eq top es
    simp only [nodeFiles] at h1
    simp only [walkEntries, List.flatMap_append, h1, h2, entriesFilePaths, List.map_append,
      List.map_map]
    rfl

end

theorem mem_fileNames {name : String} {es : List (String × Node)} (h : name ∈ fileNames es) :
    (name, .file) ∈ es := by
  obtain ⟨⟨name', n⟩, he, hn⟩ := List.mem_filterMap.1 h
  cases n <;> cases hn
  exact he

theorem mem_entriesFilePaths {cs : List String} {es : List (String × Node)}
    (h : cs ∈ entriesFilePaths es) :
    ∃ name n rest, (name, n) ∈ es ∧ rest ∈ n.filePaths ∧ cs = name :: rest := by
  induction es with
  | nil => cases h
  | cons e es ih =>
    obtain ⟨name, n⟩ := e
    rcases List.mem_append.1 h with h | h
    · obtain ⟨rest, hrest, rfl⟩ := List.mem_map.1 h
      exact ⟨name, n, rest, List.mem_cons_self _ _, hrest, rfl⟩
    · obtain ⟨name', n', rest, he, hrest, rfl⟩ := ih h
      exact ⟨name', n', rest, List.mem_cons_of_mem _ he, hrest, rfl⟩

theorem Node.filePaths_ne_nil {n : Node} {cs : List String} (h : cs ∈ n.filePaths) : cs ≠ [] := by
  cases n with
  | file => cases h
  | dir es =>
    rcases List.mem_append.1 h with h | h
    · obtain ⟨name, -, rfl⟩ := List.mem_map.1 h
      exact List.cons_ne_nil _ _
    · obtain ⟨name, -, rest, -, -, rfl⟩ := mem_entriesFilePaths h
      exact List.cons_ne_nil _ _

theorem entriesWF_mem {name : String} {n : Node} {es : List (String × Node)} (hes : entriesWF es)
    (h : (name, n) ∈ es) : validName name ∧ n.WF := by
  induction es with
  | nil => cases h
  | cons e es ih =>
    obtain ⟨name', n'⟩ := e
    simp only [entriesWF] at hes
    rcases List.mem_cons.1 h with h | h
    · cases h
      exact ⟨hes.1, hes.2.1⟩
    · exact ih hes.2.2 h

mutual

/-- In a well-formed tree, every name on the way to a file is valid. -/
theorem Node.filePaths_valid : ∀ (n : Node), n.WF → ∀ cs ∈ n.filePaths, ∀ c ∈ cs, validName c
  | .file, _ => fun _ h => by cases h
  | .dir es, hwf => by
    simp only [Node.WF] at hwf
    intro cs h
    rcases List.mem_append.1 h with h | h
    · obtain ⟨name, hname, rfl⟩ := List.mem_map.1 h
      simpa using (entriesWF_mem hwf.2 (mem_fileNames hname)).1
    · exact entriesFilePaths_valid es hwf.2 cs h

theorem entriesFilePaths_valid :
    ∀ (es : List (String × Node)), entriesWF es → ∀ cs ∈ entriesFilePaths es, ∀ c ∈ cs, validName c
  | [], _ => fun _ h => by cases h
  | (name, n) :: es, hwf => by
    simp only [entriesWF] at hwf
    intro cs h
    rcases List.mem_append.1 h with h | h
    · obtain ⟨rest, hrest, rfl⟩ := List.mem_map.1 h
      exact List.forall_mem_cons.2 ⟨hwf.1, n.filePaths_valid hwf.2.1 rest hrest⟩
    · exact entriesFilePaths_valid es hwf.2.2 cs h

end

theorem fileNames_sublist (es : List (String × Node)) : (fileNames es).Sublist (es.map Prod.fst) := by
  induction es with
  | nil => exact List.Sublist.slnil
  | cons e es ih =>
    obtain ⟨name, n⟩ := e
    cases n
    · exact ih.cons₂ name
    · exact ih.cons name

mutual

/-- In a well-formed tree no two files have the same names on the way to them. -/
theorem Node.filePaths_nodup : ∀ (n : Node), n.WF → n.filePaths.Nodup
  | .file, _ => List.nodup_nil
  | .dir es, hwf => by
    simp only [Node.WF] at hwf
    have hfiles : (fileNames es).Nodup :=
      (fileNames_sublist es).nodup hwf.1
    refine List.nodup_append.2 ⟨hfiles.map fun _ _ => List.singleton_inj.1,
      entriesFilePaths_nodup es hwf.1 hwf.2, ?_⟩
    intro cs h h'
    obtain ⟨name, -, rfl⟩ := List.mem_map.1 h
    obtain ⟨_, _, rest, _, hrest, hcs⟩ := mem_entriesFilePaths h'
    exact Node.filePaths_ne_nil hrest (List.cons.inj hcs).2.symm

theorem entriesFilePaths_nodup : ∀ (es : List (String × Node)), (es.map Prod.fst).Nodup →
    entriesWF es → (entriesFilePaths es).Nodup
  | [], _, _ => List.nodup_nil
  | (name, n) :: es, hnames, hwf => by
    simp only [entriesWF] at hwf
    simp only [List.map_cons, List.nodup_cons] at hnames
    refine List.nodup_append.2 ⟨(n.filePaths_nodup hwf.2.1).map List.cons_injective,
      entriesFilePaths_nodup es hnames.2 hwf.2.2, ?_⟩
    intro cs h h'
    obtain ⟨rest, -, rfl⟩ := List.mem_map.1 h
    obtain ⟨name', n', rest', he, -, hcs⟩ := mem_entriesFilePaths h'
    cases hcs
    exact hnames.1 (List.mem_map.2 ⟨_, he, rfl⟩)

end

/-- In a well-formed tree, `os.walk` from a node lists no path twice. -/
theorem nodeFiles_nodup (top : String) {n : Node} (hn : n.WF) : (nodeFiles top n).Nodup := by
  rw [nodeFiles_eq]
  exact (n.filePaths_nodup hn).map_on fun cs hcs ds hds =>
    joinAll_injective (Node.filePaths_ne_nil hcs) (Node.filePaths_ne_nil hds)
      (n.filePaths_valid hn cs hcs) (n.filePaths_valid hn ds hds)

/-- On a tree a file system can hold, `os.walk(top)` lists each file once. -/
theorem walkFiles_nodup {root : Node} (hroot : root.WF) (top : String) :
    (walkFiles root top).Nodup := by
  unfold walkFiles walk
  split
  · exact nodeFiles_nodup top (stat_wf hroot ‹_›)
  · exact List.nodup_nil

end A3m.Python
