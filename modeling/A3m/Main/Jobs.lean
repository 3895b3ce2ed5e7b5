/-
  A3m.Main.Jobs

  `Job.get_directory_name` and `JobQuerySet.get_directory_name` (`a3m/main/models.py`): the
  name of a unit's directory, read off the `directory` of one of its jobs with two regular
  expressions. `\w` is Python's, a parameter `isWord` that holds of the characters of the
  UUID and not of `/`, `-` or a newline.

  * A directory `<base>/<name>-<uuid>/`, with no `/` in `name` and no newline, gives `name`:
    the first `.*/` takes the last `/` from which the rest matches, and the group takes what
    stands before the UUID (`Job.getDirectoryName_uuid`).
  * Without `-`, a directory `<base>/<name>/` gives its last component `name`, from the
    second pattern (`Job.getDirectoryName_last`).
  * Without `-`, a directory that does not end with `/` gives `None`
    (`Job.getDirectoryName_none`).

  `JobQuerySet.get_directory_name` reads the first job of the queryset: `first()` returns
  `None` when there is none and raises no `IndexError`, so the `"(Unnamed)"` branch never
  runs and an empty queryset raises `AttributeError`.
-/
import A3m.Python.Re

namespace A3m.Main

open A3m.Python ReItem

/-! ## The patterns -/

/-- `-[\w]{m}` for each `m` of `lengths`. -/
def dashWords (isWord : Char → Bool) (lengths : List Nat) : List ReItem :=
  lengths.flatMap fun m => [lit '-', exactly isWord m]

/-- `-[\w]{8}(-[\w]{4}){3}-[\w]{12}[/]{0,1}$`, the part of the first pattern after its
    group. -/
def uuidTail (isWord : Char → Bool) : List ReItem :=
  dashWords isWord [8, 4, 4, 4, 12] ++ [rep (· == '/') 0 (some 1), eol]

/-- `r"^.*/(?P<directory>.*)-" r"[\w]{8}(-[\w]{4})" r"{3}-[\w]{12}[/]{0,1}$"`. -/
def uuidDirectoryPattern (isWord : Char → Bool) : List ReItem :=
  [bol, anyStar, lit '/', groupStart "directory", anyStar, groupEnd "directory"] ++
    uuidTail isWord

/-- `r"^.*/(?P<directory>.*)/$"`. -/
def directoryPattern : List ReItem :=
  [bol, anyStar, lit '/', groupStart "directory", anyStar, groupEnd "directory", lit '/', eol]

/-! ## `get_directory_name` -/

/-- `Job.get_directory_name()`, on the job's `directory` and `sipuuid`. A search that finds
    nothing returns `None`, whose `group` raises `AttributeError`, which `except Exception`
    catches. -/
def Job.getDirectoryName (isWord : Char → Bool) (directory sipuuid : String) : Option String :=
  if directory = "" then some sipuuid
  else
    match search (uuidDirectoryPattern isWord) directory with
    | some m => m.group "directory"
    | none =>
      match search directoryPattern directory with
      | some m => m.group "directory"
      | none => none

/-- The columns of a `Jobs` row that `get_directory_name` reads. -/
structure JobDirectory where
  directory : String
  sipuuid : String
  deriving DecidableEq, Repr

/-- `JobQuerySet.get_directory_name()`, on the jobs of the queryset in primary key order, the
    order of `first()`. `first()` returns `None` when there is no job, and
    `None.get_directory_name()` raises `AttributeError`. -/
def JobQuerySet.getDirectoryName (isWord : Char → Bool) (jobs : List JobDirectory) :
    Except PyExc (Option String) :=
  match jobs.head? with
  | some job => .ok (Job.getDirectoryName isWord job.directory job.sipuuid)
  | none => .error (.attributeError "'NoneType' object has no attribute 'get_directory_name'")

/-! ## Positions in a string -/

theorem drop_add_of_drop_eq {s pre rest : List Char} {i : Nat} (h : s.drop i = pre ++ rest) :
    s.drop (i + pre.length) = rest := by
  rw [← List.drop_drop, h, List.drop_left]

theorem drop_succ_of_drop_eq {s rest : List Char} {i : Nat} {c : Char} (h : s.drop i = c :: rest) :
    s.drop (i + 1) = rest :=
  @drop_add_of_drop_eq s [c] rest i h

/-- In `t' ++ "/"` with no `/` in `t'`, a `/` is only at the end. -/
theorem eq_length_of_head?_drop {t' : List Char} (ht' : '/' ∉ t') {j : Nat}
    (h : ((t' ++ ['/']).drop j).head? = some '/') : j = t'.length := by
  rw [List.head?_drop] at h
  rcases Nat.lt_or_ge j t'.length with hj | hj
  · rw [List.getElem?_append_left hj] at h
    exact absurd (List.getElem?_mem h) ht'
  · rw [List.getElem?_append_right hj] at h
    have : j - t'.length < 1 := (List.getElem?_eq_some_iff.1 h).1
    omega

/-- `.` reads all of a string with no newline. -/
theorem takeWhile_not_newline_eq {cs : List Char} (h : '\n' ∉ cs) :
    (cs.takeWhile (· != '\n')).length = cs.length := by
  rw [List.takeWhile_eq_self_iff.2 fun c hc => by simpa using ne_of_mem_of_not_mem hc h]

/-! ## The first `.*/` -/

section LastSlash

variable {s base t' : List Char} {suffix : List ReItem} {d : String} {g' : Spans}

/-- The `.*/` at the start of both patterns, in `base ++ "/" ++ t' ++ "/"` with no other `/`
    in `t'`: when the rest matches after the `/` before `t'`, that is the match, since the
    only later `/` ends the string, where the rest does not match. -/
theorem matchAt_lastSlash (hs : s = base ++ '/' :: (t' ++ ['/'])) (hnl : '\n' ∉ s)
    (ht' : '/' ∉ t') (hend : ∀ g, matchAt s (groupEnd d :: suffix) s.length g = none)
    (h : matchAt s (anyStar :: groupEnd d :: suffix) (base.length + 1)
      [(d, base.length + 1, base.length + 1)] = some g') :
    matchAt s (anyStar :: lit '/' :: groupStart d :: anyStar :: groupEnd d :: suffix) 0 [] =
      some g' := by
  have hlen : s.length = base.length + (t'.length + 1 + 1) := by
    rw [hs, List.length_append, List.length_cons, List.length_append, List.length_singleton]
  have hrun : ((s.drop 0).takeWhile (· != '\n')).length = s.length := by
    rw [List.drop_zero, takeWhile_not_newline_eq hnl]
  rw [matchAt_anyStar, hrun, greedy_skip (fun k (hk : base.length < k) hk' => ?fail) (by omega)]
  case fail =>
    obtain ⟨j, rfl⟩ : ∃ j, k = base.length + (j + 1) := ⟨k - base.length - 1, by omega⟩
    show matchAt s (lit '/' :: _) (0 + _) [] = none
    rw [Nat.zero_add, matchAt_lit]
    split
    · rename_i hd
      rw [hs, List.drop_append, List.drop_succ_cons] at hd
      obtain rfl := eq_length_of_head?_drop ht' hd
      have hd' : s.drop (base.length + (t'.length + 1) + 1) = [] := List.drop_of_length_le (by omega)
      rw [matchAt_groupStart, matchAt_anyStar, hd', List.takeWhile_nil, List.length_nil,
        greedy_self, show base.length + (t'.length + 1) + 1 + 0 = s.length by omega]
      exact hend _
    · rfl
  have hd : s.drop base.length = '/' :: (t' ++ ['/']) := by rw [hs, List.drop_left]
  refine greedy_of_some (Nat.zero_le _) ?_
  show matchAt s (lit '/' :: _) (0 + _) [] = _
  rw [Nat.zero_add, matchAt_lit, if_pos (by rw [hd]; rfl), matchAt_groupStart]
  exact h

end LastSlash

/-! ## The UUID -/

/-- A UUID as the pattern reads it: five groups of 8, 4, 4, 4 and 12 characters of `\w`. -/
structure WordUuid (isWord : Char → Bool) where
  groups : List (List Char)
  lengths : groups.map List.length = [8, 4, 4, 4, 12]
  word : ∀ grp ∈ groups, ∀ c ∈ grp, isWord c

/-- The UUID's characters: its groups joined by `-`. -/
def WordUuid.chars {isWord : Char → Bool} (u : WordUuid isWord) : List Char :=
  (u.groups.flatMap ('-' :: ·)).tail

theorem WordUuid.dash_chars {isWord : Char → Bool} (u : WordUuid isWord) :
    '-' :: u.chars = u.groups.flatMap ('-' :: ·) := by
  obtain ⟨_ | ⟨grp, groups⟩, hl, -⟩ := u
  · simp at hl
  · rfl

theorem WordUuid.length_chars {isWord : Char → Bool} (u : WordUuid isWord) :
    (u.groups.flatMap ('-' :: ·)).length = 37 := by
  obtain ⟨groups, hl, -⟩ := u
  have hc : List.length ∘ ('-' :: ·) = (· + 1) ∘ @List.length Char := rfl
  rw [List.flatMap_def, List.length_flatten, List.map_map, hc, ← List.map_map, hl]
  rfl

theorem WordUuid.exists_chars_eq_cons {isWord : Char → Bool} (u : WordUuid isWord) :
    ∃ c cs, u.chars = c :: cs ∧ isWord c := by
  obtain ⟨_ | ⟨_ | ⟨c, grp⟩, groups⟩, hl, hw⟩ := u
  · simp at hl
  · simp at hl
  · exact ⟨c, _, rfl, hw _ (List.mem_cons_self _ _) _ (List.mem_cons_self _ _)⟩

theorem WordUuid.mem_chars {isWord : Char → Bool} (u : WordUuid isWord) {c : Char}
    (hc : c ∈ u.chars) : c = '-' ∨ isWord c := by
  obtain ⟨grp, hg, hc⟩ := List.mem_flatMap.1 (List.mem_of_mem_tail hc)
  rcases List.mem_cons.1 hc with rfl | hc
  · exact .inl rfl
  · exact .inr (u.word grp hg c hc)

section Tail

variable {isWord : Char → Bool} {s : List Char} {g : Spans}

theorem matchAt_dashWords (groups : List (List Char)) (hw : ∀ grp ∈ groups, ∀ c ∈ grp, isWord c)
    (items : List ReItem) (rest : List Char) {i : Nat}
    (h : s.drop i = groups.flatMap ('-' :: ·) ++ rest) :
    matchAt s (dashWords isWord (groups.map List.length) ++ items) i g =
      matchAt s items (i + (groups.flatMap ('-' :: ·)).length) g := by
  induction groups generalizing i with
  | nil => simp [dashWords]
  | cons grp groups ih =>
    have h₁ : s.drop i = '-' :: (grp ++ (groups.flatMap ('-' :: ·) ++ rest)) := by simpa using h
    have h₂ := drop_succ_of_drop_eq h₁
    have hrun : grp.length ≤ ((s.drop (i + 1)).takeWhile isWord).length := by
      rw [h₂]; exact length_le_takeWhile_append (hw grp (List.mem_cons_self _ _))
    have h₃ := drop_add_of_drop_eq h₂
    simp only [dashWords, List.map_cons, List.flatMap_cons, List.cons_append, List.nil_append,
      List.append_assoc] at ih ⊢
    rw [matchAt_lit, if_pos (by rw [h₁]; rfl), matchAt_exactly hrun,
      ih (fun grp hg => hw grp (List.mem_cons_of_mem _ hg)) h₃]
    simp only [List.length_cons, List.length_append]
    congr 1
    omega

/-- The tail matches `-<uuid>/` to the end. -/
theorem matchAt_uuidTail (u : WordUuid isWord) {i : Nat}
    (h : s.drop i = u.groups.flatMap ('-' :: ·) ++ ['/']) :
    matchAt s (uuidTail isWord) i g = some g := by
  rw [uuidTail, ← u.lengths, matchAt_dashWords u.groups u.word _ _ h]
  have hd := drop_add_of_drop_eq h
  have he := drop_succ_of_drop_eq (show s.drop _ = ['/'] from hd)
  have hrun : runLength (· == '/') (some 1) (s.drop (i + (u.groups.flatMap ('-' :: ·)).length)) = 1 := by
    rw [hd]; decide
  rw [matchAt_rep, hrun]
  exact greedy_of_some (Nat.zero_le 1) (by simp only [matchAt_eol, he, true_or, if_true, matchAt_nil])

/-- The tail does not match from a word character. -/
theorem matchAt_uuidTail_of_word (hdash : isWord '-' = false) {i : Nat} {c : Char}
    {rest : List Char} (h : s.drop i = c :: rest) (hc : isWord c) :
    matchAt s (uuidTail isWord) i g = none := by
  have hne : c ≠ '-' := fun he => by rw [he, hdash] at hc; cases hc
  simp only [uuidTail, dashWords, List.flatMap_cons, List.cons_append, matchAt_lit, h,
    List.head?_cons, Option.some.injEq, hne, if_false]

/-- The tail reads at least 37 characters. -/
theorem matchAt_uuidTail_of_short {i : Nat} (hi : i ≤ s.length) (h : s.length < i + 37) :
    matchAt s (uuidTail isWord) i g = none := by
  cases hm : matchAt s (uuidTail isWord) i g with
  | none => rfl
  | some g' =>
    have := le_length_of_matchAt hm hi
    have h37 : ReItem.minLength (uuidTail isWord) = 37 := by
      simp only [uuidTail, dashWords, List.flatMap_cons, List.flatMap_nil, List.cons_append,
        List.nil_append, ReItem.minLength, ReItem.minLen, ReItem.lit, ReItem.exactly]
    omega

end Tail

/-! ## The group -/

section Group

variable {isWord : Char → Bool} {s name : List Char} {p : Nat} {d : String}

/-- In the first pattern the group's `.*` stops before the UUID: one character further the
    tail starts at a word character, and from two on fewer than 37 characters are left. -/
theorem matchAt_uuidGroup (hdash : isWord '-' = false) (u : WordUuid isWord) (hnl : '\n' ∉ s)
    (h : s.drop p = name ++ (u.groups.flatMap ('-' :: ·) ++ ['/'])) :
    matchAt s (anyStar :: groupEnd d :: uuidTail isWord) p [(d, p, p)] =
      some [(d, p, p + name.length)] := by
  have hlen : s.length = p + (name.length + 38) := by
    have := congrArg List.length h
    simp only [List.length_drop, List.length_append, u.length_chars, List.length_singleton] at this
    omega
  have hrun : ((s.drop p).takeWhile (· != '\n')).length = name.length + 38 := by
    rw [takeWhile_not_newline_eq fun hc => hnl (List.mem_of_mem_drop hc), List.length_drop]
    omega
  rw [matchAt_anyStar, hrun, greedy_skip (fun k (hk : name.length < k) hk' => ?fail) (by omega)]
  case fail =>
    show matchAt s (groupEnd d :: uuidTail isWord) (p + k) _ = none
    rw [matchAt_groupEnd]
    rcases Nat.lt_or_ge k (name.length + 2) with hk2 | hk2
    · obtain rfl : k = name.length + 1 := by omega
      obtain ⟨c, cs, hcs, hc⟩ := u.exists_chars_eq_cons
      have h' : s.drop p = (name ++ ['-']) ++ c :: (cs ++ ['/']) := by
        rw [h, ← u.dash_chars, hcs]; simp
      have hd := drop_add_of_drop_eq h'
      rw [List.length_append, List.length_singleton] at hd
      exact matchAt_uuidTail_of_word hdash hd hc
    · exact matchAt_uuidTail_of_short (by omega) (by omega)
  refine greedy_of_some (Nat.zero_le _) ?_
  show matchAt s (groupEnd d :: uuidTail isWord) (p + name.length) _ = _
  rw [matchAt_groupEnd, Spans.close_cons_self, matchAt_uuidTail u (drop_add_of_drop_eq h)]

/-- In the second pattern the group's `.*` stops before the final `/`. -/
theorem matchAt_lastGroup (hnl : '\n' ∉ s) (h : s.drop p = name ++ ['/']) :
    matchAt s (anyStar :: groupEnd d :: [lit '/', eol]) p [(d, p, p)] =
      some [(d, p, p + name.length)] := by
  have hd := drop_add_of_drop_eq h
  have he := drop_succ_of_drop_eq hd
  have hrun : ((s.drop p).takeWhile (· != '\n')).length = name.length + 1 := by
    rw [takeWhile_not_newline_eq fun hc => hnl (List.mem_of_mem_drop hc), h, List.length_append,
      List.length_singleton]
  rw [matchAt_anyStar, hrun, greedy_of_none ?last]
  case last =>
    show matchAt s (groupEnd d :: lit '/' :: [eol]) (p + (name.length + 1)) _ = none
    rw [matchAt_groupEnd, matchAt_lit, ← Nat.add_assoc, he]
    rfl
  refine greedy_of_some (Nat.zero_le _) ?_
  show matchAt s (groupEnd d :: lit '/' :: [eol]) (p + name.length) _ = _
  rw [matchAt_groupEnd, Spans.close_cons_self, matchAt_lit, hd,
    if_pos (show ['/'].head? = some '/' from rfl), matchAt_eol, if_pos (.inl he), matchAt_nil]

end Group

/-! ## Sample directories -/

namespace Jobs

/-- `\w` on ASCII. -/
def asciiWord (c : Char) : Bool := c.isAlphanum || c == '_'

/-- The UUID `2ed7e8e6-d2f7-4bbd-9c4c-0e01a2f5b8a9`. -/
def sampleUuid : WordUuid asciiWord where
  groups := ["2ed7e8e6".data, "d2f7".data, "4bbd".data, "9c4c".data, "0e01a2f5b8a9".data]
  lengths := rfl
  word := by decide

/-- A directory of `currentlyProcessing`. -/
def currentlyProcessing : String := "/var/archivematica/sharedDirectory/currentlyProcessing"

end Jobs

/-! ## What `get_directory_name` returns -/

section GetDirectoryName

variable {isWord : Char → Bool}

theorem search_uuidDirectoryPattern (directory : String) :
    search (uuidDirectoryPattern isWord) directory =
      (matchAt directory.data (anyStar :: lit '/' :: groupStart "directory" :: anyStar ::
        groupEnd "directory" :: uuidTail isWord) 0 []).map fun spans => ⟨directory.data, spans⟩ :=
  search_bol _ directory

theorem search_directoryPattern (directory : String) :
    search directoryPattern directory =
      (matchAt directory.data (anyStar :: lit '/' :: groupStart "directory" :: anyStar ::
        groupEnd "directory" :: [lit '/', eol]) 0 []).map fun spans => ⟨directory.data, spans⟩ :=
  search_bol _ directory

/-- The first pattern needs a `-` in the directory. -/
theorem search_uuidDirectoryPattern_of_not_mem (directory : String) (h : '-' ∉ directory.data) :
    search (uuidDirectoryPattern isWord) directory = none := by
  rw [search_uuidDirectoryPattern, Option.map_eq_none']
  cases hm : matchAt directory.data _ 0 [] with
  | none => rfl
  | some g' =>
    refine absurd (mem_of_matchAt_lit ?_ hm) h
    simp [uuidTail, dashWords]

theorem getDirectoryName_of_ne {directory : String} (hne : directory ≠ "") (sipuuid : String) :
    Job.getDirectoryName isWord directory sipuuid =
      match search (uuidDirectoryPattern isWord) directory with
      | some m => m.group "directory"
      | none =>
        match search directoryPattern directory with
        | some m => m.group "directory"
        | none => none :=
  if_neg hne

theorem ne_empty_of_data {directory : String} {c : Char} (h : c ∈ directory.data) :
    directory ≠ "" := by
  rintro rfl
  cases h

/-- A directory `<base>/<name>-<uuid>/` gives `name`, when `\w` holds of none of `/`, `-`
    and a newline, `name` has no `/`, and there is no newline. -/
theorem Job.getDirectoryName_uuid (hslash : isWord '/' = false) (hdash : isWord '-' = false)
    (hnl : isWord '\n' = false) (u : WordUuid isWord) (base name sipuuid : String)
    (hbase : '\n' ∉ base.data) (hname : '/' ∉ name.data) (hname' : '\n' ∉ name.data) :
    Job.getDirectoryName isWord (base ++ "/" ++ name ++ "-" ++ String.mk u.chars ++ "/") sipuuid =
      some name := by
  set directory := base ++ "/" ++ name ++ "-" ++ String.mk u.chars ++ "/"
  have hdata : directory.data =
      base.data ++ '/' :: ((name.data ++ '-' :: u.chars) ++ ['/']) := by
    simp [directory]
  have hchars : ∀ c, isWord c = false → c ≠ '-' → c ∉ u.chars := fun c hw hc hmem =>
    hc ((u.mem_chars hmem).resolve_right (by rw [hw]; exact Bool.false_ne_true))
  have hnl' : '\n' ∉ directory.data := by
    simp [hdata, hbase, hname', hchars '\n' hnl]
  have ht' : '/' ∉ name.data ++ '-' :: u.chars := by
    simp [hname, hchars '/' hslash]
  have hgroup : matchAt directory.data (anyStar :: groupEnd "directory" :: uuidTail isWord)
      (base.data.length + 1) [("directory", base.data.length + 1, base.data.length + 1)] =
      some [("directory", base.data.length + 1, base.data.length + 1 + name.data.length)] := by
    refine matchAt_uuidGroup hdash u hnl' ?_
    rw [hdata, ← u.dash_chars, List.drop_append, List.drop_one, List.tail_cons, List.append_assoc]
  have hm := matchAt_lastSlash hdata hnl' ht'
    (fun g => matchAt_uuidTail_of_short le_rfl (Nat.lt_add_of_pos_right (by decide))) hgroup
  rw [getDirectoryName_of_ne (ne_empty_of_data (hdata ▸ List.mem_append_right _
      (List.mem_cons_self '/' _))), search_uuidDirectoryPattern, hm, Option.map_some']
  show ReMatch.group ⟨directory.data, _⟩ "directory" = some name
  rw [ReMatch.group_single, hdata, List.drop_append, List.drop_one, List.tail_cons,
    List.append_assoc, List.take_left]

/-- A transfer named `my-images`: the `-` of its name stays in the group. -/
theorem Job.getDirectoryName_uuid_transfer :
    Jobs.asciiWord '/' = false ∧ Jobs.asciiWord '-' = false ∧ Jobs.asciiWord '\n' = false ∧
      '\n' ∉ Jobs.currentlyProcessing.data ∧ '/' ∉ "my-images".data ∧ '\n' ∉ "my-images".data ∧
      Job.getDirectoryName Jobs.asciiWord (Jobs.currentlyProcessing ++ "/" ++ "my-images" ++ "-" ++
        String.mk Jobs.sampleUuid.chars ++ "/") "" = some "my-images" :=
  ⟨by decide, by decide, by decide, by decide, by decide, by decide,
    Job.getDirectoryName_uuid (by decide) (by decide) (by decide) Jobs.sampleUuid _ _ _ (by decide)
      (by decide) (by decide)⟩

/-- Without `-`, a directory `<base>/<name>/` gives `name`, when `name` has no `/` and there is
    no newline. -/
theorem Job.getDirectoryName_last (base name sipuuid : String)
    (hbase : '-' ∉ base.data ∧ '\n' ∉ base.data) (hname : '/' ∉ name.data)
    (hname' : '-' ∉ name.data ∧ '\n' ∉ name.data) :
    Job.getDirectoryName isWord (base ++ "/" ++ name ++ "/") sipuuid = some name := by
  set directory := base ++ "/" ++ name ++ "/"
  have hdata : directory.data = base.data ++ '/' :: (name.data ++ ['/']) := by
    simp [directory]
  have hnl : '\n' ∉ directory.data := by simp [hdata, hbase.2, hname'.2]
  have hm := matchAt_lastSlash hdata hnl hname
    (fun g => by rw [matchAt_groupEnd, matchAt_lit, List.drop_length]; rfl)
    (@matchAt_lastGroup directory.data name.data (base.data.length + 1) "directory" hnl
      (by rw [hdata, List.drop_append, List.drop_one, List.tail_cons]))
  rw [getDirectoryName_of_ne (ne_empty_of_data (hdata ▸ List.mem_append_right _
      (List.mem_cons_self '/' _))),
    search_uuidDirectoryPattern_of_not_mem _ (by simp [hdata, hbase.1, hname'.1]),
    search_directoryPattern, hm, Option.map_some']
  show ReMatch.group ⟨directory.data, _⟩ "directory" = some name
  rw [ReMatch.group_single, hdata, List.drop_append, List.drop_one, List.tail_cons, List.take_left]

theorem Job.getDirectoryName_last_images :
    ('-' ∉ Jobs.currentlyProcessing.data ∧ '\n' ∉ Jobs.currentlyProcessing.data) ∧
      '/' ∉ "images".data ∧ ('-' ∉ "images".data ∧ '\n' ∉ "images".data) ∧
      Job.getDirectoryName Jobs.asciiWord (Jobs.currentlyProcessing ++ "/" ++ "images" ++ "/") "" =
        some "images" :=
  ⟨by decide, by decide, by decide,
    Job.getDirectoryName_last _ _ _ (by decide) (by decide) (by decide)⟩

/-- A match of `/$` with no newline ends the string with `/`. -/
theorem getLast?_of_matchAt_slash_eol {s : List Char} {j : Nat} {g g' : Spans}
    (hnl : '\n' ∉ s) (h : matchAt s [lit '/', eol] j g = some g') : s.getLast? = some '/' := by
  rw [matchAt_lit] at h
  split at h
  · rename_i hd
    rw [matchAt_eol] at h
    split at h
    · rename_i he
      have he' : s.drop (j + 1) = [] :=
        he.resolve_right fun he => hnl (List.mem_of_mem_drop (he ▸ List.mem_singleton_self _))
      obtain ⟨x, xs, hx⟩ : ∃ x xs, s.drop j = x :: xs :=
        List.exists_cons_of_ne_nil fun h => by rw [h] at hd; cases hd
      rw [hx, List.head?_cons, Option.some.injEq] at hd
      rw [← List.tail_drop, hx, List.tail_cons] at he'
      rw [← List.take_append_drop j s, hx, hd, he', List.getLast?_concat]
    · cases h
  · cases h

/-- Without `-`, a directory with no newline that does not end with `/` gives `None`. -/
theorem Job.getDirectoryName_none (directory sipuuid : String) (hne : directory ≠ "")
    (hdash : '-' ∉ directory.data) (hnl : '\n' ∉ directory.data)
    (hlast : directory.data.getLast? ≠ some '/') :
    Job.getDirectoryName isWord directory sipuuid = none := by
  rw [getDirectoryName_of_ne hne, search_uuidDirectoryPattern_of_not_mem _ hdash,
    search_directoryPattern]
  cases hm : matchAt directory.data _ 0 [] with
  | none => rfl
  | some g' =>
    have hm' : matchAt directory.data ([anyStar, lit '/', groupStart "directory", anyStar,
        groupEnd "directory"] ++ [lit '/', eol]) 0 [] = some g' := hm
    obtain ⟨j, g'', hj⟩ := matchAt_append_eq_some hm'
    exact absurd (getLast?_of_matchAt_slash_eol hnl hj) hlast

theorem Job.getDirectoryName_none_file :
    Jobs.currentlyProcessing ≠ "" ∧ '-' ∉ Jobs.currentlyProcessing.data ∧
      '\n' ∉ Jobs.currentlyProcessing.data ∧ Jobs.currentlyProcessing.data.getLast? ≠ some '/' ∧
      Job.getDirectoryName Jobs.asciiWord Jobs.currentlyProcessing "" = none :=
  ⟨by decide, by decide, by decide, by decide,
    Job.getDirectoryName_none _ _ (by decide) (by decide) (by decide) (by decide)⟩

end GetDirectoryName

end A3m.Main
