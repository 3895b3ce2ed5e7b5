/-
  A3m.Python.Re

  The part of Python's `re` that `Job.get_directory_name` (`a3m/main/models.py`) uses:
  `re.search` with a pattern of `^`, `$`, character classes (`.`, `[\w]`, `[/]`, a literal
  character) under greedy repetitions (`*`, `{m}`, `{m,n}`), and named groups. The engine
  is the backtracking matcher of CPython's `sre`: a greedy repetition of a character class
  takes as many characters as it can and gives them back one at a time (`greedy`); `search`
  tries the start positions in order and returns the first match, with its groups. A group
  repeated a fixed number of times, such as `(-[\w]{4}){3}`, is written out as its
  repetitions: only named groups are read.

  The lemmas unfold one item each (`matchAt_lit`, `matchAt_exactly`), say what a repetition
  that matched has read (`matchAt_rep_eq_some`), and bound the characters a match needs
  (`le_length_of_matchAt`). A pattern that starts with `^` is only tried at the start of the
  string (`search_bol`).
-/
import A3m.Python.Builtins
import Mathlib.Data.List.Basic

namespace A3m.Python

/-- An item of a pattern. -/
inductive ReItem where
  /-- `^`, without `re.MULTILINE`: the start of the string. -/
  | bol
  /-- `$`, without `re.MULTILINE`: the end of the string, or just before a final `"\n"`. -/
  | eol
  /-- A character class repeated greedily, from `lo` to `hi` times (`none`: no bound). -/
  | rep (cls : Char → Bool) (lo : Nat) (hi : Option Nat)
  /-- `(?P<name>`. -/
  | groupStart (name : String)
  /-- The `)` of a named group. -/
  | groupEnd (name : String)

namespace ReItem

/-- A literal character. -/
def lit (c : Char) : ReItem := rep (· == c) 1 (some 1)

/-- `.*`: any character but `"\n"`, as often as possible. -/
def anyStar : ReItem := rep (· != '\n') 0 none

/-- `cls{m}`. -/
def exactly (cls : Char → Bool) (m : Nat) : ReItem := rep cls m (some m)

/-- The fewest characters the item reads. -/
def minLen : ReItem → Nat
  | rep _ lo _ => lo
  | _ => 0

/-- The fewest characters the items read. -/
def minLength : List ReItem → Nat
  | [] => 0
  | item :: rest => item.minLen + minLength rest

end ReItem

/-- The named groups of a match so far: each with where it starts and ends. -/
abbrev Spans := List (String × Nat × Nat)

/-- Ends the group `name` last opened at position `i`. -/
def Spans.close (name : String) (i : Nat) : Spans → Spans
  | [] => []
  | (n, a, b) :: g => if n = name then (n, a, i) :: g else (n, a, b) :: Spans.close name i g

@[simp] theorem Spans.close_cons_self (name : String) (i a b : Nat) (g : Spans) :
    Spans.close name i ((name, a, b) :: g) = (name, a, i) :: g :=
  if_pos rfl

/-- The number of characters a greedy repetition takes first: the run of the class, at most
    `hi`. -/
def runLength (cls : Char → Bool) (hi : Option Nat) (cs : List Char) : Nat :=
  match hi with
  | some h => min (cs.takeWhile cls).length h
  | none => (cs.takeWhile cls).length

/-- The backtracking of a greedy repetition: `f` on `n` characters, then on `n - 1`, down to
    `lo`; the first result. -/
def greedy {α : Type} (lo : Nat) (f : Nat → Option α) : Nat → Option α
  | 0 => if lo = 0 then f 0 else none
  | n + 1 => if lo ≤ n + 1 then (f (n + 1)).orElse fun _ => greedy lo f n else none

/-- The matcher of `sre` at position `i` of the string `s`: the groups of the first match of
    the items from `i`, in the order it tries the alternatives. -/
def matchAt (s : List Char) : List ReItem → Nat → Spans → Option Spans
  | [], _, g => some g
  | .bol :: rest, i, g => if i = 0 then matchAt s rest i g else none
  | .eol :: rest, i, g =>
    if s.drop i = [] ∨ s.drop i = ['\n'] then matchAt s rest i g else none
  | .rep cls lo hi :: rest, i, g =>
    greedy lo (fun k => matchAt s rest (i + k) g) (runLength cls hi (s.drop i))
  | .groupStart name :: rest, i, g => matchAt s rest i ((name, i, i) :: g)
  | .groupEnd name :: rest, i, g => matchAt s rest i (Spans.close name i g)

/-- A match object: the string searched and the spans of its named groups. -/
structure ReMatch where
  string : List Char
  spans : Spans

/-- `m.group(name)`: the part of the string the group matched. -/
def ReMatch.group (m : ReMatch) (name : String) : Option String :=
  (m.spans.lookup name).map fun span => String.mk ((m.string.drop span.1).take (span.2 - span.1))

/-- The group of a match with one span: the characters between its ends. -/
theorem ReMatch.group_single (string : List Char) (name : String) (a n : Nat) :
    ReMatch.group ⟨string, [(name, a, a + n)]⟩ name = some (String.mk ((string.drop a).take n)) := by
  simp [ReMatch.group]

/-- `re.search(pattern, string)`: the match from the first start position where there is
    one, `None` when there is none. -/
def search (pattern : List ReItem) (string : String) : Option ReMatch :=
  ((List.range (string.length + 1)).findSome? fun i => matchAt string.data pattern i []).map
    fun spans => ⟨string.data, spans⟩

/-! ## Greedy repetition -/

section Greedy

variable {α : Type} {lo : Nat} {f : Nat → Option α}

theorem greedy_of_lt {n : Nat} (h : n < lo) : greedy lo f n = none := by
  cases n with
  | zero => simp [greedy, Nat.pos_iff_ne_zero.1 h]
  | succ n => simp [greedy, Nat.not_le.2 h]

theorem greedy_self (n : Nat) : greedy n f n = f n := by
  cases n with
  | zero => simp [greedy]
  | succ n =>
    simp only [greedy, le_rfl, if_true, greedy_of_lt (Nat.lt_succ_self n)]
    cases f (n + 1) <;> rfl

theorem greedy_of_some {n : Nat} {x : α} (hlo : lo ≤ n) (h : f n = some x) :
    greedy lo f n = some x := by
  cases n with
  | zero => simp [greedy, Nat.le_zero.1 hlo, h]
  | succ n => simp [greedy, hlo, h]

theorem greedy_of_none {n : Nat} (h : f (n + 1) = none) : greedy lo f (n + 1) = greedy lo f n := by
  by_cases hlo : lo ≤ n + 1
  · simp [greedy, hlo, h]
  · rw [greedy_of_lt (Nat.not_le.1 hlo), greedy_of_lt (by omega)]

/-- Counts where `f` fails are passed over. -/
theorem greedy_skip {m n : Nat} (h : ∀ k, m < k → k ≤ n → f k = none) (hmn : m ≤ n) :
    greedy lo f n = greedy lo f m := by
  induction n with
  | zero => rw [Nat.le_zero.1 hmn]
  | succ n ih =>
    rcases Nat.lt_or_eq_of_le hmn with hlt | rfl
    · rw [greedy_of_none (h _ hlt le_rfl), ih (fun k h₁ h₂ => h k h₁ (Nat.le_succ_of_le h₂))
        (Nat.le_of_lt_succ hlt)]
    · rfl

/-- What a greedy repetition returns, `f` returns on a count between `lo` and `n`. -/
theorem greedy_eq_some {n : Nat} {x : α} (h : greedy lo f n = some x) :
    ∃ k, lo ≤ k ∧ k ≤ n ∧ f k = some x := by
  induction n with
  | zero =>
    by_cases hlo : lo = 0
    · exact ⟨0, by omega, le_rfl, by simpa [greedy, hlo] using h⟩
    · simp [greedy, hlo] at h
  | succ n ih =>
    by_cases hlo : lo ≤ n + 1
    · cases hf : f (n + 1) with
      | some y =>
        rw [greedy_of_some hlo hf] at h
        exact ⟨n + 1, hlo, le_rfl, hf.trans h⟩
      | none =>
        obtain ⟨k, h₁, h₂, h₃⟩ := ih (by rwa [greedy_of_none hf] at h)
        exact ⟨k, h₁, Nat.le_succ_of_le h₂, h₃⟩
    · simp [greedy, hlo] at h

end Greedy

/-! ## Runs of a class -/

theorem runLength_le_takeWhile (cls : Char → Bool) (hi : Option Nat) (cs : List Char) :
    runLength cls hi cs ≤ (cs.takeWhile cls).length := by
  unfold runLength
  split <;> omega

theorem runLength_some_of_le {cls : Char → Bool} {m : Nat} {cs : List Char}
    (h : m ≤ (cs.takeWhile cls).length) : runLength cls (some m) cs = m :=
  Nat.min_eq_right h

/-- The first `k` characters of `cs` are of the class when `k` is at most the run. -/
theorem mem_take_of_le_takeWhile {cls : Char → Bool} {cs : List Char} {k : Nat}
    (hk : k ≤ (cs.takeWhile cls).length) : ∀ c ∈ cs.take k, cls c := by
  obtain ⟨t, ht⟩ : cs.takeWhile cls <+: cs := List.takeWhile_prefix cls
  intro c hc
  rw [← ht, List.take_append_of_le_length hk] at hc
  exact List.mem_takeWhile_imp (List.mem_of_mem_take hc)

/-- The run of a class over `p ++ q` is at least `p` when all of `p` is of the class. -/
theorem length_le_takeWhile_append {cls : Char → Bool} {p q : List Char} (hp : ∀ c ∈ p, cls c) :
    p.length ≤ ((p ++ q).takeWhile cls).length := by
  rw [List.takeWhile_append_of_pos hp, List.length_append]
  exact Nat.le_add_right _ _

/-! ## One item -/

section Items

variable {s : List Char} {rest : List ReItem} {i : Nat} {g : Spans}

@[simp] theorem matchAt_nil : matchAt s [] i g = some g := rfl

theorem matchAt_rep (cls : Char → Bool) (lo : Nat) (hi : Option Nat) :
    matchAt s (.rep cls lo hi :: rest) i g =
      greedy lo (fun k => matchAt s rest (i + k) g) (runLength cls hi (s.drop i)) := rfl

theorem matchAt_eol :
    matchAt s (.eol :: rest) i g =
      if s.drop i = [] ∨ s.drop i = ['\n'] then matchAt s rest i g else none := rfl

theorem matchAt_anyStar :
    matchAt s (.anyStar :: rest) i g =
      greedy 0 (fun k => matchAt s rest (i + k) g) ((s.drop i).takeWhile (· != '\n')).length :=
  rfl

@[simp] theorem matchAt_groupStart (name : String) :
    matchAt s (.groupStart name :: rest) i g = matchAt s rest i ((name, i, i) :: g) := rfl

@[simp] theorem matchAt_groupEnd (name : String) :
    matchAt s (.groupEnd name :: rest) i g = matchAt s rest i (Spans.close name i g) := rfl

theorem matchAt_lit (c : Char) :
    matchAt s (.lit c :: rest) i g =
      if (s.drop i).head? = some c then matchAt s rest (i + 1) g else none := by
  simp only [matchAt, ReItem.lit, runLength]
  cases hd : s.drop i with
  | nil => simp [greedy]
  | cons x xs =>
    by_cases hx : x = c
    · subst hx; simp [List.takeWhile_cons_of_pos, greedy]
    · simp [List.takeWhile_cons_of_neg, hx, greedy]

theorem matchAt_exactly {cls : Char → Bool} {m : Nat}
    (h : m ≤ ((s.drop i).takeWhile cls).length) :
    matchAt s (.exactly cls m :: rest) i g = matchAt s rest (i + m) g := by
  simp only [matchAt, ReItem.exactly, runLength_some_of_le h, greedy_self]

/-- A repetition that matched read between `lo` and all the remaining characters, all of its
    class, and the rest of the pattern matched after them. -/
theorem matchAt_rep_eq_some {cls : Char → Bool} {lo : Nat} {hi : Option Nat} {g' : Spans}
    (h : matchAt s (.rep cls lo hi :: rest) i g = some g') :
    ∃ k, lo ≤ k ∧ k ≤ (s.drop i).length ∧ (∀ c ∈ (s.drop i).take k, cls c) ∧
      matchAt s rest (i + k) g = some g' := by
  obtain ⟨k, hlo, hk, hm⟩ := greedy_eq_some h
  have hk' := hk.trans (runLength_le_takeWhile cls hi _)
  exact ⟨k, hlo, hk'.trans (List.takeWhile_sublist _).length_le, mem_take_of_le_takeWhile hk', hm⟩

end Items

/-- A match from `i` reads at least the fewest characters of each item. -/
theorem le_length_of_matchAt {s : List Char} {items : List ReItem} {i : Nat} {g g' : Spans}
    (h : matchAt s items i g = some g') (hi : i ≤ s.length) :
    i + ReItem.minLength items ≤ s.length := by
  induction items generalizing i g with
  | nil => exact hi
  | cons item rest ih =>
    cases item with
    | rep cls lo hi' =>
      obtain ⟨k, hlo, hk, -, hm⟩ := matchAt_rep_eq_some h
      have := ih hm (by rw [List.length_drop] at hk; omega)
      show i + (lo + ReItem.minLength rest) ≤ s.length
      omega
    | bol | eol =>
      simp only [matchAt] at h
      split at h
      · simpa [ReItem.minLength, ReItem.minLen] using ih h hi
      · cases h
    | groupStart name | groupEnd name => simpa [ReItem.minLength, ReItem.minLen] using ih h hi

/-- A match reads each literal of its pattern somewhere in the string. -/
theorem mem_of_matchAt_lit {s : List Char} {c : Char} {items : List ReItem} {i : Nat}
    {g g' : Spans} (hc : ReItem.lit c ∈ items) (h : matchAt s items i g = some g') : c ∈ s := by
  induction items generalizing i g with
  | nil => cases hc
  | cons item rest ih =>
    rcases List.mem_cons.1 hc with rfl | hrest
    · rw [matchAt_lit] at h
      split at h
      · rename_i hd
        exact List.mem_of_mem_drop (List.mem_of_mem_head? hd)
      · cases h
    · cases item with
      | rep cls lo hi =>
        obtain ⟨k, -, -, -, hm⟩ := matchAt_rep_eq_some h
        exact ih hrest hm
      | bol | eol =>
        simp only [matchAt] at h
        split at h
        · exact ih hrest h
        · cases h
      | groupStart name | groupEnd name => exact ih hrest h

/-- A match of `pre ++ suf` matches `suf` from some position. -/
theorem matchAt_append_eq_some {s : List Char} {pre suf : List ReItem} {i : Nat} {g g' : Spans}
    (h : matchAt s (pre ++ suf) i g = some g') : ∃ j g'', matchAt s suf j g'' = some g' := by
  induction pre generalizing i g with
  | nil => exact ⟨i, g, h⟩
  | cons item rest ih =>
    cases item with
    | rep cls lo hi =>
      obtain ⟨k, -, -, -, hm⟩ := matchAt_rep_eq_some h
      exact ih hm
    | bol | eol =>
      simp only [List.cons_append, matchAt] at h
      split at h
      · exact ih h
      · cases h
    | groupStart name | groupEnd name => exact ih h

/-- A pattern that starts with `^` is matched from the start of the string only. -/
theorem search_bol (rest : List ReItem) (string : String) :
    search (.bol :: rest) string =
      (matchAt string.data rest 0 []).map fun spans => ⟨string.data, spans⟩ := by
  unfold search
  rw [List.range_succ_eq_map]
  congr 1
  cases h : matchAt string.data rest 0 [] with
  | some x => rw [List.findSome?_cons_of_isSome _ (by simp [matchAt, h])]; simp [matchAt, h]
  | none =>
    rw [List.findSome?_cons_of_isNone _ (by simp [matchAt, h]), List.findSome?_eq_none_iff.2]
    intro x hx
    obtain ⟨j, -, rfl⟩ := List.mem_map.1 hx
    simp [matchAt]


end A3m.Python
