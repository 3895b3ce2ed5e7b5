/-
  A3m.Python.Builtins

  The Python built-ins the scripts' models share: the exceptions they raise or catch, and
  the `str` methods they call, over a string's characters.

  `Str.replace` follows CPython's `replace`. For a nonempty `old` it scans from the left
  and replaces non-overlapping occurrences, at most `count` of them (a negative count, the
  default `-1`, is no limit); an empty `old` puts `new` before every character and after
  the last, again at most `count` times. The scan is stated once for every count
  (`replaceScan`), and callers use its laws: nothing changes where `old` does not occur
  (`replaceScan_of_not_occurs`), a stretch in which no occurrence starts is copied
  (`replaceScan_append_of_noStart`), and a single replacement cuts at the occurrence
  `str.find` reports (`findSub_eq_some`, `replaceScan_one`).
-/
import Mathlib.Data.List.Infix
import Mathlib.Data.Char

namespace A3m.Python

/-- The exceptions of the modelled scripts, with their messages: the built-in classes they
    raise or catch, and Django's `Model.DoesNotExist` and `Model.MultipleObjectsReturned`
    by the model's name. -/
inductive PyExc where
  | valueError (msg : String)
  | syntaxError (msg : String)
  | typeError (msg : String)
  | attributeError (msg : String)
  | recursionError (msg : String)
  | memoryError
  | doesNotExist (model : String)
  | multipleObjectsReturned (model : String)
  deriving DecidableEq, Repr

/-! ## `str.replace` -/

/-- The scan of CPython's `replace` for a nonempty `old`. Where the count is not used up
    and `old` starts, `new` is written and the `old.length - 1` further characters of the
    occurrence are passed over (`skip`); every other character is kept. A count of `none`
    is no limit. -/
def replaceScan (old new : List Char) : Option Nat → Nat → List Char → List Char
  | _, _, [] => []
  | c, k + 1, _ :: s => replaceScan old new c k s
  | c, 0, x :: s =>
    if c ≠ some 0 ∧ old.isPrefixOf (x :: s) then
      new ++ replaceScan old new (c.map (· - 1)) (old.length - 1) s
    else x :: replaceScan old new c 0 s

/-- CPython's `replace` for an empty `old`: `new` before each character and after the
    last, while the count allows. -/
def replaceEmpty (new : List Char) : Option Nat → List Char → List Char
  | c, [] => if c = some 0 then [] else new
  | c, x :: s => if c = some 0 then x :: s else new ++ x :: replaceEmpty new (c.map (· - 1)) s

/-- `s.replace(old, new, count)`; a negative `count` is no limit. -/
def Str.replace (s old new : String) (count : Int) : String :=
  let c := if count < 0 then none else some count.toNat
  if old.data = [] then ⟨replaceEmpty new.data c s.data⟩
  else ⟨replaceScan old.data new.data c 0 s.data⟩

@[simp] theorem Str.replace_data (s old new : String) (count : Int) :
    (Str.replace s old new count).data =
      if old.data = [] then replaceEmpty new.data (if count < 0 then none else some count.toNat) s.data
      else replaceScan old.data new.data (if count < 0 then none else some count.toNat) 0 s.data := by
  by_cases h : old.data = [] <;> simp [Str.replace, h]

/-- The position `str.find` reports: where `sub` first occurs (`none` for `-1`). -/
def findSub (sub : List Char) : List Char → Option Nat
  | [] => if sub = [] then some 0 else none
  | x :: s => if sub.isPrefixOf (x :: s) then some 0 else (findSub sub s).map (· + 1)

/-- `s.find(sub)`, with `none` for `-1`. -/
def Str.find (s sub : String) : Option Nat := findSub sub.data s.data

/-- `sub in s`. -/
def Str.contains (s sub : String) : Prop := sub.data <:+: s.data

instance (s sub : String) : Decidable (Str.contains s sub) :=
  inferInstanceAs (Decidable (_ <:+: _))

/-- `s.startswith(pre)`. -/
def Str.startswith (s pre : String) : Bool := pre.data.isPrefixOf s.data

/-- `s.endswith(suf)`. -/
def Str.endswith (s suf : String) : Bool := suf.data.isSuffixOf s.data

/-- `s.lower()` on ASCII letters, the case folding of SQLite's `LIKE`. -/
def Str.lower (s : String) : String := ⟨s.data.map Char.toLower⟩

/-- Python's `<=` on `str`: code points compared in order, a proper prefix first. -/
def strLe : List Char → List Char → Bool
  | [], _ => true
  | _ :: _, [] => false
  | a :: s, b :: t => a < b || (a == b && strLe s t)

theorem strLe_total : ∀ s t : List Char, strLe s t ∨ strLe t s
  | [], _ => .inl rfl
  | _ :: _, [] => .inr rfl
  | a :: s, b :: t => by
    rcases lt_trichotomy a b with h | rfl | h
    · simp [strLe, h]
    · simpa [strLe] using strLe_total s t
    · simp [strLe, h]

theorem strLe_trans : ∀ {s t u : List Char}, strLe s t → strLe t u → strLe s u
  | [], _, _, _, _ => rfl
  | _ :: _, [], _, h, _ => absurd h (by simp [strLe])
  | _ :: _, _ :: _, [], _, h => absurd h (by simp [strLe])
  | a :: s, b :: t, c :: u, h1, h2 => by
    simp only [strLe, Bool.or_eq_true, decide_eq_true_eq, Bool.and_eq_true, beq_iff_eq] at *
    rcases h1 with h1 | ⟨rfl, h1⟩ <;> rcases h2 with h2 | ⟨rfl, h2⟩
    · exact .inl (h1.trans h2)
    · exact .inl h1
    · exact .inl h2
    · exact .inr ⟨rfl, strLe_trans h1 h2⟩

/-! ## Occurrences -/

/-- No occurrence of `sub` in `u ++ v` starts inside `u`. -/
def NoStart (sub u v : List Char) : Prop :=
  ∀ w, w ≠ [] → w <:+ u → ¬ sub <+: w ++ v

theorem NoStart.nil (sub v : List Char) : NoStart sub [] v :=
  fun _ hw hs _ => hw (List.eq_nil_of_suffix_nil hs)

theorem NoStart.cons {sub u v : List Char} {x : Char} :
    NoStart sub (x :: u) v ↔ ¬ sub <+: x :: (u ++ v) ∧ NoStart sub u v := by
  constructor
  · intro h
    exact ⟨h (x :: u) (List.cons_ne_nil _ _) (List.suffix_refl _),
      fun w hw hs => h w hw (hs.trans (List.suffix_cons x u))⟩
  · rintro ⟨hx, hu⟩ w hw hs
    rcases List.suffix_cons_iff.1 hs with rfl | hs
    · exact hx
    · exact hu w hw hs

/-- Where `sub` does not occur at all, no occurrence starts anywhere. -/
theorem NoStart.of_not_occurs {sub s : List Char} (h : ¬ sub <:+: s) : NoStart sub s [] :=
  fun w _ hs hp => h ((List.append_nil w ▸ hp).isInfix.trans hs.isInfix)

theorem findSub_eq_none {sub s : List Char} (h : findSub sub s = none) : ¬ sub <:+: s := by
  induction s with
  | nil =>
    by_cases hsub : sub = [] <;> simp_all [findSub]
  | cons x s ih =>
    by_cases hp : sub <+: x :: s
    · simp [findSub, List.isPrefixOf_iff_prefix.2 hp] at h
    · have hs : findSub sub s = none := by
        simpa [findSub, mt List.isPrefixOf_iff_prefix.1 hp] using h
      rw [List.infix_cons_iff]
      exact fun h' => h'.elim hp (ih hs)

/-- `str.find` reports the first occurrence: the string is cut there, and no occurrence
    starts before it. -/
theorem findSub_eq_some {sub s : List Char} {i : Nat} (h : findSub sub s = some i) :
    ∃ a b, s = a ++ sub ++ b ∧ a.length = i ∧ NoStart sub a (sub ++ b) := by
  induction s generalizing i with
  | nil =>
    by_cases hsub : sub = [] <;> simp [findSub, hsub] at h
    exact ⟨[], [], by simp [hsub], h, NoStart.nil _ _⟩
  | cons x s ih =>
    by_cases hp : sub <+: x :: s
    · obtain ⟨b, hb⟩ := hp
      simp only [findSub, List.isPrefixOf_iff_prefix.2 ⟨b, hb⟩, if_true, Option.some.injEq] at h
      exact ⟨[], b, by simp [hb], h, NoStart.nil _ _⟩
    · simp only [findSub, mt List.isPrefixOf_iff_prefix.1 hp, Bool.false_eq_true, if_false,
        Option.map_eq_some'] at h
      obtain ⟨j, hj, rfl⟩ := h
      obtain ⟨a, b, rfl, rfl, hn⟩ := ih hj
      refine ⟨x :: a, b, rfl, rfl, NoStart.cons.2 ⟨?_, hn⟩⟩
      simpa using hp

/-! ## The scan -/

section Scan

variable {old new : List Char}

@[simp] theorem replaceScan_nil (c : Option Nat) (k : Nat) : replaceScan old new c k [] = [] := by
  cases k <;> rfl

/-- The characters still to pass over are dropped. -/
theorem replaceScan_skip (c : Option Nat) (k : Nat) (s : List Char) :
    replaceScan old new c k s = replaceScan old new c 0 (s.drop k) := by
  induction k generalizing s with
  | zero => rfl
  | succ k ih => cases s <;> simp [replaceScan, ih]

theorem replaceScan_cons_of_not_prefix (c : Option Nat) {x : Char} {s : List Char}
    (h : ¬ old <+: x :: s) : replaceScan old new c 0 (x :: s) = x :: replaceScan old new c 0 s := by
  simp [replaceScan, mt List.isPrefixOf_iff_prefix.1 h]

/-- An occurrence met while the count allows is replaced, and the scan resumes after it. -/
theorem replaceScan_append_of_ne {c : Option Nat} (hc : c ≠ some 0) (hold : old ≠ [])
    (t : List Char) :
    replaceScan old new c 0 (old ++ t) = new ++ replaceScan old new (c.map (· - 1)) 0 t := by
  obtain ⟨y, old', rfl⟩ := List.exists_cons_of_ne_nil hold
  simp [replaceScan, hc, replaceScan_skip _ old'.length]

/-- Once the count is used up the rest is copied. -/
@[simp] theorem replaceScan_some_zero (s : List Char) : replaceScan old new (some 0) 0 s = s := by
  induction s with
  | nil => rfl
  | cons x s ih => simp [replaceScan, ih]

/-- A stretch in which no occurrence starts is copied as it is. -/
theorem replaceScan_append_of_noStart (c : Option Nat) {u v : List Char} (h : NoStart old u v) :
    replaceScan old new c 0 (u ++ v) = u ++ replaceScan old new c 0 v := by
  induction u with
  | nil => rfl
  | cons x u ih =>
    obtain ⟨hx, hu⟩ := NoStart.cons.1 h
    rw [List.cons_append, replaceScan_cons_of_not_prefix c hx, ih hu, List.cons_append]

/-- Where `old` does not occur, `replace` changes nothing. -/
theorem replaceScan_of_not_occurs (c : Option Nat) {s : List Char} (h : ¬ old <:+: s) :
    replaceScan old new c 0 s = s := by
  simpa using @replaceScan_append_of_noStart old new c s [] (NoStart.of_not_occurs h)

/-- `replace` with a count of one cuts at the first occurrence. -/
theorem replaceScan_one (hold : old ≠ []) {a b : List Char} (hn : NoStart old a (old ++ b)) :
    replaceScan old new (some 1) 0 (a ++ old ++ b) = a ++ new ++ b := by
  rw [List.append_assoc, replaceScan_append_of_noStart _ hn,
    replaceScan_append_of_ne (by decide) hold]
  simp

end Scan

@[simp] theorem replaceEmpty_some_zero (new s : List Char) : replaceEmpty new (some 0) s = s := by
  cases s <;> rfl

@[simp] theorem replaceEmpty_one (new s : List Char) : replaceEmpty new (some 1) s = new ++ s := by
  cases s <;> simp [replaceEmpty]

/-- `replace` with a count of one. -/
theorem Str.replace_one_data (s old new : String) :
    (Str.replace s old new 1).data =
      if old.data = [] then new.data ++ s.data
      else replaceScan old.data new.data (some 1) 0 s.data := by
  simp [Str.replace_data]

end A3m.Python
