/-
  A3m.Python.Json

  The values `json.load` builds, and what Python's built-in operations do on them where
  the asset scripts apply those operations to documents they have not checked: the truth
  value, `==` and `in`, `dict.get` and `dict.values`, a `for` loop over a value, and
  subscripting. Each raises what CPython 3.12 raises on a value of the wrong type, with
  its message.

  An object is a dict, kept as its items in order; `json.load` gives each key once, and
  every lookup reads the first item of a key. Numbers are integers: the workflow documents
  hold no fractions. A dict's keys are strings, so a key that is another hashable value
  (`None`, a `bool`, an `int`) is never found, and a list or a dict cannot be hashed at
  all (`strKey`).
-/
import A3m.Python.Builtins
import Mathlib.Data.List.Basic

namespace A3m.Python

/-- A value `json.load` returns. -/
inductive JsonValue where
  | null
  | bool (b : Bool)
  | num (n : Int)
  | str (s : String)
  | list (items : List JsonValue)
  | dict (items : List (String × JsonValue))
  deriving Repr

/-- What the operations on JSON values raise: a built-in exception of `PyExc`, or a
    `KeyError` or `IndexError`, the first with the key it was given. -/
inductive JsonExc where
  | py (e : PyExc)
  | keyError (key : JsonValue)
  | indexError (msg : String)
  deriving Repr

/-- `d.get(key)` on a dict's items: `None` for a missing key. -/
def dictGet (d : List (String × JsonValue)) (key : String) : JsonValue :=
  (d.lookup key).getD .null

namespace JsonValue

/-- `type(v).__name__`. -/
def typeName : JsonValue → String
  | null => "NoneType"
  | bool _ => "bool"
  | num _ => "int"
  | str _ => "str"
  | list _ => "list"
  | dict _ => "dict"

/-- Truth value testing (`if v:`): `None`, `False`, zero and empty containers are false. -/
def truthy : JsonValue → Bool
  | null => false
  | bool b => b
  | num n => n ≠ 0
  | str s => s ≠ ""
  | list xs => !xs.isEmpty
  | dict d => !d.isEmpty

/-- `v is None`. -/
def isNone : JsonValue → Bool
  | null => true
  | _ => false

/-- The integer a value is, `bool` being a subclass of `int`. -/
def asInt : JsonValue → Option Int
  | bool b => some (if b then 1 else 0)
  | num n => some n
  | _ => none

mutual
/-- `a == b`: numbers by value across `bool` and `int`, lists item by item, dicts as
    mappings whatever the order of their items. -/
def pyEq : JsonValue → JsonValue → Bool
  | null, null => true
  | str s, str t => s == t
  | list xs, list ys => listEq xs ys
  | dict d, dict e => d.length == e.length && itemsIn d e
  | a, b =>
    match asInt a, asInt b with
    | some m, some n => m == n
    | _, _ => false

/-- `xs == ys` on two lists. -/
def listEq : List JsonValue → List JsonValue → Bool
  | [], [] => true
  | x :: xs, y :: ys => pyEq x y && listEq xs ys
  | _, _ => false

/-- Every item of `d` has its key in `e`, with an equal value. -/
def itemsIn : List (String × JsonValue) → List (String × JsonValue) → Bool
  | [], _ => true
  | (k, v) :: d, e =>
    (match e.lookup k with
     | some w => pyEq v w
     | none => false) && itemsIn d e
end

/-- The `AttributeError` of calling a method the value's type does not have. -/
def noAttribute (v : JsonValue) (name : String) : JsonExc :=
  .py (.attributeError ("'" ++ v.typeName ++ "' object has no attribute '" ++ name ++ "'"))

/-- The `TypeError` of hashing a list or a dict. -/
def unhashable (v : JsonValue) : JsonExc :=
  .py (.typeError ("unhashable type: '" ++ v.typeName ++ "'"))

/-- `v.get(key)`. -/
def get (v : JsonValue) (key : String) : Except JsonExc JsonValue :=
  match v with
  | dict d => .ok (dictGet d key)
  | _ => .error (v.noAttribute "get")

/-- `v.values()`. -/
def values (v : JsonValue) : Except JsonExc (List JsonValue) :=
  match v with
  | dict d => .ok (d.map Prod.snd)
  | _ => .error (v.noAttribute "values")

/-- `for x in v`: a dict's keys, a list's items, a string's characters. -/
def iter (v : JsonValue) : Except JsonExc (List JsonValue) :=
  match v with
  | dict d => .ok (d.map fun kv => str kv.1)
  | list xs => .ok xs
  | str s => .ok (s.data.map fun c => str (String.singleton c))
  | _ => .error (.py (.typeError ("'" ++ v.typeName ++ "' object is not iterable")))

/-- The hash lookup of a value in a dict of string keys: the string it is, `none` for a
    hashable value of another type, which equals no string. -/
def strKey (k : JsonValue) : Except JsonExc (Option String) :=
  match k with
  | str s => .ok (some s)
  | list _ | dict _ => .error k.unhashable
  | _ => .ok none

end JsonValue

open JsonValue

/-- `d[k]` on a dict: the item whose key `k` is. -/
def dictItem (d : List (String × JsonValue)) (k : JsonValue) :
    Except JsonExc (String × JsonValue) :=
  (strKey k).bind fun
    | some s =>
      match d.lookup s with
      | some v => .ok (s, v)
      | none => .error (.keyError k)
    | none => .error (.keyError k)

/-- `xs[i]` on a sequence: a negative index counts from the end. -/
def seqIndex (xs : List α) (i : Int) : Option α :=
  let j := if i < 0 then i + xs.length else i
  if 0 ≤ j then xs[j.toNat]? else none

/-- `v[k]`. -/
def JsonValue.getItem (v k : JsonValue) : Except JsonExc JsonValue :=
  match v, k.asInt with
  | dict d, _ => Prod.snd <$> dictItem d k
  | list xs, some i =>
    match seqIndex xs i with
    | some x => .ok x
    | none => .error (.indexError "list index out of range")
  | list _, none =>
    .error (.py (.typeError ("list indices must be integers or slices, not " ++ k.typeName)))
  | str s, some i =>
    match seqIndex s.data i with
    | some c => .ok (str (String.singleton c))
    | none => .error (.indexError "string index out of range")
  | str _, none =>
    .error (.py (.typeError ("string indices must be integers, not '" ++ k.typeName ++ "'")))
  | _, _ => .error (.py (.typeError ("'" ++ v.typeName ++ "' object is not subscriptable")))

/-- `x in xs` on a list. -/
def pyIn (x : JsonValue) (xs : List JsonValue) : Bool := xs.any (pyEq x)

mutual
/-- Every dict in the value has each key once, as in what `json.load` returns. -/
def JsonValue.distinctKeys : JsonValue → Bool
  | dict d => decide (d.map Prod.fst).Nodup && itemsDistinct d
  | list xs => listDistinct xs
  | _ => true

/-- `distinctKeys` of every value of a dict. -/
def itemsDistinct : List (String × JsonValue) → Bool
  | [] => true
  | (_, v) :: d => v.distinctKeys && itemsDistinct d

/-- `distinctKeys` of every item of a list. -/
def listDistinct : List JsonValue → Bool
  | [] => true
  | v :: xs => v.distinctKeys && listDistinct xs
end

/-! ## Laws -/

namespace JsonValue

@[simp] theorem get_dict (d : List (String × JsonValue)) (key : String) :
    (dict d).get key = .ok (dictGet d key) := rfl

@[simp] theorem truthy_null : null.truthy = false := rfl

/-- A call of `get` that returns finds a dict. -/
theorem get_eq_ok {v : JsonValue} {key : String} {x : JsonValue} (h : v.get key = .ok x) :
    ∃ d, v = dict d ∧ x = dictGet d key := by
  cases v <;> first | exact ⟨_, rfl, (Except.ok.inj h).symm⟩ | cases h

end JsonValue

theorem lookup_cons_of_ne {β : Type} (d : List (String × β)) {k k' : String} (v : β)
    (h : k' ≠ k) : ((k', v) :: d).lookup k = d.lookup k := by
  rw [List.lookup_cons, beq_false_of_ne (Ne.symm h)]

theorem lookup_eq_none_of_not_mem {β : Type} {d : List (String × β)} {k : String}
    (h : k ∉ d.map Prod.fst) : d.lookup k = none := by
  induction d with
  | nil => rfl
  | cons p d ih =>
    simp only [List.map_cons, List.mem_cons, not_or] at h
    rw [lookup_cons_of_ne _ _ (Ne.symm h.1), ih h.2]

theorem mem_of_lookup_eq_some {β : Type} {d : List (String × β)} {k : String} {v : β}
    (h : d.lookup k = some v) : (k, v) ∈ d := by
  induction d with
  | nil => cases h
  | cons p d ih =>
    obtain ⟨k', v'⟩ := p
    by_cases hk : k' = k
    · subst hk; rw [List.lookup_cons_self] at h; cases h; exact List.mem_cons_self _ _
    · rw [lookup_cons_of_ne _ _ hk] at h; exact List.mem_cons_of_mem _ (ih h)

/-- On a dict with distinct keys, dropping items leaves each key its value or nothing. -/
theorem dictGet_filter_of_nodup {d : List (String × JsonValue)} (hd : (d.map Prod.fst).Nodup)
    (p : String × JsonValue → Bool) (k : String) :
    dictGet (d.filter p) k = if p (k, dictGet d k) then dictGet d k else .null := by
  induction d with
  | nil => simp [dictGet]
  | cons q d ih =>
    obtain ⟨k', v⟩ := q
    simp only [List.map_cons, List.nodup_cons] at hd
    by_cases hk : k' = k
    · subst hk
      have hnone : (d.filter p).lookup k' = none :=
        lookup_eq_none_of_not_mem fun hm => hd.1 ((List.filter_sublist d).map Prod.fst |>.subset hm)
      by_cases hp : p (k', v) <;> simp [List.filter_cons, hp, dictGet, hnone]
    · have hg : dictGet ((k', v) :: d) k = dictGet d k := by
        simp only [dictGet, lookup_cons_of_ne _ _ hk]
      rw [hg, ← ih hd.2]
      by_cases hp : p (k', v) <;> simp [List.filter_cons, hp, dictGet, lookup_cons_of_ne _ _ hk]

theorem distinctKeys_of_mem {d : List (String × JsonValue)} (hd : itemsDistinct d = true)
    {k : String} {v : JsonValue} (hm : (k, v) ∈ d) : v.distinctKeys = true := by
  induction d with
  | nil => cases hm
  | cons p d ih =>
    simp only [itemsDistinct, Bool.and_eq_true] at hd
    rcases List.mem_cons.mp hm with rfl | hm
    · exact hd.1
    · exact ih hd.2 hm

/-- The keys of a dict inside a value `json.load` returns are distinct. -/
theorem nodup_keys_of_get {d c : List (String × JsonValue)} (hd : (dict d).distinctKeys = true)
    {k : String} (hk : dictGet d k = dict c) : (c.map Prod.fst).Nodup := by
  simp only [distinctKeys, Bool.and_eq_true, decide_eq_true_eq] at hd
  cases hl : d.lookup k with
  | none => simp [dictGet, hl] at hk
  | some v =>
    simp only [dictGet, hl, Option.getD_some] at hk
    have := distinctKeys_of_mem hd.2 (mem_of_lookup_eq_some (hk ▸ hl))
    simp only [distinctKeys, Bool.and_eq_true, decide_eq_true_eq] at this
    exact this.1

/-- A bind that returns ran both of its parts. -/
theorem bind_eq_ok {ε α β : Type} {m : Except ε α} {f : α → Except ε β} {b : β}
    (h : m >>= f = .ok b) : ∃ a, m = .ok a ∧ f a = .ok b := by
  cases m with
  | ok a => exact ⟨a, rfl, h⟩
  | error e => cases h

/-- `None` is not in a list of truthy values. -/
theorem pyIn_null {xs : List JsonValue} (h : ∀ x ∈ xs, x.truthy = true) : pyIn .null xs = false := by
  simp only [pyIn, List.any_eq_false]
  intro x hx
  cases x with
  | null => exact absurd (h _ hx) (by decide)
  | _ => exact Bool.false_ne_true

/-- A subscript of a dict that returns finds the key, a string. -/
theorem dictItem_eq_ok {d : List (String × JsonValue)} {k : JsonValue} {s : String}
    {v : JsonValue} : dictItem d k = .ok (s, v) ↔ k = .str s ∧ d.lookup s = some v := by
  cases k with
  | str t =>
    cases h : d.lookup t <;> simp [dictItem, strKey, Except.bind, h] <;> rintro rfl <;> simp [h]
  | _ => simp [dictItem, strKey, Except.bind, unhashable]

theorem getItem_dict_str {d : List (String × JsonValue)} {s : String} {v : JsonValue}
    (h : (dict d).getItem (str s) = .ok v) : d.lookup s = some v := by
  obtain ⟨⟨k, w⟩, hd, hw⟩ := bind_eq_ok h
  cases hw
  obtain ⟨hk, hl⟩ := dictItem_eq_ok.1 hd
  cases hk
  exact hl

end A3m.Python
