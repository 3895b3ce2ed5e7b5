/-
  A3m.Server.PackageContext

  `PackageContext` (`a3m/server/packages.py`) and its reload from the `UnitVariable` table.
  The context is an `OrderedDict`, kept as its items in insertion order. `load_from_db`
  runs `ast.literal_eval` on each stored `replacementDict` value and passes the result to
  `update`; only `ValueError` and `SyntaxError` are caught there.

  `ast.literal_eval` is a parameter: every result below holds for each function from the
  stored text to a value or an exception. Its result is seen as `update` sees it, a dict
  by its items or another value by its type's name; a stored NULL is `None`, on which
  `literal_eval` raises `ValueError`. So `load_from_db` returns exactly when every value
  is a dict or is rejected with one of the two caught exceptions (`loadFromDb_ok_iff`);
  a literal of another type makes `update` raise `AttributeError`, and an unhashable key
  makes `literal_eval` itself raise `TypeError`.
-/
import A3m.Python.Builtins

namespace A3m.Server

open A3m.Python

/-- What `ast.literal_eval` returns, as `PackageContext.update` reads it: a dict, by its
    items in order, or a value of another type, by the type's name. -/
inductive Literal (K V : Type) where
  | dict (items : List (K × V))
  | other (typeName : String)
  deriving DecidableEq, Repr

section Context

variable {K V : Type} [DecidableEq K]

/-- `context._data[key] = value` on an `OrderedDict`: a key already there keeps its place. -/
def setItem : List (K × V) → K → V → List (K × V)
  | [], k, v => [(k, v)]
  | (k', v') :: d, k, v => if k' = k then (k', v) :: d else (k', v') :: setItem d k v

/-- `PackageContext.update(mapping)`: `mapping.items()`, then one assignment per item. -/
def update (ctx : List (K × V)) : Literal K V → Except PyExc (List (K × V))
  | .dict items => .ok (items.foldl (fun d kv => setItem d kv.1 kv.2) ctx)
  | .other typeName => .error (.attributeError ("'" ++ typeName ++ "' object has no attribute 'items'"))

/-- The exceptions `load_from_db` catches around `ast.literal_eval`. -/
def caughtByLoad : PyExc → Bool
  | .valueError _ | .syntaxError _ => true
  | _ => false

/-- `ast.literal_eval(unit_var_value[0])`: NULL is `None`, which `literal_eval` rejects with
    `ValueError`. -/
def literalEvalValue (literalEval : String → Except PyExc (Literal K V)) :
    Option String → Except PyExc (Literal K V)
  | none => .error (.valueError "malformed node or string: None")
  | some s => literalEval s

/-- The loop of `PackageContext.load_from_db`, from the context built so far, over the
    values `unit_vars_queryset` yields (`none` for NULL). -/
def loadFrom (literalEval : String → Except PyExc (Literal K V)) (ctx : List (K × V)) :
    List (Option String) → Except PyExc (List (K × V))
  | [] => .ok ctx
  | value :: values =>
    match literalEvalValue literalEval value with
    | .error e => if caughtByLoad e then loadFrom literalEval ctx values else .error e
    | .ok unitVar =>
      match update ctx unitVar with
      | .ok ctx' => loadFrom literalEval ctx' values
      | .error e => .error e

/-- `PackageContext.load_from_db(uuid)`, given the values its query yields. -/
def loadFromDb (literalEval : String → Except PyExc (Literal K V)) (values : List (Option String)) :
    Except PyExc (List (K × V)) :=
  loadFrom literalEval [] values

/-- A stored value `load_from_db` gets past: one that evaluates to a dict, or that
    `literal_eval` rejects with an exception the loop catches. -/
def Loadable (literalEval : String → Except PyExc (Literal K V)) (value : Option String) : Prop :=
  match literalEvalValue literalEval value with
  | .ok (.dict _) => True
  | .ok (.other _) => False
  | .error e => caughtByLoad e = true

/-- The dicts among the stored values, in order. -/
def dictsOf (literalEval : String → Except PyExc (Literal K V)) : List (Option String) → List (List (K × V))
  | [] => []
  | value :: values =>
    match literalEvalValue literalEval value with
    | .ok (.dict items) => items :: dictsOf literalEval values
    | _ => dictsOf literalEval values

variable (literalEval : String → Except PyExc (Literal K V))

/-- The loop returns exactly when every value is loadable, and then it has applied
    `update` for the dicts, in order. -/
theorem loadFrom_ok_iff (ctx : List (K × V)) (values : List (Option String)) (res : List (K × V)) :
    loadFrom literalEval ctx values = .ok res ↔
      (∀ v ∈ values, Loadable literalEval v) ∧
        res = (dictsOf literalEval values).foldl
          (fun d items => items.foldl (fun d kv => setItem d kv.1 kv.2) d) ctx := by
  induction values generalizing ctx with
  | nil => simp [loadFrom, dictsOf, eq_comm]
  | cons value values ih =>
    simp only [loadFrom, dictsOf, List.forall_mem_cons]
    rcases h : literalEvalValue literalEval value with e | (items | typeName)
    · have hv : Loadable literalEval value ↔ caughtByLoad e = true := by rw [Loadable, h]
      cases he : caughtByLoad e <;> simp [hv, he, ih]
    · have hv : Loadable literalEval value := by rw [Loadable, h]; trivial
      simp [hv, update, ih]
    · have hv : ¬ Loadable literalEval value := by rw [Loadable, h]; exact id
      simp [hv, update]

/-- `load_from_db` returns normally exactly when every stored value is a dict or is
    rejected with `ValueError` or `SyntaxError`; its context is then the dicts applied by
    `update` in the order the query yields them. -/
theorem loadFromDb_ok_iff (values : List (Option String)) (res : List (K × V)) :
    loadFromDb literalEval values = .ok res ↔
      (∀ v ∈ values, Loadable literalEval v) ∧
        res = (dictsOf literalEval values).foldl
          (fun d items => items.foldl (fun d kv => setItem d kv.1 kv.2) d) [] :=
  loadFrom_ok_iff literalEval [] values res

end Context

/-- A stored list literal stops the reload: `literal_eval` returns the list, which
    `update` cannot take `items()` of; a dict literal with a list for a key stops it too,
    in `literal_eval` itself. Neither exception is caught. -/
theorem loadFromDb_raises_on_non_dict {K V : Type} [DecidableEq K]
    (literalEval : String → Except PyExc (Literal K V))
    (hlist : literalEval "[]" = .ok (.other "list"))
    (hkey : literalEval "{[]: 1}" = .error (.typeError "unhashable type: 'list'")) :
    loadFromDb literalEval [some "[]"] =
        .error (.attributeError "'list' object has no attribute 'items'") ∧
      loadFromDb literalEval [some "{[]: 1}"] = .error (.typeError "unhashable type: 'list'") := by
  simp [loadFromDb, loadFrom, literalEvalValue, hlist, hkey, update, caughtByLoad]

/-- A `literal_eval` that agrees with CPython's on the two stored values above and rejects
    every other text. -/
def PackageContext.literalEvalSample (s : String) : Except PyExc (Literal String String) :=
  if s = "[]" then .ok (.other "list")
  else if s = "{[]: 1}" then .error (.typeError "unhashable type: 'list'")
  else .error (.syntaxError "invalid syntax")

theorem loadFromDb_raises_on_non_dict_sample :
    (PackageContext.literalEvalSample "[]" = .ok (.other "list") ∧
      PackageContext.literalEvalSample "{[]: 1}" = .error (.typeError "unhashable type: 'list'")) ∧
    loadFromDb PackageContext.literalEvalSample [some "[]"] =
        .error (.attributeError "'list' object has no attribute 'items'") ∧
      loadFromDb PackageContext.literalEvalSample [some "{[]: 1}"] =
        .error (.typeError "unhashable type: 'list'") :=
  ⟨⟨rfl, rfl⟩, loadFromDb_raises_on_non_dict _ rfl rfl⟩

end A3m.Server
