/-
  A3m.Main.Models

  The `File` rows of `a3m/main/models.py` as the scripts read them, and the queryset
  operations they use on them: `filter` is a list filter in the table's order, and `get`
  raises `DoesNotExist` when no row matches and `MultipleObjectsReturned` when more than
  one does. `startswith` compares as Python does; `iendswith` folds ASCII case, as SQLite's
  `LIKE` does. `sorted(rows, key=lambda f: f.currentlocation)` is a stable insertion sort
  on Python's order of `str`, so its first element is a row with the least location
  (`head_sortByLocation`).
-/
import A3m.Python.Builtins
import Mathlib.Data.List.Sort

namespace A3m.Main

open A3m.Python

/-- A row of `Files`: the primary key `uuid`, the foreign keys `sip` and `transfer` (`none`
    for null), `originallocation`, `currentlocation` and `filegrpuse`. -/
structure File where
  uuid : String
  sip : Option String
  transfer : Option String
  originallocation : String
  currentlocation : String
  filegrpuse : String
  deriving DecidableEq, Repr

/-- `Model.objects.get(...)`, given the rows that match its lookups. -/
def objectsGet {α : Type} (model : String) : List α → Except PyExc α
  | [row] => .ok row
  | [] => .error (.doesNotExist model)
  | _ :: _ :: _ => .error (.multipleObjectsReturned model)

/-- The `__iendswith` lookup. -/
def iendswith (s suf : String) : Bool := Str.endswith (Str.lower s) (Str.lower suf)

/-- The `__startswith` lookup on SQLite, where it is a `LIKE`, which folds ASCII case: the
    same test as `__istartswith`. -/
def startswith (s pre : String) : Bool := Str.startswith (Str.lower s) (Str.lower pre)

/-- `f.currentlocation <= g.currentlocation`. -/
def File.locationLe (f g : File) : Prop := strLe f.currentlocation.data g.currentlocation.data

instance : DecidableRel File.locationLe := fun _ _ => inferInstanceAs (Decidable (_ = true))

instance : IsTotal File File.locationLe := ⟨fun _ _ => strLe_total _ _⟩

instance : IsTrans File File.locationLe := ⟨fun _ _ _ => strLe_trans⟩

/-- `sorted(rows, key=lambda f: f.currentlocation)`. -/
def sortByLocation (rows : List File) : List File := rows.insertionSort File.locationLe

/-- The first row of the sorted list is one of the rows, and its location is least. -/
theorem head_sortByLocation {rows : List File} {f : File}
    (h : (sortByLocation rows).head? = some f) :
    f ∈ rows ∧ ∀ g ∈ rows, File.locationLe f g := by
  have hperm := List.perm_insertionSort File.locationLe rows
  have hsorted := List.sorted_insertionSort File.locationLe rows
  unfold sortByLocation at h
  rcases hl : rows.insertionSort File.locationLe with _ | ⟨f', tl⟩
  · simp [hl] at h
  · simp only [hl, List.head?_cons, Option.some.injEq] at h
    subst h
    rw [hl] at hperm hsorted
    refine ⟨hperm.subset (List.mem_cons_self _ _), fun g hg => ?_⟩
    rcases List.mem_cons.1 (hperm.symm.subset hg) with rfl | hg
    · exact (total_of File.locationLe _ _).elim id id
    · exact (List.sorted_cons.1 hsorted).1 g hg

end A3m.Main
