import Mathlib.Data.List.Basic
import NoxAssist.Builtin.Registry

namespace NoxAssist.Registry

def Named (name : String) (b : Builtin) : Bool :=
  b.name == name

/-- The place of a name is the place of the first builtin with that name. -/
def Indexed (r : Registry) : Prop :=
  ∀ name, r.places[name]? = r.toList.findIdx? (Named name)

theorem indexed_empty : Indexed empty := by
  intro name
  simp [empty, toList]

theorem add_eq_ok {r r' : Registry} {b : Builtin} (added : r.add b = .ok r') :
    r.places.contains b.name = false ∧
      r' = ⟨r.entries.push b, r.places.insert b.name r.entries.size⟩ := by
  unfold add at added
  split at added
  · cases added
  · split at added
    · cases added
    · rename_i fresh
      exact ⟨by simpa using fresh, (Except.ok.inj added).symm⟩

theorem toList_of_add {r r' : Registry} {b : Builtin} (added : r.add b = .ok r') :
    r'.toList = r.toList ++ [b] := by
  obtain ⟨-, rfl⟩ := add_eq_ok added
  simp [toList]

theorem Indexed.add {r r' : Registry} {b : Builtin} (indexed : Indexed r)
    (added : r.add b = .ok r') : Indexed r' := by
  intro name
  obtain ⟨fresh, rfl⟩ := add_eq_ok added
  have absent : r.toList.findIdx? (Named b.name) = none := by
    rw [← indexed b.name]
    simpa using fresh
  have size : r.toList.length = r.entries.size := Array.length_toList
  have last : [b].findIdx? (Named name) = if b.name = name then some 0 else none := by
    simp [Named]
  rw [Std.HashMap.getElem?_insert, toList_of_add added, List.findIdx?_append, last]
  by_cases same : b.name = name
  · subst same
    simp [absent, size]
  · simp [same, indexed name]

theorem indexed_of_foldlM {builtins : List Builtin} {r r' : Registry} (indexed : Indexed r)
    (built : builtins.foldlM Registry.add r = .ok r') :
    Indexed r' ∧ r'.toList = r.toList ++ builtins := by
  induction builtins generalizing r with
  | nil =>
    cases built
    exact ⟨indexed, by simp⟩
  | cons b builtins ih =>
    rw [List.foldlM_cons] at built
    cases added : r.add b with
    | error fault =>
      rw [added] at built
      cases built
    | ok next =>
      rw [added] at built
      obtain ⟨kept, listed⟩ := ih (indexed.add added) built
      refine ⟨kept, ?_⟩
      rw [listed, toList_of_add added, List.append_assoc, List.singleton_append]

theorem indexed_of_ofList {builtins : List Builtin} {r : Registry} (built : ofList builtins = .ok r) :
    Indexed r ∧ r.toList = builtins :=
  indexed_of_foldlM indexed_empty built

theorem Indexed.get?_eq {r : Registry} (indexed : Indexed r) (name : String) :
    r.get? name = r.toList.find? (Named name) := by
  rw [get?, indexed name, List.find?_eq_bind_findIdx?_getElem?]
  simp [toList]

theorem Indexed.contains_eq {r : Registry} (indexed : Indexed r) (name : String) :
    r.contains name = r.toList.any (Named name) := by
  rw [contains, Std.HashMap.contains_eq_isSome_getElem?, indexed name, List.findIdx?_isSome]

end NoxAssist.Registry
