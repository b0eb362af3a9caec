import Mathlib.Data.List.Induction
import Mathlib.Data.List.Nodup
import NoxAssist.Proofs.Builtin.Registry

namespace NoxAssist.Registry
open Text

def IsVisible (name : String) : Prop :=
  ∃ c ∈ name.toList, isBlank c = false

structure WellNamed (builtins : List Builtin) : Prop where
  visible : ∀ b ∈ builtins, IsVisible b.name
  distinct : (builtins.map Builtin.name).Nodup

inductive FirstFault : List Builtin → NameFault → Prop
  | blank {front back : List Builtin} {b : Builtin} (before : WellNamed front)
      (blank : ¬ IsVisible b.name) : FirstFault (front ++ b :: back) (.blank front.length)
  | repeated {front back : List Builtin} {b : Builtin} (before : WellNamed front)
      (visible : IsVisible b.name) (earlier : b.name ∈ front.map Builtin.name) :
      FirstFault (front ++ b :: back) (.repeated b.name)

theorem isAllBlank_iff (name : String) : isAllBlank name = true ↔ ¬ IsVisible name := by
  simp [isAllBlank, IsVisible]

theorem wellNamed_nil : WellNamed [] :=
  ⟨nofun, List.nodup_nil⟩

theorem wellNamed_snoc {front : List Builtin} {b : Builtin} :
    WellNamed (front ++ [b]) ↔
      WellNamed front ∧ IsVisible b.name ∧ b.name ∉ front.map Builtin.name := by
  constructor
  · rintro ⟨visible, distinct⟩
    rw [List.map_append, List.map_singleton, ← List.concat_eq_append, List.nodup_concat] at distinct
    refine ⟨⟨fun a member => ?_, distinct.2⟩, ?_, distinct.1⟩
    · exact visible a (List.mem_append_left _ member)
    · exact visible b (List.mem_append_right _ (List.mem_singleton_self b))
  · rintro ⟨⟨visible, distinct⟩, last, fresh⟩
    refine ⟨fun a member => ?_, ?_⟩
    · rcases List.mem_append.mp member with earlier | here
      · exact visible a earlier
      · exact List.mem_singleton.mp here ▸ last
    · rw [List.map_append, List.map_singleton, ← List.concat_eq_append, List.nodup_concat]
      exact ⟨fresh, distinct⟩

theorem FirstFault.append {front : List Builtin} {fault : NameFault} (first : FirstFault front fault)
    (more : List Builtin) : FirstFault (front ++ more) fault := by
  cases first with
  | blank before blank =>
    rw [List.append_assoc, List.cons_append]
    exact .blank before blank
  | repeated before visible earlier =>
    rw [List.append_assoc, List.cons_append]
    exact .repeated before visible earlier

theorem wellNamed_or_firstFault (builtins : List Builtin) :
    WellNamed builtins ∨ ∃ fault, FirstFault builtins fault := by
  induction builtins using List.reverseRecOn with
  | nil => exact .inl wellNamed_nil
  | append_singleton front b ih =>
    rcases ih with before | ⟨fault, first⟩
    · by_cases visible : IsVisible b.name
      · by_cases earlier : b.name ∈ front.map Builtin.name
        · exact .inr ⟨_, .repeated before visible earlier⟩
        · exact .inl (wellNamed_snoc.mpr ⟨before, visible, earlier⟩)
      · exact .inr ⟨_, .blank before visible⟩
    · exact .inr ⟨fault, first.append [b]⟩

theorem Indexed.contains_iff {r : Registry} (indexed : Indexed r) (name : String) :
    r.contains name = true ↔ name ∈ r.toList.map Builtin.name := by
  simp [indexed.contains_eq, Named]

section Add
variable {r : Registry} {b : Builtin}

theorem add_of_not_visible (blank : ¬ IsVisible b.name) :
    r.add b = .error (.blank r.toList.length) := by
  rw [add, if_pos ((isAllBlank_iff b.name).mpr blank)]
  rfl

theorem add_of_mem (indexed : Indexed r) (visible : IsVisible b.name)
    (earlier : b.name ∈ r.toList.map Builtin.name) : r.add b = .error (.repeated b.name) := by
  have taken : r.places.contains b.name = true := (indexed.contains_iff b.name).mpr earlier
  rw [add, if_neg (by simpa [isAllBlank_iff] using visible), if_pos taken]

theorem exists_add_eq_ok (indexed : Indexed r) (visible : IsVisible b.name)
    (fresh : b.name ∉ r.toList.map Builtin.name) : ∃ r', r.add b = .ok r' := by
  have free : ¬ r.places.contains b.name = true := fresh ∘ (indexed.contains_iff b.name).mp
  rw [add, if_neg (by simpa [isAllBlank_iff] using visible), if_neg free]
  exact ⟨_, rfl⟩

end Add

theorem ofList_append {front : List Builtin} {r : Registry} (built : ofList front = .ok r)
    (back : List Builtin) : ofList (front ++ back) = back.foldlM add r := by
  rw [ofList, List.foldlM_append, ← ofList, built]
  rfl

theorem WellNamed.ofList {builtins : List Builtin} (named : WellNamed builtins) :
    ∃ r, ofList builtins = .ok r := by
  induction builtins using List.reverseRecOn with
  | nil => exact ⟨empty, rfl⟩
  | append_singleton front b ih =>
    obtain ⟨before, visible, fresh⟩ := wellNamed_snoc.mp named
    obtain ⟨r, built⟩ := ih before
    obtain ⟨indexed, listed⟩ := indexed_of_ofList built
    obtain ⟨r', added⟩ := exists_add_eq_ok indexed visible (listed ▸ fresh)
    refine ⟨r', ?_⟩
    rw [ofList_append built, List.foldlM_cons, added]
    rfl

theorem FirstFault.ofList {builtins : List Builtin} {fault : NameFault}
    (first : FirstFault builtins fault) : ofList builtins = .error fault := by
  cases first with
  | blank before blank =>
    obtain ⟨r, built⟩ := before.ofList
    obtain ⟨-, rfl⟩ := indexed_of_ofList built
    rw [ofList_append built, List.foldlM_cons, add_of_not_visible blank]
    rfl
  | repeated before visible earlier =>
    obtain ⟨r, built⟩ := before.ofList
    obtain ⟨indexed, rfl⟩ := indexed_of_ofList built
    rw [ofList_append built, List.foldlM_cons, add_of_mem indexed visible earlier]
    rfl

theorem ofList_eq_ok_iff (builtins : List Builtin) :
    (∃ r, ofList builtins = .ok r) ↔ WellNamed builtins := by
  refine ⟨?_, WellNamed.ofList⟩
  rintro ⟨r, built⟩
  rcases wellNamed_or_firstFault builtins with named | ⟨fault, first⟩
  · exact named
  · rw [first.ofList] at built
    cases built

theorem ofList_eq_error_iff (builtins : List Builtin) (fault : NameFault) :
    ofList builtins = .error fault ↔ FirstFault builtins fault := by
  refine ⟨?_, FirstFault.ofList⟩
  intro failed
  rcases wellNamed_or_firstFault builtins with named | ⟨fault', first⟩
  · obtain ⟨r, built⟩ := named.ofList
    rw [built] at failed
    cases failed
  · rw [first.ofList] at failed
    cases failed
    exact first

theorem find?_named {builtins : List Builtin} (distinct : (builtins.map Builtin.name).Nodup)
    (name : String) (b : Builtin) :
    builtins.find? (Named name) = some b ↔ b ∈ builtins ∧ b.name = name := by
  constructor
  · intro found
    exact ⟨List.mem_of_find?_eq_some found, by simpa [Named] using List.find?_some found⟩
  · rintro ⟨member, rfl⟩
    have named : (builtins.find? (Named b.name)).isSome = true := by
      rw [List.find?_isSome]
      exact ⟨b, member, by simp [Named]⟩
    obtain ⟨a, found⟩ := Option.isSome_iff_exists.mp named
    have same : a.name = b.name := by simpa [Named] using List.find?_some found
    rw [found, List.inj_on_of_nodup_map distinct (List.mem_of_find?_eq_some found) member same]

theorem Indexed.name_of_place {r : Registry} (indexed : Indexed r) {name : String} {place : Nat}
    (found : r.places[name]? = some place) : ∃ b, r.entries[place]? = some b ∧ b.name = name := by
  rw [indexed name, List.findIdx?_eq_some_iff_getElem] at found
  obtain ⟨bound, named, -⟩ := found
  refine ⟨r.toList[place], ?_, by simpa [Named] using named⟩
  rw [← Array.getElem?_toList, ← toList]
  exact List.getElem?_eq_getElem bound

/-- The lists that make a registry are those with visible and distinct names; such a registry holds
the list as it is and finds every builtin by its name, under a place that it has; and any other list
is refused for its first fault. -/
theorem ofList_exactly (builtins : List Builtin) :
    ((∃ r, ofList builtins = .ok r) ↔ WellNamed builtins) ∧
      (∀ r, ofList builtins = .ok r → r.toList = builtins ∧ ∀ name,
        (r.contains name = true ↔ ∃ b ∈ builtins, b.name = name) ∧
        (∀ b, r.get? name = some b ↔ b ∈ builtins ∧ b.name = name) ∧
        ∀ place, r.places[name]? = some place →
          ∃ b, r.entries[place]? = some b ∧ b.name = name) ∧
      ∀ fault, ofList builtins = .error fault ↔ FirstFault builtins fault := by
  refine ⟨ofList_eq_ok_iff builtins, ?_, ofList_eq_error_iff builtins⟩
  intro r built
  have named := (ofList_eq_ok_iff builtins).mp ⟨r, built⟩
  obtain ⟨indexed, listed⟩ := indexed_of_ofList built
  refine ⟨listed, fun name => ⟨?_, fun b => ?_, fun place => indexed.name_of_place⟩⟩
  · rw [indexed.contains_iff, listed, List.mem_map]
  · rw [indexed.get?_eq, listed, find?_named named.distinct]

theorem ofList_exactly_two_names :
    let go : Builtin := ⟨"Go", "void Go()", "", "", ⟨"Go()", []⟩⟩
    let run : Builtin := ⟨"go", "void go()", "", "", ⟨"go()", []⟩⟩
    let space : Builtin := ⟨"\u2003\t", "void ()", "", "", ⟨"()", []⟩⟩
    (∃ r, ofList [go, run] = .ok r ∧ r.toList = [go, run] ∧ r.contains "go" = true ∧
      r.get? "go" = some run ∧ r.get? "GO" ≠ some go) ∧
    ofList [go, space, go] = .error (.blank 1) ∧
    ofList [go, run, go, space] = .error (.repeated "Go") := by
  intro go run space
  have upper : IsVisible go.name := ⟨'G', by decide, by decide⟩
  have lower : IsVisible run.name := ⟨'g', by decide, by decide⟩
  have blank : ¬ IsVisible space.name := (isAllBlank_iff space.name).mp (by decide)
  have one : WellNamed [go] := wellNamed_snoc.mpr ⟨wellNamed_nil, upper, nofun⟩
  have two : WellNamed [go, run] := wellNamed_snoc.mpr ⟨one, lower, by decide⟩
  obtain ⟨succeeds, found, -⟩ := ofList_exactly [go, run]
  obtain ⟨r, built⟩ := succeeds.mpr two
  obtain ⟨listed, look⟩ := found r built
  refine ⟨⟨r, built, listed, (look "go").1.mpr ⟨run, by decide, rfl⟩,
    ((look "go").2.1 run).mpr ⟨by decide, rfl⟩, ?_⟩, ?_, ?_⟩
  · rw [Ne, (look "GO").2.1 go]
    decide
  · exact ((ofList_exactly [go, space, go]).2.2 (.blank 1)).mpr (.blank one blank)
  · exact ((ofList_exactly [go, run, go, space]).2.2 (.repeated "Go")).mpr
      (.repeated two upper (by decide))

end NoxAssist.Registry
