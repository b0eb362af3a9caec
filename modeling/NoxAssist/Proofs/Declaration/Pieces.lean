import Mathlib.Data.List.DropRight
import NoxAssist.Proofs.Declaration.Header

namespace NoxAssist.Declaration
open Text

theorem trim_eq_rdropWhile (chars : List Char) :
    trim chars = (chars.dropWhile isBlank).rdropWhile isBlank := rfl

theorem trim_split (chars : List Char) :
    ∃ trail, Run isBlank trail ∧ chars = chars.takeWhile isBlank ++ (trim chars ++ trail) := by
  refine ⟨(chars.dropWhile isBlank).rtakeWhile isBlank, fun c => List.mem_rtakeWhile_imp, ?_⟩
  rw [trim_eq_rdropWhile, List.rdropWhile_append_rtakeWhile, List.takeWhile_append_dropWhile]

theorem trim_eq_nil {chars : List Char} (blank : Run isBlank chars) : trim chars = [] := by
  rw [trim_eq_rdropWhile, List.dropWhile_eq_nil_iff.mpr blank, List.rdropWhile_nil]

theorem mem_of_mem_trim {chars : List Char} {c : Char} (member : c ∈ trim chars) : c ∈ chars :=
  (List.dropWhile_suffix isBlank).subset ((List.rdropWhile_prefix isBlank _).subset member)

theorem stops_trim (chars : List Char) : Stops isBlank (trim chars) := by
  intro c first
  have front : trim chars <+: chars.dropWhile isBlank := List.rdropWhile_prefix isBlank _
  obtain ⟨rest, shape⟩ := List.head?_eq_some_iff.mp first
  obtain ⟨trail, whole⟩ := shape ▸ front
  have head := List.head?_dropWhile_not isBlank chars
  rw [← whole] at head
  exact head

theorem stops_reverse_trim (chars : List Char) : Stops isBlank (trim chars).reverse := by
  intro c last
  rw [List.head?_reverse] at last
  have nonempty : trim chars ≠ [] := by
    intro empty
    rw [empty] at last
    cases last
  rw [List.getLast?_eq_some_getLast nonempty] at last
  obtain rfl := Option.some.inj last
  exact Bool.eq_false_iff.mpr (List.rdropWhile_last_not isBlank (chars.dropWhile isBlank) nonempty)

theorem dropWhile_trim (chars : List Char) : (trim chars).dropWhile isBlank = trim chars :=
  dropWhile_run (Run.nil isBlank) (stops_trim chars)

theorem trim_trim (chars : List Char) : trim (trim chars) = trim chars := by
  rw [trim_eq_rdropWhile (trim chars), dropWhile_trim]
  exact List.rdropWhile_idempotent isBlank _

def reading (list : List Char) : Reading :=
  list.foldl Reading.next Reading.start

namespace Reading

def isNamed (r : Reading) : Bool :=
  r.name || r.trail

def dead : Reading :=
  ⟨false, false, false, false, false⟩

theorem next_start {c : Char} (blank : isBlank c = true) : start.next c = start := by
  simp [start, next, blank, isLower_of_isBlank blank]

theorem isNamed_next {c : Char} (blank : isBlank c = true) (r : Reading) :
    (r.next c).isNamed = r.isNamed := by
  simp [isNamed, next, blank, isNameChar_of_isBlank blank]

theorem next_comma (r : Reading) : r.next ',' = if r.isNamed then start else dead := by
  have chars : isBlank ',' = false ∧ Char.isLower ',' = false ∧ isNameChar ',' = false := by decide
  cases named : r.isNamed with
  | false => simp_all [isNamed, next, dead]
  | true => simp_all [isNamed, next, start]

theorem foldl_dead (list : List Char) : list.foldl next dead = dead := by
  induction list with
  | nil => rfl
  | cons c list ih => exact ih

end Reading

def Named (piece : List Char) : Prop :=
  (reading piece).isNamed = true

theorem reading_append {lead : List Char} (blank : Run isBlank lead) (list : List Char) :
    reading (lead ++ list) = reading list := by
  induction lead with
  | nil => rfl
  | cons c lead ih =>
    rw [← ih fun d member => blank d (List.mem_cons_of_mem _ member), reading, List.cons_append,
      List.foldl_cons, Reading.next_start (blank c List.mem_cons_self)]
    rfl

theorem named_append {piece trail : List Char} (blank : Run isBlank trail) :
    Named (piece ++ trail) ↔ Named piece := by
  induction trail using List.reverseRecOn with
  | nil => rw [List.append_nil]
  | append_singleton trail c ih =>
    obtain ⟨earlier, last⟩ := run_append.mp blank
    rw [← ih earlier, Named, Named, ← List.append_assoc, reading, List.foldl_append]
    exact Bool.eq_iff_iff.mp (Reading.isNamed_next (last c List.mem_cons_self) _)

theorem named_trim {piece : List Char} : Named (trim piece) ↔ Named piece := by
  obtain ⟨trail, blank, split⟩ := trim_split piece
  have lead : Run isBlank (piece.takeWhile isBlank) := fun c => List.mem_takeWhile_imp
  rw [← named_append blank, Named, ← reading_append lead, ← split]
  rfl

theorem Named.trim_ne_nil {piece : List Char} (named : Named piece) : trim piece ≠ [] := by
  intro empty
  rw [← named_trim, empty] at named
  cases named

theorem isParameterList_comma (piece rest : List Char) :
    isParameterList (piece ++ ',' :: rest) = true ↔ Named piece ∧ isParameterList rest = true := by
  rw [isParameterList, List.foldl_append, List.foldl_cons, Reading.next_comma]
  show Reading.isComplete (rest.foldl _ (if (reading piece).isNamed = true then _ else _)) = true ↔ _
  by_cases named : (reading piece).isNamed = true
  · rw [if_pos named]
    exact ⟨fun accepted => ⟨named, accepted⟩, fun both => both.2⟩
  · rw [if_neg named, Reading.foldl_dead]
    exact ⟨nofun, fun both => absurd both.1 named⟩

theorem isParameterList_eq (list : List Char) :
    isParameterList list = ((reading list).fresh || (reading list).isNamed) :=
  Bool.or_assoc _ _ _

theorem isParameterList_append {lead : List Char} (blank : Run isBlank lead) (list : List Char) :
    isParameterList (lead ++ list) = isParameterList list := by
  rw [isParameterList_eq, reading_append blank, isParameterList_eq]

theorem Named.isParameterList {piece : List Char} (named : Named piece) :
    isParameterList piece = true := by
  rw [isParameterList_eq, show (reading piece).isNamed = true from named, Bool.or_true]

theorem named_or_blank_of_not_mem {piece : List Char} (accepted : isParameterList piece = true)
    (single : ',' ∉ piece) : Named piece ∨ Run isBlank piece := by
  rw [isParameterList_eq, Bool.or_eq_true] at accepted
  rcases accepted with fresh | named
  · rcases (describes_foldl piece).fresh.mp fresh with blank | ⟨front, rest, -, -, rfl⟩
    · exact Or.inr blank
    · exact absurd (List.mem_append_right _ List.mem_cons_self) single
  · exact Or.inl named

@[elab_as_elim]
theorem comma_induction {P : List Char → Prop} (single : ∀ piece, ',' ∉ piece → P piece)
    (more : ∀ piece rest, ',' ∉ piece → P rest → P (piece ++ ',' :: rest)) (list : List Char) :
    P list := by
  by_cases divided : ',' ∈ list
  · obtain ⟨piece, rest, shape, free⟩ := List.eq_append_cons_of_mem divided
    have shorter : rest.length < list.length := by simp [shape]; omega
    rw [shape]
    exact more piece rest free (comma_induction single more rest)
  · exact single list divided
termination_by list.length

theorem not_mem_piece {list piece : List Char} (member : piece ∈ list.splitOn ',') : ',' ∉ piece := by
  induction list using comma_induction with
  | single only free =>
    rw [List.splitOn_eq_singleton free, List.mem_singleton] at member
    exact member ▸ free
  | more first rest free ih =>
    rw [List.splitOn_append_cons_self_of_not_mem free] at member
    rcases List.mem_cons.mp member with rfl | later
    · exact free
    · exact ih later

theorem named_or_blank {list : List Char} (accepted : isParameterList list = true) :
    ∀ piece ∈ list.splitOn ',', Named piece ∨ Run isBlank piece := by
  induction list using comma_induction with
  | single only free =>
    rw [List.splitOn_eq_singleton free]
    exact List.forall_mem_singleton.mpr (named_or_blank_of_not_mem accepted free)
  | more first rest free ih =>
    obtain ⟨named, accepted⟩ := (isParameterList_comma first rest).mp accepted
    rw [List.splitOn_append_cons_self_of_not_mem free]
    exact List.forall_mem_cons.mpr ⟨Or.inl named, ih accepted⟩

theorem named_of_mem_dropLast {list : List Char} (accepted : isParameterList list = true) :
    ∀ piece ∈ (list.splitOn ',').dropLast, Named piece := by
  induction list using comma_induction with
  | single only free =>
    rw [List.splitOn_eq_singleton free]
    exact nofun
  | more first rest free ih =>
    obtain ⟨named, accepted⟩ := (isParameterList_comma first rest).mp accepted
    rw [List.splitOn_append_cons_self_of_not_mem free,
      List.dropLast_cons_of_ne_nil (List.splitOn_ne_nil _ _)]
    exact List.forall_mem_cons.mpr ⟨named, ih accepted⟩

/-- What a piece adds to the parameters: nothing if it is blank, and otherwise what stands between the
white space at its ends. -/
inductive Gives : List Char → List String → Prop
  | nothing {piece : List Char} (blank : Run isBlank piece) : Gives piece []
  | parameter {lead kept trail : List Char} (leading : Run isBlank lead)
      (trailing : Run isBlank trail) (nonempty : kept ≠ []) (begins : Stops isBlank kept)
      (ends : Stops isBlank kept.reverse) : Gives (lead ++ (kept ++ trail)) [String.ofList kept]

inductive Lists : List Char → List String → Prop
  | last {piece : List Char} {parameters : List String} (single : ',' ∉ piece)
      (gives : Gives piece parameters) : Lists piece parameters
  | cons {piece rest : List Char} {first others : List String} (single : ',' ∉ piece)
      (gives : Gives piece first) (more : Lists rest others) :
      Lists (piece ++ ',' :: rest) (first ++ others)

theorem trim_append {lead kept trail : List Char} (leading : Run isBlank lead)
    (trailing : Run isBlank trail) (nonempty : kept ≠ []) (begins : Stops isBlank kept)
    (ends : Stops isBlank kept.reverse) : trim (lead ++ (kept ++ trail)) = kept := by
  have first : Stops isBlank (kept ++ trail) := by
    rw [Stops, List.head?_append_of_ne_nil _ nonempty]
    exact begins
  have behind : Run isBlank trail.reverse := fun c member => trailing c (List.mem_reverse.mp member)
  rw [trim, dropWhile_run leading first, List.reverse_append, dropWhile_run behind ends,
    List.reverse_reverse]

theorem splitParameters_comma {piece : List Char} (single : ',' ∉ piece) (rest : List Char) :
    splitParameters (piece ++ ',' :: rest) = splitParameters piece ++ splitParameters rest := by
  unfold splitParameters
  rw [List.splitOn_append_cons_self_of_not_mem single, List.splitOn_eq_singleton single,
    ← List.singleton_append, List.map_append, List.filterMap_append]

theorem splitParameters_piece {piece : List Char} (single : ',' ∉ piece) :
    splitParameters piece = if trim piece = [] then [] else [String.ofList (trim piece)] := by
  rw [splitParameters, List.splitOn_eq_singleton single]
  by_cases blank : trim piece = [] <;> simp [blank]

theorem gives_iff {piece : List Char} {parameters : List String} (single : ',' ∉ piece) :
    Gives piece parameters ↔ parameters = splitParameters piece := by
  rw [splitParameters_piece single]
  constructor
  · intro gives
    cases gives with
    | nothing blank => rw [if_pos (trim_eq_nil blank)]
    | parameter leading trailing nonempty begins ends =>
      rw [trim_append leading trailing nonempty begins ends, if_neg nonempty]
  · rintro rfl
    obtain ⟨trail, trailing, whole⟩ := trim_split piece
    have leading : Run isBlank (piece.takeWhile isBlank) := fun c => List.mem_takeWhile_imp
    split
    · rename_i empty
      rw [empty, List.nil_append] at whole
      exact .nothing (whole ▸ run_append.mpr ⟨leading, trailing⟩)
    · rename_i nonempty
      have gives := Gives.parameter leading trailing nonempty (stops_trim piece)
        (stops_reverse_trim piece)
      rwa [← whole] at gives

theorem lists_iff {list : List Char} {parameters : List String} :
    Lists list parameters ↔ parameters = splitParameters list := by
  constructor
  · intro lists
    induction lists with
    | last single gives => exact (gives_iff single).mp gives
    | cons single gives _ ih => rw [splitParameters_comma single, (gives_iff single).mp gives, ih]
  · rintro rfl
    induction list using comma_induction with
    | single piece single => exact .last single ((gives_iff single).mpr rfl)
    | more piece rest single ih =>
      rw [splitParameters_comma single]
      exact .cons single ((gives_iff single).mpr rfl) ih

end NoxAssist.Declaration
