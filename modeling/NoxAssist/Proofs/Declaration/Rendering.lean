import NoxAssist.Proofs.Declaration.Pieces
import NoxAssist.Proofs.Declaration.Quotation

/-!
# Rendered declarations are read back

Every declaration that the scan reports is `WellFormed`: its parameters are trimmed, free of commas
and end in a name. The rendered form of a well-formed declaration is a header of that declaration
(`WellFormed.isCore_rendered`), so rendered lines are read back as the declarations they show.
-/

namespace NoxAssist.Declaration
open Text

structure IsParameter (piece : List Char) : Prop where
  single : ',' ∉ piece
  named : Named piece
  trimmed : trim piece = piece

theorem IsParameter.splitParameters {piece : List Char} (isParameter : IsParameter piece) :
    splitParameters piece = [String.ofList piece] := by
  have nonempty := isParameter.named.trim_ne_nil
  rw [isParameter.trimmed] at nonempty
  simp [Declaration.splitParameters, List.splitOn_eq_singleton isParameter.single,
    isParameter.trimmed, nonempty]

theorem isParameter_of_mem {list : List Char} (accepted : isParameterList list = true)
    {parameter : String} (member : parameter ∈ splitParameters list) :
    IsParameter parameter.toList := by
  obtain ⟨trimmed, member, kept⟩ := List.mem_filterMap.mp member
  obtain ⟨piece, listed, rfl⟩ := List.mem_map.mp member
  split at kept
  · cases kept
  rename_i nonempty
  obtain rfl := Option.some.inj kept
  rw [String.toList_ofList]
  refine ⟨fun comma => not_mem_piece listed (mem_of_mem_trim comma), ?_, trim_trim piece⟩
  rcases named_or_blank accepted piece listed with named | blank
  · exact named_trim.mpr named
  · rw [trim_eq_nil blank] at nonempty
    exact absurd rfl nonempty

theorem listed_again {pieces : List (List Char)} (each : ∀ piece ∈ pieces, IsParameter piece) :
    isParameterList ([',', ' '].intercalate pieces) = true ∧
      splitParameters ([',', ' '].intercalate pieces) = pieces.map String.ofList := by
  induction pieces with
  | nil => exact ⟨rfl, rfl⟩
  | cons piece pieces ih =>
    obtain ⟨first, others⟩ := List.forall_mem_cons.mp each
    obtain ⟨accepted, split⟩ := ih others
    cases pieces with
    | nil =>
      rw [List.intercalate_singleton]
      exact ⟨first.named.isParameterList, first.splitParameters⟩
    | cons second pieces =>
      have space : Run isBlank [' '] := by simp [Run, show isBlank ' ' = true from rfl]
      have shape : [',', ' '].intercalate (piece :: second :: pieces) =
          piece ++ ',' :: ([' '] ++ [',', ' '].intercalate (second :: pieces)) := by
        rw [List.intercalate_cons_cons, List.append_assoc]
        rfl
      rw [shape, isParameterList_comma, isParameterList_append space,
        splitParameters_comma first.single, splitParameters_append space, split,
        first.splitParameters]
      exact ⟨⟨first.named, accepted⟩, rfl⟩

structure WellFormed (d : Declaration) : Prop where
  type : Word Char.isLower d.returnType.toList
  name : Word isNameChar d.name.toList
  parameters : ∀ parameter ∈ d.parameters, IsParameter parameter.toList

theorem IsCore.wellFormed {captures : Captures} {core : List Char} (isCore : IsCore captures core) :
    captures.declaration.WellFormed := by
  obtain ⟨gap, trail, lead, lower, -, word, -, -, items, -⟩ := isCore
  have accepted : isParameterList captures.list = true :=
    isParameterList_iff.mpr ⟨[], captures.list, Run.nil _, items, rfl⟩
  refine ⟨?_, ?_, fun parameter member => isParameter_of_mem accepted member⟩
  · simpa [Captures.declaration] using lower
  · simpa [Captures.declaration] using word

theorem wellFormed_of_mem_scanFrom {armed : Bool} {script : List Char} :
    ∀ d ∈ scanFrom armed script, d.WellFormed := by
  fun_induction scanFrom armed script with
  | case1 armed =>
    intro d member
    cases member
  | case2 armed c script now d rest found ih =>
    obtain ⟨captures, core, isCore, -, rfl⟩ := header?_eq_some_iff.mp found
    exact List.forall_mem_cons.mpr ⟨isCore.wellFormed, ih⟩
  | case3 armed c script now missing ih => exact ih
  | case4 armed c script other ih => exact ih

theorem toList_rendered (d : Declaration) :
    d.rendered.toList = d.returnType.toList ++ ([' '] ++ (d.name.toList ++ ([' '] ++
      '(' :: ([',', ' '].intercalate (d.parameters.map String.toList) ++ [')'])))) := by
  simp [rendered, String.toList_intercalate]

theorem WellFormed.isCore_rendered {d : Declaration} (wellFormed : d.WellFormed) :
    ∃ captures, IsCore captures d.rendered.toList ∧ captures.declaration = d := by
  have each : ∀ piece ∈ d.parameters.map String.toList, IsParameter piece :=
    List.forall_mem_map.mpr wellFormed.parameters
  obtain ⟨accepted, split⟩ := listed_again each
  obtain ⟨lead, list, blank, items, whole⟩ := isParameterList_iff.mp accepted
  have space : Word isBlank [' '] := ⟨by simp, by simp [Run, show isBlank ' ' = true from rfl]⟩
  refine ⟨⟨d.returnType.toList, d.name.toList, list⟩, ⟨[' '], [' '], lead, wellFormed.type, space,
    wellFormed.name, space.2, blank, items, ?_⟩, ?_⟩
  · rw [toList_rendered, whole]
  · rw [whole, splitParameters_append blank, List.map_map] at split
    simp [Captures.declaration, split, Function.comp_def]

theorem WellFormed.scanFrom_rendered {d : Declaration} (wellFormed : d.WellFormed)
    (rest : List Char) : scanFrom true (d.rendered.toList ++ rest) = d :: scanFrom false rest := by
  obtain ⟨captures, isCore, same⟩ := wellFormed.isCore_rendered
  have found := header?_of_isCore isCore rest
  rw [same] at found
  exact scanFrom_of_header? found

theorem scanFrom_rendered_lines {ds : List Declaration} (each : ∀ d ∈ ds, d.WellFormed) :
    scanFrom true (['\n'].intercalate (ds.map (·.rendered.toList))) = ds := by
  induction ds with
  | nil => simp [scanFrom]
  | cons d ds ih =>
    obtain ⟨first, others⟩ := List.forall_mem_cons.mp each
    cases ds with
    | nil => simpa [scanFrom] using first.scanFrom_rendered []
    | cons second ds =>
      have later := ih others
      rw [List.map_cons] at later ⊢
      rw [List.map_cons, List.intercalate_cons_cons, List.append_assoc, first.scanFrom_rendered,
        List.singleton_append, scanFrom_newline, later]

theorem scan_rendered (text : String) :
    scan ("\n".intercalate ((scan text).map rendered)) = scan text ∧
      ∀ d ∈ scan text, scan d.rendered = [d] := by
  have wellFormed : ∀ d ∈ scan text, d.WellFormed := wellFormed_of_mem_scanFrom
  constructor
  · have chars : ("\n".intercalate ((scan text).map rendered)).toList =
        ['\n'].intercalate ((scan text).map (·.rendered.toList)) := by
      simp [String.toList_intercalate, Function.comp_def]
    rw [scan, chars, scanFrom_rendered_lines wellFormed]
  · intro d member
    have single := scanFrom_rendered_lines (List.forall_mem_singleton.mpr (wellFormed d member))
    simpa [scan] using single

theorem scan_rendered_two_lines :
    let f : Declaration := ⟨"int", "f", ["int\n a", "b\u00a0c1d\te"]⟩
    let g : Declaration := ⟨"void", "g", []⟩
    scan "int\nf (int\n a ,b\u00a0c1d\te,\x0b)\n\tvoid g( )" = [f, g] ∧
      scan ("\n".intercalate [f.rendered, g.rendered]) = [f, g] ∧ scan f.rendered = [f] := by
  intro f g
  have reported : scan "int\nf (int\n a ,b\u00a0c1d\te,\x0b)\n\tvoid g( )" = [f, g] := by
    decide +kernel
  obtain ⟨lines, each⟩ := scan_rendered "int\nf (int\n a ,b\u00a0c1d\te,\x0b)\n\tvoid g( )"
  rw [reported] at lines each
  exact ⟨reported, lines, each f List.mem_cons_self⟩

end NoxAssist.Declaration
