import NoxAssist.Proofs.Declaration.Search
import NoxAssist.Proofs.Text.Bytes

/-!
# No header is lost

A header with no quote before it on its line is missing from the declarations for one reason only: a
header that begins no later is reported and reaches into the line. The scan goes on behind each header
that it reports; as long as these end before the line, the header can still be reached from the line's
start, so one of them does not (`Scans.covers`). `scan_covers` says it for positions in bytes.
-/

namespace NoxAssist.Declaration
open Text

def HeaderAt (text : String) (first past : Nat) (captures : Captures) : Prop :=
  ∃ front core rest, text.toList = front ++ (core ++ rest) ∧ IsCore captures core ∧
    first = width front ∧ past = width front + width core

/-- Byte `line` begins the line of byte `p`, and no quote stands between them. -/
structure PlainTo (text : String) (line p : Nat) : Prop where
  le : line ≤ p
  begins : line = 0 ∨ 0 < line ∧ (bytes text)[line - 1]? = some newline
  single : ∀ i, line ≤ i → i < p → (bytes text)[i]? ≠ some newline
  plain : ∀ i, line ≤ i → i < p → (bytes text)[i]? ≠ some quote

namespace Match

def first (m : Match) (text : String) : Nat :=
  width (text.toList.take m.start)

def past (m : Match) (text : String) : Nat :=
  width (text.toList.take m.stop)

end Match

theorem Scans.covers {script : List Char} {pos : Nat} {ms : List Match} (scans : Scans script pos ms)
    {line start : Nat} (reachable : Candidate script pos line start) :
    ∃ m ∈ ms, m.start ≤ start ∧ line < m.stop := by
  induction scans with
  | done nowhere => exact absurd reachable (nowhere line start)
  | @report pos line' m ms candidate first nearest core rest ih =>
    have earlier : m.start ≤ start := by
      by_contra later
      have before : start ≤ m.start := Nat.le_of_not_le later
      have within : line' ≤ start := (first line start reachable).trans reachable.le
      have plain := candidate.plain
      rw [slice_append within before, List.mem_append, not_or] at plain
      exact later (nearest start ⟨candidate.after, candidate.atLine, within, plain.1, reachable.core⟩)
    rcases Nat.lt_or_ge line m.stop with reaches | ended
    · exact ⟨m, List.mem_cons_self, earlier, reaches⟩
    · obtain ⟨other, member, covers⟩ :=
        ih ⟨ended, reachable.atLine, reachable.le, reachable.plain, reachable.core⟩
      exact ⟨other, List.mem_cons_of_mem m member, covers⟩

theorem width_take_lt {chars : List Char} {i j : Nat} (lt : i < j) (bound : j ≤ chars.length) :
    width (chars.take i) < width (chars.take j) := by
  have inside : i < chars.length := lt.trans_le bound
  have next : width (chars.take (i + 1)) = width (chars.take i) + chars[i].utf8Size := by
    rw [List.take_add_one, List.getElem?_eq_getElem inside, Option.toList_some, width_append]
    rfl
  have positive := chars[i].utf8Size_pos
  have upto := width_take_le chars (show i + 1 ≤ j from lt)
  omega

theorem PlainTo.lineStart {text : String} {line p : Nat} (plain : PlainTo text line p) :
    ∃ index ≤ text.toList.length, LineStart text.toList index ∧
      width (text.toList.take index) = line := by
  rcases plain.begins with rfl | ⟨positive, here⟩
  · exact ⟨0, Nat.zero_le _, .inl rfl, rfl⟩
  · obtain ⟨front, back, split, place⟩ := exists_split_of_ascii here (by decide)
    have taken : text.toList.take (front.length + 1) = front ++ ['\n'] := by
      rw [split, List.take_length_add_append]
      rfl
    refine ⟨front.length + 1, ?_, .inr ⟨Nat.succ_pos _, ?_⟩, ?_⟩
    · rw [split, List.length_append, List.length_cons]
      omega
    · rw [split, Nat.add_sub_cancel, List.getElem?_append_right (Nat.le_refl _), Nat.sub_self]
      rfl
    · rw [taken, width_append, place]
      show line - 1 + 1 = line
      omega

theorem PlainTo.not_mem_slice {text : String} {line p i j : Nat} (plain : PlainTo text line p)
    (le : i ≤ j) (start : width (text.toList.take i) = line) (stop : width (text.toList.take j) = p) :
    '"' ∉ slice text.toList i j := by
  intro quoted
  obtain ⟨before, behind, split⟩ := List.append_of_mem quoted
  have whole : text.toList = text.toList.take i ++ (before ++ '"' :: (behind ++ text.toList.drop j)) := by
    conv_lhs => rw [← List.take_append_drop i text.toList, drop_eq_slice_append le, split]
    simp
  have upto : text.toList.take j = text.toList.take i ++ (before ++ '"' :: behind) := by
    rw [← split]
    exact slice_append (Nat.zero_le i) le
  have place : line + width before < p := by
    rw [← stop, upto, width_append, width_append, width_cons, start]
    have positive := Char.utf8Size_pos '"'
    omega
  refine plain.plain (line + width before) (Nat.le_add_right _ _) place ?_
  have byte : String.utf8EncodeChar '"' = [quote] := by decide
  rw [bytes_eq_encode, whole, encode_append, encode_append, encode_cons, byte, ← start,
    ← length_encode, ← length_encode, List.getElem?_append_right (Nat.le_add_right _ _),
    Nat.add_sub_cancel_left, List.getElem?_append_right (Nat.le_refl _), Nat.sub_self]
  rfl

theorem CoreAt.headerAt {text : String} {m : Match}
    (core : CoreAt text.toList m.start m.stop m.captures) :
    HeaderAt text (m.first text) (m.past text) m.captures := by
  have inside := lt_length_of_coreAt ⟨m.stop, m.captures, core⟩
  obtain ⟨header, isCore, split, stop⟩ := coreAt_iff.mp core
  have upto : text.toList.take m.stop = text.toList.take m.start ++ header := by
    rw [stop, List.take_add, split, List.take_left]
  refine ⟨text.toList.take m.start, header, text.toList.drop m.stop, ?_, isCore, rfl, ?_⟩
  · rw [← split, List.take_append_drop]
  · rw [Match.past, upto, width_append]

theorem HeaderAt.coreAt {text : String} {p past : Nat} {captures : Captures}
    (header : HeaderAt text p past captures) :
    ∃ start stop, CoreAt text.toList start stop captures ∧
      width (text.toList.take start) = p ∧ width (text.toList.take stop) = past := by
  obtain ⟨front, core, rest, split, isCore, rfl, rfl⟩ := header
  have dropped : text.toList.drop front.length = core ++ rest := by rw [split, List.drop_left]
  refine ⟨front.length, front.length + core.length, ?_, ?_, ?_⟩
  · exact coreAt_iff.mpr ⟨core, isCore, by rw [dropped, drop_add_length dropped], rfl⟩
  · rw [split, List.take_left]
  · rw [split, List.take_length_add_append, List.take_left, width_append]

theorem PlainTo.candidate {text : String} {line start stop : Nat} {captures : Captures}
    (plain : PlainTo text line (width (text.toList.take start)))
    (core : CoreAt text.toList start stop captures) :
    ∃ index, Candidate text.toList 0 index start ∧ width (text.toList.take index) = line := by
  obtain ⟨index, bound, atLine, place⟩ := plain.lineStart
  have le : index ≤ start := by
    by_contra beyond
    have wider := width_take_lt (Nat.lt_of_not_le beyond) bound
    rw [place] at wider
    exact absurd plain.le (Nat.not_le_of_lt wider)
  exact ⟨index, ⟨Nat.zero_le _, atLine, le, plain.not_mem_slice le place rfl, _, _, core⟩, place⟩

/-- A header without a quote before it on its line is reported, unless another one is that begins
before it and reaches behind the start of the line. -/
theorem scan_covers (text : String) :
    ∃ ms, Scans text.toList 0 ms ∧ scan text = ms.map (·.captures.declaration) ∧
      ∀ line p past captures, HeaderAt text p past captures → PlainTo text line p →
        ∃ m ∈ ms, HeaderAt text (m.first text) (m.past text) m.captures ∧
          m.first text ≤ p ∧ line < m.past text ∧
          (m.first text = p → m.past text = past ∧ m.captures = captures) := by
  obtain ⟨ms, scans, same⟩ := scans_scanFrom (i := 0) List.drop_zero (reached_start text.toList)
  refine ⟨ms, scans, same, ?_⟩
  intro line p past captures header plain
  obtain ⟨start, stop, core, rfl, rfl⟩ := header.coreAt
  obtain ⟨index, reachable, rfl⟩ := plain.candidate core
  obtain ⟨m, member, earlier, reaches⟩ := scans.covers reachable
  obtain ⟨-, reported⟩ := scans.candidate m member
  refine ⟨m, member, reported.headerAt, width_take_le _ earlier, width_take_lt reaches reported.1, ?_⟩
  intro together
  have here : m.start = start := by
    by_contra apart
    have inside := lt_length_of_coreAt ⟨_, _, core⟩
    have shorter := width_take_lt (Nat.lt_of_le_of_ne earlier apart) inside.le
    exact absurd together (Nat.ne_of_lt shorter)
  rw [here] at reported
  obtain ⟨ends, captured⟩ := reported.unique core
  exact ⟨by rw [Match.past, ends], captured⟩

/-- The header of `f` reaches into the second line, and hides that of `g` which stands there. -/
theorem scan_covers_hidden :
    let text := "int f (int a\n, int b) int g ()"
    HeaderAt text 22 30 ⟨"int".toList, "g".toList, []⟩ ∧ PlainTo text 13 22 ∧
      scan text = [⟨"int", "f", ["int a", "int b"]⟩] ∧
      ∃ m, Scans text.toList 0 [m] ∧ m.first text ≤ 22 ∧ 13 < m.past text := by
  intro text
  have core : IsCore ⟨"int".toList, "g".toList, []⟩ "int g ()".toList := by
    refine ⟨[' '], [' '], [], ⟨by decide, ?_⟩, ⟨by decide, ?_⟩, ⟨by decide, ?_⟩, ?_, .nil _,
      ⟨[], nofun, rfl⟩, by decide⟩
    all_goals exact List.all_eq_true.mp (by decide)
  have header : HeaderAt text 22 30 ⟨"int".toList, "g".toList, []⟩ :=
    ⟨"int f (int a\n, int b) ".toList, _, [], by decide, core, by decide, by decide⟩
  have plain : PlainTo text 13 22 :=
    ⟨by decide, .inr (by decide), by decide, by decide⟩
  have reported : scan text = [⟨"int", "f", ["int a", "int b"]⟩] := by decide +kernel
  obtain ⟨ms, scans, same, covers⟩ := scan_covers text
  obtain ⟨m, rfl, -⟩ := List.map_eq_singleton_iff.mp (same.symm.trans reported)
  obtain ⟨m', member, -, earlier, reaches, -⟩ := covers 13 22 30 _ header plain
  obtain rfl := List.mem_singleton.mp member
  exact ⟨header, plain, reported, m', scans, earlier, reaches⟩

end NoxAssist.Declaration
