import Mathlib.Data.List.Forall2
import Mathlib.Data.Nat.Find
import NoxAssist.Proofs.Declaration.Pieces

/-!
# The search for declarations

A header counts if no double quote stands between it and a line start at or after the place where the
search goes on. Of all line starts from which a header can be reached the first one is taken, then the
first header behind it; the search goes on behind that header. `Scans` says this without an algorithm,
`scans_scanFrom` that the single pass of `scanFrom` does it, and `scan_eq_leftmost` puts the two
together. Positions count characters.
-/

namespace NoxAssist.Declaration
open Text

/-! ## Leftmost headers -/

def slice (script : List Char) (start stop : Nat) : List Char :=
  (script.take stop).drop start

def CoreAt (script : List Char) (start stop : Nat) (captures : Captures) : Prop :=
  stop ≤ script.length ∧ IsCore captures (slice script start stop)

def LineStart (script : List Char) (line : Nat) : Prop :=
  line = 0 ∨ 0 < line ∧ script[line - 1]? = some '\n'

/-- A header at `start` can be reached from a line start at or after `pos` without a quote. -/
structure Candidate (script : List Char) (pos line start : Nat) : Prop where
  after : pos ≤ line
  atLine : LineStart script line
  le : line ≤ start
  plain : '"' ∉ slice script line start
  core : ∃ stop captures, CoreAt script start stop captures

structure Match where
  start : Nat
  stop : Nat
  captures : Captures

def Match.Reports (m : Match) (d : Declaration) : Prop :=
  d.returnType = String.ofList m.captures.type ∧ d.name = String.ofList m.captures.name ∧
    Lists m.captures.list d.parameters

inductive Scans (script : List Char) : Nat → List Match → Prop
  | done {pos : Nat} (nowhere : ∀ line start, ¬ Candidate script pos line start) : Scans script pos []
  | report {pos line : Nat} {m : Match} {ms : List Match}
      (candidate : Candidate script pos line m.start)
      (first : ∀ line' start, Candidate script pos line' start → line ≤ line')
      (nearest : ∀ start, Candidate script pos line start → m.start ≤ start)
      (core : CoreAt script m.start m.stop m.captures)
      (rest : Scans script m.stop ms) : Scans script pos (m :: ms)

def MaximalRun (p : Char → Bool) (front run back : List Char) : Prop :=
  Word p run ∧ (∀ c ∈ front.getLast?, p c = false) ∧ Stops p back

/-! ## Slices -/

theorem drop_eq_slice_append {script : List Char} {start stop : Nat} (le : start ≤ stop) :
    script.drop start = slice script start stop ++ script.drop stop := by
  have rest : script.drop stop = (script.drop start).drop (stop - start) := by
    rw [List.drop_drop]
    congr 1
    omega
  rw [slice, List.drop_take, rest, List.take_append_drop]

theorem slice_append {script : List Char} {a b c : Nat} (ab : a ≤ b) (bc : b ≤ c) :
    slice script a c = slice script a b ++ slice script b c := by
  have inner : (script.take c).take b = script.take b := by
    rw [List.take_take, Nat.min_eq_left bc]
  have split := @drop_eq_slice_append (script.take c) a b ab
  rwa [slice, inner] at split

theorem slice_self (script : List Char) (i : Nat) : slice script i i = [] := by
  rw [slice, List.drop_take, Nat.sub_self, List.take_zero]

theorem slice_length {script run rest : List Char} {i : Nat} (split : script.drop i = run ++ rest) :
    slice script i (i + run.length) = run := by
  rw [slice, List.drop_take, split, Nat.add_sub_cancel_left, List.take_left]

theorem slice_succ {script rest : List Char} {c : Char} {i : Nat} (here : script.drop i = c :: rest) :
    slice script i (i + 1) = [c] :=
  @slice_length script [c] rest i here

theorem drop_add_length {script run rest : List Char} {i : Nat} (split : script.drop i = run ++ rest) :
    script.drop (i + run.length) = rest := by
  rw [← List.drop_drop, split, List.drop_left]

/-! ## Cores at positions -/

theorem IsCore.ne_nil {captures : Captures} {core : List Char} (isCore : IsCore captures core) :
    core ≠ [] := by
  obtain ⟨gap, trail, lead, lower, -, -, -, -, -, rfl⟩ := isCore
  simp [lower.1]

theorem IsCore.extend {captures : Captures} {core front : List Char} (isCore : IsCore captures core)
    (lower : Run Char.isLower front) :
    IsCore { captures with type := front ++ captures.type } (front ++ core) := by
  obtain ⟨gap, trail, lead, type, space, name, blank, leading, items, rfl⟩ := isCore
  refine ⟨gap, trail, lead, ⟨?_, run_append.mpr ⟨lower, type.2⟩⟩, space, name, blank, leading, items, ?_⟩
  · simp [type.1]
  · simp

theorem coreAt_iff {script : List Char} {start stop : Nat} {captures : Captures} :
    CoreAt script start stop captures ↔ ∃ core, IsCore captures core ∧
      script.drop start = core ++ script.drop stop ∧ stop = start + core.length := by
  constructor
  · rintro ⟨bound, isCore⟩
    have positive := List.length_pos_iff.mpr isCore.ne_nil
    have size : (slice script start stop).length = stop - start := by
      rw [slice, List.length_drop, List.length_take, Nat.min_eq_left bound]
    exact ⟨_, isCore, drop_eq_slice_append (by omega), by omega⟩
  · rintro ⟨core, isCore, split, rfl⟩
    have positive := List.length_pos_iff.mpr isCore.ne_nil
    have size := congrArg List.length split
    rw [List.length_drop, List.length_append, List.length_drop] at size
    refine ⟨by omega, ?_⟩
    rw [slice_length split]
    exact isCore

theorem CoreAt.unique {script : List Char} {start stop stop' : Nat} {captures captures' : Captures}
    (core : CoreAt script start stop captures) (core' : CoreAt script start stop' captures') :
    stop = stop' ∧ captures = captures' := by
  obtain ⟨text, isCore, split, rfl⟩ := coreAt_iff.mp core
  obtain ⟨text', isCore', split', rfl⟩ := coreAt_iff.mp core'
  obtain ⟨rfl, rfl, -⟩ := isCore.unique isCore' (split.symm.trans split')
  exact ⟨rfl, rfl⟩

theorem exists_coreAt_iff {script : List Char} {start : Nat} :
    (∃ stop captures, CoreAt script start stop captures) ↔
      ∃ captures core rest, IsCore captures core ∧ script.drop start = core ++ rest := by
  constructor
  · rintro ⟨stop, captures, core⟩
    obtain ⟨text, isCore, split, -⟩ := coreAt_iff.mp core
    exact ⟨captures, text, _, isCore, split⟩
  · rintro ⟨captures, core, rest, isCore, split⟩
    refine ⟨start + core.length, captures, coreAt_iff.mpr ⟨core, isCore, ?_, rfl⟩⟩
    rw [split, drop_add_length split]

theorem exists_coreAt_of_run {script : List Char} {start earlier : Nat} (le : earlier ≤ start)
    (lower : Run Char.isLower (slice script earlier start))
    (core : ∃ stop captures, CoreAt script start stop captures) :
    ∃ stop captures, CoreAt script earlier stop captures := by
  obtain ⟨captures, text, rest, isCore, split⟩ := exists_coreAt_iff.mp core
  refine exists_coreAt_iff.mpr ⟨_, _, rest, isCore.extend lower, ?_⟩
  rw [drop_eq_slice_append le, split, List.append_assoc]

theorem lt_length_of_coreAt {script : List Char} {start : Nat}
    (core : ∃ stop captures, CoreAt script start stop captures) : start < script.length := by
  obtain ⟨captures, text, rest, isCore, split⟩ := exists_coreAt_iff.mp core
  refine Nat.lt_of_not_le fun beyond => isCore.ne_nil ?_
  rw [List.drop_eq_nil_of_le beyond] at split
  exact (List.append_eq_nil_iff.mp split.symm).1

theorem Stops.not_coreAt {script : List Char} {start : Nat}
    (stops : Stops Char.isLower (script.drop start)) :
    ¬ ∃ stop captures, CoreAt script start stop captures := by
  intro core
  obtain ⟨captures, text, rest, ⟨gap, trail, lead, ⟨nonempty, lower⟩, -, -, -, -, -, rfl⟩, split⟩ :=
    exists_coreAt_iff.mp core
  obtain ⟨c, more, shape⟩ := List.exists_cons_of_ne_nil nonempty
  have first : c ∈ (script.drop start).head? := by
    rw [split, shape]
    rfl
  have letter := lower c (shape ▸ List.mem_cons_self)
  rw [stops c first] at letter
  cases letter

/-! ## Where the search is armed -/

def Armed (script : List Char) (pos i : Nat) : Prop :=
  ∃ line, pos ≤ line ∧ LineStart script line ∧ line ≤ i ∧ '"' ∉ slice script line i

theorem exists_candidate_iff {script : List Char} {pos start : Nat} :
    (∃ line, Candidate script pos line start) ↔
      Armed script pos start ∧ ∃ stop captures, CoreAt script start stop captures := by
  constructor
  · rintro ⟨line, after, atLine, le, plain, core⟩
    exact ⟨⟨line, after, atLine, le, plain⟩, core⟩
  · rintro ⟨⟨line, after, atLine, le, plain⟩, core⟩
    exact ⟨line, after, atLine, le, plain, core⟩

theorem Candidate.armed {script : List Char} {pos line start : Nat}
    (candidate : Candidate script pos line start) : Armed script pos start :=
  (exists_candidate_iff.mp ⟨line, candidate⟩).1

theorem armed_succ {script rest : List Char} {pos i : Nat} {c : Char}
    (here : script.drop i = c :: rest) (after : pos ≤ i) :
    Armed script pos (i + 1) ↔ c ≠ '"' ∧ (Armed script pos i ∨ c = '\n') := by
  have last := slice_succ here
  have char : script[i]? = some c := by
    rw [← Nat.add_zero i, ← List.getElem?_drop, here, List.getElem?_cons_zero]
  constructor
  · rintro ⟨line, behind, atLine, le, plain⟩
    rcases Nat.lt_or_ge i line with beyond | within
    · -- The only line start behind `i` is the one that `c` opens.
      obtain rfl : line = i + 1 := by omega
      obtain zero | ⟨-, newline⟩ := atLine
      · omega
      · rw [Nat.add_sub_cancel, char] at newline
        obtain rfl := Option.some.inj newline
        exact ⟨by decide, .inr rfl⟩
    · rw [slice_append within (Nat.le_succ i), last, List.mem_append, not_or] at plain
      refine ⟨fun quote => plain.2 (quote ▸ List.mem_cons_self), .inl ?_⟩
      exact ⟨line, behind, atLine, within, plain.1⟩
  · rintro ⟨other, ⟨line, behind, atLine, le, plain⟩ | rfl⟩
    · refine ⟨line, behind, atLine, Nat.le_succ_of_le le, ?_⟩
      rw [slice_append le (Nat.le_succ i), last, List.mem_append, List.mem_singleton]
      rintro (inside | rfl)
      · exact plain inside
      · exact other rfl
    · refine ⟨i + 1, by omega, .inr ⟨Nat.succ_pos i, ?_⟩, Nat.le_refl _, ?_⟩
      · rw [Nat.add_sub_cancel, char]
      · rw [slice_self]
        exact List.not_mem_nil

theorem Armed.append {script run rest : List Char} {pos i : Nat} (armed : Armed script pos i)
    (split : script.drop i = run ++ rest) (plain : '"' ∉ run) :
    Armed script pos (i + run.length) := by
  obtain ⟨line, behind, atLine, le, before⟩ := armed
  refine ⟨line, behind, atLine, Nat.le_add_right_of_le le, ?_⟩
  rw [slice_append le (Nat.le_add_right i _), slice_length split, List.mem_append, not_or]
  exact ⟨before, plain⟩

theorem CoreAt.not_armed {script : List Char} {start stop : Nat} {captures : Captures}
    (core : CoreAt script start stop captures) : ¬ Armed script stop stop := by
  rintro ⟨line, after, atLine, le, -⟩
  obtain rfl : line = stop := Nat.le_antisymm le after
  obtain ⟨text, isCore, split, total⟩ := coreAt_iff.mp core
  have positive := List.length_pos_iff.mpr isCore.ne_nil
  obtain ⟨gap, trail, lead, -, -, -, -, -, -, shape⟩ := isCore
  have last : text.getLast? = some ')' := by
    rw [shape, ← List.cons_append]
    simp only [← List.append_assoc, List.getLast?_concat]
  have char : script[line - 1]? = some ')' := by
    have index : line - 1 = start + (text.length - 1) := by omega
    rw [index, ← List.getElem?_drop, split, List.getElem?_append_left (by omega),
      ← List.getLast?_eq_getElem?, last]
  obtain zero | ⟨-, newline⟩ := atLine
  · omega
  · rw [char] at newline
    exact absurd (Option.some.inj newline) (by decide)

/-! ## The first header -/

theorem exists_first_line {script : List Char} {pos line start : Nat}
    (candidate : Candidate script pos line start)
    (leftmost : ∀ line' start', Candidate script pos line' start' → start ≤ start') :
    ∃ first, Candidate script pos first start ∧
      ∀ line' start', Candidate script pos line' start' → first ≤ line' := by
  classical
  have reached : ∃ first start', Candidate script pos first start' := ⟨line, start, candidate⟩
  obtain ⟨start', found⟩ := Nat.find_spec reached
  have least : ∀ line' start', Candidate script pos line' start' → Nat.find reached ≤ line' :=
    fun line' start' other => Nat.find_min' reached ⟨start', other⟩
  refine ⟨Nat.find reached, ⟨found.after, found.atLine, ?_, ?_, candidate.core⟩, least⟩
  · exact (least line start candidate).trans candidate.le
  · have within : Nat.find reached ≤ start := (least line start candidate).trans candidate.le
    have plain := found.plain
    rw [slice_append within (leftmost _ _ found), List.mem_append, not_or] at plain
    exact plain.1

theorem Scans.unique {script : List Char} {pos : Nat} {ms ms' : List Match}
    (scans : Scans script pos ms) (scans' : Scans script pos ms') : ms = ms' := by
  induction scans generalizing ms' with
  | done nowhere =>
    cases scans' with
    | done _ => rfl
    | report candidate _ _ _ _ => exact absurd candidate (nowhere _ _)
  | @report pos line m ms candidate first nearest core rest ih =>
    cases scans' with
    | done nowhere => exact absurd candidate (nowhere _ _)
    | @report _ line' m' ms' candidate' first' nearest' core' rest' =>
      obtain rfl : line = line' :=
        Nat.le_antisymm (first _ _ candidate') (first' _ _ candidate)
      have start : m.start = m'.start :=
        Nat.le_antisymm (nearest _ candidate') (nearest' _ candidate)
      rw [start] at core
      obtain ⟨stop, captures⟩ := core.unique core'
      obtain rfl : m = m' := by
        cases m
        cases m'
        simp_all
      rw [ih rest']

/-! ## The single pass -/

/-- A search that has come to `i` knows whether it is armed and has left no header behind. -/
structure Reached (script : List Char) (pos i : Nat) (armed : Bool) : Prop where
  after : pos ≤ i
  armed_iff : armed = true ↔ Armed script pos i
  leftmost : ∀ line start, Candidate script pos line start → i ≤ start

theorem reached_start (script : List Char) : Reached script 0 0 true := by
  refine ⟨Nat.le_refl 0, ⟨fun _ => ⟨0, Nat.le_refl 0, .inl rfl, Nat.le_refl 0, ?_⟩, fun _ => rfl⟩,
    fun _ start _ => Nat.zero_le start⟩
  rw [slice_self]
  exact List.not_mem_nil

theorem CoreAt.reached {script : List Char} {start stop : Nat} {captures : Captures}
    (core : CoreAt script start stop captures) : Reached script stop stop false :=
  ⟨Nat.le_refl stop, ⟨nofun, fun armed => (core.not_armed armed).elim⟩,
    fun _ _ candidate => candidate.after.trans candidate.le⟩

theorem Reached.next {script rest : List Char} {pos i : Nat} {armed : Bool} {c : Char}
    (reached : Reached script pos i armed) (here : script.drop i = c :: rest)
    (other : (armed && c.isLower) = false) : Reached script pos (i + 1) (armedAfter armed c) := by
  refine ⟨Nat.le_succ_of_le reached.after, ?_, fun line start candidate => ?_⟩
  · rw [armed_succ here reached.after, ← reached.armed_iff]
    by_cases quote : c = '"'
    · simp [armedAfter, quote]
    · simp [armedAfter, quote]
  · refine Nat.lt_of_le_of_ne (reached.leftmost line start candidate) ?_
    rintro rfl
    have lower : c.isLower = false := by
      rwa [reached.armed_iff.mpr candidate.armed, Bool.true_and] at other
    refine Stops.not_coreAt ?_ candidate.core
    rw [here]
    rintro d ⟨⟩
    exact lower

theorem Reached.skip {script run rest : List Char} {pos i : Nat}
    (reached : Reached script pos i true) (split : script.drop i = run ++ rest)
    (lower : Run Char.isLower run) (no : ¬ ∃ stop captures, CoreAt script i stop captures) :
    Reached script pos (i + run.length) true := by
  have plain : '"' ∉ run := fun quote => absurd (lower _ quote) (by decide)
  have armed := (reached.armed_iff.mp rfl).append split plain
  refine ⟨Nat.le_add_right_of_le reached.after, ⟨fun _ => armed, fun _ => rfl⟩, ?_⟩
  intro line start candidate
  by_contra before
  have from_i := reached.leftmost line start candidate
  refine no (exists_coreAt_of_run from_i ?_ candidate.core)
  intro c member
  refine lower c ?_
  rw [← slice_length split, slice_append from_i (by omega)]
  exact List.mem_append_left _ member

theorem Reached.report {script : List Char} {pos i stop : Nat} {captures : Captures}
    {ms : List Match} (reached : Reached script pos i true) (core : CoreAt script i stop captures)
    (rest : Scans script stop ms) : Scans script pos (⟨i, stop, captures⟩ :: ms) := by
  obtain ⟨line, candidate⟩ :=
    exists_candidate_iff.mpr ⟨reached.armed_iff.mp rfl, stop, captures, core⟩
  obtain ⟨first, candidate, least⟩ := exists_first_line candidate reached.leftmost
  exact .report candidate least (fun start => reached.leftmost first start) core rest

theorem scans_scanFrom {script rest : List Char} {pos i : Nat} {armed : Bool}
    (here : script.drop i = rest) (reached : Reached script pos i armed) :
    ∃ ms, Scans script pos ms ∧ scanFrom armed rest = ms.map (·.captures.declaration) := by
  fun_induction scanFrom armed rest generalizing i pos with
  | case1 armed =>
    refine ⟨[], .done fun line start candidate => ?_, rfl⟩
    have inside := lt_length_of_coreAt candidate.core
    have ended := List.drop_eq_nil_iff.mp here
    exact absurd (reached.leftmost line start candidate) (by omega)
  | case2 armed c script' now d rest found ih =>
    obtain ⟨rfl, -⟩ : armed = true ∧ c.isLower = true := by simpa using now
    obtain ⟨captures, core, isCore, split, rfl⟩ := header?_eq_some_iff.mp found
    rw [split] at here
    have coreAt : CoreAt script i (i + core.length) captures :=
      coreAt_iff.mpr ⟨core, isCore, by rw [here, drop_add_length here], rfl⟩
    obtain ⟨ms, scans, same⟩ := ih (drop_add_length here) coreAt.reached
    exact ⟨_, reached.report coreAt scans, by rw [List.map_cons, same]⟩
  | case3 armed c script' now missing ih =>
    obtain ⟨rfl, lower⟩ : armed = true ∧ c.isLower = true := by simpa using now
    have run : Run Char.isLower (c :: script'.takeWhile Char.isLower) := by
      intro d member
      rcases List.mem_cons.mp member with rfl | member
      · exact lower
      · exact List.mem_takeWhile_imp member
    have split : script.drop i =
        (c :: script'.takeWhile Char.isLower) ++ script'.dropWhile Char.isLower := by
      rw [here, List.cons_append, List.takeWhile_append_dropWhile]
    have no : ¬ ∃ stop captures, CoreAt script i stop captures := by
      intro core
      obtain ⟨captures, text, rest, isCore, whole⟩ := exists_coreAt_iff.mp core
      have found := header?_eq_some_iff.mpr ⟨captures, text, isCore, here.symm.trans whole, rfl⟩
      rw [missing] at found
      cases found
    exact ih (drop_add_length split) (reached.skip split run no)
  | case4 armed c script' other ih =>
    have step := reached.next here (Bool.eq_false_iff.mpr other)
    exact ih (by rw [← List.drop_drop, here, List.drop_one, List.tail_cons]) step

/-! ## Reported words are maximal -/

def Maximal (script : List Char) (m : Match) : Prop :=
  ∃ gap rest, script.drop m.start = m.captures.type ++ (gap ++ (m.captures.name ++ rest)) ∧
    MaximalRun Char.isLower (script.take m.start) m.captures.type (gap ++ (m.captures.name ++ rest)) ∧
    MaximalRun isNameChar (script.take m.start ++ m.captures.type ++ gap) m.captures.name rest

theorem not_isLower_before {script : List Char} {pos line start : Nat}
    (candidate : Candidate script pos line start)
    (nearest : ∀ start', Candidate script pos line start' → start ≤ start') :
    ∀ c ∈ (script.take start).getLast?, c.isLower = false := by
  intro c last
  cases start with
  | zero => cases last
  | succ before =>
    have inside : before < script.length :=
      Nat.lt_of_succ_lt (lt_length_of_coreAt candidate.core)
    have char : script[before]? = some c := by
      rwa [List.take_add_one, List.getElem?_eq_getElem inside, Option.toList_some,
        List.getLast?_concat, ← List.getElem?_eq_getElem inside] at last
    by_contra letterBefore
    rw [Bool.not_eq_false] at letterBefore
    rcases Nat.lt_or_ge before line with beyond | within
    · obtain rfl : line = before + 1 := Nat.le_antisymm candidate.le beyond
      obtain zero | ⟨-, newline⟩ := candidate.atLine
      · cases zero
      · rw [Nat.add_sub_cancel, char] at newline
        obtain rfl := Option.some.inj newline
        exact absurd letterBefore (by decide)
    · have here : script.drop before = c :: script.drop (before + 1) := by
        rw [List.drop_eq_getElem_cons inside, (List.getElem?_eq_some_iff.mp char).2]
      have letter : Run Char.isLower (slice script before (before + 1)) := by
        rw [slice_succ here]
        exact List.forall_mem_singleton.mpr letterBefore
      have core := exists_coreAt_of_run (Nat.le_succ before) letter candidate.core
      have plain := candidate.plain
      rw [slice_append within (Nat.le_succ before), List.mem_append, not_or] at plain
      have earlier := nearest before
        ⟨candidate.after, candidate.atLine, within, plain.1, core⟩
      exact absurd earlier (Nat.not_succ_le_self before)

theorem maximal_of_nearest {script : List Char} {pos line : Nat} {m : Match}
    (candidate : Candidate script pos line m.start)
    (nearest : ∀ start, Candidate script pos line start → m.start ≤ start)
    (core : CoreAt script m.start m.stop m.captures) : Maximal script m := by
  obtain ⟨text, ⟨gap, trail, lead, lower, space, word, blank, -, -, rfl⟩, split, -⟩ :=
    coreAt_iff.mp core
  refine ⟨gap, trail ++ '(' :: (lead ++ m.captures.list ++ [')']) ++ script.drop m.stop, ?_, ?_, ?_⟩
  · simpa using split
  · exact ⟨lower, not_isLower_before candidate nearest,
      stops_word (fun c => isLower_of_isBlank) space _⟩
  · refine ⟨word, fun c last => ?_, ?_⟩
    · rw [List.getLast?_append, List.getLast?_eq_some_getLast space.1, Option.some_or] at last
      obtain rfl := Option.some.inj last
      exact isNameChar_of_isBlank (space.2 _ (List.getLast_mem space.1))
    · rw [List.append_assoc]
      refine stops_run (fun c => isNameChar_of_isBlank) blank ?_
      rintro c ⟨⟩
      decide

theorem Scans.candidate {script : List Char} {pos : Nat} {ms : List Match}
    (scans : Scans script pos ms) : ∀ m ∈ ms,
      (∃ earlier line, Candidate script earlier line m.start) ∧
        CoreAt script m.start m.stop m.captures := by
  induction scans with
  | done _ => exact nofun
  | report candidate _ _ core _ ih =>
    exact List.forall_mem_cons.mpr ⟨⟨⟨_, _, candidate⟩, core⟩, ih⟩

theorem Scans.maximal {script : List Char} {pos : Nat} {ms : List Match}
    (scans : Scans script pos ms) : ∀ m ∈ ms, Maximal script m := by
  induction scans with
  | done _ => exact nofun
  | report candidate _ nearest core _ ih =>
    intro m member
    rcases List.mem_cons.mp member with rfl | member
    · exact maximal_of_nearest candidate nearest core
    · exact ih m member

theorem Match.reports_iff {m : Match} {d : Declaration} :
    m.Reports d ↔ m.captures.declaration = d := by
  rw [Reports, lists_iff]
  constructor
  · rintro ⟨type, name, parameters⟩
    rw [Captures.declaration, ← type, ← name, ← parameters]
  · rintro rfl
    exact ⟨rfl, rfl, rfl⟩

theorem forall₂_reports_iff {ms : List Match} {ds : List Declaration} :
    List.Forall₂ Match.Reports ms ds ↔ ds = ms.map (·.captures.declaration) := by
  have same : Match.Reports = fun m d => m.captures.declaration = d := by
    funext m d
    exact propext Match.reports_iff
  rw [same, ← List.forall₂_map_left_iff, List.forall₂_eq_eq_eq, eq_comm]

/-- The pass reports the leftmost headers, one after the other, and nothing else. What stands at a
position can be read as a header in one way only. -/
theorem scan_eq_leftmost (text : String) :
    ∃ ms, Scans text.toList 0 ms ∧ (∀ ms', Scans text.toList 0 ms' → ms' = ms) ∧
      (∀ ds, List.Forall₂ Match.Reports ms ds ↔ ds = scan text) ∧
      (∀ m ∈ ms, Maximal text.toList m) ∧
      ∀ start stop stop' captures captures', CoreAt text.toList start stop captures →
        CoreAt text.toList start stop' captures' → stop = stop' ∧ captures = captures' := by
  obtain ⟨ms, scans, same⟩ := scans_scanFrom (i := 0) List.drop_zero (reached_start text.toList)
  refine ⟨ms, scans, fun ms' scans' => scans'.unique scans, fun ds => ?_, scans.maximal, ?_⟩
  · rw [forall₂_reports_iff, scan, same]
  · intro start stop stop' captures captures' core core'
    exact core.unique core'

end NoxAssist.Declaration
