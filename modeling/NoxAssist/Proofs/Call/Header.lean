import NoxAssist.Proofs.Call.Arguments
import NoxAssist.Proofs.Declaration.Placement
import NoxAssist.Proofs.Declaration.Quotation
import NoxAssist.Proofs.Declaration.Search

namespace NoxAssist.Call
open Text Declaration

/-! ## Classes of characters and bytes -/

theorem isIdentByte_eq {c : Char} {b : UInt8} (member : b ∈ String.utf8EncodeChar c) :
    isIdentByte b = isNameChar c := by
  by_cases ascii : c.toNat < 128
  · have table : ∀ n < 128, isIdentByte (Char.ofNat n).toUInt8 = isNameChar (Char.ofNat n) := by
      decide +kernel
    rw [utf8EncodeChar_of_ascii ascii, List.mem_singleton] at member
    have entry := table c.toNat ascii
    rw [Char.ofNat_toNat] at entry
    rw [member, entry]
  · have noByte : isIdentByte b = false := by
      by_contra ident
      have small := toNat_lt_of_isIdentByte (Bool.not_eq_false _ ▸ ident)
      rcases byte_cases member with same | above <;> omega
    have noName : isNameChar c = false := by
      by_contra named
      have small := toNat_of_isNameChar (Bool.not_eq_false _ ▸ named)
      omega
    rw [noByte, noName]

theorem isIdentByte_of_run {p : Char → Bool} {value : Bool}
    (same : ∀ c, p c = true → isNameChar c = value) {run : List Char} (holds : Run p run) :
    ∀ b ∈ encode run, isIdentByte b = value := by
  intro b member
  obtain ⟨c, listed, here⟩ := List.mem_flatMap.mp member
  rw [isIdentByte_eq here, same c (holds c listed)]

/-! ## Names before a parenthesis -/

theorem identifierEnding_gap {run : List UInt8} (unnamed : ∀ b ∈ run, isIdentByte b = false)
    (stop : ∃ b ∈ run, isAsciiBlank b = false) (behind : List UInt8) :
    identifierEnding (run ++ behind) = none := by
  induction run with
  | nil =>
    obtain ⟨b, member, -⟩ := stop
    cases member
  | cons b run ih =>
    obtain ⟨here, later⟩ := List.forall_mem_cons.mp unnamed
    by_cases blank : isAsciiBlank b = true
    · have rest : ∃ b ∈ run, isAsciiBlank b = false := by
        obtain ⟨x, member, visible⟩ := stop
        rcases List.mem_cons.mp member with rfl | member
        · rw [blank] at visible
          cases visible
        · exact ⟨x, member, visible⟩
      simpa [identifierEnding, blank] using ih later rest
    · simp [identifierEnding, blank, here]

/-! ## Lists in front of a parenthesis -/

theorem locateBehind_list {run : List UInt8}
    (free : ∀ b ∈ [quote, semicolon, openParen, closeParen], b ∉ run) (commas : Nat)
    (behind : List UInt8) :
    locateBehind false 0 commas (run ++ behind) =
      locateBehind false 0 (commas + run.count comma) behind := by
  induction run generalizing commas with
  | nil => rfl
  | cons b run ih =>
    have later : ∀ x ∈ [quote, semicolon, openParen, closeParen], x ∉ run :=
      fun x special member => free x special (List.mem_cons_of_mem _ member)
    by_cases atComma : b = comma
    · subst atComma
      rw [List.cons_append, locateBehind_comma, ih later, List.count_cons_self]
      show locateBehind false 0 (commas + 1 + run.count comma) behind = _
      rw [Nat.add_right_comm, Nat.add_assoc]
    · have code : b ∉ [quote, semicolon, openParen, closeParen, comma] := by
        intro special
        rcases List.mem_append.mp (show b ∈ [quote, semicolon, openParen, closeParen] ++ [comma] from
          special) with special | last
        · exact free b special List.mem_cons_self
        · exact atComma (List.mem_singleton.mp last)
      rw [List.cons_append, locateBehind_code code, ih later, List.count_cons_of_ne atComma]

theorem not_mem_encode_list {list : List Char} (chars : Run isListChar list) :
    ∀ b ∈ [quote, semicolon, openParen, closeParen], b ∉ encode list := by
  have table : ∀ b ∈ [quote, semicolon, openParen, closeParen],
      ∃ c : Char, c.toNat < 128 ∧ c.toUInt8 = b ∧ isListChar c = false := by
    simp only [List.forall_mem_cons]
    exact ⟨⟨'"', by decide⟩, ⟨';', by decide⟩, ⟨'(', by decide⟩, ⟨')', by decide⟩, nofun⟩
  intro b special
  obtain ⟨c, ascii, rfl, outside⟩ := table b special
  rw [mem_encode ascii]
  exact chars.not_mem outside

/-! ## Line starts -/

theorem inLiteral_lineStart {script : List Char} {line : Nat} (atLine : LineStart script line) :
    inLiteral (encode (script.take line)).reverse = false := by
  rcases atLine with rfl | ⟨positive, newline⟩
  · rfl
  · obtain ⟨before, rfl⟩ : ∃ before, line = before + 1 := ⟨line - 1, by omega⟩
    rw [Nat.add_sub_cancel] at newline
    have byte : String.utf8EncodeChar '\n' = [Text.newline] := by decide
    rw [List.take_add_one, newline, Option.toList_some, encode_snoc, byte]
    exact inLiteral_newline _

/-! ## Sites of headers -/

structure Site (text : String) (m : Match) where
  front : List Char
  gap : List Char
  trail : List Char
  inner : List Char
  rest : List Char
  chars : text.toList = front ++ (m.captures.type ++ (gap ++ (m.captures.name ++ (trail ++
    '(' :: (inner ++ ')' :: rest)))))
  start : front.length = m.start
  apart : Word isBlank gap
  blank : Run isBlank trail
  list : ∃ lead, Run isBlank lead ∧ inner = lead ++ m.captures.list

namespace Site
variable {text : String} {m : Match} (site : Site text m)

def head : List Char :=
  site.front ++ (m.captures.type ++ (site.gap ++ (m.captures.name ++ site.trail)))

def opens : Nat :=
  width site.head

def closes : Nat :=
  site.opens + 1 + width site.inner

def commas (offset : Nat) : Nat :=
  (((bytes text).take (offset + 1)).drop (site.opens + 1)).count comma

def parameters : List Placed :=
  placed (site.opens + 1) (site.inner.splitOn ',')

theorem bytes_eq : bytes text =
    encode site.head ++ openParen :: (encode site.inner ++ closeParen :: encode site.rest) := by
  have first : String.utf8EncodeChar '(' = [openParen] := by decide
  have last : String.utf8EncodeChar ')' = [closeParen] := by decide
  rw [bytes_eq_encode, site.chars]
  simp [head, first, last]

theorem length_opened (list : List Char) :
    (encode site.head ++ openParen :: encode list).length = site.opens + 1 + width list := by
  rw [List.length_append, List.length_cons, length_encode, length_encode, opens]
  omega

theorem opens_pos : 0 < site.opens := by
  obtain ⟨c, more, shape⟩ := List.exists_cons_of_ne_nil site.apart.1
  have positive := c.utf8Size_pos
  simp only [opens, head, width_append, shape, width_cons]
  omega

theorem before_opens : before text site.opens = (encode site.head).reverse := by
  rw [before, site.bytes_eq, opens, ← length_encode, List.take_left]

variable {offset : Nat}

theorem take_inside (behind : site.opens ≤ offset) (inside : offset < site.closes) :
    (bytes text).take (offset + 1) =
      encode site.head ++ openParen :: (encode site.inner).take (offset - site.opens) := by
  obtain ⟨k, rfl⟩ := Nat.exists_eq_add_of_le behind
  have within : k ≤ (encode site.inner).length := by
    rw [length_encode]
    unfold closes at inside
    omega
  rw [site.bytes_eq, Nat.add_assoc, opens, ← length_encode, List.take_length_add_append,
    List.take_succ_cons, List.take_append_of_le_length within, Nat.add_sub_cancel_left]

theorem before_inside (behind : site.opens ≤ offset) (inside : offset < site.closes) :
    before text (offset + 1) = ((encode site.inner).take (offset - site.opens)).reverse ++
      openParen :: (encode site.head).reverse := by
  rw [before, site.take_inside behind inside]
  simp

theorem commas_inside (behind : site.opens ≤ offset) (inside : offset < site.closes) :
    site.commas offset = ((encode site.inner).take (offset - site.opens)).count comma := by
  rw [commas, site.take_inside behind inside, opens, ← length_encode, List.drop_length_add_append]
  rfl

theorem identifierBefore_opens (trailing : ∃ b ∈ encode site.trail, isAsciiBlank b = false) :
    identifierBefore text (site.opens - 1) = none := by
  obtain ⟨b, member, visible⟩ := trailing
  have behind : (encode site.head).reverse = (encode site.trail).reverse ++
      (encode (site.front ++ (m.captures.type ++ (site.gap ++ m.captures.name)))).reverse := by
    simp [head]
  have unnamed := isIdentByte_of_run (fun c => isNameChar_of_isBlank) site.blank
  rw [identifierBefore, Nat.sub_add_cancel site.opens_pos, site.before_opens, behind]
  exact identifierEnding_gap (fun x listed => unnamed x (List.mem_reverse.mp listed))
    ⟨b, List.mem_reverse.mpr member, visible⟩ _

/-! ## What a reported header guarantees -/

section Reported
variable (core : CoreAt text.toList m.start m.stop m.captures)
include core

theorem isCore : IsCore m.captures (m.captures.type ++ (site.gap ++ (m.captures.name ++
    (site.trail ++ '(' :: (site.inner ++ [')']))))) := by
  obtain ⟨lead, leading, split⟩ := site.list
  obtain ⟨-, gap, trail, lead', lower, -, word, -, -, items, -⟩ := core
  exact ⟨site.gap, site.trail, lead, lower, site.apart, word, site.blank, leading, items,
    by rw [split]⟩

theorem accepted : isParameterList site.inner = true := by
  obtain ⟨lead, leading, split⟩ := site.list
  obtain ⟨-, gap, trail, lead', -, -, -, -, -, items, -⟩ := core
  exact isParameterList_iff.mpr ⟨lead, m.captures.list, leading, items, split⟩

theorem inLiteral_head {pos line : Nat} (candidate : Candidate text.toList pos line m.start) :
    inLiteral (encode site.head).reverse = false := by
  have front : site.front = text.toList.take line ++ slice text.toList line m.start := by
    have whole : site.front = slice text.toList 0 m.start := by
      rw [slice, site.chars, ← site.start, List.take_left, List.drop_zero]
    rw [whole, slice_append (Nat.zero_le line) candidate.le]
    rfl
  have header := (site.isCore core).plain
  simp only [List.mem_append, not_or] at header
  have plain : '"' ∉ slice text.toList line m.start ++ (m.captures.type ++ (site.gap ++
      (m.captures.name ++ site.trail))) := by
    simp only [List.mem_append, not_or]
    exact ⟨candidate.plain, header.1, header.2.1, header.2.2.1, header.2.2.2.1⟩
  rw [head, front, List.append_assoc, encode_append, List.reverse_append]
  refine inLiteral_run (fun b member => ?_) (inLiteral_lineStart candidate.atLine)
  rintro rfl
  exact plain ((mem_encode (c := '"') (by decide)).mp (List.mem_reverse.mp member))

theorem identifierEnding_head (trailing : ∀ b ∈ encode site.trail, isAsciiBlank b = true) :
    identifierEnding (encode site.head).reverse = some m.captures.declaration.name := by
  obtain ⟨-, gap, trail, lead, -, -, word, -⟩ := core
  have name : m.captures.declaration.name ≠ "" := by
    simp [Captures.declaration, word.1]
  have apart : (bytes (String.ofList (site.front ++ (m.captures.type ++ site.gap)))).getLast?.any
      isIdentByte = false := by
    obtain ⟨c, more, shape⟩ := List.exists_cons_of_ne_nil site.apart.1
    have nonempty : encode site.gap ≠ [] := by simp [shape]
    have unnamed := isIdentByte_of_run (fun c => isNameChar_of_isBlank) site.apart.2
    rw [bytes_ofList, encode_append, encode_append, List.getLast?_append, List.getLast?_append,
      List.getLast?_eq_some_getLast nonempty]
    exact unnamed _ (List.getLast_mem nonempty)
  have ident : ∀ b ∈ bytes m.captures.declaration.name, isIdentByte b = true := by
    rw [Captures.declaration, bytes_ofList]
    exact isIdentByte_of_run (fun c named => named) word.2
  have blank : ∀ b ∈ bytes (String.ofList site.trail), isAsciiBlank b = true := by
    rwa [bytes_ofList]
  rw [← identifierEnding_name apart name ident blank]
  simp [head, bytes_ofList, Captures.declaration]

theorem locate_inside {pos line : Nat} (candidate : Candidate text.toList pos line m.start)
    (trailing : ∀ b ∈ encode site.trail, isAsciiBlank b = true)
    (behind : site.opens ≤ offset) (inside : offset < site.closes) :
    locate text offset = some ⟨m.captures.declaration.name, site.commas offset⟩ := by
  let run := ((encode site.inner).take (offset - site.opens)).reverse
  have free : ∀ b ∈ [quote, semicolon, openParen, closeParen], b ∉ run := by
    intro b special member
    have chars := Complete.isListChar (isParameterList_iff.mp (site.accepted core))
    exact not_mem_encode_list chars b special ((List.take_subset _ _) (List.mem_reverse.mp member))
  have outside : inLiteral (run ++ openParen :: (encode site.head).reverse) = false := by
    refine inLiteral_run (fun b member => ?_) ?_
    · rintro rfl
      exact free quote (by decide) member
    · rw [inLiteral_other _ (by decide) (by decide)]
      exact site.inLiteral_head core candidate
  have ending := site.identifierEnding_head core trailing
  rw [locate, inStringAt_eq_inLiteral, site.before_inside behind inside, outside,
    locateBehind_list free, locateBehind_cons, site.commas_inside behind inside]
  simp [ends, opensList, ending, run, openParen, semicolon]

theorem inner_split {i : Nat} {p : Placed} (here : site.parameters[i]? = some p) :
    ∃ front back, site.inner = front ++ (p.chars ++ back) ∧
      p.start = site.opens + 1 + width front ∧ front.count ',' = i ∧ ',' ∉ p.chars := by
  have kept : ∀ piece ∈ (site.inner.splitOn ',').dropLast, trim piece ≠ [] :=
    fun piece member => (named_of_mem_dropLast (site.accepted core) piece member).trim_ne_nil
  obtain ⟨front, back, split, start, number, plain⟩ :=
    placed_split (fun piece => not_mem_piece) kept here
  rw [List.intercalate_splitOn] at split
  exact ⟨front, back, split, start, number, plain⟩

theorem parameter_inside {i : Nat} {p : Placed} (here : site.parameters[i]? = some p) :
    site.opens < p.start ∧ p.start + width p.chars ≤ site.closes ∧
      ((bytes text).drop p.start).take (width p.chars) = encode p.chars := by
  obtain ⟨front, back, split, start, -, -⟩ := site.inner_split core here
  have size : width site.inner = width front + (width p.chars + width back) := by
    rw [split, width_append, width_append]
  refine ⟨by omega, by unfold closes; omega, ?_⟩
  have whole : bytes text = (encode site.head ++ openParen :: encode front) ++
      (encode p.chars ++ (encode back ++ closeParen :: encode site.rest)) := by
    rw [site.bytes_eq, split]
    simp
  rw [whole, start, ← site.length_opened, List.drop_left, ← length_encode, List.take_left]

theorem commas_parameter {i : Nat} {p : Placed} (here : site.parameters[i]? = some p)
    (begun : p.start ≤ offset)
    (unfinished : offset < p.start + width p.chars) : site.commas offset = i := by
  obtain ⟨front, back, split, start, number, plain⟩ := site.inner_split core here
  obtain ⟨after, below, -⟩ := site.parameter_inside core here
  obtain ⟨k, rfl⟩ := Nat.exists_eq_add_of_le begun
  have within : k + 1 ≤ (encode p.chars).length := by
    rw [length_encode]
    omega
  have position : p.start + k - site.opens = (encode front).length + (k + 1) := by
    rw [length_encode]
    omega
  have noComma : comma ∉ (encode p.chars).take (k + 1) := fun member =>
    plain ((mem_encode (c := ',') (by decide)).mp (List.take_subset _ _ member))
  have counted : (encode front).count comma = front.count ',' :=
    count_encode (c := ',') (by decide) front
  rw [site.commas_inside (by omega) (by omega), position, split, encode_append, encode_append,
    List.take_length_add_append, List.take_append_of_le_length within, List.count_append, counted,
    number, List.count_eq_zero_of_not_mem noComma, Nat.add_zero]

end Reported

/-- The walk back from between the parentheses of a header sees what the scan reports of it. -/
structure Agrees : Prop where
  parens : 0 < site.opens ∧ (bytes text)[site.opens]? = some openParen ∧
    (bytes text)[site.closes]? = some closeParen
  located : (∀ b ∈ encode site.trail, isAsciiBlank b = true) →
    ∀ offset, site.opens ≤ offset → offset < site.closes →
      locate text offset = some ⟨m.captures.declaration.name, site.commas offset⟩
  unnamed : (∃ b ∈ encode site.trail, isAsciiBlank b = false) →
    identifierBefore text (site.opens - 1) = none
  -- no piece of the list is left out, except for a blank one at its end
  kept : ∀ piece ∈ (site.inner.splitOn ',').dropLast, trim piece ≠ []
  reported : site.parameters.map (String.ofList ·.chars) = m.captures.declaration.parameters
  stands : ∀ (i : Nat) (p : Placed), site.parameters[i]? = some p →
    site.opens < p.start ∧ p.start + width p.chars ≤ site.closes ∧
      ((bytes text).drop p.start).take (width p.chars) = encode p.chars
  numbered : ∀ (i : Nat) (p : Placed), site.parameters[i]? = some p →
    ∀ offset, p.start ≤ offset → offset < p.start + width p.chars → site.commas offset = i

theorem agrees {pos line : Nat} (candidate : Candidate text.toList pos line m.start)
    (core : CoreAt text.toList m.start m.stop m.captures) : site.Agrees where
  parens := by
    refine ⟨site.opens_pos, ?_, ?_⟩
    · rw [site.bytes_eq, opens, ← length_encode]
      simp
    · rw [site.bytes_eq, closes, ← site.length_opened]
      simp
  located trailing _ := site.locate_inside core candidate trailing
  unnamed := site.identifierBefore_opens
  kept piece member := (named_of_mem_dropLast (site.accepted core) piece member).trim_ne_nil
  reported := by
    obtain ⟨lead, leading, split⟩ := site.list
    rw [parameters, map_placed, split, splitParameters_append leading]
    rfl
  stands _ _ := site.parameter_inside core
  numbered _ _ here _ := site.commas_parameter core here

theorem nonempty_of_coreAt (core : CoreAt text.toList m.start m.stop m.captures) :
    Nonempty (Site text m) := by
  have bound := lt_length_of_coreAt ⟨m.stop, m.captures, core⟩
  obtain ⟨header, ⟨gap, trail, lead, lower, space, word, blank, leading, items, rfl⟩, split, -⟩ :=
    coreAt_iff.mp core
  refine ⟨⟨text.toList.take m.start, gap, trail, lead ++ m.captures.list, text.toList.drop m.stop,
    ?_, ?_, space, blank, lead, leading, rfl⟩⟩
  · conv_lhs => rw [← List.take_append_drop m.start text.toList, split]
    simp
  · rw [List.length_take]
    omega

end Site

/-- Between the parentheses of every header that the scan reports, the walk back finds the header's
name and the number of the parameter; with other white space before the parenthesis it finds no name. -/
theorem locate_in_header (text : String) :
    ∃ ms, Scans text.toList 0 ms ∧ scan text = ms.map (·.captures.declaration) ∧
      ∀ m ∈ ms, Nonempty (Site text m) ∧ ∀ site : Site text m, site.Agrees := by
  obtain ⟨ms, scans, same⟩ := scans_scanFrom (i := 0) List.drop_zero (reached_start text.toList)
  refine ⟨ms, scans, same, fun m member => ?_⟩
  obtain ⟨⟨pos, line, candidate⟩, core⟩ := scans.candidate m member
  exact ⟨Site.nonempty_of_coreAt core, fun site => site.agrees candidate core⟩

theorem locate_in_header_behind_newline :
    ∃ (m : Match) (site : Site "x;int f\n(int a, b\u00a0c,)" m),
      m.captures.declaration = ⟨"int", "f", ["int a", "b\u00a0c"]⟩ ∧ site.Agrees := by
  obtain ⟨ms, -, same, agree⟩ := locate_in_header "x;int f\n(int a, b\u00a0c,)"
  have reported : scan "x;int f\n(int a, b\u00a0c,)" = [⟨"int", "f", ["int a", "b\u00a0c"]⟩] := by
    decide +kernel
  rw [reported] at same
  cases ms with
  | nil => cases same
  | cons m ms =>
    obtain ⟨⟨site⟩, agrees⟩ := agree m List.mem_cons_self
    exact ⟨m, site, (List.cons.inj same).1.symm, agrees site⟩

end NoxAssist.Call
