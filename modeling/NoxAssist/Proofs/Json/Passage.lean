import NoxAssist.Proofs.Json.Lexeme

/-!
# Values are passed over

`skipValue` walks through a value with a list of the open brackets and counts its words down from the
length of the text. `Leads` says that it comes from one stage of the walk to another, with enough left
of the count. Each word is one step, the items between two brackets are passed one after the other
(`leads_listed`), and so is every value, however deep it is nested (`IsValue.leads`).
-/

namespace NoxAssist.Json

def Begins (text : List Char) : Prop :=
  ∃ c rest, text = c :: rest ∧ isSpace c = false ∧ c ∉ [',', ']', '}']

theorem begins_cons {c : Char} (solid : isSpace c = false) (other : c ∉ [',', ']', '}'])
    (rest : List Char) : Begins (c :: rest) :=
  ⟨c, rest, rfl, solid, other⟩

theorem Begins.append {text : List Char} (begins : Begins text) (more : List Char) :
    Begins (text ++ more) := by
  obtain ⟨c, rest, rfl, solid, other⟩ := begins
  exact begins_cons solid other (rest ++ more)

theorem IsString.begins {text : List Char} (isString : IsString text) : Begins text := by
  obtain ⟨body, -, rfl⟩ := isString
  exact begins_cons (by decide) (by decide) _

theorem IsUnsigned.head {text : List Char} (isUnsigned : IsUnsigned text) :
    ∃ c rest, text = c :: rest ∧ c.isDigit = true := by
  obtain ⟨whole, fraction, exponent, isWhole, -, -, rfl⟩ := isUnsigned
  rcases isWhole with rfl | ⟨isDigits, -⟩
  · exact ⟨'0', fraction ++ exponent, rfl, rfl⟩
  · obtain ⟨c, more, rfl, digit⟩ := isDigits.head
    exact ⟨c, more ++ (fraction ++ exponent), rfl, digit⟩

theorem ne_of_isDigit {c d : Char} (digit : c.isDigit = true) (other : d.isDigit = false) : c ≠ d := by
  rintro rfl
  rw [digit] at other
  cases other

theorem isSpace_of_isDigit {c : Char} (digit : c.isDigit = true) : isSpace c = false := by
  simp [isSpace, ne_of_isDigit digit (d := ' ') rfl, ne_of_isDigit digit (d := '\n') rfl,
    ne_of_isDigit digit (d := '\t') rfl, ne_of_isDigit digit (d := '\r') rfl]

theorem IsUnsigned.begins {text : List Char} (isUnsigned : IsUnsigned text) : Begins text := by
  obtain ⟨c, rest, rfl, digit⟩ := isUnsigned.head
  refine begins_cons (isSpace_of_isDigit digit) ?_ rest
  simp [ne_of_isDigit digit (d := ',') rfl, ne_of_isDigit digit (d := ']') rfl,
    ne_of_isDigit digit (d := '}') rfl]

theorem IsValue.begins {text : List Char} (isValue : IsValue text) : Begins text := by
  cases isValue with
  | literal known =>
    simp only [literals, List.mem_cons, List.not_mem_nil, or_false] at known
    rcases known with rfl | rfl | rfl <;> exact begins_cons (by decide) (by decide) _
  | string string => exact string.begins
  | positive number => exact number.begins
  | negative number => exact begins_cons (by decide) (by decide) _
  | array each listed => exact begins_cons (by decide) (by decide) _
  | object keys spaced each listed => exact begins_cons (by decide) (by decide) _

structure Stage where
  awaited : Awaited
  enclosing : List Bracket
  text : List Char

def Stage.skip (s : Stage) (fuel : Nat) : Except Flaw (List Char) :=
  skipFrom fuel s.awaited s.enclosing s.text

/-- The walk comes from one stage to the other, if it is allowed a word for each character. -/
def Leads (s t : Stage) : Prop :=
  ∀ fuel, s.text.length < fuel → ∃ left, t.text.length < left ∧ s.skip fuel = t.skip left

theorem Leads.trans {s t u : Stage} (first : Leads s t) (second : Leads t u) : Leads s u := by
  intro fuel enough
  obtain ⟨left, enough', same⟩ := first fuel enough
  obtain ⟨last, enough'', same'⟩ := second left enough'
  exact ⟨last, enough'', same.trans same'⟩

theorem leads_of_step {s t : Stage} (shorter : t.text.length < s.text.length)
    (step : ∀ fuel, s.skip (fuel + 1) = t.skip fuel) : Leads s t := by
  intro fuel enough
  cases fuel with
  | zero => cases enough
  | succ fuel => exact ⟨fuel, by omega, step fuel⟩

theorem Leads.gap {awaited : Awaited} {enclosing : List Bracket} {text gap : List Char} {t : Stage}
    (isGap : IsGap gap) (going : awaited = .follow → enclosing ≠ [])
    (leads : Leads ⟨awaited, enclosing, text⟩ t) : Leads ⟨awaited, enclosing, gap ++ text⟩ t := by
  have same (fuel : Nat) : skipFrom (fuel + 1) awaited enclosing (gap ++ text) =
      skipFrom (fuel + 1) awaited enclosing text := by
    cases awaited with
    | value => rw [skipFrom, skipFrom, skipSpace_gap isGap]
    | name => rw [skipFrom, skipFrom, skipSpace_gap isGap]
    | follow =>
      cases enclosing with
      | nil => exact absurd rfl (going rfl)
      | cons bracket enclosing => rw [skipFrom, skipFrom, skipSpace_gap isGap]
  intro fuel enough
  simp only [List.length_append] at enough
  obtain ⟨left, enough', same'⟩ := leads fuel (by simp only; omega)
  cases fuel with
  | zero => cases enough
  | succ fuel => exact ⟨left, enough', (same fuel).trans same'⟩

structure Passed (bracket : Bracket) (item : List Char) : Prop where
  begins : Begins item
  leads : ∀ enclosing rest, Ends rest →
    Leads ⟨bracket.afterComma, bracket :: enclosing, item ++ rest⟩
      ⟨.follow, bracket :: enclosing, rest⟩

def Bracket.opening : Bracket → Char
  | .list => '['
  | .object => '{'

def Bracket.closing : Bracket → Char
  | .list => ']'
  | .object => '}'

section Steps
variable (enclosing : List Bracket) (rest : List Char)

theorem leads_literal {word : List Char} (known : word ∈ literals) :
    Leads ⟨.value, enclosing, word ++ rest⟩ ⟨.follow, enclosing, rest⟩ := by
  simp only [literals, List.mem_cons, List.not_mem_nil, or_false] at known
  rcases known with rfl | rfl | rfl
  all_goals
    refine leads_of_step (by grind) fun fuel => ?_
    simp only [Stage.skip, List.cons_append, skipFrom]
    rw [skipSpace_cons (by decide)]
    simp [readWord]
    rfl

theorem leads_string {text : List Char} (isString : IsString text) :
    Leads ⟨.value, enclosing, text ++ rest⟩ ⟨.follow, enclosing, rest⟩ := by
  obtain ⟨body, isBody, rfl⟩ := isString
  refine leads_of_step (by grind) fun fuel => ?_
  have passed := skipString_of_isBody isBody rest
  simp only [Stage.skip, List.cons_append, List.append_assoc, List.nil_append, skipFrom]
  rw [skipSpace_cons (by decide)]
  simp only [passed]
  rfl

theorem leads_positive {text : List Char} (number : IsUnsigned text) (ends : Ends rest) :
    Leads ⟨.value, enclosing, text ++ rest⟩ ⟨.follow, enclosing, rest⟩ := by
  have passed := skipNumber_append number ends
  obtain ⟨c, more, rfl, digit⟩ := number.head
  refine leads_of_step (by grind) fun fuel => ?_
  have other {d : Char} (noDigit : d.isDigit = false) : c ≠ d := ne_of_isDigit digit noDigit
  rw [List.cons_append] at passed ⊢
  rw [Stage.skip, skipFrom, skipSpace_cons (isSpace_of_isDigit digit)]
  simp [passed, other (d := '[') rfl, other (d := '{') rfl, other (d := '"') rfl,
    other (d := 'n') rfl, other (d := 't') rfl, other (d := 'f') rfl, other (d := '-') rfl]
  rfl

theorem leads_negative {text : List Char} (number : IsUnsigned text) (ends : Ends rest) :
    Leads ⟨.value, enclosing, '-' :: text ++ rest⟩ ⟨.follow, enclosing, rest⟩ := by
  have passed := skipNumber_append number ends
  refine leads_of_step (by grind) fun fuel => ?_
  simp only [Stage.skip, List.cons_append, skipFrom]
  rw [skipSpace_cons (by decide)]
  simp only [passed]
  rfl

theorem leads_name {key gap : List Char} (isString : IsString key) (isGap : IsGap gap) :
    Leads ⟨.name, enclosing, key ++ (gap ++ ':' :: rest)⟩ ⟨.value, enclosing, rest⟩ := by
  obtain ⟨body, isBody, rfl⟩ := isString
  refine leads_of_step (by grind) fun fuel => ?_
  have passed := skipString_of_isBody isBody (gap ++ ':' :: rest)
  have colon := skipSpace_gap_cons isGap (c := ':') (by decide) rest
  simp only [Stage.skip, List.cons_append, List.append_assoc, List.nil_append, skipFrom]
  rw [skipSpace_cons (by decide)]
  simp only [passed, bind, Except.bind, colon]

theorem leads_comma (bracket : Bracket) :
    Leads ⟨.follow, bracket :: enclosing, ',' :: rest⟩
      ⟨bracket.afterComma, bracket :: enclosing, rest⟩ := by
  refine leads_of_step (by simp) fun fuel => ?_
  simp only [Stage.skip, skipFrom]
  rw [skipSpace_cons (by decide)]
  rfl

theorem leads_closing (bracket : Bracket) :
    Leads ⟨.follow, bracket :: enclosing, bracket.closing :: rest⟩ ⟨.follow, enclosing, rest⟩ := by
  refine leads_of_step (by simp) fun fuel => ?_
  cases bracket <;>
    simp only [Stage.skip, skipFrom, Bracket.closing] <;>
    rw [skipSpace_cons (by decide)] <;>
    rfl

theorem leads_empty (bracket : Bracket) {gap : List Char} (isGap : IsGap gap) :
    Leads ⟨.value, enclosing, bracket.opening :: (gap ++ bracket.closing :: rest)⟩
      ⟨.follow, enclosing, rest⟩ := by
  refine leads_of_step (by grind) fun fuel => ?_
  cases bracket <;>
    simp only [Stage.skip, skipFrom, Bracket.opening, Bracket.closing] <;>
    rw [skipSpace_cons (by decide)] <;>
    simp only [skipSpace_gap_cons isGap (c := ']') (by decide),
      skipSpace_gap_cons isGap (c := '}') (by decide)]

theorem leads_opening (bracket : Bracket) {gap : List Char} (isGap : IsGap gap)
    (begins : Begins rest) :
    Leads ⟨.value, enclosing, bracket.opening :: (gap ++ rest)⟩
      ⟨bracket.afterComma, bracket :: enclosing, rest⟩ := by
  obtain ⟨c, more, rfl, solid, other⟩ := begins
  have noList : c ≠ ']' := by
    rintro rfl
    exact other (by decide)
  have noObject : c ≠ '}' := by
    rintro rfl
    exact other (by decide)
  refine leads_of_step (by grind) fun fuel => ?_
  cases bracket <;>
    simp only [Stage.skip, skipFrom, Bracket.opening, Bracket.afterComma] <;>
    rw [skipSpace_cons (by decide)] <;>
    simp [skipSpace_gap_cons isGap solid, noList, noObject]

end Steps

theorem Listed.ends {items : List (List Char)} {inside : List Char}
    (listed : Listed false items inside) (bracket : Bracket) (rest : List Char) :
    Ends (inside ++ bracket.closing :: rest) := by
  cases listed with
  | nil isGap => exact Ends.gap isGap (ends_cons (by cases bracket <;> decide) rest)
  | cons separates more =>
    cases separates with
    | comma isGap isGap' =>
      rw [List.append_assoc, List.append_assoc]
      exact Ends.gap isGap (ends_cons (by decide) _)

theorem Listed.length_le {isFirst : Bool} {items : List (List Char)} {inside : List Char}
    (listed : Listed isFirst items inside) : items.length ≤ inside.length + isFirst.toNat := by
  induction listed with
  | nil isGap => simp
  | cons separates more ih =>
    cases separates with
    | space isGap =>
      simp only [List.length_append, List.length_cons, Bool.toNat_true, Bool.toNat_false] at ih ⊢
      omega
    | comma isGap isGap' =>
      simp only [List.length_append, List.length_cons, Bool.toNat_false] at ih ⊢
      omega

theorem Listed.length_lt {items : List (List Char)} {inside : List Char}
    (listed : Listed true items inside) (closing : Char) (rest : List Char) :
    items.length < (inside ++ closing :: rest).length + 1 := by
  have bound := listed.length_le
  simp only [List.length_append, List.length_cons, Bool.toNat_true] at bound ⊢
  omega

section Listed
variable {bracket : Bracket} {items : List (List Char)} {inside : List Char}
  (each : ∀ item ∈ items, Passed bracket item) (enclosing : List Bracket) (rest : List Char)
include each

theorem leads_listed (listed : Listed false items inside) :
    Leads ⟨.follow, bracket :: enclosing, inside ++ bracket.closing :: rest⟩
      ⟨.follow, enclosing, rest⟩ := by
  induction items generalizing inside with
  | nil =>
    cases listed with
    | nil isGap => exact (leads_closing enclosing rest bracket).gap isGap (by simp)
  | cons item items ih =>
    cases listed with
    | @cons _ _ _ more _ separates following =>
      cases separates with
      | comma isGap isGap' =>
        have next := (each item List.mem_cons_self).leads enclosing _ (following.ends bracket rest)
        have last := ih (fun other member => each other (List.mem_cons_of_mem _ member)) following
        have going : bracket.afterComma = .follow → bracket :: enclosing ≠ [] := by simp
        simp only [List.append_assoc, List.cons_append]
        exact ((leads_comma enclosing _ bracket).gap isGap (by simp)).trans
          ((next.gap isGap' going).trans last)

theorem leads_brackets (listed : Listed true items inside) :
    Leads ⟨.value, enclosing, bracket.opening :: (inside ++ bracket.closing :: rest)⟩
      ⟨.follow, enclosing, rest⟩ := by
  cases listed with
  | nil isGap => exact leads_empty enclosing rest bracket isGap
  | @cons _ _ item more items separates following =>
    cases separates with
    | space isGap =>
      have passed := each item List.mem_cons_self
      have last := leads_listed (fun other member => each other (List.mem_cons_of_mem _ member))
        enclosing rest following
      simp only [List.append_assoc]
      exact (leads_opening enclosing _ bracket isGap (passed.begins.append _)).trans
        ((passed.leads enclosing _ (following.ends bracket rest)).trans last)

end Listed

theorem IsValue.leads {value : List Char} (isValue : IsValue value) (enclosing : List Bracket)
    {rest : List Char} (ends : Ends rest) :
    Leads ⟨.value, enclosing, value ++ rest⟩ ⟨.follow, enclosing, rest⟩ := by
  induction isValue generalizing enclosing rest with
  | literal known => exact leads_literal enclosing rest known
  | string string => exact leads_string enclosing rest string
  | positive number => exact leads_positive enclosing rest number ends
  | negative number => exact leads_negative enclosing rest number ends
  | @array items inside each listed ih =>
    have passed : ∀ item ∈ items, Passed .list item := fun item member =>
      ⟨(each item member).begins, fun _ _ => ih item member _⟩
    simp only [List.cons_append, List.append_assoc, List.nil_append]
    exact leads_brackets passed enclosing rest listed
  | @object members inside keys spaced each listed ih =>
    have passed : ∀ item ∈ members.map Member.text, Passed .object item := by
      intro item among
      obtain ⟨m, member, rfl⟩ := List.mem_map.mp among
      refine ⟨(keys m member).begins.append _, fun enclosing rest ends => ?_⟩
      obtain ⟨before, behind⟩ := spaced m member
      have value := (ih m member (.object :: enclosing) ends).gap behind (by simp)
      simp only [Member.text, List.append_assoc, List.cons_append]
      exact (leads_name (.object :: enclosing) _ (keys m member) before).trans value
    simp only [List.cons_append, List.append_assoc, List.nil_append]
    exact leads_brackets passed enclosing rest listed

theorem skipValue_append {gap value rest : List Char} (isGap : IsGap gap) (isValue : IsValue value)
    (ends : Ends rest) : skipValue (gap ++ (value ++ rest)) = .ok rest := by
  obtain ⟨left, -, same⟩ := (isValue.leads [] ends).gap isGap (by simp) _ (Nat.lt_succ_self _)
  rw [Stage.skip, Stage.skip, skipFrom] at same
  exact same

end NoxAssist.Json
