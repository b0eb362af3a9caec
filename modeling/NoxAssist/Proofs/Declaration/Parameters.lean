import Mathlib.Data.List.Induction
import Mathlib.Data.List.TakeWhile
import NoxAssist.Declaration.Parameters

/-!
# The grammar of parameter lists

`IsItems` is the grammar: a list is a sequence of items, each a type, white space, a name, white
space, at most one comma and white space again. A text may be divided into items in many ways.
`Reading` follows all of them at once: each of its flags says that the characters read so far end in
one part of an item under some division (`Describes`), and a list is accepted exactly if the grammar
derives it from some character on (`isParameterList_iff`).
-/

namespace NoxAssist.Declaration
open Text

def Run (p : Char → Bool) (run : List Char) : Prop :=
  ∀ c ∈ run, p c = true

def Word (p : Char → Bool) (word : List Char) : Prop :=
  word ≠ [] ∧ Run p word

def IsItem (item : List Char) : Prop :=
  ∃ type gap name trail comma rest, Word Char.isLower type ∧ Word isBlank gap ∧
    Word isNameChar name ∧ Run isBlank trail ∧ (comma = [] ∨ comma = [',']) ∧ Run isBlank rest ∧
    item = type ++ gap ++ name ++ trail ++ comma ++ rest

def IsItems (list : List Char) : Prop :=
  ∃ items : List (List Char), (∀ item ∈ items, IsItem item) ∧ list = items.flatten

def Complete (list : List Char) : Prop :=
  ∃ lead items, Run isBlank lead ∧ IsItems items ∧ list = lead ++ items

theorem Run.nil (p : Char → Bool) : Run p [] := by
  intro c member
  cases member

theorem run_append {p : Char → Bool} {front back : List Char} :
    Run p (front ++ back) ↔ Run p front ∧ Run p back :=
  List.forall_mem_append

theorem nil_or_snoc {α : Type} (list : List α) : list = [] ∨ ∃ front last, list = front ++ [last] := by
  simpa only [List.concat_eq_append] using List.eq_nil_or_concat list

theorem Run.eq_nil_or_word {p : Char → Bool} {run : List Char} (holds : Run p run) :
    run = [] ∨ Word p run := by
  by_cases empty : run = []
  · exact Or.inl empty
  · exact Or.inr ⟨empty, holds⟩

def Followed (p : Char → Bool) (before : List Char → Prop) (list : List Char) : Prop :=
  ∃ front word, before front ∧ Word p word ∧ list = front ++ word

def InType : List Char → Prop := Followed Char.isLower Complete

def InGap : List Char → Prop := Followed isBlank InType

def InName : List Char → Prop := Followed isNameChar InGap

def InTrail : List Char → Prop := Followed isBlank InName

def Fresh (list : List Char) : Prop :=
  Run isBlank list ∨ ∃ front rest, (InName front ∨ InTrail front) ∧ Run isBlank rest ∧
    list = front ++ ',' :: rest

theorem not_followed_nil (p : Char → Bool) (before : List Char → Prop) : ¬ Followed p before [] := by
  rintro ⟨front, word, -, ⟨nonempty, -⟩, empty⟩
  exact nonempty (List.append_eq_nil_iff.mp empty.symm).2

theorem followed_snoc {p : Char → Bool} {before : List Char → Prop} {list : List Char} {c : Char} :
    Followed p before (list ++ [c]) ↔ (before list ∨ Followed p before list) ∧ p c = true := by
  constructor
  · rintro ⟨front, word, holds, ⟨nonempty, run⟩, split⟩
    obtain ⟨shorter, last, rfl⟩ := (nil_or_snoc word).resolve_left nonempty
    rw [← List.append_assoc] at split
    obtain ⟨rfl, same⟩ := List.append_inj' split rfl
    obtain rfl : c = last := List.singleton_inj.mp same
    obtain ⟨run, ends⟩ := run_append.mp run
    refine ⟨?_, ends c List.mem_cons_self⟩
    rcases run.eq_nil_or_word with rfl | word
    · rw [List.append_nil]
      exact Or.inl holds
    · exact Or.inr ⟨front, shorter, holds, word, rfl⟩
  · have single (here : p c = true) : Run p [c] := by simpa [Run] using here
    rintro ⟨holds | ⟨front, word, holds, ⟨-, run⟩, rfl⟩, here⟩
    · exact ⟨list, [c], holds, ⟨by simp, single here⟩, rfl⟩
    · exact ⟨front, word ++ [c], holds, ⟨by simp, run_append.mpr ⟨run, single here⟩⟩,
        List.append_assoc _ _ _⟩

theorem fresh_snoc {list : List Char} {c : Char} :
    Fresh (list ++ [c]) ↔
      (Fresh list ∧ isBlank c = true) ∨ ((InName list ∨ InTrail list) ∧ c = ',') := by
  constructor
  · rintro (blank | ⟨front, rest, holds, blank, split⟩)
    · obtain ⟨blank, last⟩ := run_append.mp blank
      exact Or.inl ⟨Or.inl blank, last c List.mem_cons_self⟩
    · rcases nil_or_snoc rest with rfl | ⟨shorter, last, rfl⟩
      · obtain ⟨rfl, same⟩ := List.append_inj' split rfl
        exact Or.inr ⟨holds, List.singleton_inj.mp same⟩
      · have split : list ++ [c] = (front ++ ',' :: shorter) ++ [last] := by simpa using split
        obtain ⟨rfl, same⟩ := List.append_inj' split rfl
        obtain rfl : c = last := List.singleton_inj.mp same
        obtain ⟨blank, here⟩ := run_append.mp blank
        exact Or.inl ⟨Or.inr ⟨front, shorter, holds, blank, rfl⟩, here c List.mem_cons_self⟩
  · have single (here : isBlank c = true) : Run isBlank [c] := by simpa [Run] using here
    rintro (⟨blank | ⟨front, rest, holds, blank, rfl⟩, here⟩ | ⟨holds, rfl⟩)
    · exact Or.inl (run_append.mpr ⟨blank, single here⟩)
    · exact Or.inr ⟨front, rest ++ [c], holds, run_append.mpr ⟨blank, single here⟩, by simp⟩
    · exact Or.inr ⟨list, [], holds, Run.nil _, rfl⟩

theorem Complete.append {front item : List Char} (complete : Complete front) (isItem : IsItem item) :
    Complete (front ++ item) := by
  obtain ⟨lead, -, blank, ⟨items, each, rfl⟩, rfl⟩ := complete
  refine ⟨lead, (items ++ [item]).flatten, blank, ⟨items ++ [item], ?_, rfl⟩, by simp⟩
  intro other member
  rcases List.mem_append.mp member with earlier | last
  · exact each other earlier
  · rw [List.mem_singleton.mp last]
    exact isItem

theorem InName.append {front trail comma rest : List Char} (named : InName front)
    (blank : Run isBlank trail) (separator : comma = [] ∨ comma = [',']) (blanks : Run isBlank rest) :
    Complete (front ++ (trail ++ comma ++ rest)) := by
  obtain ⟨-, name, ⟨-, gap, ⟨start, type, complete, lower, rfl⟩, space, rfl⟩, word, rfl⟩ := named
  have whole := complete.append
    ⟨type, gap, name, trail, comma, rest, lower, space, word, blank, separator, blanks, rfl⟩
  simpa using whole

theorem InTrail.append {front comma rest : List Char} (trailing : InTrail front)
    (separator : comma = [] ∨ comma = [',']) (blanks : Run isBlank rest) :
    Complete (front ++ (comma ++ rest)) := by
  obtain ⟨start, trail, named, ⟨-, blank⟩, rfl⟩ := trailing
  have whole := named.append blank separator blanks
  simpa using whole

theorem complete_iff {list : List Char} : Complete list ↔ Fresh list ∨ InName list ∨ InTrail list := by
  constructor
  · rintro ⟨lead, -, blank, ⟨items, each, rfl⟩, rfl⟩
    rcases nil_or_snoc items with rfl | ⟨earlier, item, rfl⟩
    · exact Or.inl (Or.inl (by simpa using blank))
    obtain ⟨type, gap, name, trail, comma, rest, lower, space, word, trailing, separator, blanks, rfl⟩ :=
      each _ (List.mem_append_right _ List.mem_cons_self)
    -- the last item: what stands before it is complete, and it is at least a type, a gap and a name
    have complete : Complete (lead ++ earlier.flatten) :=
      ⟨lead, _, blank, ⟨earlier, fun item member => each item (List.mem_append_left _ member), rfl⟩, rfl⟩
    have named : InName (lead ++ earlier.flatten ++ type ++ gap ++ name) :=
      ⟨_, name, ⟨_, gap, ⟨_, type, complete, lower, rfl⟩, space, rfl⟩, word, rfl⟩
    rcases separator with rfl | rfl
    · rcases (run_append.mpr ⟨trailing, blanks⟩).eq_nil_or_word with empty | more
      · obtain ⟨rfl, rfl⟩ := List.append_eq_nil_iff.mp empty
        exact Or.inr (Or.inl (by simpa using named))
      · exact Or.inr (Or.inr ⟨_, _, named, more, by simp⟩)
    · left
      right
      rcases trailing.eq_nil_or_word with rfl | more
      · exact ⟨_, rest, Or.inl named, blanks, by simp⟩
      · exact ⟨_, rest, Or.inr ⟨_, trail, named, more, rfl⟩, blanks, by simp⟩
  · rintro ((blank | ⟨front, rest, named | trailing, blanks, rfl⟩) | named | trailing)
    · exact ⟨list, [], blank, ⟨[], by simp, rfl⟩, by simp⟩
    · exact named.append (Run.nil _) (Or.inr rfl) blanks
    · exact trailing.append (Or.inr rfl) blanks
    · simpa using named.append (Run.nil _) (Or.inl rfl) (Run.nil _)
    · simpa using trailing.append (Or.inl rfl) (Run.nil _)

/-- The flags of `r` say in which parts of an item `list` can end. -/
structure Describes (r : Reading) (list : List Char) : Prop where
  fresh : r.fresh = true ↔ Fresh list
  type : r.type = true ↔ InType list
  gap : r.gap = true ↔ InGap list
  name : r.name = true ↔ InName list
  trail : r.trail = true ↔ InTrail list

theorem Describes.isComplete {r : Reading} {list : List Char} (describes : Describes r list) :
    r.isComplete = true ↔ Complete list := by
  rw [complete_iff, ← describes.fresh, ← describes.name, ← describes.trail]
  simp [Reading.isComplete, or_assoc]

theorem describes_start : Describes Reading.start [] := by
  constructor
  · exact ⟨fun _ => Or.inl (Run.nil _), fun _ => rfl⟩
  all_goals exact ⟨fun set => absurd set (by decide), fun ends => absurd ends (not_followed_nil _ _)⟩

theorem Describes.next {r : Reading} {list : List Char} (describes : Describes r list) (c : Char) :
    Describes (r.next c) (list ++ [c]) := by
  have complete : (r.fresh = true ∨ r.name = true ∨ r.trail = true) ↔ Complete list := by
    rw [complete_iff, describes.fresh, describes.name, describes.trail]
  constructor
  · rw [fresh_snoc, ← describes.fresh, ← describes.name, ← describes.trail]
    simp [Reading.next]
  · rw [InType, followed_snoc, ← InType, ← describes.type, ← complete]
    simp only [Reading.next, Bool.and_eq_true, Bool.or_eq_true]
    tauto
  · rw [InGap, followed_snoc, ← InGap, ← describes.gap, ← describes.type]
    simp [Reading.next]
  · rw [InName, followed_snoc, ← InName, ← describes.name, ← describes.gap]
    simp [Reading.next]
  · rw [InTrail, followed_snoc, ← InTrail, ← describes.trail, ← describes.name]
    simp [Reading.next]

theorem describes_foldl (list : List Char) :
    Describes (list.foldl Reading.next Reading.start) list := by
  induction list using List.reverseRecOn with
  | nil => exact describes_start
  | append_singleton list c ih =>
    rw [List.foldl_append]
    exact ih.next c

theorem isParameterList_iff {list : List Char} : isParameterList list = true ↔ Complete list :=
  (describes_foldl list).isComplete

theorem isNameChar_eq (c : Char) :
    isNameChar c = (((c.isUpper || c.isLower) || c.isDigit) || c == '_') :=
  rfl

theorem isNameChar_of_isLower {c : Char} (lower : c.isLower = true) : isNameChar c = true := by
  simp [isNameChar_eq, lower]

theorem toNat_of_isNameChar {c : Char} (named : isNameChar c = true) :
    48 ≤ c.toNat ∧ c.toNat ≤ 122 := by
  simp only [isNameChar_eq, Bool.or_eq_true, beq_iff_eq] at named
  rcases named with ((upper | lower) | digit) | rfl
  · obtain ⟨low, high⟩ : 'A'.toNat ≤ c.toNat ∧ c.toNat ≤ 'Z'.toNat := of_decide_eq_true upper
    exact ⟨Nat.le_trans (by decide) low, Nat.le_trans high (by decide)⟩
  · obtain ⟨low, high⟩ := Bool.and_eq_true_iff.mp lower
    have low : 'a'.toNat ≤ c.toNat := of_decide_eq_true low
    have high : c.toNat ≤ 'z'.toNat := of_decide_eq_true high
    exact ⟨Nat.le_trans (by decide) low, high⟩
  · obtain ⟨low, high⟩ := Bool.and_eq_true_iff.mp digit
    have low : '0'.toNat ≤ c.toNat := of_decide_eq_true low
    have high : c.toNat ≤ '9'.toNat := of_decide_eq_true high
    exact ⟨low, Nat.le_trans high (by decide)⟩
  · decide

theorem isBlank_of_isNameChar {c : Char} (named : isNameChar c = true) : isBlank c = false := by
  have bound := toNat_of_isNameChar named
  simp only [isBlank, blankRanges, List.any_cons, List.any_nil, Bool.or_false, Bool.or_eq_false_iff,
    Bool.and_eq_false_iff, decide_eq_false_iff_not]
  omega

theorem IsItem.isListChar {item : List Char} (isItem : IsItem item) : Run isListChar item := by
  obtain ⟨type, gap, name, trail, comma, rest, ⟨-, lower⟩, ⟨-, space⟩, ⟨-, word⟩, blank, separator,
    blanks, rfl⟩ := isItem
  simp only [run_append]
  refine ⟨⟨⟨⟨⟨?_, ?_⟩, ?_⟩, ?_⟩, ?_⟩, ?_⟩
  · exact fun c member => by simp [Declaration.isListChar, isNameChar_of_isLower (lower c member)]
  · exact fun c member => by simp [Declaration.isListChar, space c member]
  · exact fun c member => by simp [Declaration.isListChar, word c member]
  · exact fun c member => by simp [Declaration.isListChar, blank c member]
  · rcases separator with rfl | rfl
    · exact Run.nil _
    · intro c member
      rw [List.mem_singleton.mp member]
      decide
  · exact fun c member => by simp [Declaration.isListChar, blanks c member]

theorem Complete.isListChar {list : List Char} (complete : Complete list) : Run isListChar list := by
  obtain ⟨lead, -, blank, ⟨items, each, rfl⟩, rfl⟩ := complete
  refine run_append.mpr ⟨fun c member => by simp [Declaration.isListChar, blank c member], ?_⟩
  intro c member
  obtain ⟨item, listed, here⟩ := List.mem_flatten.mp member
  exact (each item listed).isListChar c here

theorem IsItems.dropWhile_isBlank {lead list : List Char} (blank : Run isBlank lead)
    (items : IsItems list) : (lead ++ list).dropWhile isBlank = list := by
  rw [List.dropWhile_append_of_pos blank]
  obtain ⟨items, each, rfl⟩ := items
  cases items with
  | nil => rfl
  | cons item items =>
    obtain ⟨type, gap, name, trail, comma, rest, ⟨nonempty, lower⟩, -, -, -, -, -, rfl⟩ :=
      each item List.mem_cons_self
    obtain ⟨c, more, rfl⟩ := List.exists_cons_of_ne_nil nonempty
    have head := isBlank_of_isNameChar (isNameChar_of_isLower (lower c List.mem_cons_self))
    simp [head]

theorem trim_cons {c : Char} (blank : isBlank c = true) (chars : List Char) :
    trim (c :: chars) = trim chars := by
  rw [trim, List.dropWhile_cons_of_pos blank, ← trim]

theorem map_trim_modifyHead {c : Char} (blank : isBlank c = true) (pieces : List (List Char)) :
    (pieces.modifyHead (c :: ·)).map trim = pieces.map trim := by
  cases pieces with
  | nil => rfl
  | cons piece pieces => simp [trim_cons blank]

theorem splitParameters_append {lead : List Char} (blank : Run isBlank lead) (list : List Char) :
    splitParameters (lead ++ list) = splitParameters list := by
  induction lead with
  | nil => rfl
  | cons c lead ih =>
    have here := blank c List.mem_cons_self
    have separate : (c == ',') = false := by
      rw [beq_eq_false_iff_ne]
      rintro rfl
      exact absurd here (by decide)
    rw [← ih fun d member => blank d (List.mem_cons_of_mem _ member)]
    rw [splitParameters, splitParameters, List.cons_append, List.splitOn,
      List.splitOnP_cons_eq_if_modifyHead, separate, if_neg (by simp), map_trim_modifyHead here]
    rfl

end NoxAssist.Declaration
