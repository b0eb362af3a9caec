import Mathlib.Data.Nat.Find
import NoxAssist.Proofs.Text.Bytes

namespace NoxAssist.Text

def identAt (text : String) (i : Nat) : Bool :=
  (bytes text)[i]?.any isIdentByte

structure IsRun (text : String) (start stop : Nat) : Prop where
  nonempty : start < stop
  ident : ∀ i, start ≤ i → i < stop → identAt text i = true
  begins : 0 < start → identAt text (start - 1) = false
  ends : identAt text stop = false

def between (text : String) (start stop : Nat) : List UInt8 :=
  ((bytes text).take stop).drop start

theorem takeWhile_isIdentByte {run rest : List UInt8} (ident : ∀ b ∈ run, isIdentByte b = true)
    (apart : rest.head?.any isIdentByte = false) :
    (run ++ rest).takeWhile isIdentByte = run :=
  (span_run ident apart).1

theorem before_eq_between (text : String) {start stop : Nat} (le : start ≤ stop) :
    before text stop = (between text start stop).reverse ++ before text start := by
  have split := List.take_append_drop start ((bytes text).take stop)
  rw [List.take_take, Nat.min_eq_left le] at split
  rw [before, ← split, List.reverse_append]
  rfl

theorem after_eq_between (text : String) {start stop : Nat} (le : start ≤ stop) :
    after text start = between text start stop ++ after text stop := by
  have split := List.take_append_drop (stop - start) ((bytes text).drop start)
  rw [List.drop_drop, Nat.add_sub_cancel' le, ← List.drop_take] at split
  exact split.symm

theorem between_append {text : String} {start middle stop : Nat} (first : start ≤ middle)
    (second : middle ≤ stop) :
    between text start middle ++ between text middle stop = between text start stop := by
  have split := List.take_append_drop (middle - start) (((bytes text).take stop).drop start)
  rwa [List.drop_drop, Nat.add_sub_cancel' first, ← List.drop_take, List.take_take,
    Nat.min_eq_left second] at split

theorem getElem?_of_mem_between {text : String} {start stop : Nat} {b : UInt8}
    (member : b ∈ between text start stop) :
    ∃ i, start ≤ i ∧ i < stop ∧ (bytes text)[i]? = some b := by
  obtain ⟨k, here⟩ := List.mem_iff_getElem?.mp member
  rw [between, List.getElem?_drop, List.getElem?_take] at here
  split at here
  · rename_i inside
    exact ⟨start + k, Nat.le_add_right _ _, inside, here⟩
  · cases here

theorem identAt_of_length_le {text : String} {i : Nat} (past : (bytes text).length ≤ i) :
    identAt text i = false := by
  rw [identAt, List.getElem?_eq_none past]
  rfl

theorem head?_after (text : String) (i : Nat) :
    (after text i).head?.any isIdentByte = identAt text i := by
  rw [after, List.head?_drop, identAt]

theorem head?_before {text : String} {i : Nat} (bound : i < (bytes text).length) :
    (before text (i + 1)).head?.any isIdentByte = identAt text i := by
  have here := List.getElem?_eq_getElem bound
  rw [before_succ here, identAt, here, List.head?_cons]

namespace IsRun
variable {text : String} {start stop cursor : Nat} (run : IsRun text start stop)
include run

theorem isIdentByte_of_mem {i j : Nat} (above : start ≤ i) (below : j ≤ stop) :
    ∀ b ∈ between text i j, isIdentByte b = true := by
  intro b member
  obtain ⟨k, lower, upper, here⟩ := getElem?_of_mem_between member
  have ident := run.ident k (above.trans lower) (upper.trans_le below)
  rwa [identAt, here] at ident

theorem stop_le_length : stop ≤ (bytes text).length := by
  by_contra beyond
  have nonempty := run.nonempty
  have ident := run.ident (stop - 1) (by omega) (by omega)
  rw [identAt_of_length_le (by omega)] at ident
  cases ident

theorem between_ne_nil : between text start stop ≠ [] := by
  have nonempty := run.nonempty
  have inside := run.stop_le_length
  rw [← List.length_pos_iff, between, List.length_drop, List.length_take]
  omega

theorem takeWhile_before (above : start ≤ cursor) (below : cursor ≤ stop) :
    (before text cursor).takeWhile isIdentByte = (between text start cursor).reverse := by
  rw [before_eq_between text above, takeWhile_isIdentByte]
  · exact fun b member =>
      run.isIdentByte_of_mem (Nat.le_refl start) below b (List.mem_reverse.mp member)
  · cases start with
    | zero => rfl
    | succ i =>
      have bound : i < (bytes text).length := by
        have nonempty := run.nonempty
        have inside := run.stop_le_length
        omega
      rw [head?_before bound]
      exact run.begins (Nat.succ_pos i)

theorem takeWhile_after (above : start ≤ cursor) (below : cursor ≤ stop) :
    (after text cursor).takeWhile isIdentByte = between text cursor stop := by
  rw [after_eq_between text below, takeWhile_isIdentByte (run.isIdentByte_of_mem above (Nat.le_refl stop))]
  rw [head?_after]
  exact run.ends

theorem identifierAround (above : start ≤ cursor) (below : cursor ≤ stop) :
    identifierAround text cursor = ofAscii (between text start stop) := by
  rw [Text.identifierAround, run.takeWhile_before above below, run.takeWhile_after above below,
    List.reverse_reverse, between_append above below]

end IsRun

theorem exists_isRun {text : String} {i : Nat} (here : identAt text i = true) :
    ∃ start stop, IsRun text start stop ∧ start ≤ i ∧ i < stop := by
  have left : ∃ start, ∀ j, start ≤ j → j ≤ i → identAt text j = true :=
    ⟨i, fun j above below => Nat.le_antisymm below above ▸ here⟩
  have right : ∃ stop, i ≤ stop ∧ identAt text stop = false :=
    ⟨max i (bytes text).length, le_max_left _ _, identAt_of_length_le (le_max_right _ _)⟩
  classical
  obtain ⟨above, ends⟩ := Nat.find_spec right
  have start_le : Nat.find left ≤ i :=
    Nat.find_min' left fun j above below => Nat.le_antisymm below above ▸ here
  have lt_stop : i < Nat.find right := by
    refine Nat.lt_of_le_of_ne above fun same => ?_
    rw [← same, here] at ends
    cases ends
  refine ⟨Nat.find left, Nat.find right, ⟨start_le.trans_lt lt_stop, ?_, ?_, ends⟩, start_le, lt_stop⟩
  · intro j lower upper
    rcases Nat.le_total j i with before | behind
    · exact Nat.find_spec left j lower before
    · by_contra other
      exact Nat.find_min right upper ⟨behind, Bool.eq_false_iff.mpr other⟩
  · intro positive
    by_contra ident
    -- the run would begin one byte earlier
    refine Nat.find_min left (Nat.sub_lt positive Nat.one_pos) fun j lower below => ?_
    rcases Nat.lt_or_ge j (Nat.find left) with earlier | within
    · obtain rfl : j = Nat.find left - 1 := by omega
      exact Bool.of_not_eq_false ident
    · exact Nat.find_spec left j within below

theorem identifierAround_of_apart {text : String} {cursor : Nat} (bound : cursor ≤ (bytes text).length)
    (apart : ∀ start stop, IsRun text start stop → ¬ (start ≤ cursor ∧ cursor ≤ stop)) :
    identifierAround text cursor = "" := by
  have ahead : (after text cursor).head?.any isIdentByte = false := by
    rw [head?_after]
    by_contra ident
    obtain ⟨start, stop, run, le, lt⟩ := exists_isRun (Bool.of_not_eq_false ident)
    exact apart start stop run ⟨le, lt.le⟩
  have behind : (before text cursor).head?.any isIdentByte = false := by
    cases cursor with
    | zero => rfl
    | succ i =>
      rw [head?_before bound]
      by_contra ident
      obtain ⟨start, stop, run, le, lt⟩ := exists_isRun (Bool.of_not_eq_false ident)
      exact apart start stop run ⟨Nat.le_succ_of_le le, lt⟩
  have nothing (rest : List UInt8) (stop : rest.head?.any isIdentByte = false) :
      rest.takeWhile isIdentByte = [] := by
    have first : ([] ++ rest).takeWhile isIdentByte = [] := takeWhile_isIdentByte nofun stop
    exact first
  rw [identifierAround, nothing _ behind, nothing _ ahead]
  rfl

structure Stands (front name back : String) : Prop where
  named : name ≠ ""
  ident : ∀ b ∈ bytes name, isIdentByte b = true
  begins : (bytes front).getLast?.any isIdentByte = false
  ends : (bytes back).head?.any isIdentByte = false

/-- The cursor stands in the identifier `name` or at one of its ends; behind the text a cursor counts
as one at the end of the text. -/
def Touches (text name : String) (cursor : Nat) : Prop :=
  ∃ front back, text = front ++ name ++ back ∧ Stands front name back ∧
    front.utf8ByteSize ≤ min cursor text.utf8ByteSize ∧
    min cursor text.utf8ByteSize ≤ front.utf8ByteSize + name.utf8ByteSize

theorem after_min (text : String) (position : Nat) :
    after text position = after text (min position text.utf8ByteSize) := by
  rw [after, after, ← length_bytes]
  rcases Nat.le_total position (bytes text).length with within | past
  · rw [Nat.min_eq_left within]
  · rw [Nat.min_eq_right past, List.drop_length, List.drop_of_length_le past]

theorem Stands.isRun {front name back : String} (stands : Stands front name back) :
    IsRun (front ++ name ++ back) front.utf8ByteSize (front.utf8ByteSize + name.utf8ByteSize) where
  nonempty := by
    have positive : name.utf8ByteSize ≠ 0 := mt String.utf8ByteSize_eq_zero_iff.mp stands.named
    omega
  ident i above below := by
    obtain ⟨k, rfl⟩ := Nat.exists_eq_add_of_le above
    have inside : k < (bytes name).length := by
      rw [length_bytes]
      omega
    rw [identAt, bytes_append, bytes_append, List.append_assoc, ← length_bytes,
      List.getElem?_append_right (Nat.le_add_right _ _), Nat.add_sub_cancel_left,
      List.getElem?_append_left inside, List.getElem?_eq_getElem inside]
    exact stands.ident _ (List.getElem_mem inside)
  begins positive := by
    rw [← length_bytes] at positive
    rw [identAt, bytes_append, bytes_append, List.append_assoc, ← length_bytes,
      List.getElem?_append_left (by omega), ← List.getLast?_eq_getElem?]
    exact stands.begins
  ends := by
    rw [identAt, bytes_append, bytes_append, ← length_bytes, ← length_bytes, ← List.length_append,
      List.getElem?_append_right (Nat.le_refl _), Nat.sub_self, ← List.head?_eq_getElem?]
    exact stands.ends

theorem Stands.identifierAround {front name back : String} (stands : Stands front name back)
    {inner : Nat} (bound : inner ≤ name.utf8ByteSize) :
    identifierAround (front ++ name ++ back) (front.utf8ByteSize + inner) = name := by
  have run : between (front ++ name ++ back) front.utf8ByteSize
      (front.utf8ByteSize + name.utf8ByteSize) = bytes name := by
    rw [between, bytes_append, bytes_append, List.append_assoc, ← length_bytes, ← length_bytes,
      List.take_length_add_append, List.take_left, List.drop_left]
  rw [stands.isRun.identifierAround (Nat.le_add_right _ _) (Nat.add_le_add_left bound _), run]
  exact ofAscii_bytes fun b member => toNat_lt_of_isIdentByte (stands.ident b member)

theorem identifierAround_of_touches {text name : String} {cursor : Nat}
    (touches : Touches text name cursor) : identifierAround text cursor = name := by
  obtain ⟨front, back, rfl, stands, above, below⟩ := touches
  obtain ⟨inner, place⟩ := Nat.exists_eq_add_of_le above
  rw [identifierAround, before_min, after_min, ← identifierAround, place]
  exact stands.identifierAround (by omega)

end NoxAssist.Text
