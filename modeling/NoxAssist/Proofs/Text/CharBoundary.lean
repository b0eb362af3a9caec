import Mathlib.Order.Bounds.Defs
import NoxAssist.Proofs.Text.Bytes

namespace NoxAssist.Text

theorem width_toList (text : String) : width text.toList = text.utf8ByteSize := by
  rw [width_eq_utf8ByteSize, String.ofList_toList]

def IsBoundary (text : String) (position : Nat) : Prop :=
  (⟨position⟩ : String.Pos.Raw).IsValid text

instance (text : String) : DecidablePred (IsBoundary text) :=
  fun position => inferInstanceAs (Decidable ((⟨position⟩ : String.Pos.Raw).IsValid text))

theorem isBoundary_iff {text : String} {position : Nat} :
    IsBoundary text position ↔
      ∃ front back, text.toList = front ++ back ∧ position = width front := by
  rw [IsBoundary, String.Pos.Raw.isValid_iff_exists_append]
  constructor
  · rintro ⟨front, back, rfl, place⟩
    refine ⟨front.toList, back.toList, String.toList_append, ?_⟩
    rw [width_toList]
    exact congrArg String.Pos.Raw.byteIdx place
  · rintro ⟨front, back, split, rfl⟩
    refine ⟨.ofList front, .ofList back, ?_, ?_⟩
    · rw [← String.ofList_append, ← split, String.ofList_toList]
    · rw [width_eq_utf8ByteSize]
      rfl

theorem floorBoundaryIn_split (chars : List Char) (position : Nat) :
    ∃ front back, chars = front ++ back ∧ floorBoundaryIn chars position = width front ∧
      width front ≤ position ∧ ∀ c ∈ back.head?, position < width front + c.utf8Size := by
  induction chars generalizing position with
  | nil => exact ⟨[], [], rfl, rfl, Nat.zero_le _, nofun⟩
  | cons c chars ih =>
    rw [floorBoundaryIn]
    split
    · rename_i fits
      obtain ⟨front, back, rfl, floor, below, above⟩ := ih (position - c.utf8Size)
      refine ⟨c :: front, back, rfl, by rw [floor, width_cons], ?_, ?_⟩
      · rw [width_cons]
        omega
      · intro next here
        have beyond := above next here
        rw [width_cons]
        omega
    · rename_i wide
      refine ⟨[], c :: chars, rfl, rfl, Nat.zero_le _, ?_⟩
      intro next here
      obtain rfl : c = next := Option.some.inj here
      exact Nat.lt_add_left _ (Nat.lt_of_not_le wide)

theorem isGreatest_floorBoundary (text : String) (position : Nat) :
    IsGreatest {b | IsBoundary text b ∧ b ≤ min position text.utf8ByteSize}
      (floorBoundary text position) := by
  obtain ⟨front, back, split, floor, below, above⟩ := floorBoundaryIn_split text.toList position
  have size : text.utf8ByteSize = width front + width back := by
    rw [← width_append, ← split, width_toList]
  rw [floorBoundary, floor]
  refine ⟨⟨isBoundary_iff.mpr ⟨front, back, split, rfl⟩, by omega⟩, ?_⟩
  rintro b ⟨boundary, le⟩
  obtain ⟨front', back', split', rfl⟩ := isBoundary_iff.mp boundary
  have fits : width front' ≤ position := le.trans (Nat.min_le_left _ _)
  rcases List.append_eq_append_iff.mp (split.symm.trans split') with ⟨more, rfl, rest⟩ | ⟨more, rfl, -⟩
  · -- a longer front would take in the whole next character
    cases more with
    | nil => simp
    | cons c more =>
      have beyond := above c (by simp [rest])
      rw [width_append, width_cons] at fits
      omega
  · rw [width_append]
    exact Nat.le_add_right _ _

theorem ne_of_wide {b x : UInt8} (wide : 128 ≤ b.toNat) (ascii : x.toNat < 128) : b ≠ x := by
  rintro rfl
  omega

theorem wide_of_utf8Size {c : Char} (size : 1 < c.utf8Size) {b : UInt8}
    (member : b ∈ String.utf8EncodeChar c) : 128 ≤ b.toNat := by
  rcases byte_cases member with same | above
  · by_contra ascii
    have single := congrArg List.length (utf8EncodeChar_of_ascii (c := c) (by omega))
    rw [String.length_utf8EncodeChar, List.length_singleton] at single
    omega
  · exact above

theorem before_floorBoundary (text : String) (position : Nat) :
    ∃ run, before text position = run ++ before text (floorBoundary text position) ∧
      ∀ b ∈ run, 128 ≤ b.toNat := by
  obtain ⟨front, back, split, floor, below, above⟩ := floorBoundaryIn_split text.toList position
  obtain ⟨inner, rfl⟩ := Nat.exists_eq_add_of_le below
  have taken (k : Nat) :
      before text (width front + k) = ((encode back).take k).reverse ++ (encode front).reverse := by
    rw [before, bytes_eq_encode, split, encode_append, ← length_encode, List.take_length_add_append,
      List.reverse_append]
  have whole := taken 0
  rw [Nat.add_zero, List.take_zero, List.reverse_nil, List.nil_append] at whole
  rw [floorBoundary, floor, whole]
  refine ⟨_, taken inner, ?_⟩
  intro b member
  have member := List.mem_reverse.mp member
  cases back with
  | nil => simp at member
  | cons c back =>
    have beyond := above c rfl
    have short : inner ≤ (String.utf8EncodeChar c).length := by
      rw [String.length_utf8EncodeChar]
      omega
    rw [encode_cons, List.take_append_of_le_length short] at member
    have positive : 0 < inner := by
      rw [Nat.pos_iff_ne_zero]
      rintro rfl
      cases member
    exact wide_of_utf8Size (by omega) (List.mem_of_mem_take member)

def InsideChar (text : String) (position : Nat) : Prop :=
  ∃ front c back, text.toList = front ++ c :: back ∧ width front < position ∧
    position < width front + c.utf8Size

theorem InsideChar.lt_utf8ByteSize {text : String} {position : Nat} (inside : InsideChar text position) :
    position < text.utf8ByteSize := by
  obtain ⟨front, c, back, split, -, below⟩ := inside
  rw [← width_toList, split, width_append, width_cons]
  omega

theorem InsideChar.wide {text : String} {position i : Nat} (inside : InsideChar text position)
    (near : i = position ∨ i + 1 = position) {b : UInt8} (here : (bytes text)[i]? = some b) :
    128 ≤ b.toNat := by
  obtain ⟨front, c, back, split, above, below⟩ := inside
  obtain ⟨k, rfl⟩ := Nat.exists_eq_add_of_le (show width front ≤ i by omega)
  have within : k < (String.utf8EncodeChar c).length := by
    rw [String.length_utf8EncodeChar]
    omega
  rw [bytes_eq_encode, split, encode_append, encode_cons, ← length_encode,
    List.getElem?_append_right (Nat.le_add_right _ _), Nat.add_sub_cancel_left,
    List.getElem?_append_left within] at here
  exact wide_of_utf8Size (by omega) (List.mem_of_getElem? here)

end NoxAssist.Text
