import Mathlib.Data.List.Induction
import Mathlib.Data.List.TakeWhile
import NoxAssist.Text.Identifier

namespace NoxAssist.Text

def encode (chars : List Char) : List UInt8 :=
  chars.flatMap String.utf8EncodeChar

theorem bytes_eq_encode (text : String) : bytes text = encode text.toList := rfl

@[simp] theorem encode_nil : encode [] = [] := rfl

@[simp] theorem encode_cons (c : Char) (chars : List Char) :
    encode (c :: chars) = String.utf8EncodeChar c ++ encode chars := rfl

@[simp] theorem encode_append (front back : List Char) :
    encode (front ++ back) = encode front ++ encode back :=
  List.flatMap_append

theorem encode_snoc (front : List Char) (c : Char) :
    (encode (front ++ [c])).reverse = (String.utf8EncodeChar c).reverse ++ (encode front).reverse := by
  simp

@[simp] theorem bytes_append (front back : String) :
    bytes (front ++ back) = bytes front ++ bytes back := by
  simp [bytes_eq_encode]

theorem bytes_ofList (chars : List Char) : bytes (String.ofList chars) = encode chars := by
  rw [bytes_eq_encode, String.toList_ofList]

theorem length_encode (chars : List Char) : (encode chars).length = width chars := by
  induction chars with
  | nil => rfl
  | cons c chars ih =>
    rw [encode_cons, List.length_append, ih, String.length_utf8EncodeChar]
    rfl

@[simp] theorem width_append (front back : List Char) :
    width (front ++ back) = width front + width back := by
  simp [← length_encode]

@[simp] theorem width_cons (c : Char) (chars : List Char) :
    width (c :: chars) = c.utf8Size + width chars := rfl

theorem length_bytes (text : String) : (bytes text).length = text.utf8ByteSize := by
  rw [← String.size_toByteArray, ← String.utf8Encode_toList]
  simp [bytes, List.utf8Encode]

theorem width_eq_utf8ByteSize (chars : List Char) :
    width chars = (String.ofList chars).utf8ByteSize := by
  rw [← length_bytes, bytes_ofList, length_encode]

theorem width_take_le (chars : List Char) {i j : Nat} (le : i ≤ j) :
    width (chars.take i) ≤ width (chars.take j) := by
  obtain ⟨more, rfl⟩ := Nat.exists_eq_add_of_le le
  rw [List.take_add, width_append]
  exact Nat.le_add_right _ _

theorem before_utf8ByteSize (text : String) :
    before text text.utf8ByteSize = (bytes text).reverse := by
  rw [before, ← length_bytes, List.take_length]

theorem before_succ {text : String} {i : Nat} {b : UInt8} (here : (bytes text)[i]? = some b) :
    before text (i + 1) = b :: before text i := by
  rw [before, List.take_add_one, here, Option.toList_some, List.reverse_append,
    List.reverse_singleton, List.singleton_append]
  rfl

theorem length_before {text : String} {i : Nat} (bound : i ≤ (bytes text).length) :
    (before text i).length = i := by
  rw [before, List.length_reverse, List.length_take, Nat.min_eq_left bound]

theorem before_min (text : String) (position : Nat) :
    before text position = before text (min position text.utf8ByteSize) := by
  rw [before, before, ← length_bytes, ← List.take_take, List.take_length]

theorem before_succ_min (text : String) (offset : Nat) :
    before text (offset + 1) = before text (min offset (text.utf8ByteSize - 1) + 1) := by
  rw [before_min text (offset + 1), before_min text (min offset _ + 1)]
  congr 1
  omega

theorem eq_before_of_suffix {text : String} {position : Nat} {behind : List UInt8}
    (suffix : behind <:+ before text position) : behind = before text behind.length := by
  unfold before at suffix ⊢
  have front := List.reverse_suffix.mp (by simpa using suffix :
    behind.reverse.reverse <:+ ((bytes text).take position).reverse)
  have whole := List.prefix_iff_eq_take.mp (front.trans (List.take_prefix _ _))
  rw [List.length_reverse] at whole
  rw [← whole, List.reverse_reverse]

/-- A character is one byte of its own value, or all of its bytes lie above ASCII. -/
theorem byte_cases {c : Char} {b : UInt8} (member : b ∈ String.utf8EncodeChar c) :
    b.toNat = c.toNat ∨ 128 ≤ b.toNat := by
  have value : c.val.toNat = c.toNat := rfl
  unfold String.utf8EncodeChar at member
  simp only at member
  split at member
  · simp at member
    subst member
    left
    simp
    omega
  · right
    split at member
    · simp at member
      rcases member with rfl | rfl <;> simp <;> omega
    · split at member
      · simp at member
        rcases member with rfl | rfl | rfl <;> simp <;> omega
      · simp at member
        rcases member with rfl | rfl | rfl | rfl <;> simp <;> omega

theorem byte_ne {c : Char} {b x : UInt8} (member : b ∈ String.utf8EncodeChar c)
    (ascii : x.toNat < 128) (other : c.toNat ≠ x.toNat) : b ≠ x := by
  rintro rfl
  rcases byte_cases member with same | above <;> omega

theorem utf8EncodeChar_of_ascii {c : Char} (ascii : c.toNat < 128) :
    String.utf8EncodeChar c = [c.toUInt8] := by
  have low : c.val.toNat ≤ 127 := Nat.le_of_lt_succ ascii
  simp only [String.utf8EncodeChar, if_pos low]
  rfl

theorem toNat_toUInt8 {c : Char} (ascii : c.toNat < 128) : c.toUInt8.toNat = c.toNat := by
  rw [show c.toUInt8.toNat = c.toNat % 256 from UInt32.toNat_toUInt8 _]
  omega

theorem ofUInt8_toUInt8 {c : Char} (ascii : c.toNat < 128) : Char.ofUInt8 c.toUInt8 = c := by
  apply Char.toNat_inj.mp
  have back : (Char.ofUInt8 c.toUInt8).toNat = c.toUInt8.toNat := rfl
  rw [back, toNat_toUInt8 ascii]

theorem count_encode {c : Char} (ascii : c.toNat < 128) (chars : List Char) :
    (encode chars).count c.toUInt8 = chars.count c := by
  induction chars with
  | nil => rfl
  | cons d chars ih =>
    rw [encode_cons, List.count_append, ih, List.count_cons]
    by_cases same : d = c
    · subst same
      rw [utf8EncodeChar_of_ascii ascii, List.count_singleton_self, if_pos BEq.rfl, Nat.add_comm]
    · have byte := toNat_toUInt8 ascii
      have absent : c.toUInt8 ∉ String.utf8EncodeChar d := by
        intro member
        refine byte_ne member (by omega) ?_ rfl
        rw [byte]
        exact fun equal => same (Char.toNat_inj.mp equal)
      rw [List.count_eq_zero_of_not_mem absent, if_neg (by simpa using same), Nat.zero_add,
        Nat.add_zero]

theorem mem_encode {c : Char} (ascii : c.toNat < 128) {chars : List Char} :
    c.toUInt8 ∈ encode chars ↔ c ∈ chars := by
  rw [← List.count_pos_iff, count_encode ascii, List.count_pos_iff]

theorem getLast?_encode {c : Char} (ascii : c.toNat < 128) {chars : List Char} :
    (encode chars).getLast? = some c.toUInt8 ↔ chars.getLast? = some c := by
  induction chars using List.reverseRecOn with
  | nil => simp
  | append_singleton front d _ =>
    have nonempty := String.utf8EncodeChar_ne_nil (c := d)
    rw [encode_append, encode_cons, encode_nil, List.append_nil, List.getLast?_append,
      List.getLast?_eq_some_getLast nonempty, Option.some_or, List.getLast?_concat,
      Option.some.injEq, Option.some.injEq]
    have byte := toNat_toUInt8 ascii
    constructor
    · intro last
      by_contra other
      refine byte_ne (List.getLast_mem nonempty) (by omega) ?_ last
      rw [byte]
      exact fun same => other (Char.toNat_inj.mp same)
    · rintro rfl
      simp [utf8EncodeChar_of_ascii ascii]

theorem exists_split_of_ascii {chars : List Char} {i : Nat} {x : UInt8}
    (here : (encode chars)[i]? = some x) (ascii : x.toNat < 128) :
    ∃ front back, chars = front ++ Char.ofUInt8 x :: back ∧ width front = i := by
  induction chars generalizing i with
  | nil => cases here
  | cons c chars ih =>
    rw [encode_cons] at here
    rcases Nat.lt_or_ge i (String.utf8EncodeChar c).length with inside | behind
    · rw [List.getElem?_append_left inside] at here
      have small : c.toNat < 128 := by
        rcases byte_cases (List.mem_of_getElem? here) with same | above <;> omega
      rw [utf8EncodeChar_of_ascii small] at here inside
      obtain rfl : i = 0 := by simpa using inside
      obtain rfl : c.toUInt8 = x := by simpa using here
      exact ⟨[], chars, by rw [ofUInt8_toUInt8 small, List.nil_append], rfl⟩
    · rw [List.getElem?_append_right behind] at here
      obtain ⟨front, back, rfl, place⟩ := ih here
      refine ⟨c :: front, back, by rw [List.cons_append], ?_⟩
      rw [String.length_utf8EncodeChar] at behind place
      rw [width_cons, place]
      omega

theorem ascii_of_byte {c : Char} (small : ∀ b ∈ String.utf8EncodeChar c, b.toNat < 128) :
    c.toNat < 128 := by
  obtain ⟨b, member⟩ := List.exists_mem_of_ne_nil _ (String.utf8EncodeChar_ne_nil (c := c))
  have bound := small b member
  rcases byte_cases member with same | above <;> omega

theorem map_ofUInt8_encode {chars : List Char} (small : ∀ b ∈ encode chars, b.toNat < 128) :
    (encode chars).map Char.ofUInt8 = chars := by
  induction chars with
  | nil => rfl
  | cons c chars ih =>
    simp only [encode_cons, List.mem_append] at small
    have ascii : c.toNat < 128 := ascii_of_byte fun b member => small b (Or.inl member)
    rw [encode_cons, List.map_append, ih fun b member => small b (Or.inr member),
      utf8EncodeChar_of_ascii ascii]
    simp [ofUInt8_toUInt8 ascii]

theorem ofAscii_bytes {text : String} (small : ∀ b ∈ bytes text, b.toNat < 128) :
    ofAscii (bytes text) = text := by
  rw [ofAscii, bytes_eq_encode, map_ofUInt8_encode small, String.ofList_toList]

theorem bytes_ofAscii {run : List UInt8} (small : ∀ b ∈ run, b.toNat < 128) :
    bytes (ofAscii run) = run := by
  rw [ofAscii, bytes_ofList]
  induction run with
  | nil => rfl
  | cons b run ih =>
    have ascii : (Char.ofUInt8 b).toNat < 128 := small b List.mem_cons_self
    have byte : (Char.ofUInt8 b).toUInt8 = b := UInt8.toNat_inj.mp (toNat_toUInt8 ascii)
    rw [List.map_cons, encode_cons, utf8EncodeChar_of_ascii ascii, byte,
      ih fun x member => small x (List.mem_cons_of_mem _ member), List.singleton_append]

theorem toNat_lt_of_isIdentByte {b : UInt8} (ident : isIdentByte b = true) : b.toNat < 128 := by
  simp only [isIdentByte, Bool.or_eq_true, Bool.and_eq_true, decide_eq_true_eq, beq_iff_eq,
    UInt8.le_iff_toNat_le] at ident
  rcases ident with ((⟨-, high⟩ | ⟨-, high⟩) | ⟨-, high⟩) | rfl
  · exact Nat.lt_of_le_of_lt high (by decide)
  · exact Nat.lt_of_le_of_lt high (by decide)
  · exact Nat.lt_of_le_of_lt high (by decide)
  · decide

theorem isAsciiBlank_of_isIdentByte {b : UInt8} (ident : isIdentByte b = true) :
    isAsciiBlank b = false := by
  by_contra blank
  simp only [isAsciiBlank, Bool.not_eq_false, Bool.or_eq_true, beq_iff_eq] at blank
  rcases blank with (((rfl | rfl) | rfl) | rfl) | rfl <;> exact absurd ident (by decide)

theorem span_run {α : Type} {p : α → Bool} {run rest : List α} (all : ∀ a ∈ run, p a = true)
    (stop : rest.head?.any p = false) :
    (run ++ rest).takeWhile p = run ∧ (run ++ rest).dropWhile p = rest := by
  rw [List.takeWhile_append_of_pos all, List.dropWhile_append_of_pos all]
  cases rest with
  | nil => simp
  | cons a rest =>
    have other : p a = false := by simpa using stop
    simp [other]

end NoxAssist.Text
