import NoxAssist.Text.Utf8

/-!
# Text buffers

A buffer holds the text of a document in pieces, so that an edit cuts pieces and puts a new one
between them instead of copying the text. What a buffer means is its view `chars`: two buffers with
the same characters hold the same text, however they are cut.
-/

namespace NoxAssist

structure Buffer where
  pieces : List (List Char)
deriving DecidableEq, Repr

namespace Buffer

def chars (b : Buffer) : List Char :=
  b.pieces.flatten

def text (b : Buffer) : String :=
  String.ofList b.chars

def ofChars (chars : List Char) : Buffer :=
  ⟨[chars]⟩

def ofText (text : String) : Buffer :=
  ofChars text.toList

/-- The pieces before character `index` and those from it on; a piece around it is cut in two. -/
def cut (index : Nat) : List (List Char) → List (List Char) × List (List Char)
  | [] => ([], [])
  | piece :: pieces =>
    if piece.length ≤ index then
      let (front, back) := cut (index - piece.length) pieces
      (piece :: front, back)
    else
      ([piece.take index], piece.drop index :: pieces)

def splice (b : Buffer) (start stop : Nat) (inserted : List Char) : Buffer :=
  ⟨(cut start b.pieces).1 ++ [inserted] ++ (cut stop b.pieces).2⟩

def liesInOne (start length : Nat) : List (List Char) → Bool
  | [] => length == 0
  | piece :: pieces =>
    if piece.length ≤ start then
      liesInOne (start - piece.length) length pieces
    else
      start + length ≤ piece.length

theorem flatten_cut_fst (index : Nat) (pieces : List (List Char)) :
    (cut index pieces).1.flatten = pieces.flatten.take index := by
  induction pieces generalizing index with
  | nil => simp [cut]
  | cons piece pieces ih =>
    simp only [cut]
    split
    · rename_i h
      simp only [List.flatten_cons, ih, List.take_append, List.take_of_length_le h]
    · rename_i h
      have : index - piece.length = 0 := by omega
      simp [List.take_append, this]

theorem flatten_cut_snd (index : Nat) (pieces : List (List Char)) :
    (cut index pieces).2.flatten = pieces.flatten.drop index := by
  induction pieces generalizing index with
  | nil => simp [cut]
  | cons piece pieces ih =>
    simp only [cut]
    split
    · rename_i h
      simp only [List.flatten_cons, ih, List.drop_append, List.drop_of_length_le h, List.nil_append]
    · rename_i h
      have : index - piece.length = 0 := by omega
      simp [List.drop_append, this]

@[simp] theorem chars_ofChars (chars : List Char) : (ofChars chars).chars = chars := by
  simp [ofChars, Buffer.chars]

@[simp] theorem chars_splice (b : Buffer) (start stop : Nat) (inserted : List Char) :
    (b.splice start stop inserted).chars
      = b.chars.take start ++ inserted ++ b.chars.drop stop := by
  simp [splice, Buffer.chars, flatten_cut_fst, flatten_cut_snd]

end Buffer

end NoxAssist
