import NoxAssist.Proofs.Text.CharBoundary
import NoxAssist.Proofs.Text.Identifier

/-!
# Access to a text by place

A scanner over the bytes of a text reads them by their places, counts up and down, and cuts out
pieces. Each of these can go wrong, and then it is a fault here: there is no byte at the place, a
difference would lie below zero, a count would exceed the size of the text, or a piece would not
consist of whole characters.

* `slice_word`: a run of identifier bytes can always be cut out.
* `descend_eq`: a walk down to the first byte meets no fault if none of its steps does, and it gives
  what the same walk gives on the list of the bytes.
-/

namespace NoxAssist
open Text

inductive Access.Fault where
  | index (i : Nat)
  | difference (a b : Nat)
  | count (n : Nat)
  | sign (i : Int)
  | slice (start stop : Nat)
  | entry (place : Nat)
deriving DecidableEq, Repr

abbrev Access :=
  Except Access.Fault

namespace Access

@[simp] theorem ok_bind {α β : Type} (a : α) (f : α → Access β) :
    (Except.ok a : Access α) >>= f = f a :=
  rfl

@[simp] theorem pure_eq_ok {α : Type} (a : α) : (pure a : Access α) = .ok a :=
  rfl

def byteAt (text : String) (i : Nat) : Access UInt8 :=
  match (bytes text)[i]? with
  | some b => .ok b
  | none => .error (.index i)

def difference (a b : Nat) : Access {d : Nat // d + b = a} :=
  if le : b ≤ a then .ok ⟨a - b, Nat.sub_add_cancel le⟩ else .error (.difference a b)

def increment (text : String) (n : Nat) : Access {m : Nat // m = n + 1} :=
  if n < text.utf8ByteSize then .ok ⟨n + 1, rfl⟩ else .error (.count n)

def natural (i : Int) : Access Nat :=
  if 0 ≤ i then .ok i.toNat else .error (.sign i)

def posOf {text : String} {i : Nat} (boundary : IsBoundary text i) : text.Pos :=
  text.pos ⟨i⟩ boundary

def slice (text : String) (start stop : Nat) : Access String :=
  if range : start ≤ stop ∧ IsBoundary text start ∧ IsBoundary text stop then
    .ok (String.extract (posOf range.2.1) (posOf range.2.2))
  else
    .error (.slice start stop)

section
variable {text : String}

theorem byteAt_eq {i : Nat} {b : UInt8} (here : (bytes text)[i]? = some b) :
    byteAt text i = .ok b := by
  rw [byteAt, here]

theorem difference_succ (n : Nat) : difference (n + 1) 1 = .ok ⟨n, rfl⟩ := by
  simp [difference]

theorem increment_eq {n : Nat} (room : n < text.utf8ByteSize) : increment text n = .ok ⟨n + 1, rfl⟩ :=
  if_pos room

theorem natural_ofNat (n : Nat) : natural n = .ok n := by
  simp [natural]

theorem bytes_eq_toByteArray (text : String) : bytes text = text.toByteArray.data.toList := by
  rw [← String.utf8Encode_toList]
  simp [bytes, List.utf8Encode]

theorem bytes_extract {start stop : Nat} (begins : IsBoundary text start)
    (ends : IsBoundary text stop) :
    bytes (String.extract (posOf begins) (posOf ends)) = between text start stop := by
  rw [bytes_eq_toByteArray, String.toByteArray_extract, ByteArray.data_extract, Array.toList_extract,
    List.extract_eq_take_drop, between, bytes_eq_toByteArray, List.drop_take]
  rfl

theorem isBoundary_of_ascii {i : Nat} {b : UInt8} (here : (bytes text)[i]? = some b)
    (ascii : b.toNat < 128) : IsBoundary text i ∧ IsBoundary text (i + 1) := by
  obtain ⟨front, back, split, rfl⟩ := exists_split_of_ascii here ascii
  have single : (Char.ofUInt8 b).utf8Size = 1 := by
    have ascii' : (Char.ofUInt8 b).toNat < 128 := ascii
    rw [← String.length_utf8EncodeChar, utf8EncodeChar_of_ascii ascii', List.length_singleton]
  constructor
  · exact isBoundary_iff.mpr ⟨front, _, split, rfl⟩
  · refine isBoundary_iff.mpr ⟨front ++ [Char.ofUInt8 b], back, ?_, ?_⟩
    · rw [split, List.append_assoc, List.singleton_append]
    · rw [width_append, width_cons, single]
      rfl

theorem slice_word {start stop : Nat} (nonempty : start < stop) (bound : stop ≤ (bytes text).length)
    (ident : ∀ b ∈ between text start stop, isIdentByte b = true) :
    slice text start stop = .ok (ofAscii (between text start stop)) := by
  have ascii : ∀ b ∈ between text start stop, b.toNat < 128 :=
    fun b member => toNat_lt_of_isIdentByte (ident b member)
  have member {i : Nat} (above : start ≤ i) (below : i < stop) :
      ∃ b, (bytes text)[i]? = some b ∧ b ∈ between text start stop := by
    refine ⟨(bytes text)[i], List.getElem?_eq_getElem _, List.mem_iff_getElem?.mpr ⟨i - start, ?_⟩⟩
    rw [between, List.getElem?_drop, Nat.add_sub_cancel' above, List.getElem?_take_of_lt below,
      List.getElem?_eq_getElem]
  obtain ⟨first, atStart, inside⟩ := member (Nat.le_refl start) nonempty
  obtain ⟨last, atStop, inside'⟩ := member (i := stop - 1) (by omega) (by omega)
  have begins := (isBoundary_of_ascii atStart (ascii first inside)).1
  have ends := (isBoundary_of_ascii atStop (ascii last inside')).2
  rw [Nat.sub_add_cancel (Nat.one_le_of_lt nonempty)] at ends
  have cut := bytes_extract begins ends
  rw [slice, dif_pos ⟨nonempty.le, begins, ends⟩, ← cut, ofAscii_bytes (cut ▸ ascii)]

end

example : slice "ü" 1 1 = .error (.slice 1 1) := by
  decide

inductive Step (σ α : Type) where
  | next (state : σ)
  | done (result : α)

def descend {σ α : Type} (step : Nat → σ → Access (Step σ α)) (last : σ → α) (i : Nat) (s : σ) :
    Access α := do
  match ← step i s with
  | .done result => return result
  | .next s =>
    if i = 0 then
      return last s
    else
      let ⟨place, _⟩ ← difference i 1
      descend step last place s
termination_by i
decreasing_by omega

/-- `Room n s` is what a step needs to know of the state `s` when there are `n` bytes left to visit.
It is the invariant of the induction on the place. -/
theorem descend_eq {σ α : Type} {text : String} (step : Nat → σ → Access (Step σ α)) (last : σ → α)
    (walk : σ → List UInt8 → α) (Room : Nat → σ → Prop) (finish : ∀ s, walk s [] = last s)
    (follows : ∀ i b s, (bytes text)[i]? = some b → Room (i + 1) s →
      step i s = .ok (.done (walk s (b :: before text i))) ∨
        ∃ s', step i s = .ok (.next s') ∧ Room i s' ∧
          walk s (b :: before text i) = walk s' (before text i))
    {i : Nat} {s : σ} (bound : i < (bytes text).length) (room : Room (i + 1) s) :
    descend step last i s = .ok (walk s (before text (i + 1))) := by
  induction i generalizing s with
  | zero =>
    have here := List.getElem?_eq_getElem bound
    rw [before_succ here, descend]
    rcases follows 0 _ s here room with done | ⟨s', next, -, same⟩
    · simp [done]
    · rw [same, show before text 0 = [] from rfl, finish]
      simp [next]
  | succ i ih =>
    have here := List.getElem?_eq_getElem bound
    rw [before_succ here, descend]
    rcases follows (i + 1) _ s here room with done | ⟨s', next, room', same⟩
    · simp [done]
    · simp [next, same, difference_succ, ih (Nat.lt_of_succ_lt bound) room']

end Access

end NoxAssist
