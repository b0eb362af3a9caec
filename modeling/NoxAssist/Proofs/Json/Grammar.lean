import NoxAssist.Json.Reader

namespace NoxAssist.Json

def IsGap (gap : List Char) : Prop :=
  ∀ c ∈ gap, c ∈ [' ', '\n', '\t', '\r']

def IsHex (value : Nat) (digit : Char) : Prop :=
  value < 16 ∧ (digit = Nat.digitChar value ∨ digit = (Nat.digitChar value).toUpper)

instance (value : Nat) (digit : Char) : Decidable (IsHex value digit) :=
  inferInstanceAs (Decidable (_ ∧ _))

inductive WritesUnit : Nat → List Char → Prop
  | digits {a b c d : Nat} {w x y z : Char} (first : IsHex a w) (second : IsHex b x)
      (third : IsHex c y) (fourth : IsHex d z) :
      WritesUnit (((a * 16 + b) * 16 + c) * 16 + d) [w, x, y, z]

def shorthands : List (Char × Char) :=
  [('"', '"'), ('\\', '\\'), ('/', '/'), ('b', '\x08'), ('f', '\x0c'), ('n', '\n'), ('r', '\r'),
    ('t', '\t')]

def IsPlain (c : Char) : Prop :=
  c ≠ '"' ∧ c ≠ '\\' ∧ 0x20 ≤ c.toNat

instance (c : Char) : Decidable (IsPlain c) :=
  inferInstanceAs (Decidable (_ ∧ _))

inductive WritesChar : Char → List Char → Prop
  | plain {c : Char} (isPlain : IsPlain c) : WritesChar c [c]
  | short {letter c : Char} (known : (letter, c) ∈ shorthands) : WritesChar c ['\\', letter]
  | unit {c : Char} {digits : List Char} (writes : WritesUnit c.toNat digits) :
      WritesChar c ('\\' :: 'u' :: digits)
  | pair {c : Char} {high low : Nat} {first second : List Char}
      (isHigh : 0xd800 ≤ high ∧ high ≤ 0xdbff) (isLow : 0xdc00 ≤ low ∧ low ≤ 0xdfff)
      (value : c.toNat = (high - 0xd800) * 0x400 + (low - 0xdc00) + 0x10000)
      (writesHigh : WritesUnit high first) (writesLow : WritesUnit low second) :
      WritesChar c ('\\' :: 'u' :: first ++ '\\' :: 'u' :: second)

inductive WritesBody : List Char → List Char → Prop
  | nil : WritesBody [] []
  | cons {c : Char} {chars written body : List Char} (first : WritesChar c written)
      (rest : WritesBody chars body) : WritesBody (c :: chars) (written ++ body)

def WritesString (value : String) (text : List Char) : Prop :=
  ∃ body, WritesBody value.toList body ∧ text = '"' :: body ++ ['"']

theorem writesBody_self {chars : List Char} (plain : chars.all (IsPlain ·) = true) :
    WritesBody chars chars := by
  induction chars with
  | nil => exact .nil
  | cons c chars ih =>
    simp only [List.all_cons, Bool.and_eq_true, decide_eq_true_eq] at plain
    exact .cons (.plain plain.1) (ih plain.2)

theorem writesString_self {value : String} (plain : value.toList.all (IsPlain ·) = true) :
    WritesString value ('"' :: value.toList ++ ['"']) :=
  ⟨_, writesBody_self plain, rfl⟩

/-- What stands between the quotes of a string that may hold unpaired UTF-16 units. -/
inductive IsBody : List Char → Prop
  | nil : IsBody []
  | plain {c : Char} {body : List Char} (isPlain : IsPlain c) (rest : IsBody body) :
      IsBody (c :: body)
  | short {letter c : Char} {body : List Char} (known : (letter, c) ∈ shorthands)
      (rest : IsBody body) : IsBody ('\\' :: letter :: body)
  | unit {unit : Nat} {digits body : List Char} (writes : WritesUnit unit digits)
      (rest : IsBody body) : IsBody ('\\' :: 'u' :: digits ++ body)

def IsString (text : List Char) : Prop :=
  ∃ body, IsBody body ∧ text = '"' :: body ++ ['"']

def IsDigits (text : List Char) : Prop :=
  text ≠ [] ∧ ∀ c ∈ text, c.isDigit = true

def IsWhole (text : List Char) : Prop :=
  text = ['0'] ∨ (IsDigits text ∧ text.head? ≠ some '0')

def IsFraction (text : List Char) : Prop :=
  text = [] ∨ ∃ digits, IsDigits digits ∧ text = '.' :: digits

def IsExponent (text : List Char) : Prop :=
  text = [] ∨ ∃ mark sign digits, mark ∈ ['e', 'E'] ∧ sign ∈ [[], ['+'], ['-']] ∧ IsDigits digits ∧
    text = mark :: (sign ++ digits)

def IsUnsigned (text : List Char) : Prop :=
  ∃ whole fraction exponent, IsWhole whole ∧ IsFraction fraction ∧ IsExponent exponent ∧
    text = whole ++ (fraction ++ exponent)

/-- What stands before an item of a list: white space, and a comma unless the item is the first. -/
inductive IsSeparator : Bool → List Char → Prop
  | space {gap : List Char} (isGap : IsGap gap) : IsSeparator true gap
  | comma {gap gap' : List Char} (isGap : IsGap gap) (isGap' : IsGap gap') :
      IsSeparator false (gap ++ ',' :: gap')

inductive Listed : Bool → List (List Char) → List Char → Prop
  | nil {isFirst : Bool} {gap : List Char} (isGap : IsGap gap) : Listed isFirst [] gap
  | cons {isFirst : Bool} {separator item rest : List Char} {items : List (List Char)}
      (separates : IsSeparator isFirst separator) (more : Listed false items rest) :
      Listed isFirst (item :: items) (separator ++ (item ++ rest))

structure Member where
  key : List Char
  before : List Char
  behind : List Char
  value : List Char

def Member.text (m : Member) : List Char :=
  m.key ++ (m.before ++ ':' :: (m.behind ++ m.value))

def Member.Spaced (m : Member) : Prop :=
  IsGap m.before ∧ IsGap m.behind

def literals : List (List Char) :=
  [['n', 'u', 'l', 'l'], ['t', 'r', 'u', 'e'], ['f', 'a', 'l', 's', 'e']]

inductive IsValue : List Char → Prop
  | literal {text : List Char} (known : text ∈ literals) : IsValue text
  | string {text : List Char} (string : IsString text) : IsValue text
  | positive {text : List Char} (number : IsUnsigned text) : IsValue text
  | negative {text : List Char} (number : IsUnsigned text) : IsValue ('-' :: text)
  | array {items : List (List Char)} {inside : List Char} (each : ∀ item ∈ items, IsValue item)
      (listed : Listed true items inside) : IsValue ('[' :: (inside ++ [']']))
  | object {members : List Member} {inside : List Char} (keys : ∀ m ∈ members, IsString m.key)
      (spaced : ∀ m ∈ members, m.Spaced) (each : ∀ m ∈ members, IsValue m.value)
      (listed : Listed true (members.map Member.text) inside) : IsValue ('{' :: (inside ++ ['}']))

end NoxAssist.Json
