import NoxAssist.Path
import NoxAssist.Proofs.Text.Bytes

namespace NoxAssist.Path
open Text

def enter (folder : List String) (segment : String) : List String :=
  if segment = "" ∨ segment = "." then folder
  else if segment = ".." then folder.dropLast
  else folder ++ [segment]

def origin (base : List String) (path : String) : List String :=
  if path.toList.head? = some '/' then [] else base

def resolve (base : List String) (path : String) : List String :=
  (segments path).foldl enter (origin base path)

def resolveTo (base : List String) (path : String) (count : Nat) : List String :=
  ((segments path).take count).foldl enter (origin base path)

theorem prefix_enter (folder : List String) {segment : String} (down : segment ≠ "..") :
    folder <+: enter folder segment := by
  rw [enter]
  by_cases stays : segment = "" ∨ segment = "."
  · simp only [if_pos stays, List.prefix_rfl]
  · rw [if_neg stays, if_neg down]
    exact List.prefix_append _ _

theorem prefix_foldl_enter {segments : List String} (down : ".." ∉ segments) (folder : List String) :
    folder <+: segments.foldl enter folder := by
  induction segments generalizing folder with
  | nil => exact List.prefix_rfl
  | cons segment segments ih =>
    obtain ⟨first, rest⟩ := not_or.mp (mt List.mem_cons.mpr down)
    exact (prefix_enter folder (Ne.symm first)).trans (ih rest (enter folder segment))

theorem ofSegment?_eq_above (segment : String) :
    Component.ofSegment? segment = some .above ↔ segment = ".." := by
  unfold Component.ofSegment?
  split
  · rename_i skipped
    rcases skipped with rfl | rfl <;> simp
  · split <;> simp [*]

theorem above_mem_filterMap (segments : List String) :
    .above ∈ segments.filterMap Component.ofSegment? ↔ ".." ∈ segments := by
  simp [List.mem_filterMap, ofSegment?_eq_above]

theorem above_mem_components (path : String) : .above ∈ components path ↔ ".." ∈ segments path := by
  unfold components
  split
  · rw [List.mem_cons, above_mem_filterMap]
    simp
  · split
    · rename_i rest start
      rw [start, List.mem_cons, List.mem_cons, above_mem_filterMap]
      simp
    · rw [above_mem_filterMap]

theorem segments_join (path other : String) :
    segments (path ++ "/" ++ other) = segments path ++ segments other := by
  have chars : (path ++ "/" ++ other).toList = path.toList ++ '/' :: other.toList := by simp
  rw [segments, chars, List.splitOn_append_cons_self, List.map_append]
  rfl

def colon : UInt8 := 0x3a

theorem getElem?_one_of_colon {first : Char} (single : first.utf8Size = 1) (rest : List Char) :
    (encode (first :: ':' :: rest))[1]? = some colon := by
  have length : (String.utf8EncodeChar first).length = 1 := by
    rw [String.length_utf8EncodeChar, single]
  rw [encode_cons, List.getElem?_append_right (by omega), length, encode_cons,
    utf8EncodeChar_of_ascii (by decide)]
  rfl

theorem hasDrive_iff (path : String) : hasDrive path = true ↔ (bytes path)[1]? = some colon := by
  rw [bytes_eq_encode, hasDrive]
  constructor
  · intro drive
    split at drive
    · rename_i first rest chars
      rw [chars]
      exact getElem?_one_of_colon (by simpa using drive) rest
    · cases drive
  · intro second
    obtain ⟨front, back, chars, place⟩ := exists_split_of_ascii second (by decide)
    -- one byte in front of the colon is one character
    obtain ⟨first, rfl⟩ : ∃ first, front = [first] := by
      cases front with
      | nil => cases place
      | cons first front =>
        cases front with
        | nil => exact ⟨first, rfl⟩
        | cons next front =>
          have positive := first.utf8Size_pos
          have positive' := next.utf8Size_pos
          rw [width_cons, width_cons] at place
          omega
    have single : first.utf8Size = 1 := place
    have sign : Char.ofUInt8 colon = ':' := by decide
    rw [chars, sign]
    simp [single]

theorem isSafe_iff (path : String) :
    isSafe path = true ↔
      path ≠ "" ∧ path.toList.head? ≠ some '/' ∧ ".." ∉ segments path ∧
        (∀ c ∈ ['\x00', '\n', '\r', '\t'], c ∉ path.toList) ∧ (bytes path)[1]? ≠ some colon := by
  have clear : path.toList.any suspicious.contains = false ↔
      ∀ c ∈ ['\x00', '\n', '\r', '\t'], c ∉ path.toList := by
    rw [List.any_eq_false]
    simp only [List.contains_iff_mem, suspicious]
    exact ⟨fun held c suspect member => held c member suspect,
      fun free c member suspect => free c suspect member⟩
  have drive : hasDrive path = false ↔ (bytes path)[1]? ≠ some colon := by
    rw [Ne, ← hasDrive_iff, Bool.not_eq_true]
  simp only [isSafe, Bool.and_eq_true, Bool.not_eq_true', clear, drive, isAbsolute,
    List.contains_eq_mem, decide_eq_false_iff_not, above_mem_components, String.isEmpty_eq_false_iff,
    beq_eq_false_iff_ne, and_assoc]

theorem head?_join (path : String) (nonempty : path ≠ "") (other : String) :
    (path ++ "/" ++ other).toList.head? = path.toList.head? := by
  rw [String.toList_append, String.toList_append, List.append_assoc]
  cases chars : path.toList with
  | nil => exact absurd (String.toList_eq_nil_iff.mp chars) nonempty
  | cons c rest => rfl

theorem second_join (path : String) (nonempty : path ≠ "") (other : String)
    (drive : (bytes (path ++ "/" ++ other))[1]? = some colon) : (bytes path)[1]? = some colon := by
  have length : 0 < (bytes path).length := by
    rw [length_bytes, Nat.pos_iff_ne_zero]
    exact mt String.utf8ByteSize_eq_zero_iff.mp nonempty
  rw [bytes_append, bytes_append, List.append_assoc] at drive
  rcases Nat.lt_or_ge 1 (bytes path).length with longer | short
  · rwa [List.getElem?_append_left longer] at drive
  · -- behind a single byte stands the slash
    have single : (bytes path).length = 1 := by omega
    rw [List.getElem?_append_right short, single] at drive
    exact absurd drive (by simp [show bytes "/" = [0x2f] by decide, colon])

theorem isSafe_join {path other : String} (safe : isSafe path = true) (safe' : isSafe other = true) :
    isSafe (path ++ "/" ++ other) = true := by
  obtain ⟨nonempty, relative, down, clear, drive⟩ := (isSafe_iff path).mp safe
  obtain ⟨-, -, down', clear', -⟩ := (isSafe_iff other).mp safe'
  refine (isSafe_iff _).mpr ⟨by simp [nonempty], ?_, ?_, ?_, ?_⟩
  · rwa [head?_join path nonempty]
  · rw [segments_join, List.mem_append, not_or]
    exact ⟨down, down'⟩
  · intro c suspect member
    have noSlash : c ≠ '/' := by
      rintro rfl
      exact absurd suspect (by decide)
    simp only [String.toList_append, List.mem_append] at member
    rcases member with (front | between) | back
    · exact clear c suspect front
    · exact noSlash (by simpa using between)
    · exact clear' c suspect back
  · exact mt (second_join path nonempty other) drive

/-- A safe path stays below the folder that it starts from, whole and in each of its parts; which
paths are safe can be read off their characters; and a safe path may go on with another one. -/
theorem safe_paths_stay_inside (path : String) :
    (isSafe path = true → ∀ base : List String,
      base <+: resolve base path ∧ ∀ count, base <+: resolveTo base path count) ∧
    (isSafe path = true ↔
      path ≠ "" ∧ path.toList.head? ≠ some '/' ∧ ".." ∉ segments path ∧
        (∀ c ∈ ['\x00', '\n', '\r', '\t'], c ∉ path.toList) ∧ (bytes path)[1]? ≠ some colon) ∧
    (isSafe path = true → ∀ other, isSafe other = true → isSafe (path ++ "/" ++ other) = true) := by
  refine ⟨?_, isSafe_iff path, fun safe other => isSafe_join safe⟩
  intro safe base
  obtain ⟨-, relative, down, -, -⟩ := (isSafe_iff path).mp safe
  have start : origin base path = base := if_neg relative
  refine ⟨?_, fun count => ?_⟩
  · rw [resolve, start]
    exact prefix_foldl_enter down base
  · rw [resolveTo, start]
    exact prefix_foldl_enter (fun member => down (List.mem_of_mem_take member)) base

theorem safe_paths_stay_inside_dotted :
    isSafe "é:/...//./x./" = true ∧ isSafe "./..a" = true ∧
      resolve ["home"] "é:/...//./x./" = ["home", "é:", "...", "x."] ∧
      ["home"] <+: resolveTo ["home"] "é:/...//./x./" 2 ∧
      isSafe ("é:/...//./x./" ++ "/" ++ "./..a") = true ∧ isSafe "a/./.." = false := by
  have safe : isSafe "é:/...//./x./" = true := by decide
  have safe' : isSafe "./..a" = true := by decide
  obtain ⟨inside, -, join⟩ := safe_paths_stay_inside "é:/...//./x./"
  obtain ⟨-, iff, -⟩ := safe_paths_stay_inside "a/./.."
  have up : ".." ∈ segments "a/./.." := by decide
  refine ⟨safe, safe', by decide, (inside safe ["home"]).2 2, join safe "./..a" safe', ?_⟩
  rw [Bool.eq_false_iff]
  exact fun accepted => (iff.mp accepted).2.2.1 up

end NoxAssist.Path
