import Mathlib.Data.List.Basic
import Mathlib.Data.List.DropRight
import Mathlib.Data.Nat.Digits.Defs
import Mathlib.Tactic.IntervalCases

namespace EventsAggregator

structure UUID where
  int : BitVec 128
  deriving DecidableEq, Repr

def hexDigits : Nat → Nat → List Char
  | 0, _ => []
  | width + 1, n => hexDigits width (n / 16) ++ [Nat.digitChar (n % 16)]

def hexValue (c : Char) : Option Nat :=
  if '0' ≤ c ∧ c ≤ '9' then some (c.toNat - '0'.toNat)
  else if 'a' ≤ c ∧ c ≤ 'f' then some (c.toNat - 'a'.toNat + 10)
  else if 'A' ≤ c ∧ c ≤ 'F' then some (c.toNat - 'A'.toNat + 10)
  else none

def hexNumber (digits : List Char) : Option Nat :=
  digits.foldlM (fun n c => (hexValue c).map (16 * n + ·)) 0

def hyphenate (hex : List Char) : List Char :=
  hex.take 8 ++ '-' :: (hex.drop 8).take 4 ++ '-' :: (hex.drop 12).take 4 ++
    '-' :: (hex.drop 16).take 4 ++ '-' :: hex.drop 20

def UUID.str (u : UUID) : String :=
  String.ofList (hyphenate (hexDigits 32 u.int.toNat))

/-- `text.replace(pattern, "")`, behind the characters of an occurrence that are still to go. -/
def removeAll (pattern : List Char) : Nat → List Char → List Char
  | _, [] => []
  | 0, c :: rest =>
    if pattern.isPrefixOf (c :: rest) then removeAll pattern (pattern.length - 1) rest
    else c :: removeAll pattern 0 rest
  | gone + 1, _ :: rest => removeAll pattern gone rest

def stripBraces (text : List Char) : List Char :=
  (text.dropWhile (· ∈ ['\x7b', '\x7d'])).rdropWhile (· ∈ ['\x7b', '\x7d'])

/-- `UUID(text)`; anything but 32 digits is a `ValueError`. -/
def UUID.parse (text : String) : Option UUID :=
  let bare := removeAll "uuid:".toList 0 (removeAll "urn:".toList 0 text.toList)
  let hex := (stripBraces bare).filter (· ≠ '-')
  if hex.length = 32 then (hexNumber hex).map fun n => ⟨BitVec.ofNat 128 n⟩ else none

theorem hexDigits_length (width n : Nat) : (hexDigits width n).length = width := by
  induction width generalizing n with
  | zero => rfl
  | succ width ih => simp [hexDigits, ih]

theorem hexValue_digitChar (d : Nat) (bound : d < 16) : hexValue (Nat.digitChar d) = some d := by
  interval_cases d <;> decide

theorem digitChar_plain (d : Nat) (bound : d < 16) : Nat.digitChar d ∉ ['-', ':', '\x7b', '\x7d'] := by
  interval_cases d <;> decide

theorem hexDigits_plain (width n : Nat) : ∀ c ∈ hexDigits width n, c ∉ ['-', ':', '\x7b', '\x7d'] := by
  induction width generalizing n with
  | zero => simp [hexDigits]
  | succ width ih =>
    intro c member
    rcases List.mem_append.mp member with member | member
    · exact ih _ c member
    · rw [List.mem_singleton.mp member]
      exact digitChar_plain _ (Nat.mod_lt _ (by decide))

theorem hexNumber_hexDigits (width n : Nat) :
    hexNumber (hexDigits width n) = some (n % 16 ^ width) := by
  induction width generalizing n with
  | zero => simp [hexNumber, hexDigits, Nat.mod_one]
  | succ width ih =>
    have front := ih (n / 16)
    unfold hexNumber at front ⊢
    have digit := hexValue_digitChar (n % 16) (Nat.mod_lt _ (by decide))
    simp only [hexDigits, List.foldlM_append, front, List.foldlM_cons, List.foldlM_nil,
      Option.bind_eq_bind, Option.bind_some, digit, Option.map_some, Option.pure_def]
    rw [Nat.pow_succ', Nat.mod_mul]
    congr 1
    omega

theorem hyphenate_digits (hex : List Char) (plain : ∀ c ∈ hex, c ≠ '-') :
    (hyphenate hex).filter (· ≠ '-') = hex := by
  have keep (part : List Char) (inside : part ⊆ hex) : part.filter (· ≠ '-') = part :=
    List.filter_eq_self.mpr (by simpa using fun c member => plain c (inside member))
  have drop (n : Nat) : hex.drop n ⊆ hex := (List.drop_sublist n hex).subset
  have takeDrop (m n : Nat) : (hex.drop n).take m ⊆ hex :=
    ((List.take_sublist m _).trans (List.drop_sublist n hex)).subset
  have first : hex.take 8 ⊆ hex := (List.take_sublist 8 hex).subset
  simp only [hyphenate, List.append_assoc, List.cons_append, List.filter_append, List.filter_cons,
    keep _ first, keep _ (takeDrop 4 8), keep _ (takeDrop 4 12), keep _ (takeDrop 4 16),
    keep _ (drop 20)]
  have rejoin (m n : Nat) : (hex.drop m).take n ++ hex.drop (m + n) = hex.drop m := by
    rw [← List.drop_drop]
    exact List.take_append_drop n _
  simp [rejoin 16 4, rejoin 12 4, rejoin 8 4]

theorem mem_hyphenate {hex : List Char} {c : Char} (member : c ∈ hyphenate hex) :
    c = '-' ∨ c ∈ hex := by
  have takeDrop (m n : Nat) (inside : c ∈ (hex.drop n).take m) : c ∈ hex :=
    List.mem_of_mem_drop (List.mem_of_mem_take inside)
  simp only [hyphenate, List.append_assoc, List.cons_append, List.mem_append, List.mem_cons]
    at member
  rcases member with first | rfl | second | rfl | third | rfl | fourth | rfl | last
  · exact Or.inr (List.mem_of_mem_take first)
  · exact Or.inl rfl
  · exact Or.inr (takeDrop _ _ second)
  · exact Or.inl rfl
  · exact Or.inr (takeDrop _ _ third)
  · exact Or.inl rfl
  · exact Or.inr (takeDrop _ _ fourth)
  · exact Or.inl rfl
  · exact Or.inr (List.mem_of_mem_drop last)

theorem removeAll_absent {pattern : List Char} {c : Char} (needed : c ∈ pattern)
    {text : List Char} (absent : c ∉ text) : removeAll pattern 0 text = text := by
  induction text with
  | nil => rfl
  | cons first rest ih =>
    have other : pattern.isPrefixOf (first :: rest) = false := by
      rw [← Bool.not_eq_true, List.isPrefixOf_iff_prefix]
      exact fun front => absent (front.subset needed)
    rw [removeAll, other, ih fun inside => absent (List.mem_cons_of_mem _ inside)]
    rfl

theorem stripBraces_plain {text : List Char} (plain : ∀ c ∈ text, c ∉ ['\x7b', '\x7d']) :
    stripBraces text = text := by
  have front : text.dropWhile (· ∈ ['\x7b', '\x7d']) = text := by
    cases text with
    | nil => rfl
    | cons c rest => exact List.dropWhile_cons_of_neg (by simpa using plain c List.mem_cons_self)
  rw [stripBraces, front, List.rdropWhile_eq_self_iff]
  intro nonempty
  simpa using plain _ (List.getLast_mem nonempty)

theorem UUID.parse_str (u : UUID) : UUID.parse u.str = some u := by
  have plain := hexDigits_plain 32 u.int.toNat
  have digits := hyphenate_digits (hexDigits 32 u.int.toNat) fun c inside same =>
    plain c inside (by simp [same])
  have bound : u.int.toNat < 16 ^ 32 := u.int.isLt
  have colon : ':' ∉ hyphenate (hexDigits 32 u.int.toNat) := by
    intro inside
    rcases mem_hyphenate inside with hyphen | digit
    · cases hyphen
    · exact plain _ digit (by simp)
  have braces : ∀ c ∈ hyphenate (hexDigits 32 u.int.toNat), c ∉ ['\x7b', '\x7d'] := by
    intro c inside
    rcases mem_hyphenate inside with rfl | digit
    · decide
    · have apart := plain c digit
      simp_all
  unfold UUID.parse UUID.str
  simp only [String.toList_ofList, removeAll_absent (by decide : ':' ∈ "urn:".toList) colon,
    removeAll_absent (by decide : ':' ∈ "uuid:".toList) colon, stripBraces_plain braces, digits,
    hexDigits_length, hexNumber_hexDigits, Nat.mod_eq_of_lt bound, if_true, Option.map_some]
  simp

theorem UUID.str_injective : Function.Injective UUID.str := by
  intro u v same
  have parsed := congrArg UUID.parse same
  rw [UUID.parse_str, UUID.parse_str] at parsed
  exact Option.some.inj parsed

instance : ToString UUID := ⟨UUID.str⟩

example : (UUID.mk 0x1234).str = "00000000-0000-0000-0000-000000001234" := by decide

example : UUID.parse "urn:uuid:00000000-0000-0000-0000-00000000abcd" = some ⟨0xabcd⟩ := by decide

end EventsAggregator
