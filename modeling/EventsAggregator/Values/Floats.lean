import Mathlib.Data.List.DropRight
import Mathlib.Data.Nat.Digits.Defs

namespace Floats

/-- What `float` reads in a text, before it is rounded to a double. -/
inductive Literal
  | nan
  | infinity (negative : Bool)
  | decimal (negative : Bool) (digits : Nat) (exponent : Int)
  deriving DecidableEq, Repr

/-- The decimal digits zero of Unicode. Nine more digits follow each. -/
def zeros : List Nat :=
  0x30 :: [0x660, 0x6f0, 0x7c0, 0x966, 0x9e6, 0xa66, 0xae6, 0xb66, 0xbe6, 0xc66, 0xce6, 0xd66,
    0xde6, 0xe50, 0xed0, 0xf20, 0x1040, 0x1090, 0x17e0, 0x1810, 0x1946, 0x19d0, 0x1a80, 0x1a90,
    0x1b50, 0x1bb0, 0x1c40, 0x1c50, 0xa620, 0xa8d0, 0xa900, 0xa9d0, 0xa9f0, 0xaa50, 0xabf0, 0xff10,
    0x104a0, 0x10d30, 0x10d40, 0x11066, 0x110f0, 0x11136, 0x111d0, 0x112f0, 0x11450, 0x114d0,
    0x11650, 0x116c0, 0x116d0, 0x116da, 0x11730, 0x118e0, 0x11950, 0x11bf0, 0x11c50, 0x11d50,
    0x11da0, 0x11f50, 0x16130, 0x16a60, 0x16ac0, 0x16b50, 0x16d70, 0x1ccf0, 0x1d7ce, 0x1d7d8,
    0x1d7e2, 0x1d7ec, 0x1d7f6, 0x1e140, 0x1e2f0, 0x1e4f0, 0x1e5f1, 0x1e950, 0x1fbf0]

def digitValue (c : Char) : Option Nat :=
  (zeros.find? fun first => first ≤ c.toNat ∧ c.toNat < first + 10).map (c.toNat - ·)

def isDigit (c : Char) : Bool := (digitValue c).isSome

def isSpace (c : Char) : Bool :=
  c.toNat ∈ [0x9, 0xa, 0xb, 0xc, 0xd, 0x20, 0x85, 0xa0, 0x1680, 0x2000, 0x2001, 0x2002, 0x2003,
    0x2004, 0x2005, 0x2006, 0x2007, 0x2008, 0x2009, 0x200a, 0x2028, 0x2029, 0x202f, 0x205f, 0x3000]

def strip (text : List Char) : List Char := (text.dropWhile isSpace).rdropWhile isSpace

/-- A text without its underscores, which may stand only between two digits. -/
def ungrouped : List Char → Option (List Char)
  | [] => some []
  | '_' :: _ => none
  | c :: '_' :: rest =>
    if isDigit c ∧ rest.head?.any isDigit then (ungrouped rest).map (c :: ·) else none
  | c :: rest => (ungrouped rest).map (c :: ·)

def sign : List Char → Bool × List Char
  | '-' :: rest => (true, rest)
  | '+' :: rest => (false, rest)
  | text => (false, text)

def digitsValue (digits : List Char) : Nat :=
  digits.foldl (fun n c => 10 * n + (digitValue c).getD 0) 0

def exponent : List Char → Option Int
  | [] => some 0
  | c :: rest =>
    let (negative, digits) := sign rest
    if (c = 'e' ∨ c = 'E') ∧ digits ≠ [] ∧ digits.all isDigit then
      some (if negative then -digitsValue digits else digitsValue digits)
    else none

def number (negative : Bool) (text : List Char) : Option Literal :=
  let whole := text.takeWhile isDigit
  let (fraction, rest) :=
    match text.dropWhile isDigit with
    | '.' :: rest => (rest.takeWhile isDigit, rest.dropWhile isDigit)
    | rest => ([], rest)
  if whole = [] ∧ fraction = [] then none
  else (exponent rest).map fun power =>
    .decimal negative (digitsValue (whole ++ fraction)) (power - fraction.length)

def float (text : String) : Option Literal := do
  let (negative, text) := sign (← ungrouped (strip text.toList))
  let name := String.ofList (text.map Char.toLower)
  if name = "nan" then return .nan
  else if name = "inf" ∨ name = "infinity" then return .infinity negative
  else number negative text

theorem rdropWhile_cons {c : Char} (text : List Char) (kept : isSpace c = false) :
    (c :: text).rdropWhile isSpace = c :: text.rdropWhile isSpace := by
  simp only [List.rdropWhile, List.reverse_cons, List.dropWhile_append]
  split
  · rename_i empty
    simp [kept, List.isEmpty_iff.mp empty]
  · simp

theorem strip_cons {c : Char} (text : List Char) (kept : isSpace c = false) :
    strip (c :: text) = c :: text.rdropWhile isSpace := by
  rw [strip, List.dropWhile_cons_of_neg (by simp [kept]), rdropWhile_cons text kept]

theorem ungrouped_cons {c : Char} {text plain : List Char} (first : c ≠ '_')
    (read : ungrouped (c :: text) = some plain) : ∃ rest, plain = c :: rest := by
  unfold ungrouped at read
  split at read
  · rename_i empty
    cases empty
  · rename_i cons
    exact absurd (List.cons.inj cons).1 first
  · rename_i cons
    cases cons
    split at read
    · obtain ⟨rest, _, rfl⟩ := Option.map_eq_some_iff.mp read
      exact ⟨rest, rfl⟩
    · cases read
  · rename_i cons
    cases cons
    obtain ⟨rest, _, rfl⟩ := Option.map_eq_some_iff.mp read
    exact ⟨rest, rfl⟩

theorem sign_cons {c : Char} (text : List Char) (minus : c ≠ '-') (plus : c ≠ '+') :
    sign (c :: text) = (false, c :: text) := by
  unfold sign
  split
  · rename_i cons
    exact absurd (List.cons.inj cons).1 minus
  · rename_i cons
    exact absurd (List.cons.inj cons).1 plus
  · rfl

theorem number_refused {c : Char} (negative : Bool) (text : List Char) (digit : isDigit c = false)
    (point : c ≠ '.') : number negative (c :: text) = none := by
  have whole : (c :: text).takeWhile isDigit = [] := by simp [digit]
  have behind : (c :: text).dropWhile isDigit = c :: text := by simp [digit]
  simp only [number, whole, behind]
  split
  · rename_i cons
    exact absurd (List.cons.inj cons).1 point
  · exact if_pos ⟨trivial, rfl⟩

theorem ne_named {c d : Char} {text rest : List Char} (other : c.toLower ≠ d) :
    String.ofList ((c :: text).map Char.toLower) ≠ String.ofList (d :: rest) := by
  intro same
  have heads := congrArg String.toList same
  simp only [List.map_cons, String.toList_ofList] at heads
  exact other (List.cons.inj heads).1

/-- An HTTP-date begins with the name of a weekday, and nothing that `float` reads does. -/
theorem float_weekday {c : Char} (rest : List Char) (weekday : c ∈ ['M', 'T', 'W', 'F', 'S']) :
    float (String.ofList (c :: rest)) = none := by
  have letter : isSpace c = false ∧ isDigit c = false ∧ c ≠ '_' ∧ c ≠ '-' ∧ c ≠ '+' ∧ c ≠ '.' ∧
      c.toLower ≠ 'n' ∧ c.toLower ≠ 'i' := by
    simp only [List.mem_cons, List.not_mem_nil, or_false] at weekday
    rcases weekday with rfl | rfl | rfl | rfl | rfl <;> decide +kernel
  obtain ⟨space, digit, under, minus, plus, point, nan, infinity⟩ := letter
  rw [float, String.toList_ofList, strip_cons rest space]
  cases read : ungrouped (c :: rest.rdropWhile isSpace) with
  | none => rfl
  | some plain =>
    obtain ⟨text, rfl⟩ := ungrouped_cons under read
    simp only [Option.bind_eq_bind, Option.bind_some, sign_cons text minus plus]
    rw [if_neg (ne_named nan), if_neg (not_or.mpr ⟨ne_named infinity, ne_named infinity⟩),
      number_refused false text digit point]

theorem digitValue_ascii {c : Char} (digit : c.isDigit = true) :
    digitValue c = some (c.toNat - '0'.toNat) := by
  obtain ⟨low, high⟩ : 48 ≤ c.toNat ∧ c.toNat ≤ 57 := Char.isDigit_iff_toNat.mp digit
  have here : decide (0x30 ≤ c.toNat ∧ c.toNat < 0x30 + 10) = true :=
    decide_eq_true ⟨low, by omega⟩
  have found : (zeros.find? fun first => first ≤ c.toNat ∧ c.toNat < first + 10) = some 0x30 :=
    List.find?_cons_of_pos here
  rw [digitValue, found]
  rfl

theorem space_ascii {c : Char} (digit : c.isDigit = true) : isSpace c = false := by
  obtain ⟨low, high⟩ : 48 ≤ c.toNat ∧ c.toNat ≤ 57 := Char.isDigit_iff_toNat.mp digit
  simp only [isSpace, List.mem_cons, List.not_mem_nil, or_false, decide_eq_false_iff_not]
  omega

theorem ungrouped_plain {text : List Char} (plain : '_' ∉ text) : ungrouped text = some text := by
  induction text with
  | nil => rfl
  | cons c rest ih =>
    obtain ⟨first, behind⟩ := not_or.mp (mt List.mem_cons.mpr plain)
    unfold ungrouped
    split
    · rename_i empty
      cases empty
    · rename_i cons
      exact absurd (List.cons.inj cons).1.symm first
    · rename_i cons
      obtain ⟨rfl, rfl⟩ := List.cons.inj cons
      exact absurd (List.mem_cons_self ..) behind
    · rename_i cons
      obtain ⟨rfl, rfl⟩ := List.cons.inj cons
      rw [ih behind]
      rfl

theorem digitsValue_ascii {digits : List Char} (ascii : ∀ c ∈ digits, c.isDigit = true) :
    digitsValue digits = Nat.ofDigitChars 10 digits 0 := by
  rw [digitsValue, Nat.ofDigitChars_eq_foldl]
  apply List.foldl_ext
  intro n c inside
  rw [digitValue_ascii (ascii c inside)]
  rfl

theorem strip_ascii {digits : List Char} (ascii : ∀ c ∈ digits, c.isDigit = true) :
    strip digits = digits := by
  have solid : ∀ c ∈ digits, ¬ isSpace c = true := fun c inside => by
    simp [space_ascii (ascii c inside)]
  have front : digits.dropWhile isSpace = digits :=
    List.dropWhile_eq_self_iff.mpr fun _ => solid _ (List.getElem_mem _)
  rw [strip, front]
  exact List.rdropWhile_eq_self_iff.mpr fun nonempty => solid _ (List.getLast_mem nonempty)

theorem number_ascii {digits : List Char} (nonempty : digits ≠ [])
    (ascii : ∀ c ∈ digits, c.isDigit = true) :
    number false digits = some (.decimal false (Nat.ofDigitChars 10 digits 0) 0) := by
  have each : ∀ c ∈ digits, isDigit c = true := fun c inside => by
    rw [isDigit, digitValue_ascii (ascii c inside)]
    rfl
  have whole : digits.takeWhile isDigit = digits := List.takeWhile_eq_self_iff.mpr each
  have behind : digits.dropWhile isDigit = [] := List.dropWhile_eq_nil_iff.mpr each
  simp only [number, whole, behind, List.append_nil, digitsValue_ascii ascii]
  rw [if_neg fun empty => nonempty empty.1]
  rfl

theorem float_numeral (n : Nat) : float n.repr = some (.decimal false n 0) := by
  have ascii : ∀ c ∈ Nat.toDigits 10 n, c.isDigit = true := fun c inside =>
    Nat.isDigit_of_mem_toDigits (by decide) (by decide) inside
  have plain : '_' ∉ Nat.toDigits 10 n := fun inside => absurd (ascii _ inside) (by decide)
  have read := number_ascii Nat.toDigits_ne_nil ascii
  rw [Nat.ofDigitChars_ten_toDigits] at read
  rw [float, Nat.toList_repr, strip_ascii ascii, ungrouped_plain plain]
  cases digits : Nat.toDigits 10 n with
  | nil => exact absurd digits Nat.toDigits_ne_nil
  | cons c rest =>
    rw [digits] at ascii read
    have digit := ascii c (List.mem_cons_self ..)
    obtain ⟨low, high⟩ : 48 ≤ c.toNat ∧ c.toNat ≤ 57 := Char.isDigit_iff_toNat.mp digit
    have other {d : Char} (away : d.isDigit = false) : c ≠ d := by
      rintro rfl
      rw [digit] at away
      cases away
    have lower : c.toLower = c := by
      unfold Char.toLower
      exact dif_neg fun upper => absurd upper.1 (by
        rw [UInt32.not_le, UInt32.lt_iff_toNat_lt]
        show c.toNat < 65
        omega)
    simp only [Option.bind_eq_bind, Option.bind_some,
      sign_cons rest (other (d := '-') rfl) (other (d := '+') rfl)]
    have unnamed {d : Char} (away : d.isDigit = false) : c.toLower ≠ d := by
      rw [lower]
      exact other away
    have i : c.toLower ≠ 'i' := unnamed rfl
    rw [if_neg (ne_named (unnamed (d := 'n') rfl)), if_neg (not_or.mpr ⟨ne_named i, ne_named i⟩),
      read]

end Floats
