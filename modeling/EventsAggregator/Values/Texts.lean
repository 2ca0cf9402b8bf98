namespace EventsAggregator

/-- What a Python `str` is made of. A lone surrogate is no Unicode scalar value, and a JSON text can
    name one. -/
inductive CodePoint
  | char (c : Char)
  | surrogate (n : Fin 2048)
  deriving DecidableEq, Repr

@[ext]
structure Text where
  points : List CodePoint
  deriving DecidableEq, Repr

namespace Text

def ofString (text : String) : Text := ⟨text.toList.map .char⟩

instance : Coe String Text := ⟨ofString⟩

instance : Append Text := ⟨fun text more => ⟨text.points ++ more.points⟩⟩

def length (text : Text) : Nat := text.points.length

def scalars : List CodePoint → Option (List Char)
  | [] => some []
  | .char c :: rest => (scalars rest).map (c :: ·)
  | .surrogate _ :: _ => none

/-- The text as UTF-8 can hold it: `text.encode()` raises at a lone surrogate. -/
def string? (text : Text) : Option String := (scalars text.points).map String.ofList

def encodable (text : Text) : Bool := (scalars text.points).isSome

theorem scalars_map_char (chars : List Char) : scalars (chars.map CodePoint.char) = some chars := by
  induction chars with
  | nil => rfl
  | cons c rest ih => rw [List.map_cons, scalars, ih, Option.map_some]

@[simp]
theorem string?_ofString (text : String) : (ofString text).string? = some text := by
  rw [string?, ofString, scalars_map_char, Option.map_some, String.ofList_toList]

@[simp]
theorem encodable_ofString (text : String) : (ofString text).encodable = true := by
  rw [encodable, ofString, scalars_map_char, Option.isSome_some]

@[simp]
theorem ofString_inj {text other : String} : ofString text = ofString other ↔ text = other := by
  constructor
  · intro same
    have strings := congrArg string? same
    simpa using strings
  · rintro rfl
    rfl

@[simp]
theorem ofString_beq (text other : String) : (ofString text == ofString other) = (text == other) := by
  rw [Bool.eq_iff_iff, beq_iff_eq, beq_iff_eq, ofString_inj]

end Text

/-- Whether PostgreSQL takes the text: UTF-8 without U+0000. -/
def storable (text : Text) : Bool :=
  text.points.all fun
    | .char c => c ≠ '\x00'
    | .surrogate _ => false

def truncate (n : Nat) (text : Text) : Text := ⟨text.points.take n⟩

end EventsAggregator
