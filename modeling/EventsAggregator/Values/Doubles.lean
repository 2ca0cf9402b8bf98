import EventsAggregator.Values.Floats

namespace Floats

def halfEven (numerator denominator : Nat) : Nat :=
  let quotient := numerator / denominator
  let rest := numerator % denominator
  if 2 * rest < denominator ∨ 2 * rest = denominator ∧ quotient % 2 = 0 then quotient
  else quotient + 1

def unit : Nat := 2 ^ 1074

theorem unit_pos : 0 < unit := by
  unfold unit
  apply Nat.two_pow_pos

def units (numerator denominator : Nat) : Nat := unit * numerator / denominator

def scale (numerator denominator : Nat) : Nat := (units numerator denominator).log2 - 52

def significand (numerator denominator : Nat) : Nat :=
  halfEven (unit * numerator) (denominator * 2 ^ scale numerator denominator)

/-- A finite double without its sign: `mantissa * 2 ^ exponent` of the smallest ones. -/
structure Magnitude where
  mantissa : Nat
  exponent : Nat
  narrow : mantissa < 2 ^ 53
  normal : exponent = 0 ∨ 2 ^ 52 ≤ mantissa
  bounded : exponent ≤ 2045
  deriving DecidableEq

inductive Double
  | nan
  | infinity (negative : Bool)
  | finite (negative : Bool) (magnitude : Magnitude)
  deriving DecidableEq

section Significand

variable {numerator denominator : Nat}

theorem halfEven_bounds (numerator denominator : Nat) :
    numerator / denominator ≤ halfEven numerator denominator ∧
      halfEven numerator denominator ≤ numerator / denominator + 1 := by
  unfold halfEven
  simp only
  split <;> omega

theorem significand_bounds (numerator denominator : Nat) :
    units numerator denominator / 2 ^ scale numerator denominator ≤
        significand numerator denominator ∧
      significand numerator denominator ≤
        units numerator denominator / 2 ^ scale numerator denominator + 1 := by
  rw [units, Nat.div_div_eq_div_mul]
  exact halfEven_bounds _ _

theorem significand_le (numerator denominator : Nat) :
    significand numerator denominator ≤ 2 ^ 53 := by
  have kept : units numerator denominator / 2 ^ scale numerator denominator < 2 ^ 53 := by
    apply (Nat.div_lt_iff_lt_mul (Nat.two_pow_pos _)).mpr
    rw [← Nat.pow_add]
    apply Nat.lt_of_lt_of_le Nat.lt_log2_self
    apply Nat.pow_le_pow_right (by decide)
    unfold scale
    omega
  exact Nat.le_trans (significand_bounds numerator denominator).2 kept

theorem le_significand {bits : Nat} (nonzero : units numerator denominator ≠ 0)
    (kept : bits + scale numerator denominator ≤ (units numerator denominator).log2) :
    2 ^ bits ≤ significand numerator denominator := by
  apply Nat.le_trans _ (significand_bounds numerator denominator).1
  apply (Nat.le_div_iff_mul_le (Nat.two_pow_pos _)).mpr
  rw [← Nat.pow_add]
  apply Nat.le_trans _ (Nat.log2_self_le nonzero)
  exact Nat.pow_le_pow_right (by decide) kept

theorem significand_normal :
    scale numerator denominator = 0 ∨ 2 ^ 52 ≤ significand numerator denominator := by
  by_cases small : scale numerator denominator = 0
  · exact Or.inl small
  · have nonzero : units numerator denominator ≠ 0 := by
      intro zero
      rw [scale, zero] at small
      exact small (by decide)
    right
    apply le_significand nonzero
    unfold scale at *
    omega

theorem significand_pos (nonzero : units numerator denominator ≠ 0) :
    0 < significand numerator denominator := by
  apply @le_significand _ _ 0 nonzero
  unfold scale
  omega

end Significand

/-- The finite double that is nearest to a number which is not negative, unless it overflows. -/
def nearest (numerator denominator : Nat) : Option Magnitude :=
  if carried : significand numerator denominator = 2 ^ 53 then
    if bounded : scale numerator denominator + 1 ≤ 2045 then
      some ⟨2 ^ 52, scale numerator denominator + 1, by decide, Or.inr (Nat.le_refl _), bounded⟩
    else none
  else if bounded : scale numerator denominator ≤ 2045 then
    some ⟨significand numerator denominator, scale numerator denominator,
      Nat.lt_of_le_of_ne (significand_le ..) carried, significand_normal, bounded⟩
  else none

theorem nearest_pos {numerator denominator : Nat} {x : Magnitude}
    (found : nearest numerator denominator = some x)
    (nonzero : units numerator denominator ≠ 0) : 0 < x.mantissa := by
  unfold nearest at found
  split at found
  · split at found
    · cases found
      exact Nat.two_pow_pos 52
    · cases found
  · split at found
    · cases found
      exact significand_pos nonzero
    · cases found

def nearestDecimal (digits : Nat) (exponent : Int) : Option Magnitude :=
  nearest (digits * 10 ^ exponent.toNat) (10 ^ (-exponent).toNat)

def Double.ofMagnitude (negative : Bool) : Option Magnitude → Double
  | some magnitude => .finite negative magnitude
  | none => .infinity negative

def Literal.round : Literal → Double
  | .nan => .nan
  | .infinity negative => .infinity negative
  | .decimal negative digits exponent => .ofMagnitude negative (nearestDecimal digits exponent)

namespace Magnitude

variable (x : Magnitude)

def point : Int :=
  (Nat.toDigits 10 (x.mantissa * 2 ^ x.exponent * 10 ^ 324 / unit)).length - 324

def decimals (count : Nat) : (Nat × Int) × (Nat × Int) :=
  let exponent := x.point - count
  let numerator := x.mantissa * 2 ^ x.exponent * 10 ^ (-exponent).toNat
  let denominator := unit * 10 ^ exponent.toNat
  let below := numerator / denominator
  if halfEven numerator denominator = below then ((below, exponent), (below + 1, exponent))
  else ((below + 1, exponent), (below, exponent))

def reads (decimal : Nat × Int) : Bool := nearestDecimal decimal.1 decimal.2 = some x

/-- The shortest decimal that is read as the magnitude. Seventeen digits are enough for any. -/
def shortest : Nat × Int :=
  ((List.range' 1 16).findSome? fun count =>
    let (near, far) := x.decimals count
    if x.reads near then some near else if x.reads far then some far else none).getD
      (let (near, far) := x.decimals 17
      if x.reads near then near else far)

end Magnitude

def fixed (digits : List Char) (point : Int) : List Char :=
  if point ≤ 0 then '0' :: '.' :: (List.replicate (-point).toNat '0' ++ digits)
  else
    (digits.take point.toNat).rightpad point.toNat '0' ++
      '.' :: if digits.drop point.toNat = [] then ['0'] else digits.drop point.toNat

def scientific (digits : List Char) (point : Int) : List Char :=
  digits.take 1 ++ (if digits.drop 1 = [] then [] else '.' :: digits.drop 1) ++
    'e' :: (if point < 1 then '-' else '+') ::
      (Nat.toDigits 10 (point - 1).natAbs).leftpad 2 '0'

def Magnitude.text (x : Magnitude) : List Char :=
  if x.mantissa = 0 then ['0', '.', '0']
  else
    let digits := Nat.toDigits 10 x.shortest.1
    let point := digits.length + x.shortest.2
    let digits := digits.rdropWhile (· = '0')
    if -4 < point ∧ point ≤ 16 then fixed digits point else scientific digits point

def Double.str : Double → String
  | .nan => "nan"
  | .infinity negative => if negative then "-inf" else "inf"
  | .finite negative x => String.ofList (if negative then '-' :: x.text else x.text)

def Double.isZero : Double → Bool
  | .finite _ x => x.mantissa = 0
  | _ => false

theorem numeral_pos {n : Nat} {x : Magnitude} (positive : n ≠ 0)
    (found : nearestDecimal n 0 = some x) : 0 < x.mantissa := by
  unfold nearestDecimal at found
  apply nearest_pos found
  have same : units (n * 10 ^ (0 : Int).toNat) (10 ^ (-0 : Int).toNat) = unit * n := by
    simp [units]
  rw [same]
  exact Nat.mul_ne_zero (Nat.ne_of_gt unit_pos) positive

theorem ofMagnitude_isZero (negative : Bool) (found : Option Magnitude) :
    (Double.ofMagnitude negative found).isZero = true ↔ ∃ x, found = some x ∧ x.mantissa = 0 := by
  cases found <;> simp [Double.ofMagnitude, Double.isZero]

theorem round_zero : (Literal.decimal false 0 0).round.isZero = true := by decide +kernel

theorem round_zero_iff (n : Nat) : (Literal.decimal false n 0).round.isZero = true ↔ n = 0 := by
  constructor
  · intro zero
    obtain ⟨x, found, zero⟩ := (ofMagnitude_isZero false _).mp zero
    by_contra positive
    have more := numeral_pos positive found
    omega
  · intro zero
    rw [zero]
    exact round_zero

theorem fixed_point (digits : List Char) (point : Int) : '.' ∈ fixed digits point := by
  unfold fixed
  split
  · simp
  · simp

theorem scientific_exponent (digits : List Char) (point : Int) : 'e' ∈ scientific digits point := by
  simp [scientific]

theorem str_not_digits (x : Double) : ∃ c ∈ x.str.toList, c.isDigit = false := by
  cases x with
  | nan => exact ⟨'n', by decide, by decide⟩
  | infinity negative => cases negative <;> exact ⟨'n', by decide, by decide⟩
  | finite negative x =>
    have written : ∃ c ∈ x.text, c.isDigit = false := by
      unfold Magnitude.text
      split
      · exact ⟨'.', by simp, by decide⟩
      · simp only
        split
        · exact ⟨'.', fixed_point _ _, by decide⟩
        · exact ⟨'e', scientific_exponent _ _, by decide⟩
    obtain ⟨c, inside, other⟩ := written
    refine ⟨c, ?_, other⟩
    rw [Double.str, String.toList_ofList]
    split
    · exact List.mem_cons_of_mem _ inside
    · exact inside

example : (Literal.decimal false 30 0).round.str = "30.0" := by decide +kernel

example : (Literal.decimal false (10 ^ 16) 0).round.str = "1e+16" := by decide +kernel

end Floats
