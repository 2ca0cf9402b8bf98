import Mathlib.Data.List.Basic
import Mathlib.Data.List.TakeWhile

namespace ConfigParser

/-- `%\(([^)]+)\)s` at the start of a text: the name, and what follows the reference. -/
def reference : List Char → Option (List Char × List Char)
  | '%' :: '(' :: rest =>
    match rest.takeWhile (· ≠ ')'), rest.dropWhile (· ≠ ')') with
    | c :: name, ')' :: 's' :: after => some (c :: name, after)
    | _, _ => none
  | _ => none

theorem reference_eq_some {text name after : List Char}
    (found : reference text = some (name, after)) :
    text = '%' :: '(' :: (name ++ ')' :: 's' :: after) := by
  unfold reference at found
  split at found
  · next rest =>
    split at found
    · next before behind =>
      cases found
      rw [← before, ← behind, List.takeWhile_append_dropWhile]
    · cases found
  · cases found

theorem reference_length {text name after : List Char}
    (found : reference text = some (name, after)) : after.length < text.length := by
  rw [reference_eq_some found]
  simp only [List.length_cons, List.length_append]
  omega

def withoutPairs : List Char → List Char
  | '%' :: '%' :: rest => withoutPairs rest
  | c :: rest => c :: withoutPairs rest
  | [] => []

def withoutReferences : List Char → List Char
  | [] => []
  | c :: rest =>
    match _found : reference (c :: rest) with
    | some (_, after) => withoutReferences after
    | none => c :: withoutReferences rest
termination_by text => text.length
decreasing_by
  · exact reference_length _found
  · simp

def beforeSet (value : List Char) : Option (List Char) :=
  if '%' ∈ withoutReferences (withoutPairs value) then none else some value

def expand (resolve : List Char → Option (List Char)) : List Char → Option (List Char)
  | [] => some []
  | '%' :: '%' :: rest => (expand resolve rest).map ('%' :: ·)
  | '%' :: rest =>
    match _found : reference ('%' :: rest) with
    | some (name, after) => do
      let value ← resolve name
      let others ← expand resolve after
      some (value ++ others)
    | none => none
  | c :: rest => (expand resolve rest).map (c :: ·)
termination_by text => text.length
decreasing_by
  · simp only [List.length_cons]
    omega
  · exact reference_length _found
  · simp

def resolve (options interpolate : List Char → Option (List Char)) (name : List Char) :
    Option (List Char) := do
  let value ← options name
  if '%' ∈ value then interpolate value else some value

/-- `BasicInterpolation._interpolate_some`, with the depth that is left. -/
def interpolate (options : List Char → Option (List Char)) : Nat → List Char → Option (List Char)
  | 0, _ => none
  | depth + 1, text => expand (resolve options (interpolate options depth)) text

def maxInterpolationDepth : Nat := 10

def beforeGet (options : List Char → Option (List Char)) (value : List Char) :
    Option (List Char) :=
  interpolate options maxInterpolationDepth value

/-- No percent sign stands before another one or opens a reference. -/
def bare : List Char → Bool
  | '%' :: '%' :: _ => false
  | '%' :: '(' :: _ => false
  | _ :: rest => bare rest
  | [] => true

def names : List Char → List (List Char)
  | [] => []
  | '%' :: '%' :: rest => names rest
  | '%' :: rest =>
    match _found : reference ('%' :: rest) with
    | some (name, after) => name :: names after
    | none => []
  | _ :: rest => names rest
termination_by text => text.length
decreasing_by
  · simp only [List.length_cons]
    omega
  · exact reference_length _found
  · simp

variable {lookup : List Char → Option (List Char)} {text out : List Char}

theorem expand_cons {c : Char} (ordinary : c ≠ '%') :
    expand lookup (c :: text) = (expand lookup text).map (c :: ·) := by
  apply expand.eq_4
  · intro _ percent
    exact absurd percent ordinary
  · exact ordinary

theorem expand_reference {name after : List Char}
    (found : reference ('%' :: text) = some (name, after)) : expand lookup ('%' :: text) =
      (lookup name).bind fun value => (expand lookup after).bind fun others =>
        some (value ++ others) := by
  rw [expand.eq_3]
  · split
    · next same =>
      cases found.symm.trans same
      rfl
    · next missing => cases found.symm.trans missing
  · rintro _ rfl
    cases found

theorem expand_plain (plain : '%' ∉ text) : expand lookup text = some text := by
  induction text with
  | nil => simp [expand]
  | cons c rest ih =>
    rw [List.mem_cons, not_or] at plain
    rw [expand_cons (Ne.symm plain.1), ih plain.2]
    rfl

theorem lookup_of_expand (expanded : expand lookup text = some out) :
    ∀ name ∈ names text, (lookup name).isSome := by
  induction text using expand.induct generalizing out with
  | case1 => simp [names]
  | case2 rest ih =>
    rw [expand, Option.map_eq_some_iff] at expanded
    obtain ⟨others, expanded, _⟩ := expanded
    rw [names]
    exact ih expanded
  | case3 rest single name after found ih =>
    rw [expand_reference found] at expanded
    simp only [Option.bind_eq_some_iff] at expanded
    obtain ⟨value, looked, others, expanded, _⟩ := expanded
    rw [names, found]
    · intro other member
      rcases List.mem_cons.mp member with rfl | member
      · rw [looked]
        rfl
      · exact ih expanded other member
    · exact single
  | case4 rest single missing =>
    rw [expand, missing] at expanded
    · cases expanded
    · exact single
  | case5 c rest single ordinary ih =>
    rw [expand_cons ordinary, Option.map_eq_some_iff] at expanded
    obtain ⟨others, expanded, _⟩ := expanded
    rw [names]
    · exact ih expanded
    · exact single
    · exact ordinary

theorem count_expand (clean : ∀ name ∈ names text, ∀ value, lookup name = some value → '%' ∉ value)
    (expanded : expand lookup text = some out) : 2 * out.count '%' ≤ text.count '%' := by
  induction text using expand.induct generalizing out with
  | case1 =>
    rw [expand] at expanded
    cases expanded
    simp
  | case2 rest ih =>
    rw [expand, Option.map_eq_some_iff] at expanded
    obtain ⟨others, expanded, rfl⟩ := expanded
    rw [names] at clean
    have half := ih clean expanded
    simp only [List.count_cons_self]
    omega
  | case3 rest single name after found ih =>
    rw [expand_reference found] at expanded
    simp only [Option.bind_eq_some_iff, Option.some.injEq] at expanded
    obtain ⟨value, looked, others, expanded, rfl⟩ := expanded
    rw [names.eq_3 _ single, found] at clean
    have none := List.count_eq_zero_of_not_mem
      (clean name (List.mem_cons_self ..) value looked)
    have half := ih (fun other member => clean other (List.mem_cons_of_mem _ member)) expanded
    have kept : after.count '%' ≤ ('%' :: rest).count '%' := by
      rw [reference_eq_some found]
      simp only [List.count_append, List.count_cons]
      omega
    rw [List.count_append]
    omega
  | case4 rest single missing =>
    rw [expand, missing] at expanded
    · cases expanded
    · exact single
  | case5 c rest single ordinary ih =>
    rw [expand_cons ordinary, Option.map_eq_some_iff] at expanded
    obtain ⟨others, expanded, rfl⟩ := expanded
    rw [names.eq_4 _ _ single ordinary] at clean
    have half := ih clean expanded
    rw [List.count_cons_of_ne ordinary, List.count_cons_of_ne ordinary]
    exact half

variable {options : List Char → Option (List Char)}

theorem resolve_plain {next : List Char → Option (List Char)} {name value : List Char}
    (stated : options name = some value) (plain : '%' ∉ value) :
    resolve options next name = some value := by
  rw [resolve, stated]
  exact if_neg plain

theorem resolve_special {next : List Char → Option (List Char)} {name value : List Char}
    (stated : options name = some value) (special : '%' ∈ value) :
    resolve options next name = next value := by
  rw [resolve, stated]
  exact if_pos special

theorem interpolate_own {name : List Char} (special : '%' ∈ text) (referred : name ∈ names text)
    (own : options name = some text) (depth : Nat) : interpolate options depth text = none := by
  induction depth with
  | zero => rfl
  | succ depth ih =>
    rw [Option.eq_none_iff_forall_not_mem]
    intro out expanded
    have looked := lookup_of_expand expanded name referred
    simp [resolve, own, special, ih] at looked

theorem interpolate_eq_some_iff {depth : Nat} (others : ∀ name, options name = some text ∨
      ∀ depth value, resolve options (interpolate options depth) name = some value →
        '%' ∉ value) :
    interpolate options (depth + 1) text = some text ↔ '%' ∉ text := by
  constructor
  · intro same special
    have clean : ∀ name ∈ names text, ∀ value,
        resolve options (interpolate options depth) name = some value → '%' ∉ value := by
      intro name referred
      rcases others name with own | clean
      · exact absurd same (by simp [interpolate_own special referred own])
      · exact clean depth
    have half := count_expand clean same
    have positive := List.count_pos_iff.mpr special
    omega
  · exact expand_plain

theorem withoutPairs_bare (signs : bare text = true) : withoutPairs text = text := by
  induction text using withoutPairs.induct with
  | case1 rest ih => simp [bare] at signs
  | case2 c rest single ih =>
    rw [withoutPairs]
    · rw [ih]
      unfold bare at signs
      split at signs <;> simp_all
    · exact single
  | case3 => rfl

theorem withoutReferences_bare (signs : bare text = true) : withoutReferences text = text := by
  induction text with
  | nil => simp [withoutReferences]
  | cons c rest ih =>
    have missing : reference (c :: rest) = none := by
      unfold reference
      split
      · next after same =>
        cases same
        simp [bare] at signs
      · rfl
    have later : bare rest = true := by
      unfold bare at signs
      split at signs <;> simp_all
    rw [withoutReferences, missing, ih later]

theorem beforeSet_bare (signs : bare text = true) :
    beforeSet text = if '%' ∈ text then none else some text := by
  rw [beforeSet, withoutPairs_bare signs, withoutReferences_bare signs]

theorem bare_cons {c : Char} (ordinary : c ≠ '%') : bare (c :: text) = bare text := by
  rw [bare]
  · rintro _ rfl
    exact absurd rfl ordinary
  · rintro _ rfl
    exact absurd rfl ordinary

theorem bare_plain (plain : '%' ∉ text) : bare text = true := by
  induction text with
  | nil => rfl
  | cons c rest ih =>
    rw [List.mem_cons, not_or] at plain
    rw [bare_cons (Ne.symm plain.1), ih plain.2]

theorem get_set_eq_some_iff (others : ∀ name, options name = some text ∨
      ∀ depth value, resolve options (interpolate options depth) name = some value →
        '%' ∉ value) :
    (beforeSet text).bind (beforeGet options) = some text ↔ '%' ∉ text := by
  rw [← interpolate_eq_some_iff others]
  constructor
  · intro same
    obtain ⟨value, stored, same⟩ := Option.bind_eq_some_iff.mp same
    unfold beforeSet at stored
    split at stored
    · cases stored
    · cases stored
      exact same
  · intro same
    have plain := (interpolate_eq_some_iff others).mp same
    rw [beforeSet_bare (bare_plain plain), if_neg plain]
    exact same

end ConfigParser
