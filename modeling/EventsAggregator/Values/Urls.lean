import Mathlib.Data.List.Basic
import Mathlib.Data.List.TakeWhile

namespace Urls

def unreserved (c : Char) : Bool :=
  c.isAlphanum || ['_', '.', '-', '~'].contains c

def percent (byte : UInt8) : List Char :=
  ['%', (Nat.digitChar (byte.toNat / 16)).toUpper, (Nat.digitChar (byte.toNat % 16)).toUpper]

def quoteChar (c : Char) : List Char :=
  if unreserved c then [c]
  else if c = ' ' then ['+']
  else (String.utf8EncodeChar c).flatMap percent

def quotePlus (text : String) : List Char := text.toList.flatMap quoteChar

def urlencode (params : List (String × String)) : String :=
  String.ofList (['&'].intercalate (params.map fun param =>
    quotePlus param.1 ++ '=' :: quotePlus param.2))

/-- `urllib.parse.unquote`: a text without '%' is returned as it is. How the others are decoded
    is left open. -/
def unquote (decode : String → String) (text : List Char) : String :=
  if '%' ∈ text then decode (String.ofList text) else String.ofList text

def plusToSpace (text : List Char) : List Char := text.map fun c => if c = '+' then ' ' else c

def parseField (decode : String → String) (field : List Char) : String × String :=
  (unquote decode (plusToSpace (field.takeWhile (· ≠ '='))),
    unquote decode (plusToSpace ((field.dropWhile (· ≠ '=')).drop 1)))

def parseQsl (decode : String → String) (query : List Char) : List (String × String) :=
  ((query.splitOn '&').filter (· ≠ [])).map (parseField decode)

def beforeQuery (url : String) : String :=
  String.ofList (url.toList.takeWhile fun c => c ≠ '?' ∧ c ≠ '#')

def query (url : String) : List Char :=
  match url.toList.dropWhile fun c => c ≠ '?' ∧ c ≠ '#' with
  | '?' :: rest => rest.takeWhile (· ≠ '#')
  | _ => []

/-- `urlsplit` drops control characters and spaces before a URL, and tabs and line ends in it. -/
def cleaned (url : String) : List Char :=
  (url.toList.dropWhile fun c => c.toNat ≤ 32).filter fun c => c ∉ ['\t', '\n', '\r']

def schemeChar (c : Char) : Bool :=
  c.isAlphanum || ['+', '-', '.'].contains c

def splitScheme (url : List Char) : List Char × List Char :=
  let before := url.takeWhile (· ≠ ':')
  if (before.head?.any Char.isAlpha && before.all schemeChar && url.contains ':') = true then
    (before.map Char.toLower, (url.dropWhile (· ≠ ':')).drop 1)
  else ([], url)

def scheme (url : String) : String := String.ofList (splitScheme (cleaned url)).1

def netloc (url : String) : String :=
  match (splitScheme (cleaned url)).2 with
  | '/' :: '/' :: rest => String.ofList (rest.takeWhile fun c => c ∉ ['/', '?', '#'])
  | _ => ""

def Plain (text : String) : Prop := ∀ c ∈ text.toList, unreserved c = true

theorem plain_of_all {text : String} (all : text.toList.all unreserved = true) : Plain text :=
  fun _ inside => List.all_eq_true.mp all _ inside

theorem unreserved_ne {c d : Char} (plain : unreserved c = true) (special : unreserved d = false) :
    c ≠ d := by
  rintro rfl
  rw [plain] at special
  cases special

theorem quotePlus_plain {text : String} (plain : Plain text) : quotePlus text = text.toList := by
  have each : ∀ c ∈ text.toList, quoteChar c = [c] := fun c inside => if_pos (plain c inside)
  unfold quotePlus
  rw [List.flatMap_congr each]
  simp

theorem unquote_plain {decode : String → String} {text : String} (plain : Plain text) :
    unquote decode (plusToSpace text.toList) = text := by
  have kept : plusToSpace text.toList = text.toList := by
    unfold plusToSpace
    conv_rhs => rw [← List.map_id text.toList]
    apply List.map_congr_left
    intro c inside
    exact if_neg (unreserved_ne (plain c inside) (by decide))
  have clean : '%' ∉ text.toList := fun inside =>
    unreserved_ne (plain '%' inside) (by decide) rfl
  rw [kept, unquote, if_neg clean, String.ofList_toList]

def written (param : String × String) : List Char := param.1.toList ++ '=' :: param.2.toList

theorem parseField_written {decode : String → String} {param : String × String}
    (name : Plain param.1) (value : Plain param.2) :
    parseField decode (written param) = param := by
  have before : ∀ c ∈ param.1.toList, decide (c ≠ '=') = true := fun c inside => by
    simpa using unreserved_ne (name c inside) (by decide)
  have front : (written param).takeWhile (· ≠ '=') = param.1.toList := by
    rw [written, List.takeWhile_append_of_pos before]
    simp
  have back : (written param).dropWhile (· ≠ '=') = '=' :: param.2.toList := by
    rw [written, List.dropWhile_append_of_pos before]
    simp
  rw [parseField, front, back, List.drop_one, List.tail_cons, unquote_plain name,
    unquote_plain value]

theorem urlencode_plain {params : List (String × String)}
    (plain : ∀ param ∈ params, Plain param.1 ∧ Plain param.2) :
    (urlencode params).toList = ['&'].intercalate (params.map written) := by
  have each : params.map (fun param => quotePlus param.1 ++ '=' :: quotePlus param.2) =
      params.map written := by
    apply List.map_congr_left
    intro param inside
    obtain ⟨name, value⟩ := plain param inside
    rw [quotePlus_plain name, quotePlus_plain value, written]
  rw [urlencode, String.toList_ofList, each]

theorem mem_written {param : String × String} (name : Plain param.1) (value : Plain param.2)
    {c : Char} (inside : c ∈ written param) : unreserved c = true ∨ c = '=' := by
  rcases List.mem_append.mp inside with inside | inside
  · exact Or.inl (name c inside)
  · rcases List.mem_cons.mp inside with rfl | inside
    · exact Or.inr rfl
    · exact Or.inl (value c inside)

theorem parseQsl_urlencode {decode : String → String} {params : List (String × String)}
    (plain : ∀ param ∈ params, Plain param.1 ∧ Plain param.2) :
    parseQsl decode (urlencode params).toList = params := by
  have fields : ((urlencode params).toList.splitOn '&').filter (· ≠ []) = params.map written := by
    rw [urlencode_plain plain]
    cases params with
    | nil => simp [List.splitOn_nil]
    | cons first rest =>
      rw [List.splitOn_intercalate]
      · apply List.filter_eq_self.mpr
        intro field inside
        obtain ⟨param, _, rfl⟩ := List.mem_map.mp inside
        simp [written]
      · intro field inside
        obtain ⟨param, member, rfl⟩ := List.mem_map.mp inside
        obtain ⟨name, value⟩ := plain param member
        intro separator
        rcases mem_written name value separator with plain | equals
        · exact absurd plain (by decide)
        · exact absurd equals (by decide)
      · simp
  rw [parseQsl, fields, List.map_map]
  conv_rhs => rw [← List.map_id params]
  apply List.map_congr_left
  intro param member
  obtain ⟨name, value⟩ := plain param member
  exact parseField_written name value

theorem mem_intercalate {α : Type} {separator : List α} {parts : List (List α)} {x : α}
    (inside : x ∈ separator.intercalate parts) : x ∈ separator ∨ ∃ part ∈ parts, x ∈ part := by
  induction parts with
  | nil => cases inside
  | cons part rest ih =>
    cases rest with
    | nil => exact Or.inr ⟨part, by simp, by simpa using inside⟩
    | cons next rest =>
      rw [List.intercalate_cons_cons] at inside
      rcases List.mem_append.mp inside with inside | inside
      · rcases List.mem_append.mp inside with inside | inside
        · exact Or.inr ⟨part, by simp, inside⟩
        · exact Or.inl inside
      · rcases ih inside with here | ⟨other, member, here⟩
        · exact Or.inl here
        · exact Or.inr ⟨other, List.mem_cons_of_mem _ member, here⟩

theorem query_append {base : String} {params : List (String × String)}
    (bare : ∀ c ∈ base.toList, c ≠ '?' ∧ c ≠ '#')
    (plain : ∀ param ∈ params, Plain param.1 ∧ Plain param.2) :
    beforeQuery (base ++ "?" ++ urlencode params) = base ∧
      query (base ++ "?" ++ urlencode params) = (urlencode params).toList := by
  have before : ∀ c ∈ base.toList, decide (c ≠ '?' ∧ c ≠ '#') = true := fun c inside =>
    decide_eq_true (bare c inside)
  have text : (base ++ "?" ++ urlencode params).toList =
      base.toList ++ '?' :: (urlencode params).toList := by
    simp [String.toList_append]
  have noFragment : ∀ c ∈ (urlencode params).toList, decide (c ≠ '#') = true := by
    intro c inside
    rw [urlencode_plain plain] at inside
    rcases mem_intercalate inside with separator | ⟨part, member, here⟩
    · rw [List.mem_singleton.mp separator]
      decide
    · obtain ⟨param, listed, rfl⟩ := List.mem_map.mp member
      obtain ⟨name, value⟩ := plain param listed
      rcases mem_written name value here with plain | rfl
      · exact decide_eq_true (unreserved_ne plain (by decide))
      · decide
  constructor
  · rw [beforeQuery, text, List.takeWhile_append_of_pos before]
    simp
  · have rest : (base.toList ++ '?' :: (urlencode params).toList).dropWhile
        (fun c => c ≠ '?' ∧ c ≠ '#') = '?' :: (urlencode params).toList := by
      rw [List.dropWhile_append_of_pos before]
      simp
    rw [query, text, rest]
    exact List.takeWhile_eq_self_iff.mpr noFragment

example : urlencode [("page", "2"), ("page_size", "20")] = "page=2&page_size=20" := by decide

def percentEncoded : List Char → Bool
  | '%' :: high :: low :: rest => high.isHexDigit && low.isHexDigit && percentEncoded rest
  | '%' :: _ => false
  | _ :: rest => percentEncoded rest
  | [] => true

end Urls
