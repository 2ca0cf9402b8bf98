import EventsAggregator.Clients.Errors
import EventsAggregator.Db.Models

namespace EventsAggregator

/-- What `json.loads` makes of a text. A number is kept as it was written. -/
inductive Json
  | null
  | bool (value : Bool)
  | number (literal : String)
  | str (value : Text)
  | arr (items : List Json)
  | obj (items : List (Text × Json))

mutual

def Json.encodable : Json → Bool
  | .null | .bool _ | .number _ => true
  | .str value => value.encodable
  | .arr items => Json.itemsEncodable items
  | .obj items => Json.entriesEncodable items

def Json.itemsEncodable : List Json → Bool
  | [] => true
  | item :: rest => item.encodable && Json.itemsEncodable rest

def Json.entriesEncodable : List (Text × Json) → Bool
  | [] => true
  | (key, value) :: rest => key.encodable && value.encodable && Json.entriesEncodable rest

end

/-- `response.json()`. Not every exception it raises is a `ValueError`: nesting can be too deep. -/
inductive Decoded
  | value (json : Json)
  | valueError
  | raised (description : String)

abbrev Headers := List (String × String)

def sameName (name other : String) : Bool :=
  name.toList.map Char.toLower = other.toList.map Char.toLower

def Headers.get? (headers : Headers) (name : String) : Option String :=
  match headers.filter fun header => sameName header.1 name with
  | [] => none
  | found => some (", ".intercalate (found.map Prod.snd))

/-- A response as `httpx` hands it back, behind the redirects it could follow. `response.text`
    decodes the body with the charset that the headers name, which can raise. -/
structure Response where
  statusCode : Nat
  headers : Headers
  content : List UInt8
  text : Except String Text
  json : Decoded
  method : String
  url : String

inductive Transport
  | response (response : Response)
  | timeout
  | requestError (description : String)
  | raised (description : String)

/-- What the clients use of `str`, which raises when a value is nested too deeply, and of the
    validators of pydantic. -/
structure Libraries where
  str : Json → Except String Text
  uuid : Json → Option UUID
  awareDatetime : Json → Option Instant
  int : Json → Option Int
  bool : Json → Option Bool

def Json.textAt : Json → String → Option Text
  | .obj items, key =>
    match items.lookup (key : Text) with
    | some (.str value) => some value
    | _ => none
  | _, _ => none

def Json.message? (payload : Json) : Option Text :=
  ["message", "detail", "error"].findSome? payload.textAt

/-- Nothing but a `ValueError` comes of decoding the body, and after one the text can be had, as the
    text of a value without a message can. -/
def Response.Readable (libraries : Libraries) (response : Response) : Prop :=
  match response.json with
  | .valueError => ∃ text, response.text = .ok text
  | .raised _ => False
  | .value payload => payload.message? = none → ∃ text, libraries.str payload = .ok text

namespace BaseAPIClient

def statusText (response : Response) (text : Text) : Text :=
  (s!"HTTP {response.statusCode}: " : String) ++ text

def extractErrorMessage (libraries : Libraries) (response : Response) : Except Raised Text :=
  match response.json with
  | .valueError =>
    match response.text with
    | .ok text => .ok (statusText response (truncate 200 text))
    | .error description => .error (.other description)
  | .raised description => .error (.other description)
  | .value payload =>
    match payload.message? with
    | some message => .ok message
    | none =>
      match libraries.str payload with
      | .ok text => .ok (statusText response text)
      | .error description => .error (.other description)

def request (errorFromResponse : Response → Except Raised APIClientError) (method url : String) :
    Transport → Except Raised Json
  | .timeout => .error (.client ⟨.apiConnectionError, s!"Timeout: {method} {url}", none, none⟩)
  | .requestError description =>
    .error (.client ⟨.apiConnectionError, s!"Connection error: {description}", none, none⟩)
  | .raised description => .error (.other description)
  | .response response =>
    if response.statusCode ≥ 400 then
      match errorFromResponse response with
      | .ok error => .error (.client error)
      | .error raised => .error raised
    else if response.statusCode = 204 ∨ response.content = [] then .ok (.obj [])
    else
      match response.json with
      | .value json => .ok json
      | .valueError =>
        .error (.client ⟨.apiInvalidResponseError,
          s!"Invalid JSON from {response.method} {response.url}", none, none⟩)
      | .raised description => .error (.other description)

def parse {Model : Type} (modelValidate : Json → Except Nat Model) (data : Json) :
    Except Raised Model :=
  match modelValidate data with
  | .ok model => .ok model
  | .error count =>
    .error (.client ⟨.apiInvalidResponseError, s!"Invalid response format: {count} errors", none,
      none⟩)

theorem extract_cases (libraries : Libraries) (response : Response) :
    (response.Readable libraries ∧
        ∃ message, extractErrorMessage libraries response = .ok message) ∨
      ¬ response.Readable libraries ∧
        ∃ description, extractErrorMessage libraries response = .error (.other description) := by
  unfold extractErrorMessage Response.Readable
  cases response.json with
  | raised description => exact Or.inr ⟨id, description, rfl⟩
  | valueError =>
    cases response.text with
    | ok text => exact Or.inl ⟨⟨text, rfl⟩, _, rfl⟩
    | error description => exact Or.inr ⟨by simp, description, rfl⟩
  | value payload =>
    dsimp only
    cases payload.message? with
    | some message => exact Or.inl ⟨by simp, message, rfl⟩
    | none =>
      cases libraries.str payload with
      | ok text => exact Or.inl ⟨by simp, _, rfl⟩
      | error description => exact Or.inr ⟨by simp, description, rfl⟩

end BaseAPIClient

section Sample

def sampleLibraries : Libraries where
  str _ := .ok ""
  uuid
    | .str text => text.string?.bind UUID.parse
    | _ => none
  awareDatetime
    | .str text => if text = "0001-01-01T00:00:00Z" then some 0 else none
    | _ => none
  int _ := none
  bool
    | .bool value => some value
    | _ => none

end Sample

end EventsAggregator
