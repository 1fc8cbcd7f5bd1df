import Gvpn.Data.Base64
import Gvpn.Data.Json
import Gvpn.Fronter.Http

/-! The exit-node path, from the destination's answer to the response. -/

namespace Gvpn

structure Destination where
  status : Nat
  headers : List (Text × Text)
  body : Bytes

def assign {α : Type} (key : Text) (value : α) : List (Text × α) → List (Text × α)
  | [] => [(key, value)]
  | (at_, stored) :: rest =>
    if at_ = key then (at_, value) :: rest else (at_, stored) :: assign key value rest

/-- An assigned value is found under its key, and nothing else changes. -/
theorem lookup_assign {α : Type} (name key : Text) (value : α) (members : List (Text × α)) :
    (assign key value members).lookup name =
      if name = key then some value else members.lookup name := by
  induction members with
  | nil =>
    by_cases same : name = key
    · simp [assign, same]
    · simp [assign, List.lookup_cons, same, beq_false_of_ne same]
  | cons first rest ih =>
    obtain ⟨stands, stored⟩ := first
    rw [assign]
    by_cases here : stands = key
    · by_cases same : name = key
      · simp [here, same]
      · simp [List.lookup_cons, here, same, beq_false_of_ne same]
    · rw [if_neg here, List.lookup_cons, ih, List.lookup_cons]
      by_cases found : name = stands
      · subst found
        simp only [beq_self_eq_true, if_neg here]
      · rw [beq_false_of_ne found]

def exitHeaders (headers : List (Text × Text)) : List (Text × Text) :=
  headers.foldl (fun kept field =>
    if lower field.1 = lit "content-encoding" ∨ lower field.1 = lit "content-length" then
      kept
    else assign field.1 field.2 kept) []

def exitReply : Except Text Destination → Json
  | .ok answer =>
    .obj [(lit "s", .num (decimal answer.status)),
      (lit "h", .obj ((exitHeaders answer.headers).map fun field => (field.1, .str field.2))),
      (lit "b", .str (Base64.encode answer.body))]
  | .error message => .obj [(lit "e", .str message)]

inductive FieldValue where
  | one (text : Text)
  | many (texts : List Text)

def FieldValue.toJson : FieldValue → Json
  | .one text => .str text
  | .many texts => .arr (texts.map .str)

structure Fetched where
  code : Nat
  headers : List (Text × FieldValue)
  content : Bytes

def isHttpUrl (url : Text) : Bool :=
  (stripStart (lit "http://") (lower url)).isSome ∨
    (stripStart (lit "https://") (lower url)).isSome

/-- The script's answer to a single request; a `POST` never gets to the spreadsheet cache. -/
def doSingle (url : Text) (fetch : Except Text Fetched) : Json :=
  if isHttpUrl url then
    match fetch with
    | .ok answer =>
      .obj [(lit "s", .num (decimal answer.code)),
        (lit "h", .obj (answer.headers.map fun field => (field.1, field.2.toJson))),
        (lit "b", .str (Base64.encode answer.content))]
    | .error reason => .obj [(lit "e", .str (lit "fetch failed: " ++ reason))]
  else .obj [(lit "e", .str (lit "bad url"))]

def skipResponseHeaders : List Text :=
  [lit "content-length", lit "transfer-encoding", lit "connection",
    lit "keep-alive", lit "content-encoding"]

def envelopeHeaders (members : List (Text × Json)) : Text :=
  (Json.byKey members).flatMap fun member =>
    if lower member.1 ∈ skipResponseHeaders then []
    else
      -- Several values are a list, which is left out.
      match member.2.asStr with
      | some value => headerLine member.1 value
      | none => []

def envelopeHead (status : Nat) (headers : Option Json) (length : Nat) : Text :=
  lit "HTTP/1.1 " ++ decimal status ++ [' '] ++ statusReason status ++ ['\r', '\n'] ++
    envelopeHeaders ((headers.bind Json.asObject).getD []) ++
    lit "Content-Length: " ++ decimal length ++ ['\r', '\n', '\r', '\n']

def envelopeResponse (texts : LibraryTexts) (envelope : Json) : Except FronterError Bytes :=
  let status := (((envelope.get (lit "s")).bind Json.asU64).map (· % 2 ^ 16)).getD 502
  let encoded := ((envelope.get (lit "b")).bind Json.asStr).getD []
  match Base64.decode encoded with
  | none => .error (.relay (lit "exit-node body base64 decode failed: " ++ texts.base64 encoded))
  | some body => .ok (toUtf8 (envelopeHead status (envelope.get (lit "h")) body.length) ++ body)

def jsonBytes (body : Bytes) : Bytes :=
  match cut headEnd body with
  | some (_, rest) => rest
  | none => body

def parseExitNodeResponse (texts : LibraryTexts) (body : Bytes) : Except FronterError Bytes :=
  match (fromUtf8 (jsonBytes body)).bind texts.readValue with
  | none =>
    .error (.relay (lit "exit-node response not valid JSON (" ++ texts.json (jsonBytes body) ++
      lit "): " ++ texts.lossy ((jsonBytes body).take 200)))
  | some envelope =>
    match (envelope.get (lit "e")).bind Json.asStr with
    | some message => .error (.relay (lit "exit node refused or errored: " ++ message))
    | none => envelopeResponse texts envelope

def relayViaExitNode (texts : LibraryTexts) (outer : Except Stop Bytes) : Except Stop Bytes :=
  match outer with
  | .error stop => .error stop
  | .ok body =>
    match parseExitNodeResponse texts body with
    | .ok response => .ok response
    | .error error => .error (.failed error)

def jsonBody (value : Json) : Bytes := toUtf8 value.write

/-- The script's answer to an unchanged reply of the exit node, with the fields of its host. -/
def scriptAnswer (url : Text) (fields : List (Text × FieldValue)) (answer : Destination) : Bytes :=
  jsonBody (doSingle url (.ok ⟨200, fields, jsonBody (exitReply (.ok answer))⟩))

end Gvpn
