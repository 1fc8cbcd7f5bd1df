import Gvpn.Data.Text

/-! JSON values, how they are written, and how they are read. -/

namespace Gvpn

inductive Json where
  | null
  | bool (value : Bool)
  | num (literal : Text)
  | str (text : Text)
  | arr (items : List Json)
  | obj (members : List (Text × Json))

namespace Json

def get (key : Text) : Json → Option Json
  | .obj members => (members.reverse.find? fun member => member.1 = key).map Prod.snd
  | _ => none

def asStr : Json → Option Text
  | .str text => some text
  | _ => none

def asU64 : Json → Option Nat
  | .num literal =>
    if literal ≠ [] ∧ literal.all Char.isDigit ∧ readDigits literal < 2 ^ 64 then
      some (readDigits literal)
    else none
  | _ => none

def asObject : Json → Option (List (Text × Json))
  | .obj members => some members
  | _ => none

def insertMember (key : Text) (value : Json) : List (Text × Json) → List (Text × Json)
  | [] => [(key, value)]
  | (at_, stored) :: rest =>
    if key < at_ then (key, value) :: (at_, stored) :: rest
    else if key = at_ then (key, value) :: rest
    else (at_, stored) :: insertMember key value rest

def byKey (members : List (Text × Json)) : List (Text × Json) :=
  members.foldl (fun ordered member => insertMember member.1 member.2 ordered) []

def hexChar (digit : Nat) : Char :=
  if digit < 10 then Char.ofNat (digit + 48) else Char.ofNat (digit - 10 + 97)

def hexValue (c : Char) : Option Nat :=
  if c.isDigit then some (c.toNat - 48)
  else if 'a' ≤ c ∧ c ≤ 'f' then some (c.toNat - 97 + 10)
  else if 'A' ≤ c ∧ c ≤ 'F' then some (c.toNat - 65 + 10)
  else none

def escapeChar (c : Char) : Text :=
  if c = '"' then ['\\', '"']
  else if c = '\\' then ['\\', '\\']
  else if c = '\x08' then ['\\', 'b']
  else if c = '\x0c' then ['\\', 'f']
  else if c = '\n' then ['\\', 'n']
  else if c = '\r' then ['\\', 'r']
  else if c = '\t' then ['\\', 't']
  else if c.toNat < 32 then ['\\', 'u', '0', '0', hexChar (c.toNat / 16), hexChar (c.toNat % 16)]
  else [c]

def writeString (text : Text) : Text := '"' :: (text.flatMap escapeChar ++ ['"'])

mutual

def write : Json → Text
  | .null => "null".toList
  | .bool true => "true".toList
  | .bool false => "false".toList
  | .num literal => literal
  | .str text => writeString text
  | .arr [] => ['[', ']']
  | .arr (item :: rest) => '[' :: (write item ++ writeItems rest)
  | .obj [] => ['{', '}']
  | .obj (member :: rest) => '{' :: (writeMember member ++ writeMembers rest)

def writeItems : List Json → Text
  | [] => [']']
  | item :: rest => ',' :: (write item ++ writeItems rest)

def writeMembers : List (Text × Json) → Text
  | [] => ['}']
  | member :: rest => ',' :: (writeMember member ++ writeMembers rest)

def writeMember : Text × Json → Text
  | (key, value) => writeString key ++ ':' :: write value

end

def isSpace (c : Char) : Bool := c = ' ' ∨ c = '\n' ∨ c = '\t' ∨ c = '\r'

def skipSpace (text : Text) : Text := text.dropWhile isSpace

def readHex4 : Text → Option (Nat × Text)
  | a :: b :: c :: d :: rest => do
    let high ← hexValue a
    let second ← hexValue b
    let third ← hexValue c
    let low ← hexValue d
    some (((high * 16 + second) * 16 + third) * 16 + low, rest)
  | _ => none

def escapeLetter (c : Char) : Option Char :=
  match c with
  | '"' => some '"'
  | '\\' => some '\\'
  | '/' => some '/'
  | 'b' => some '\x08'
  | 'f' => some '\x0c'
  | 'n' => some '\n'
  | 'r' => some '\r'
  | 't' => some '\t'
  | _ => none

def readUnicode (text : Text) : Option (Char × Text) := do
  let (code, rest) ← readHex4 text
  if 0xDC00 ≤ code ∧ code ≤ 0xDFFF then none
  else if 0xD800 ≤ code ∧ code ≤ 0xDBFF then
    match rest with
    | '\\' :: 'u' :: rest => do
      let (low, rest) ← readHex4 rest
      if 0xDC00 ≤ low ∧ low ≤ 0xDFFF then
        some (Char.ofNat (0x10000 + (code - 0xD800) * 0x400 + (low - 0xDC00)), rest)
      else none
    | _ => none
  else some (Char.ofNat code, rest)

def readString : Nat → Text → Option (Text × Text)
  | 0, _ => none
  | fuel + 1, text =>
    match text with
    | [] => none
    | c :: rest =>
      if c = '"' then some ([], rest)
      else if c = '\\' then
        match rest with
        | [] => none
        | letter :: rest => do
          let (char, rest) ← if letter = 'u' then readUnicode rest
            else (escapeLetter letter).map fun char => (char, rest)
          let (more, rest) ← readString fuel rest
          some (char :: more, rest)
      -- A control character must be escaped.
      else if c.toNat < 32 then none
      else do
        let (more, rest) ← readString fuel rest
        some (c :: more, rest)

def isNumberChar (c : Char) : Bool :=
  c.isDigit ∨ c = '-' ∨ c = '+' ∨ c = '.' ∨ c = 'e' ∨ c = 'E'

def validExponent : Text → Bool
  | [] => true
  | mark :: rest =>
    let digits := match rest with
      | '+' :: digits => digits
      | '-' :: digits => digits
      | _ => rest
    (mark = 'e' ∨ mark = 'E') ∧ digits ≠ [] ∧ digits.all Char.isDigit

def validFraction : Text → Bool
  | '.' :: rest =>
    let digits := rest.takeWhile Char.isDigit
    digits ≠ [] ∧ validExponent (rest.dropWhile Char.isDigit)
  | rest => validExponent rest

def dropSign : Text → Text
  | '-' :: rest => rest
  | literal => literal

def validNumber (literal : Text) : Bool :=
  let digits := (dropSign literal).takeWhile Char.isDigit
  digits ≠ [] ∧ (digits.head? = some '0' → digits.length = 1) ∧
    validFraction ((dropSign literal).dropWhile Char.isDigit)

def readWord (word : Text) (value : Json) (text : Text) : Option (Json × Text) :=
  (stripStart word text).map fun rest => (value, rest)

mutual

def readValue : Nat → Text → Option (Json × Text)
  | 0, _ => none
  | fuel + 1, text =>
    match skipSpace text with
    | [] => none
    | c :: rest =>
      if c = '"' then
        (readString (rest.length + 1) rest).map fun (text, rest) => (.str text, rest)
      else if c = '[' then
        match skipSpace rest with
        | ']' :: rest => some (.arr [], rest)
        | _ => (readItems fuel rest).map fun (items, rest) => (.arr items, rest)
      else if c = '{' then
        match skipSpace rest with
        | '}' :: rest => some (.obj [], rest)
        | _ => (readMembers fuel rest).map fun (members, rest) => (.obj members, rest)
      else if c = 'n' then readWord "ull".toList .null rest
      else if c = 't' then readWord "rue".toList (.bool true) rest
      else if c = 'f' then readWord "alse".toList (.bool false) rest
      else
        let literal := (c :: rest).takeWhile isNumberChar
        if validNumber literal then some (.num literal, (c :: rest).dropWhile isNumberChar)
        else none

def readItems : Nat → Text → Option (List Json × Text)
  | 0, _ => none
  | fuel + 1, text => do
    let (item, rest) ← readValue fuel text
    match skipSpace rest with
    | ']' :: rest => some ([item], rest)
    | ',' :: rest => do
      let (items, rest) ← readItems fuel rest
      some (item :: items, rest)
    | _ => none

def readMembers : Nat → Text → Option (List (Text × Json) × Text)
  | 0, _ => none
  | fuel + 1, text =>
    match skipSpace text with
    | '"' :: rest => do
      let (key, rest) ← readString (rest.length + 1) rest
      match skipSpace rest with
      | ':' :: rest => do
        let (value, rest) ← readValue fuel rest
        match skipSpace rest with
        | '}' :: rest => some ([(key, value)], rest)
        | ',' :: rest => do
          let (members, rest) ← readMembers fuel rest
          some ((key, value) :: members, rest)
        | _ => none
      | _ => none
    | _ => none

end

def read (text : Text) : Option Json :=
  match readValue (text.length + 1) text with
  | some (value, rest) => if skipSpace rest = [] then some value else none
  | none => none

end Json

def parseHex (text : Text) : Option Nat :=
  let digits := dropPlus text
  if digits = [] then none
  else digits.foldl (fun value digit =>
    match value, Json.hexValue digit with
    | some value, some digit => some (value * 16 + digit)
    | _, _ => none) (some 0)

end Gvpn
