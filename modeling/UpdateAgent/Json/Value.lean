import UpdateAgent.Json.Number

/-!
# JSON values

A value is the meaning of a document: its strings are texts, its numbers are numbers. `Value.read?`
reads one, nested to a limited depth, with the members of each object in the order of their keys and
the last of several members with one key; `Value.text` writes one without white space, the members
in the order they have.
-/

namespace UpdateAgent.Json

/-- A JSON value. -/
inductive Value
  | null
  | bool (b : Bool)
  | number (n : Number)
  | text (s : String)
  | list (items : List Value)
  | object (members : List (String × Value))

namespace Value

/-- Puts a member into an object that is in the order of its keys, in the place of one with the same
key. -/
def insert (key : String) (value : Value) : List (String × Value) → List (String × Value)
  | [] => [(key, value)]
  | (k, v) :: rest =>
    if key = k then (key, value) :: rest
    else if key < k then (key, value) :: (k, v) :: rest
    else (k, v) :: insert key value rest

/-- Members in the order of their keys, the last one where several have one key. -/
def ordered (members : List (String × Value)) : List (String × Value) :=
  members.foldl (fun done (key, value) => insert key value done) []

/-- The value of a document whose lists and objects are nested at most `depth` deep. -/
def ofRaw? : Nat → Raw → Option Value
  | _, .null => some .null
  | _, .bool b => some (.bool b)
  | _, .number n => (Number.ofNumeral? n).map .number
  | _, .text pieces => (Text.text? pieces).map .text
  | 0, .list _ => none
  | 0, .object _ => none
  | depth + 1, .list items => (items.mapM (ofRaw? depth)).map .list
  | depth + 1, .object members =>
    (members.mapM fun (key, value) => do
      let key ← Text.text? key
      let value ← ofRaw? depth value
      pure (key, value)).map fun members => .object (ordered members)

/-- How deep lists and objects may be nested. -/
def depthLimit : Nat := 127

/-- Reads a document. -/
def read? (bytes : Bytes) : Option Value :=
  (Raw.read? bytes).bind (ofRaw? depthLimit)

mutual

/-- A value as it is written. -/
def chars : Value → List Char
  | null => ['n', 'u', 'l', 'l']
  | bool true => ['t', 'r', 'u', 'e']
  | bool false => ['f', 'a', 'l', 's', 'e']
  | number n => n.text
  | text s => Text.quote s.toList
  | list items => '[' :: itemChars true items
  | object members => '{' :: memberChars true members

/-- The items of a list and its end. -/
def itemChars (isFirst : Bool) : List Value → List Char
  | [] => [']']
  | item :: items => (if isFirst then [] else [',']) ++ chars item ++ itemChars false items

/-- The members of an object and its end. -/
def memberChars (isFirst : Bool) : List (String × Value) → List Char
  | [] => ['}']
  | (key, value) :: members =>
    (if isFirst then [] else [',']) ++ Text.quote key.toList ++ ':' :: chars value
      ++ memberChars false members

end

/-- The bytes of a document without white space. -/
def bytes (v : Value) : Bytes :=
  Utf8.encode v.chars

/-- The document as a string. -/
def toText (v : Value) : String :=
  String.ofList v.chars

/-- The member of an object with a key. -/
def get? (v : Value) (key : String) : Option Value :=
  match v with
  | object members => (members.find? (·.1 = key)).map (·.2)
  | _ => none

end Value

end UpdateAgent.Json
