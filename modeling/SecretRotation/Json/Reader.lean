import SecretRotation.Json.Number

/-!
# Reading JSON

A text is read in two passes over lists, each of them a fold that carries what has been seen so
far: characters are gathered into tokens, and tokens into values.

* A scanner is between tokens, inside a word (a number or one of the three names), or inside a
  string, where it may be in the middle of an escape (`ScanState`).
* A reader keeps the containers that are still open, innermost first, and knows what may come next
  (`ReadState`).

This only asks whether the text is well formed, and delivers the document as it was written. Its
normal form is stricter: nothing in it may be garbled, no number too large, and containers nest to
a depth of at most `maxDepth`. In the normal form the members of an object are in ascending order,
a name that comes again replacing its former value.

## Main definitions

* `Json.tokens?`: the tokens of a text.
* `Json.read?`: the document that a text is.
* `Json.normal?`: the normal form of a document.
* `Json.parse?`: the normal form of the document that a text is.
-/

namespace SecretRotation.Json

/-! ### Tokens -/

/-- The smallest parts of a JSON text that have a meaning. -/
inductive Token
  | openArray
  | closeArray
  | openObject
  | closeObject
  | comma
  | colon
  /-- A string, which is a value or the name of a member; nothing, if it is garbled. -/
  | string (s : Option String)
  /-- A number or one of the three names. -/
  | scalar (value : Json)

/-- A part of a string. -/
inductive Piece
  /-- A character. -/
  | char (c : Char)
  /-- A code unit that is half of a character pair. -/
  | half (unit : Nat)

/-- The piece that a code unit is. -/
def Piece.ofUnit (unit : Nat) : Piece :=
  if 0xD800 ≤ unit ∧ unit < 0xE000 then .half unit else .char (Char.ofNat unit)

/-- The characters of pieces given latest first, put in front of others. Two halves beside each
other are one character if the leading one comes first; any other half is none. -/
def Piece.joined? : List Piece → List Char → Option (List Char)
  | [], cs => some cs
  | .char c :: rest, cs => joined? rest (c :: cs)
  | .half low :: .half high :: rest, cs =>
    if high < 0xDC00 ∧ 0xDC00 ≤ low then
      joined? rest (Char.ofNat (0x10000 + (high - 0xD800) * 0x400 + (low - 0xDC00)) :: cs)
    else none
  | .half _ :: _, _ => none

/-- The token of a string whose pieces are given latest first. -/
def Token.ofPieces (seen : List Piece) : Token :=
  .string ((Piece.joined? seen []).map String.ofList)

/-- What the scanner is in the middle of. Parts of an unfinished token are kept latest first. -/
inductive ScanState
  | between
  | word (seen : List Char)
  | quoted (seen : List Piece)
  /-- After a backslash. -/
  | escape (seen : List Piece)
  /-- Within the hexadecimal digits of a code unit, `left` of which are missing. -/
  | code (seen : List Piece) (left value : Nat)

/-- The token of a word. -/
def Token.ofWord? (word : List Char) : Option Token :=
  match String.ofList word with
  | "true" => some (.scalar (.bool true))
  | "false" => some (.scalar (.bool false))
  | "null" => some (.scalar .null)
  | _ => (number? word).map .scalar

/-- The value of a hexadecimal digit. -/
def hexValue? (c : Char) : Option Nat :=
  if '0' ≤ c ∧ c ≤ '9' then some (c.toNat - '0'.toNat)
  else if 'a' ≤ c ∧ c ≤ 'f' then some (c.toNat - 'a'.toNat + 10)
  else if 'A' ≤ c ∧ c ≤ 'F' then some (c.toNat - 'A'.toNat + 10)
  else none

/-- The character that a letter stands for after a backslash. -/
def escapeMeaning? : Char → Option Char
  | '"' => some '"'
  | '\\' => some '\\'
  | '/' => some '/'
  | 'b' => some '\x08'
  | 'f' => some '\x0c'
  | 'n' => some '\n'
  | 'r' => some '\r'
  | 't' => some '\t'
  | _ => none

/-- The tokens so far, latest first, and what the scanner is in the middle of. -/
structure Scan where
  /-- The finished tokens, latest first. -/
  tokens : List Token := []
  /-- The unfinished one. -/
  state : ScanState := .between

/-- The scan after a character that is not part of a word or a string. -/
def Scan.fresh (tokens : List Token) (c : Char) : Option Scan :=
  match c with
  | ' ' | '\n' | '\r' | '\t' => some ⟨tokens, .between⟩
  | '[' => some ⟨.openArray :: tokens, .between⟩
  | ']' => some ⟨.closeArray :: tokens, .between⟩
  | '\x7b' => some ⟨.openObject :: tokens, .between⟩
  | '\x7d' => some ⟨.closeObject :: tokens, .between⟩
  | ',' => some ⟨.comma :: tokens, .between⟩
  | ':' => some ⟨.colon :: tokens, .between⟩
  | '"' => some ⟨tokens, .quoted []⟩
  | c => some ⟨tokens, .word [c]⟩

/-- Whether a character can stand in a number or a name. -/
def isWordChar (c : Char) : Bool :=
  c.isAlphanum || c == '+' || c == '-' || c == '.'

/-- The scan after one more character. -/
def Scan.step (scan : Scan) (c : Char) : Option Scan :=
  match scan.state with
  | .between => Scan.fresh scan.tokens c
  | .word seen =>
    if isWordChar c then some { scan with state := .word (c :: seen) }
    else do Scan.fresh ((← Token.ofWord? seen.reverse) :: scan.tokens) c
  | .quoted seen =>
    if c = '"' then some ⟨.ofPieces seen :: scan.tokens, .between⟩
    else if c = '\\' then some { scan with state := .escape seen }
    else if c.toNat < 32 then none
    else some { scan with state := .quoted (.char c :: seen) }
  | .escape seen =>
    if c = 'u' then some { scan with state := .code seen 4 0 }
    else (escapeMeaning? c).map fun d => { scan with state := .quoted (.char d :: seen) }
  | .code seen left value =>
    (hexValue? c).map fun digit =>
      let value := 16 * value + digit
      if left ≤ 1 then { scan with state := .quoted (.ofUnit value :: seen) }
      else { scan with state := .code seen (left - 1) value }

/-- The tokens of a text; none if a word or a string in it is not well formed. -/
def tokens? (text : String) : Option (List Token) := do
  let scan ← text.toList.foldlM Scan.step {}
  match scan.state with
  | .between => return scan.tokens.reverse
  | .word seen => return ((← Token.ofWord? seen.reverse) :: scan.tokens).reverse
  | _ => none

/-! ### Documents -/

/-- Members with their names, nothing being the name of one whose name is garbled. -/
abbrev NamedMembers := List (Option String × Json)

/-- The object that has the members given, latest first. -/
def ofMembers (members : NamedMembers) : Json :=
  match members.foldlM (fun done m => m.1.map fun name => (name, m.2) :: done) [] with
  | some members => .obj members
  | none => .garbled

/-- A container that is still open. -/
inductive Frame
  /-- An array with the items read so far, latest first. -/
  | array (items : List Json)
  /-- An object with the members read so far, latest first, and the name whose value is being
  read. -/
  | object (members : NamedMembers) (name : Option String)

/-- What may come next, with the containers that are still open, innermost first. -/
inductive ReadState
  /-- A value. -/
  | value (opened : List Frame)
  /-- The first item of an array, or its end. -/
  | firstItem (opened : List Frame)
  /-- The first member of an object, or its end. -/
  | firstMember (opened : List Frame)
  /-- A further member of an object. -/
  | nextMember (members : NamedMembers) (opened : List Frame)
  /-- The colon between the name of a member and its value. -/
  | colon (members : NamedMembers) (name : Option String) (opened : List Frame)
  /-- A value has been read; its container goes on or ends. -/
  | finished (value : Json) (opened : List Frame)

/-- The state after the first token of a value. -/
def ReadState.begin (opened : List Frame) : Token → Option ReadState
  | .string (some s) => some (.finished (.str s) opened)
  | .string none => some (.finished .garbled opened)
  | .scalar v => some (.finished v opened)
  | .openArray => some (.firstItem opened)
  | .openObject => some (.firstMember opened)
  | _ => none

/-- The state after a token. -/
def ReadState.step : ReadState → Token → Option ReadState
  | .value opened, token => begin opened token
  | .firstItem opened, .closeArray => some (.finished (.arr []) opened)
  | .firstItem opened, token => begin (.array [] :: opened) token
  | .firstMember opened, .closeObject => some (.finished (.obj []) opened)
  | .firstMember opened, .string name => some (.colon [] name opened)
  | .nextMember members opened, .string name => some (.colon members name opened)
  | .colon members name opened, .colon => some (.value (.object members name :: opened))
  | .finished v (.array items :: opened), .comma => some (.value (.array (v :: items) :: opened))
  | .finished v (.array items :: opened), .closeArray =>
    some (.finished (.arr (v :: items).reverse) opened)
  | .finished v (.object members name :: opened), .comma =>
    some (.nextMember ((name, v) :: members) opened)
  | .finished v (.object members name :: opened), .closeObject =>
    some (.finished (ofMembers ((name, v) :: members)) opened)
  | _, _ => none

/-- The document that a text is; none if the text is not a JSON text. -/
def read? (text : String) : Option Json := do
  let tokens ← tokens? text
  match ← tokens.foldlM ReadState.step (.value []) with
  | .finished v [] => some v
  | _ => none

/-! ### Normal forms -/

/-- Members sorted in front of the first greater name; a member of the same name is replaced. -/
def insertMember (name : String) (value : Json) :
    List (String × Json) → List (String × Json)
  | [] => [(name, value)]
  | m :: ms =>
    if name < m.1 then (name, value) :: m :: ms
    else if name = m.1 then (name, value) :: ms
    else m :: insertMember name value ms

mutual

/-- The normal form of a document in which containers nest to a depth of at most `room`. -/
def normal? (room : Nat) : Json → Option Json
  | .garbled => none
  | .numeral text => if isFinite text.toList then some (.numeral text) else none
  | .arr items =>
    match room with
    | 0 => none
    | room + 1 => (normalItems? room items).map .arr
  | .obj members =>
    match room with
    | 0 => none
    | room + 1 => (normalMembers? room members).map fun ms =>
      .obj (ms.foldl (fun sorted m => insertMember m.1 m.2 sorted) [])
  | leaf => some leaf

/-- The normal forms of the items of an array. -/
def normalItems? (room : Nat) : List Json → Option (List Json)
  | [] => some []
  | item :: items => do
    let item ← normal? room item
    let items ← normalItems? room items
    return item :: items

/-- The members of an object with the normal forms of their values. -/
def normalMembers? (room : Nat) : List (String × Json) → Option (List (String × Json))
  | [] => some []
  | (name, value) :: members => do
    let value ← normal? room value
    let members ← normalMembers? room members
    return (name, value) :: members

end

/-- How deep containers may be nested in a normal form. -/
def maxDepth : Nat := 127

/-- The normal form of the document that a text is, if it is one and has one. -/
def parse? (text : String) : Option Json := (read? text).bind (normal? maxDepth)

end SecretRotation.Json
