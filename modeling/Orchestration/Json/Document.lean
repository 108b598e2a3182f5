import Orchestration.Json.Token

namespace Orchestration.Json

/-! A document is JSON text as written: fields keep their order and may be
repeated, and values that are syntactically fine but have no meaning are still
there. Decoding a record looks at a document, since what it ignores need not
have a meaning. -/

inductive Document where
  | null
  | bool (value : Bool)
  | number (value : Option Number)
  | string (value : Option String)
  | array (items : List Document)
  | object (fields : List (Option String × Document))
  | unreadable

namespace Document

instance : Inhabited Document := ⟨null⟩

inductive Frame where
  | items (done : List Document)
  | fields (done : List (Option String × Document)) (key : Option String)

inductive State where
  | value (stack : List Frame)
  | firstItem (stack : List Frame)
  | firstKey (stack : List Frame)
  | key (done : List (Option String × Document)) (stack : List Frame)
  | colon (done : List (Option String × Document)) (key : Option String)
      (stack : List Frame)
  | finished (document : Document) (stack : List Frame)

def begin (stack : List Frame) : Token → Option State
  | .null => some (.finished .null stack)
  | .bool value => some (.finished (.bool value) stack)
  | .number value => some (.finished (.number value) stack)
  | .string value => some (.finished (.string value) stack)
  | .openBracket => some (.firstItem stack)
  | .openBrace => some (.firstKey stack)
  | _ => none

def step : State → Token → Option State
  | .value stack, token => begin stack token
  | .firstItem stack, .closeBracket => some (.finished (.array []) stack)
  | .firstItem stack, token => begin (.items [] :: stack) token
  | .firstKey stack, .closeBrace => some (.finished (.object []) stack)
  | .firstKey stack, .string key => some (.colon [] key stack)
  | .key done stack, .string key => some (.colon done key stack)
  | .colon done key stack, .colon => some (.value (.fields done key :: stack))
  | .finished item (.items done :: stack), .comma =>
      some (.value (.items (item :: done) :: stack))
  | .finished item (.items done :: stack), .closeBracket =>
      some (.finished (.array (item :: done).reverse) stack)
  | .finished value (.fields done key :: stack), .comma =>
      some (.key ((key, value) :: done) stack)
  | .finished value (.fields done key :: stack), .closeBrace =>
      some (.finished (.object ((key, value) :: done).reverse) stack)
  | _, _ => none

def ofTokens? (tokens : List Token) : Option Document :=
  match tokens.foldlM step (.value []) with
  | some (.finished document []) => some document
  | _ => none

/-! Values nested deeper than `room` are there, but nobody can read them. -/

mutual

def limited : Nat → Document → Document
  | 0, .array _ => .unreadable
  | 0, .object _ => .unreadable
  | room + 1, .array items => .array (limitedItems room items)
  | room + 1, .object fields => .object (limitedFields room fields)
  | _, document => document

def limitedItems : Nat → List Document → List Document
  | _, [] => []
  | room, item :: rest => limited room item :: limitedItems room rest

def limitedFields :
    Nat → List (Option String × Document) → List (Option String × Document)
  | _, [] => []
  | room, (key, value) :: rest =>
      (key, limited room value) :: limitedFields room rest

end

/-- Values in a text are nested at most this deep. -/
def nestingLimit : Nat := 127

def read? (text : String) : Option Document :=
  ((Token.scan text.toList).bind ofTokens?).map (limited nestingLimit)

/-- Bytes in UTF-8 from a place on. A byte that belongs to no character becomes
an unpaired surrogate: only texts that nobody looks at may hold either. The
letter before it keeps escapes apart. -/
def mended (bytes : ByteArray) (place : Nat) : List Char :=
  if place < bytes.size then
    match bytes.utf8DecodeChar? place with
    | some c => c :: mended bytes (place + c.utf8Size)
    | none => "x\\udfff".toList ++ mended bytes (place + 1)
  else []
termination_by bytes.size - place
decreasing_by
  · have := c.utf8Size_pos
    omega
  · omega

def readBytes? (bytes : ByteArray) : Option Document :=
  read? ((String.fromUTF8? bytes).getD (.ofList (mended bytes 0)))

theorem readBytes?_toUTF8 (text : String) :
    readBytes? text.toUTF8 = read? text := by
  have valid : String.fromUTF8? text.toUTF8 = some text :=
    dif_pos text.isValidUTF8
  rw [readBytes?, valid, Option.getD_some]

/-! The value of a document. A repeated key has the value that stands last. -/

mutual

def toJson? : Document → Option Json
  | .null => some .null
  | .bool value => some (.bool value)
  | .number value => value.map .number
  | .string value => value.map .string
  | .array items => (toItems? items).map .array
  | .object fields =>
      (toFields? fields).map fun fields => ofMap (.ofList fields)
  | .unreadable => none

def toItems? : List Document → Option (List Json)
  | [] => some []
  | item :: rest =>
      match toJson? item, toItems? rest with
      | some item, some rest => some (item :: rest)
      | _, _ => none

def toFields? :
    List (Option String × Document) → Option (List (String × Json))
  | [] => some []
  | (key, value) :: rest =>
      match key, toJson? value, toFields? rest with
      | some key, some value, some rest => some ((key, value) :: rest)
      | _, _, _ => none

end

mutual

def ofJson : Json → Document
  | .null => .null
  | .bool value => .bool value
  | .number value => .number (some value)
  | .string value => .string (some value)
  | .array items => .array (ofItems items)
  | .object fields => .object (ofFields fields)

def ofItems : List Json → List Document
  | [] => []
  | item :: rest => ofJson item :: ofItems rest

def ofFields : List (String × Json) → List (Option String × Document)
  | [] => []
  | (key, value) :: rest => (some key, ofJson value) :: ofFields rest

end

end Document

def read? (text : String) : Option Json :=
  (Document.read? text).bind Document.toJson?

end Orchestration.Json
