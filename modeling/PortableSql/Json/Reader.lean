import PortableSql.Json.Token

/-! Reading a JSON document from its tokens. One pass over the tokens keeps a stack of the
arrays and objects that are open, and what may come next. No depth is too deep. -/

namespace PortableSql.Json

/-- An open array or object with what it holds so far, last one first. An object waits for
the value of a key. -/
inductive Frame
  | array (items : List Json)
  | object (fields : List (JsonString × Json)) (key : JsonString)

/-- What may come next. -/
inductive Awaited
  | value
  /-- A first item or the end of an array. -/
  | firstItem
  /-- A first key or the end of an object. -/
  | firstKey
  | key (fields : List (JsonString × Json))
  | colon (fields : List (JsonString × Json)) (key : JsonString)
  /-- A comma or the end of what is open around a finished value. -/
  | separator (done : Json)

structure Reading.State where
  frames : List Frame
  awaited : Awaited

namespace Reading.State

def start : State := ⟨[], .value⟩

/-- The value a single token stands for. -/
def scalar? : Token → Option Json
  | .null => some .null
  | .bool b => some (.bool b)
  | .int n => some (.int n)
  | .real spelling => some (.real spelling)
  | .string s => some (.string s)
  | _ => none

/-- A token where a value has to begin. -/
def beginValue (frames : List Frame) (token : Token) : Option State :=
  match token with
  | .beginArray => some ⟨frames, .firstItem⟩
  | .beginObject => some ⟨frames, .firstKey⟩
  | _ => (scalar? token).map fun value => ⟨frames, .separator value⟩

/-- A token behind a finished value. -/
def afterValue (done : Json) (frames : List Frame) (token : Token) : Option State :=
  match frames, token with
  | .array items :: _, .comma => some ⟨.array (done :: items) :: frames.tail, .value⟩
  | .array items :: _, .endArray =>
    some ⟨frames.tail, .separator (.array (done :: items).reverse)⟩
  | .object fields key :: _, .comma => some ⟨frames.tail, .key ((key, done) :: fields)⟩
  | .object fields key :: _, .endObject =>
    some ⟨frames.tail, .separator (.object ((key, done) :: fields).reverse)⟩
  | _, _ => none

def step (s : State) (token : Token) : Option State :=
  match s.awaited, token with
  | .value, _ => beginValue s.frames token
  | .firstItem, .endArray => some ⟨s.frames, .separator (.array [])⟩
  | .firstItem, _ => beginValue (.array [] :: s.frames) token
  | .firstKey, .endObject => some ⟨s.frames, .separator (.object [])⟩
  | .firstKey, .string key => some ⟨s.frames, .colon [] key⟩
  | .key fields, .string key => some ⟨s.frames, .colon fields key⟩
  | .colon fields key, .colon => some ⟨.object fields key :: s.frames, .value⟩
  | .separator done, _ => afterValue done s.frames token
  | _, _ => none

/-- The document, once the tokens have ended. -/
def finish (s : State) : Option Json :=
  match s.frames, s.awaited with
  | [], .separator done => some done
  | _, _ => none

end Reading.State

/-- The document that tokens spell. -/
def ofTokens? (tokens : List Token) : Option Json :=
  (tokens.foldlM Reading.State.step Reading.State.start).bind Reading.State.finish

/-- The document that a text spells. -/
def parse? (text : String) : Option Json := (tokens? text.toList).bind ofTokens?

end PortableSql.Json
