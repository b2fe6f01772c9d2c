import LineFraming.Json.Token

/-!
# Reading JSON

Tokens are put together to a value by a machine with a stack: the arrays and objects that are
open, the innermost first. Its step is a function of the state and the next token, and a text is
read by folding the step over its tokens. At most 127 arrays and objects may be open at once.

## Main definitions

* `Json.Frame`, `Json.State`, `Json.State.step`: the machine.
* `Json.read`: the value of a text.
-/

namespace LineFraming.Json

/-- An array or object that is open, with what it holds so far, the last first. -/
inductive Frame where
  | array (elements : List Value)
  /-- An object behind a member, or behind its opening brace. -/
  | object (members : List (Text × Value))
  /-- An object that waits for the value of the member `name`. -/
  | member (members : List (Text × Value)) (name : Text)

/-- What the machine waits for. -/
inductive State where
  /-- A value; also the end of the innermost array if `closable`. -/
  | value (frames : List Frame) (closable : Bool)
  /-- The name of a member; also the end of the innermost object if `closable`. -/
  | key (frames : List Frame) (members : List (Text × Value)) (closable : Bool)
  /-- The colon behind a name. -/
  | colon (frames : List Frame)
  /-- A comma, or the end of the innermost array or object. -/
  | next (frames : List Frame)
  /-- Nothing: the value is complete. -/
  | done (v : Value)

/-- How many arrays and objects may be open at once. -/
def maxDepth : Nat := 127

namespace State

/-- A value is complete: it becomes part of what is open. -/
def put (v : Value) : List Frame → Option State
  | [] => some (.done v)
  | .array elements :: outer => some (.next (.array (v :: elements) :: outer))
  | .member members name :: outer => some (.next (.object ((name, v) :: members) :: outer))
  | .object _ :: _ => none

/-- One more array or object is opened. -/
def enter (s : State) (outer : List Frame) : Option State :=
  if outer.length < maxDepth then some s else none

/-- The state behind a token; `none` if the token cannot stand there. -/
def step : State → Token → Option State
  | .value outer _, .openArray => (value (.array [] :: outer) true).enter outer
  | .value outer _, .openObject => (key outer [] true).enter outer
  | .value outer _, .scalar v => put v outer
  | .value (.array elements :: outer) true, .closeArray => put (.array elements.reverse) outer
  | .key outer members _, .scalar (.string n) => some (.colon (.member members n :: outer))
  | .key outer members true, .closeObject => put (.object members.reverse) outer
  | .colon frames, .colon => some (.value frames false)
  | .next (.array elements :: outer), .comma => some (.value (.array elements :: outer) false)
  | .next (.array elements :: outer), .closeArray => put (.array elements.reverse) outer
  | .next (.object members :: outer), .comma => some (.key outer members false)
  | .next (.object members :: outer), .closeObject => put (.object members.reverse) outer
  | _, _ => none

/-- The complete value. -/
def result? : State → Option Value
  | .done v => some v
  | _ => none

end State

/-- The value of a text; `none` if the text is not exactly one value. -/
def read (t : Text) : Option Value := do
  let tokens ← tokens? t
  let last ← tokens.foldlM State.step (.value [] false)
  last.result?

end LineFraming.Json
