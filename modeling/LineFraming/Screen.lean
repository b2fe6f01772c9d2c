import LineFraming.Interpreter

/-!
# The screen

Where the console shows its prompt, the prefilled indentation, hints and program output. The
prompt is printed when a line can be typed and something happened since it was printed last.
Writing fails as long as the output is broken; only printing the prompt reports that.

## Main definitions

* `Screen`: what the screen remembers.
* `Screen.Action`, `Screen.perform`: what the console asks of it, and what is written then.
* `Screen.renderPrompt`: prints the prompt.
* `Screen.takeIndent`: the prefilled indentation, for the line that was just typed.
-/

namespace LineFraming

/-- What the screen remembers. -/
structure Screen where
  texts : PromptTexts := {}
  prompt : Prompt := .ordinary
  /-- The indentation that is prefilled for the next line. -/
  indent : Text := []
  /-- Whether typed text is taken as it is, since a string is open. -/
  plainText : Bool := false
  /-- Whether something happened since the prompt was printed. -/
  needsPrompt : Bool := true
  /-- Why writing fails, as long as it does. -/
  broken : Option Text := none
  deriving DecidableEq

namespace Screen

/-- What the console asks of the screen. -/
inductive Action where
  /-- Keep the input open for one more line of the statement. -/
  | requestLine
  | setPrompt (prompt : Prompt)
  /-- Prefill the next line with more indentation. -/
  | insertIndent (indent : Text)
  /-- Forget what is prefilled. -/
  | clearInput
  | scrollToEnd
  | setPlainText (on : Bool)
  /-- Show a message that is not program output. -/
  | showHint (message : Text)
  | writeOutput (stream : OutputStream) (text : Text)
  deriving DecidableEq

/-- The text of the current prompt. -/
def promptText (s : Screen) : Text := s.prompt.text s.texts

/-- What reaches the output of a text that is written. -/
def emit (s : Screen) (text : Text) : Text := if s.broken.isSome then [] else text

/-- Does what the console asks: the screen afterwards, and what was written. -/
def perform (s : Screen) : Action → Screen × Text
  | .requestLine => ({ s with needsPrompt := true }, [])
  | .setPrompt prompt => ({ s with prompt := prompt, needsPrompt := true }, [])
  | .insertIndent indent => ({ s with indent := s.indent ++ indent, needsPrompt := true }, [])
  | .clearInput => ({ s with indent := [] }, [])
  | .scrollToEnd => (s, [])
  | .setPlainText on => ({ s with plainText := on }, [])
  | .showHint message =>
    ({ s with needsPrompt := true }, s.emit ('!' :: ' ' :: message ++ ['\n']))
  | .writeOutput _ text => ({ s with needsPrompt := true }, s.emit text)

/-- Whether the prompt has to be printed. -/
def wantsPrompt (s : Screen) : Bool := s.needsPrompt && s.prompt.acceptsInput

/-- Prints the prompt and the prefilled indentation behind it, if it has to be printed: what was
written, or why writing failed. -/
def renderPrompt (s : Screen) : Except Text (Option (Text × Text)) × Screen :=
  if s.wantsPrompt then
    match s.broken with
    | some cause => (.error cause, s)
    | none => (.ok (some (s.promptText, s.indent)), { s with needsPrompt := false })
  else (.ok none, s)

/-- The prefilled indentation, which is forgotten then. -/
def takeIndent (s : Screen) : Text × Screen := (s.indent, { s with indent := [] })

/-- A line was typed, so the next one needs a prompt. -/
def lineSubmitted (s : Screen) : Screen := { s with needsPrompt := true }

end Screen

end LineFraming
