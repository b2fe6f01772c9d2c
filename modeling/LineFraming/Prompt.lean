import LineFraming.Text.Blank

/-!
# Prompts

The prompt tells what the next line is for. It moves when a line has been typed and when the
interpreter reports something, by a pure table.

## Main definitions

* `Prompt`: the six prompts.
* `PromptTexts`: the text of each prompt.
* `Prompt.Cue`: what moves the prompt.
* `Prompt.after`: the prompt behind a cue.
-/

namespace LineFraming

/-- What the next typed line is for. -/
inductive Prompt where
  /-- A new statement. -/
  | ordinary
  /-- More lines of the statement being typed. -/
  | continuation
  /-- A command is running, so no line is read. -/
  | executing
  /-- A line for the running program. -/
  | input
  /-- An answer to the pager. -/
  | paging
  /-- A question to the interactive help. -/
  | help
  deriving DecidableEq

/-- The text that is printed for each prompt. -/
structure PromptTexts where
  ordinary : Text := ">>> ".toList
  continuation : Text := "... ".toList
  executing : Text := []
  input : Text := ">? ".toList
  paging : Text := "--More-- ".toList
  help : Text := "help> ".toList
  deriving DecidableEq

namespace Prompt

/-- The text of a prompt. -/
def text (texts : PromptTexts) : Prompt → Text
  | ordinary => texts.ordinary
  | continuation => texts.continuation
  | executing => texts.executing
  | input => texts.input
  | paging => texts.paging
  | help => texts.help

/-- Whether the pager asks. -/
def isPaging (p : Prompt) : Bool := p == paging

/-- Whether a line can be typed. -/
def acceptsInput (p : Prompt) : Bool := p != executing

/-- What moves the prompt. -/
inductive Cue where
  /-- The statement needs another line. -/
  | moreLines
  /-- A command goes to the interpreter. -/
  | started
  /-- A command is done; others may still be running. -/
  | finished (stillExecuting : Bool)
  /-- The running program reads a line. -/
  | inputRequested
  /-- The running program has got its line. -/
  | inputConsumed
  /-- A triple-quoted string was opened. -/
  | stringOpened
  /-- The open string was closed. -/
  | stringClosed
  /-- The interpreter asks for a prompt of its own. -/
  | requested (prompt : Prompt)
  /-- Everything starts afresh. -/
  | restarted
  deriving DecidableEq

/-- The prompt behind a cue. The help reads its own input, so it keeps its prompt. -/
def after (p : Prompt) : Cue → Prompt
  | .moreLines | .stringOpened => continuation
  | .started => executing
  | .finished stillExecuting => if stillExecuting then executing else ordinary
  | .inputRequested => if p = help then help else input
  | .inputConsumed | .stringClosed | .restarted => ordinary
  | .requested next => next

end Prompt

end LineFraming
