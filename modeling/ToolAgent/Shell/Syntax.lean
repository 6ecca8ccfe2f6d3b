/-!
# Shell commands

The parts of a shell script. A word is kept in pieces, because what an expansion yields may be
split and matched against file names while quoted text may not. A command in a substitution stays
text until it is run.
-/

namespace ToolAgent.Shell

/-- A piece of a word. -/
inductive Piece
  | plain (text : List Char)
  | quoted (text : List Char)
  /-- A parameter with what follows its name inside the braces. -/
  | param (name : String) (modifier : List Char) (inQuotes : Bool)
  /-- The output of a script. -/
  | command (script : List Char) (inQuotes : Bool)
  | arithmetic (expr : List Char) (inQuotes : Bool)
deriving DecidableEq, Repr

/-- A word before it is expanded. -/
abbrev Word := List Piece

/-- How a redirection treats its target. -/
inductive RedirectKind
  | input
  | output
  | append
  /-- The target is a number of another channel, or a dash to close. -/
  | duplicate
  /-- The target is the input itself, with an end of line. -/
  | hereText
  /-- The target is the input itself. -/
  | hereDocument
deriving DecidableEq, Repr

/-- Where a channel is sent to or taken from. -/
structure Redirect where
  channel : Nat
  kind : RedirectKind
  target : Word
deriving DecidableEq, Repr

/-- A simple command: settings of variables, words and redirections, and its line. -/
structure Simple where
  settings : List (String × Word)
  words : List Word
  redirects : List Redirect
  line : Nat
deriving DecidableEq, Repr

/-- A condition between double brackets. -/
inductive Condition
  | unary (op : String) (operand : Word)
  | binary (op : String) (left right : Word)
  | not (c : Condition)
  | and (a b : Condition)
  | or (a b : Condition)
deriving DecidableEq, Repr

/-- A command. -/
inductive Command
  | simple (s : Simple)
  /-- Each command's output is the next one's input. -/
  | pipeline (negated : Bool) (stages : List Command)
  | both (a b : Command)
  | either (a b : Command)
  | sequence (cs : List Command)
  | background (c : Command)
  | subshell (body : Command) (redirects : List Redirect)
  | group (body : Command) (redirects : List Redirect)
  | branch (arms : List (Command × Command)) (otherwise : Option Command)
      (redirects : List Redirect)
  | loop (untilTrue : Bool) (test body : Command) (redirects : List Redirect)
  | each (name : String) (items : Option (List Word)) (body : Command) (redirects : List Redirect)
  | select (subject : Word) (arms : List (List Word × Command)) (redirects : List Redirect)
  | define (name : String) (body : Command)
  /-- Succeeds if the condition holds. -/
  | decide (c : Condition)
  /-- Succeeds if the expression is not zero. -/
  | calculate (expr : List Char)
  /-- A loop that an expression starts, one guards and one carries on. -/
  | count (start guard step : List Char) (body : Command) (redirects : List Redirect)
deriving Repr, Inhabited

/-- Why a script cannot be understood. -/
inductive SyntaxFault
  /-- A token that may not stand on its line. -/
  | unexpected (token : String) (line : Nat)
  | endOfFile
  /-- A quote or bracket without its partner, in a word that begins on a line. -/
  | unmatched (quote : String) (line : Nat)
  /-- A command in a word goes on to the end of the text. -/
  | unclosedCommand
deriving DecidableEq, Repr

end ToolAgent.Shell
