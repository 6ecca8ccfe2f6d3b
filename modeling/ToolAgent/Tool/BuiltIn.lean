import ToolAgent.Message.Basic

/-!
# The tools of the program itself

What the model is told about the three tools that need no server.
-/

namespace ToolAgent

open Json (Value)

/-- A parameter of a tool: its name, its kind, what values it may have, and what it is for. -/
structure Parameter where
  name : String
  kind : String
  choices : List String
  description : String

namespace Parameter

/-- The schema of a parameter. -/
def schema (p : Parameter) : Value :=
  .ofMembers ([("type", .string p.kind), ("description", .string p.description)]
    ++ if p.choices = [] then [] else [("enum", .list (p.choices.map .string))])

end Parameter

/-- The schema of an object with these parameters. -/
def objectSchema (parameters : List Parameter) (required : List String) : Value :=
  .ofMembers [("type", .string "object"),
    ("properties", .ofMembers (parameters.map fun p => (p.name, p.schema))),
    ("required", .list (required.map .string))]

namespace BuiltIn

/-- Reading files and directories. -/
def readSpec : ToolSpec where
  name := "fs_read"
  description :=
    "Tool for reading files and directories.\n * In \x60Line\x60 mode, reads a range "
      ++ "of lines from a file. Line numbers are 1-based and negative numbers count from "
      ++ "the end (-1 is the last line). Defaults read the whole file.\n * In "
      ++ "\x60Directory\x60 mode, lists entries in a directory. Each line is prefixed with "
      ++ "\x60d\x60 for directories and \x60-\x60 for files. \x60depth\x60 controls "
      ++ "recursion, 0 lists only the given directory."
  inputSchema := objectSchema [
      ⟨"path", "string", [],
        "Path to the file or directory. Relative paths resolve against the current "
          ++ "working directory."⟩,
      ⟨"mode", "string", ["Line", "Directory"],
        "\x60Line\x60 to read file contents, \x60Directory\x60 to list entries."⟩,
      ⟨"start_line", "integer", [],
        "Starting line number, used with Line mode. Defaults to 1."⟩,
      ⟨"end_line", "integer", [],
        "Ending line number, used with Line mode. Defaults to -1 (end of file)."⟩,
      ⟨"depth", "integer", [],
        "Recursion depth, used with Directory mode. Defaults to 0."⟩]
    ["path", "mode"]

/-- Creating and editing files. -/
def writeSpec : ToolSpec where
  name := "fs_write"
  description :=
    "Tool for creating and editing files.\n * \x60create\x60 writes \x60file_text\x60 "
      ++ "to \x60path\x60, overwriting any existing file.\n * \x60str_replace\x60 replaces "
      ++ "exactly one occurrence of \x60old_str\x60 with \x60new_str\x60. \x60old_str\x60 "
      ++ "must match exactly once.\n * \x60append\x60 adds \x60new_str\x60 to the end of "
      ++ "an existing file."
  inputSchema := objectSchema [
      ⟨"command", "string", ["create", "str_replace", "append"],
        "The edit to perform."⟩,
      ⟨"path", "string", [],
        "Path to the file."⟩,
      ⟨"file_text", "string", [],
        "Full contents of the new file, used with \x60create\x60."⟩,
      ⟨"old_str", "string", [],
        "Text to replace, used with \x60str_replace\x60. Must match exactly one "
          ++ "location."⟩,
      ⟨"new_str", "string", [],
        "Replacement text for \x60str_replace\x60, or text to add for \x60append\x60."⟩]
    ["command", "path"]

/-- Running commands. -/
def commandSpec : ToolSpec where
  name := "execute_bash"
  description :=
    "Execute the given bash command in the current working directory. Returns the "
      ++ "exit status, stdout and stderr. Read-only commands such as ls, cat and grep run "
      ++ "without confirmation; anything else asks the user first."
  inputSchema := objectSchema [
      ⟨"command", "string", [],
        "Bash command to execute."⟩]
    ["command"]

/-- The three, in order of their names. -/
def specs : List ToolSpec := [commandSpec, readSpec, writeSpec]

end BuiltIn

end ToolAgent
