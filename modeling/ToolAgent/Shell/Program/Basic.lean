import ToolAgent.Files.Operations
import ToolAgent.Text.Basic

/-!
# Programs that a shell can call

A program is a function from its call to its effect: what it puts out on which channel, its exit
status, and the file tree afterwards.
-/

namespace ToolAgent.Shell

/-- What a program is given. -/
structure Call where
  args : List String
  input : Bytes
  tree : Entry
  here : Location

/-- What a program does. -/
structure Effect where
  /-- Channel and bytes, in order. -/
  output : List (Nat × Bytes)
  status : Nat
  tree : Entry
  /-- Whether the input was read to its end. -/
  drained : Bool

/-- A program: what it does when it is called. -/
abbrev Program := Call → Effect

namespace Effect

/-- A program that ends with `status` and does nothing else. -/
def exit (c : Call) (status : Nat) : Effect := ⟨[], status, c.tree, false⟩

/-- A program that puts out bytes. -/
def bytes (c : Call) (bs : Bytes) : Effect := ⟨[(1, bs)], 0, c.tree, false⟩

/-- A program that puts out a text. -/
def text (c : Call) (s : String) : Effect := bytes c (Utf8.ofString s)

/-- A program that complains. -/
def complain (c : Call) (status : Nat) (s : String) : Effect :=
  ⟨[(2, Utf8.ofString (s ++ "\n"))], status, c.tree, false⟩

/-- One effect after another; the worse status counts. -/
def andThen (e f : Effect) : Effect :=
  ⟨e.output ++ f.output, max e.status f.status, f.tree, e.drained || f.drained⟩

end Effect

/-! ### Options -/

/-- Arguments taken apart: options with their values, and what is not an option. -/
structure Options where
  flags : List (Char × String)
  operands : List String

/-- Takes arguments apart. The letters in `valued` are followed by a value. -/
def Options.parse (valued : List Char) : (fuel : Nat) → List String → Options
  | 0, args => ⟨[], args⟩
  | _ + 1, [] => ⟨[], []⟩
  | fuel + 1, arg :: rest =>
    if arg = "--" then ⟨[], rest⟩
    else match arg.toList with
      | '-' :: c :: more =>
        if c = '-' then
          let o := parse valued fuel rest
          ⟨('-', String.ofList more) :: o.flags, o.operands⟩
        else if valued.contains c then
          match more, rest with
          | [], value :: rest =>
            let o := parse valued fuel rest
            ⟨(c, value) :: o.flags, o.operands⟩
          | _, _ =>
            let o := parse valued fuel rest
            ⟨(c, String.ofList more) :: o.flags, o.operands⟩
        else
          let o := parse valued fuel
            (if more = [] then rest else String.ofList ('-' :: more) :: rest)
          ⟨(c, "") :: o.flags, o.operands⟩
      | _ =>
        let o := parse valued fuel rest
        ⟨o.flags, arg :: o.operands⟩

/-- The options among arguments, those letters in `valued` taking a value. -/
def Options.of (valued : String) (args : List String) : Options :=
  Options.parse valued.toList ((String.join args).length + args.length + 1) args

/-- Whether an option is given. -/
def Options.has (o : Options) (c : Char) : Bool := o.flags.any (·.1 == c)

/-- The values of all options `c`. -/
def Options.values (o : Options) (c : Char) : List String :=
  (o.flags.filter (·.1 == c)).map (·.2)

/-- The value of the last option `c`. -/
def Options.value? (o : Options) (c : Char) : Option String :=
  (o.flags.reverse.find? (·.1 == c)).map (·.2)

/-! ### Input -/

/-- How much is taken from a source that never ends. Only a reader that stops by itself can follow
one, and it stops before that. -/
def endlessLength : Nat := 0x100000

/-- The bytes that a name stands for: a file, a device, or the input. -/
def Call.read (c : Call) (name : String) : Except FileError Bytes :=
  if name = "-" || name = "/dev/stdin" then .ok c.input
  else if name = "/dev/null" then .ok []
  else if name = "/dev/zero" then .ok (List.replicate endlessLength 0)
  else Files.readBytes c.tree c.here name

/-- Whether the input is among the operands; it is when there are none. -/
def Call.usesInput (operands : List String) : Bool :=
  operands.isEmpty || operands.contains "-" || operands.contains "/dev/stdin"

/-- Does `f` on the bytes of each operand, or of the input if there are none, and complains in the
name of `program` about those that cannot be read. -/
def Call.onEach (c : Call) (program : String) (operands : List String) (describe : String → String)
    (f : (index : Nat) → (name : String) → Bytes → Bytes) : Effect :=
  let names := if operands.isEmpty then ["-"] else operands
  let start : Effect := ⟨[], 0, c.tree, Call.usesInput operands⟩
  (names.zipIdx).foldl (fun e (name, i) =>
    match c.read name with
    | .ok bs => e.andThen (.bytes c (f i name bs))
    | .error err =>
      e.andThen (.complain c 1 (program ++ ": " ++ describe name ++ ": " ++ err.reason))) start

/-! ### Lines of bytes -/

/-- The lines of a sequence of bytes, each with its line end if it has one. -/
def byteLines : Bytes → List Bytes
  | [] => []
  | b :: bs =>
    if b = 10 then [b] :: byteLines bs
    else match byteLines bs with
      | [] => [[b]]
      | l :: ls => (b :: l) :: ls

/-- A line without its line end. -/
def bare (line : Bytes) : Bytes := if line.getLast? = some 10 then line.dropLast else line

/-- A line with a line end. -/
def ended (line : Bytes) : Bytes := bare line ++ [10]

/-- An integer in decimal digits, with an optional sign. -/
def integer? (s : String) : Option Int :=
  match s.toList with
  | '-' :: cs =>
    if cs ≠ [] && cs.all Char.isDigit then (String.ofList cs).toNat?.map (-Int.ofNat ·) else none
  | '+' :: cs =>
    if cs ≠ [] && cs.all Char.isDigit then (String.ofList cs).toNat?.map Int.ofNat else none
  | cs => if cs ≠ [] && cs.all Char.isDigit then (String.ofList cs).toNat?.map Int.ofNat else none

end ToolAgent.Shell
