import WireSchema.Command.Basic

/-!
# The arguments of the command

The command has four options, each of which takes one value and may be given once. A value stands
in the same word as its option (`-ix`, `-i=x`, `--input=x`) or in the next one (`-i x`,
`--input x`). A value in the next word is taken up when the next option or the end is reached, so
an unknown word after it is reported first.

## Main definitions

* `ArgumentError`: why words are no command.
* `Command.ofArguments`: the command that is written by words.
-/

namespace WireSchema

/-- Why words are no command. -/
inductive ArgumentError
  /-- An option that has to be given is missing. -/
  | missing
  /-- An option has no value, or an empty path. -/
  | badValue
  /-- A word is no option. -/
  | unknown
  /-- An option is given twice. -/
  | repeated
  /-- A flag is given a value. -/
  | unneededValue
  /-- The help text is asked for. -/
  | help
  /-- The version is asked for. -/
  | version
  deriving DecidableEq, Repr

/-- The options that take a value. -/
inductive Switch
  | input
  | output
  | lang
  | config
  deriving DecidableEq, Repr

/-- What a word can name. -/
inductive Flag
  | takes (s : Switch)
  | help
  | version
  deriving DecidableEq, Repr

/-- The flag of one letter. -/
def Flag.short? : Char → Option Flag
  | 'i' => some (takes .input)
  | 'o' => some (takes .output)
  | 'l' => some (takes .lang)
  | 'c' => some (takes .config)
  | 'h' => some help
  | 'V' => some version
  | _ => none

/-- The flag of a whole word. -/
def Flag.long? (name : List Char) : Option Flag :=
  [("input", takes .input), ("output", takes .output), ("lang", takes .lang),
    ("config", takes .config), ("help", help), ("version", version)].findSome?
    fun (text, flag) => if text.toList == name then some flag else none

/-- Does the option take a path? A path is not empty. -/
def Switch.takesPath : Switch → Bool
  | lang => false
  | _ => true

/-- Can the option have the value? -/
def Switch.accepts (s : Switch) (v : String) : Bool :=
  !s.takesPath || !v.isEmpty

namespace Arguments

/-- The options read so far, and the option that was read last if its value may still come or is
not taken up yet. -/
structure State where
  given : List (Switch × String) := []
  pending : Option (Switch × Option String) := none
  deriving DecidableEq, Repr

namespace State

/-- Take up a value. -/
def set (st : State) (s : Switch) (v : String) : Except ArgumentError State :=
  if (st.given.lookup s).isSome then .error .repeated
  else if s.accepts v then .ok { st with given := (s, v) :: st.given }
  else .error .badValue

/-- Take up the value that is pending. -/
def settle (st : State) : Except ArgumentError State :=
  match st.pending with
  | none => .ok st
  | some (_, none) => .error .badValue
  | some (s, some v) => ({ st with pending := none }).set s v

/-- Read a flag, with the value that stands in the same word. -/
def flag (st : State) (f : Flag) (attached : Option String) : Except ArgumentError State := do
  let st ← st.settle
  match f, attached with
  | .takes s, some v => st.set s v
  | .takes s, none => .ok { st with pending := some (s, none) }
  | .help, _ => .error .help
  | .version, _ => .error .version

/-- Read a word of two dashes and a name, which may have a value after an equals sign. -/
def long (st : State) (text : List Char) : Except ArgumentError State :=
  let name := text.takeWhile (· != '=')
  let attached : Option String :=
    match text.dropWhile (· != '=') with
    | [] => none
    | _ :: v => some (String.ofList v)
  match Flag.long? name, attached with
  | none, _ => .error .unknown
  | some (.takes s), v => st.flag (.takes s) v
  | some _, some _ => .error .unneededValue
  | some f, none => st.flag f none

/-- Read a word of one dash, a letter, and perhaps a value. -/
def short (st : State) (letter : Char) (text : List Char) : Except ArgumentError State :=
  match Flag.short? letter with
  | none => .error .unknown
  | some f =>
    st.flag f <|
      match text with
      | [] => none
      | '=' :: v => some (String.ofList v)
      | v => some (String.ofList v)

/-- Read a word that is no flag. -/
def plain (st : State) (v : String) : Except ArgumentError State :=
  match st.pending with
  | some (s, none) => .ok { st with pending := some (s, some v) }
  | _ => .error .unknown

/-- Read a word. -/
def word (st : State) (w : String) : Except ArgumentError State :=
  match w.toList with
  | '-' :: '-' :: text => st.long text
  | '-' :: letter :: text => st.short letter text
  | _ => st.plain w

/-- Read words. After two dashes no word may follow. -/
def words : State → List String → Except ArgumentError State
  | st, [] => st.settle
  | st, ["--"] => st.settle
  | _, "--" :: _ => .error .unknown
  | st, w :: ws => do words (← st.word w) ws

end State

/-- The value of an option that has to be given. -/
def required (given : List (Switch × String)) (s : Switch) : Except ArgumentError String :=
  match given.lookup s with
  | some v => .ok v
  | none => .error .missing

end Arguments

open Arguments

/-- The command that is written by words. Without an option for it, the settings file is the one
that `preset` names. -/
def Command.ofArguments (args : List String) (preset : Option String) :
    Except ArgumentError Command := do
  let read ← State.words {} args
  let st ←
    match read.given.lookup .config, preset with
    | none, some v => read.set .config v
    | _, _ => .ok read
  let input ← required st.given .input
  let output ← required st.given .output
  return {
    input := ⟨input⟩
    output := ⟨output⟩
    tag := (st.given.lookup .lang).getD "c"
    settings := (st.given.lookup .config).map Path.mk }

end WireSchema
