import BrowserFlow.CommandLine.Options

/-!
Arguments of the command line. Options may be shortened as long as one is meant, values may be
attached with an equals sign, and after a lone double dash nothing is an option.
-/
namespace BrowserFlow.CommandLine
set_option autoImplicit false

/-- What a list of arguments asks for. -/
inductive Invocation where
  | run (flow : String) (options : RunOptions)
  /-- The help text was asked for. -/
  | help
  /-- No command was given. -/
  | overview
  /-- The arguments make no sense. -/
  | misuse

/-- An argument by its form. -/
inductive Word where
  | plain (text : String)
  /-- An option that has no value. -/
  | flag (s : Switch)
  /-- An option that has a value, which may be attached. -/
  | valued (s : Switch) (attached : Option String)
  /-- An option with an attached value that it cannot have. -/
  | malformed
  /-- Something like an option that is none. -/
  | unknown
  deriving DecidableEq, Repr

/-- An argument, or the double dash after which there are no options. -/
inductive Mark where
  | word (w : Word)
  | separator
  deriving DecidableEq, Repr

/-! ## The form of an argument -/

/-- Whether a text is a minus sign with digits, and perhaps with a point before the last of
them; a line feed at its end is not looked at. -/
def isNegativeNumber (s : String) : Bool :=
  let cs := s.toList
  match if cs.getLast? == some '\n' then cs.dropLast else cs with
  | '-' :: body =>
    let rest := body.dropWhile Text.isDigit
    (rest.isEmpty && !body.isEmpty) ||
      match rest with
      | '.' :: part => !part.isEmpty && part.all Text.isDigit
      | _ => false
  | _ => false

/-- A text up to its first equals sign, and what comes after it. -/
def splitEquals (s : String) : String × Option String :=
  let cs := s.toList
  let name := String.ofList (cs.takeWhile (· ≠ '='))
  match cs.dropWhile (· ≠ '=') with
  | _ :: value => (name, some (String.ofList value))
  | [] => (name, none)

/-- An option with what was attached to it. -/
def optionWord (s : Switch) (attached : Option String) : Word :=
  if s.takesValue then .valued s attached
  else if attached.isSome then .malformed
  else .flag s

/-- What follows the letter of the short help option: more letters, the first unknown of which
ends the reading. -/
def helpLetters : List Char → Bool
  | [] => true
  | '-' :: _ => false
  | 'h' :: '=' :: _ => false
  | 'h' :: rest => helpLetters rest
  | _ => true

/-- An argument that looks like an option and names none: numbers and texts with blanks are no
options. -/
def unmatched (s : String) : Word :=
  if isNegativeNumber s || s.toList.contains ' ' then .plain s else .unknown

/-- The form of an argument; none when it might be short for several options. -/
def classify? (names : List (String × Switch)) (s : String) : Option Word :=
  let (name, attached) := splitEquals s
  match s.toList with
  | '-' :: c :: rest =>
    match names.lookup s with
    | some t => some (optionWord t none)
    | none =>
      match (if attached.isSome then names.lookup name else none) with
      | some t => some (optionWord t attached)
      | none =>
        if c = '-' then
          match names.filter fun e => name.toList.isPrefixOf e.1.toList with
          | [] => some (unmatched s)
          | [(_, t)] => some (optionWord t attached)
          | _ => none
        else if c = 'h' then some (if helpLetters rest then .flag .help else .malformed)
        else some (unmatched s)
  | _ => some (.plain s)

/-- The forms of all arguments. -/
def marks? (names : List (String × Switch)) : List String → Option (List Mark)
  | [] => some []
  | s :: rest =>
    if s = "--" then some (.separator :: rest.map fun t => .word (.plain t))
    else
      match classify? names s, marks? names rest with
      | some w, some ms => some (.word w :: ms)
      | _, _ => none

/-! ## The arguments of a run -/

/-- What was read of the arguments of a run. -/
structure RunReading where
  flow : Option String := none
  options : RunOptions := {}
  /-- Whether there were arguments for which there is no use. -/
  surplus : Bool := false

/-- The end of the arguments: there must be a flow file and nothing left over. -/
def RunReading.finish (r : RunReading) : Invocation :=
  match r.flow with
  | some flow => if r.surplus then .misuse else .run flow r.options
  | none => .misuse

/-- Reads the arguments of a run in order. The double dash goes with a flow file next to it. -/
def readRun (r : RunReading) : List Mark → Invocation
  | [] => r.finish
  | .word (.plain s) :: rest =>
    if r.flow.isSome then readRun { r with surplus := true } rest
    else
      match rest with
      | .separator :: more =>
        { r with flow := some s, surplus := r.surplus || !more.isEmpty }.finish
      | _ => readRun { r with flow := some s } rest
  | .separator :: rest =>
    match r.flow, rest with
    | none, .word (.plain s) :: more =>
      { r with flow := some s, surplus := r.surplus || !more.isEmpty }.finish
    | _, _ => .misuse
  | .word (.flag s) :: rest =>
    if s = .help then .help else readRun { r with options := r.options.turnOn s } rest
  | .word (.valued s (some v)) :: rest =>
    match r.options.give? s v with
    | some o => readRun { r with options := o } rest
    | none => .misuse
  | .word (.valued s none) :: .word (.plain v) :: rest =>
    match r.options.give? s v with
    | some o => readRun { r with options := o } rest
    | none => .misuse
  | .word (.valued _ none) :: _ => .misuse
  | .word .malformed :: _ => .misuse
  | .word .unknown :: rest => readRun { r with surplus := true } rest

/-- What the arguments after the name of the command ask for. -/
def parseRun (args : List String) : Invocation :=
  match marks? Switch.names args with
  | some ms => readRun {} ms
  | none => .misuse

/-! ## Commands -/

/-- An invocation that came with arguments for which there is no use. -/
def withSurplus (surplus : Bool) : Invocation → Invocation
  | .run flow options => if surplus then .misuse else .run flow options
  | .overview => if surplus then .misuse else .overview
  | other => other

/-- What a list of arguments asks for, `surplus` telling whether some before it were of no use. -/
def parseFrom (surplus : Bool) : List String → Invocation
  | [] => withSurplus surplus .overview
  | s :: rest =>
    if s = "--" then .misuse
    else
      match classify? Switch.common s with
      | some (.plain name) => if name = "run" then withSurplus surplus (parseRun rest) else .misuse
      | some (.flag _) => .help
      | some .unknown => parseFrom true rest
      | _ => .misuse

/-- What a list of arguments asks for. -/
def parse (args : List String) : Invocation := parseFrom false args

end BrowserFlow.CommandLine
