import PriceOverlay.Cli.Help
/-!
# Command lines

A command line names a command, among options that start with dashes. The value of an
option follows an equals sign or is the next argument, which then may not itself start
like an option; after two dashes nothing is an option any more. An option is given at most
once, `--format` once before and once after the command.
-/
namespace PriceOverlay.Cli

/-- Why a command line runs no command. -/
inductive Halt where
  | misuse
  | version
  /-- Help about a place was asked for. -/
  | help (place : Place) (length : Help.Length)
  deriving DecidableEq, Repr

/-! ## Arguments -/

/-- What an argument is. -/
inductive Argument where
  /-- The end of the options. -/
  | ends
  | long (name : String) (value : Option String)
  | short (letters : List Char)
  | plain
  deriving DecidableEq, Repr

namespace Argument

def of (argument : String) : Argument :=
  match argument.toList with
  | ['-', '-'] => .ends
  | '-' :: '-' :: r =>
    let name := r.takeWhile (· != '=')
    let value := match r.drop name.length with
      | _ :: v => some (String.ofList v)
      | [] => none
    .long (String.ofList name) value
  | '-' :: c :: r => .short (c :: r)
  | _ => .plain

end Argument

/-- What has been read of a command line. -/
structure Parsed where
  values : List (String × String) := []
  plain : List String := []
  /-- What follows the end of the options. -/
  rest : List String := []

namespace Parsed

def value? (p : Parsed) (name : String) : Option String :=
  (p.values.find? (·.1 == name)).map (·.2)

end Parsed

namespace Options

/-- The option of a letter, and its value if that is written next to it. -/
def ofLetters (o : Options) : List Char → Except Halt (String × Option String)
  | 'f' :: [] => .ok ("format", none)
  | 'f' :: '=' :: r => .ok ("format", some (String.ofList r))
  | 'f' :: r => .ok ("format", some (String.ofList r))
  | 'h' :: _ => .error (.help o.place .short)
  | 'V' :: _ => .error (if o.hasVersion then .version else .misuse)
  | _ => .error .misuse

/-- The option of a name. -/
def ofName (o : Options) (name : String) (value : Option String) :
    Except Halt (String × Option String) :=
  if o.named.any (·.name == name) then .ok (name, value)
  else if value.isSome then .error .misuse
  else if name = "help" then .error (.help o.place .long)
  else if name = "version" && o.hasVersion then .error .version
  else .error .misuse

/-- Takes the value of an option. -/
def take (o : Options) (p : Parsed) (name value : String) : Except Halt Parsed :=
  if (p.value? name).isSome then .error .misuse
  else if o.named.any fun n => n.name == name && n.accepts value then
    .ok { p with values := p.values ++ [(name, value)] }
  else .error .misuse

/-- Reads arguments on top of what has been read. -/
def parse (o : Options) (p : Parsed) : List String → Except Halt Parsed
  | [] => .ok p
  | a :: r =>
    let option (named : Except Halt (String × Option String)) : Except Halt Parsed :=
      match named with
      | .error h => .error h
      | .ok (name, some v) =>
        match o.take p name v with
        | .ok p => parse o p r
        | .error h => .error h
      | .ok (name, none) =>
        match r with
        | [] => .error .misuse
        | v :: r =>
          if Argument.of v ≠ .plain then .error .misuse
          else match o.take p name v with
            | .ok p => parse o p r
            | .error h => .error h
    match Argument.of a with
    | .ends => .ok { p with rest := r }
    | .long name value => option (o.ofName name value)
    | .short letters => option (o.ofLetters letters)
    | .plain =>
      if o.stops then .ok { p with plain := [a], rest := r }
      else parse o { p with plain := p.plain ++ [a] } r

end Options

/-! ## Commands -/

inductive Command where
  | lint (nodePool : String) (annotations : List String)
  | analyze (options : AnalyzeOptions)
  | overlays (filter : OverlayFilter)

structure Invocation where
  format : Format
  command : Command

/-- The command of a name with its options and arguments. -/
def command (environment : String → Option String) (name : String) (arguments : List String) :
    Except Halt (Parsed × Command) := do
  match name with
  | "lint" =>
    let p ← lintOptions.parse {} arguments
    let annotations := p.plain ++ p.rest
    if annotations.isEmpty then throw .misuse
    pure (p, .lint ((p.value? "nodepool").getD "default") annotations)
  | "analyze" =>
    let p ← analyzeOptions.parse {} arguments
    if !(p.plain ++ p.rest).isEmpty then throw .misuse
    match (p.value? "prometheus-url").or (environment urlVariable) with
    | none => throw .misuse
    | some url =>
      pure (p, .analyze
        { url
          threshold := (p.value? "threshold").bind number?
          account := p.value? "account-id"
          maxAge := (p.value? "max-data-age-secs").bind seconds? })
  | "overlays" =>
    let p ← overlaysOptions.parse {} arguments
    if !(p.plain ++ p.rest).isEmpty then throw .misuse
    pure (p, .overlays ⟨(p.value? "origin").bind origin?, p.value? "nodepool"⟩)
  | "help" =>
    match arguments with
    | [] => throw (.help .program .long)
    | [name] =>
      match Place.ofCommand? name with
      | some place => throw (.help place .long)
      | none => throw .misuse
    | _ => throw .misuse
  | _ => throw .misuse

/-- Reads a command line. -/
def invocation (environment : String → Option String) (arguments : List String) :
    Except Halt Invocation := do
  let p ← globalOptions.parse {} arguments
  match p.plain with
  | [name] =>
    let (q, command) ← command environment name p.rest
    let format := ((q.value? "format").or (p.value? "format")).bind format?
    pure ⟨format.getD .table, command⟩
  | _ => throw .misuse

end PriceOverlay.Cli
