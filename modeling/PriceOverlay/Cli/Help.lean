import PriceOverlay.Cli.Options
/-!
# Help

Help comes in two lengths. The short one has a line for each option, or two where the lines
would get too long; the long one has a paragraph, in which the values of an option are
explained. Without such values there is nothing to explain, and both are the same.
-/
namespace PriceOverlay.Cli.Help

/-- How much help says. -/
inductive Length where
  | short
  | long
  deriving DecidableEq, Repr

/-- An entry of a list: what it is about, and what it says in parts. -/
structure Entry where
  /-- The mark of a letter, or the blanks in its place. -/
  letter : String := ""
  term : String
  about : String
  /-- The values there are, with what they mean. -/
  explained : List (String × String) := []
  /-- What is said in brackets. -/
  remarks : List String := []

/-- Blanks in front of an entry that stands on lines of its own. -/
def indent : Nat := 10

/-- The columns of a line. -/
def lineWidth : Nat := 100

def blanks (n : Nat) : String := Grid.repeated n ' '

/-- A text whose further lines start with blanks. -/
def hanging (n : Nat) (s : String) : String :=
  ("\n" ++ blanks n).intercalate (Grid.lines s)

namespace Entry

/-- The text of an entry on one line, in brackets after what it is about. -/
def oneLine (e : Entry) : String := " ".intercalate (e.about :: e.remarks)

/-- Whether an entry is too long to stand beside terms of a width: less than sixty columns
are left for it, and it needs more. -/
def isTooLong (width : Nat) (e : Entry) : Bool :=
  let taken := width + 12
  decide (40 * lineWidth < 100 * taken ∧ taken ≤ lineWidth ∧
    lineWidth - taken < Text.width (String.join (e.about :: e.remarks)))

/-- The entry beside its term. -/
def beside (width : Nat) (e : Entry) : String :=
  "  " ++ e.letter ++ Grid.padded width e.term ++ "  " ++
    hanging (width + 4 + e.letter.length) e.oneLine ++ "\n"

/-- The entry below its term. -/
def below (e : Entry) : String :=
  "  " ++ e.letter ++ e.term ++ "\n" ++ blanks indent ++ hanging indent e.oneLine ++ "\n"

/-- The values of an entry, each on a line of its own. -/
def valueLines (e : Entry) : String :=
  let width := (e.explained.map fun v => Text.width v.1).foldl max 0
  "\n\n" ++ blanks indent ++ "Possible values:" ++
    String.join (e.explained.map fun v =>
      "\n" ++ blanks indent ++ "- " ++ v.1 ++ ": " ++ blanks (width - Text.width v.1) ++ v.2)

/-- The entry as a paragraph. -/
def paragraph (e : Entry) : String :=
  "  " ++ e.letter ++ e.term ++ "\n" ++ blanks indent ++ e.about ++
    (if e.explained.isEmpty then "" else e.valueLines) ++
    (if e.remarks.isEmpty then ""
      else hanging indent ("\n\n" ++ "\n".intercalate e.remarks)) ++ "\n"

end Entry

/-- A list of entries under a heading; no list if there are none. -/
def list (title : String) (paragraphs : Bool) (es : List Entry) : String :=
  let width := (es.map fun e => Text.width e.term).foldl max 0
  let text :=
    if paragraphs then "\n".intercalate (es.map Entry.paragraph)
    else if es.any (·.isTooLong width) then String.join (es.map Entry.below)
    else String.join (es.map (·.beside width))
  if es.isEmpty then "" else "\n" ++ title ++ ":\n" ++ text

/-- The entry of an option, given the values of environment variables. -/
def entry (environment : String → Option String) (length : Length) (o : OptionSpec) : Entry :=
  let explained := o.choices.filterMap fun c => c.2.map (c.1, ·)
  let isExplained := length = .long ∧ !explained.isEmpty
  { letter := match o.letter with
      | some c => String.ofList ['-', c, ',', ' ']
      | none => blanks 4
    term := "--" ++ o.name ++ " <" ++ o.value ++ ">"
    about := o.about
    explained := if isExplained then explained else []
    remarks :=
      (o.variableName?.map fun v =>
        "[env: " ++ v ++ "=" ++ (environment v).getD "" ++ "]").toList ++
        (o.standard.map fun s => "[default: " ++ s ++ "]").toList ++
        if isExplained ∨ o.choices.isEmpty then []
        else ["[possible values: " ++ ", ".intercalate (o.choices.map (·.1)) ++ "]"] }

/-- Whether the long help of a place says more than the short one. -/
def hasLong (o : Options) : Bool := o.named.any fun s => s.choices.any (·.2.isSome)

/-- The entries of the options that every place with help has. -/
def standing (o : Options) (length : Length) : List Entry :=
  let more := match hasLong o, length with
    | false, _ => ""
    | true, .short => " (see more with '--help')"
    | true, .long => " (see a summary with '-h')"
  (if o.hasHelp then [{ letter := "-h, ", term := "--help", about := "Print help" ++ more }]
    else []) ++
    if o.hasVersion then [{ letter := "-V, ", term := "--version", about := "Print version" }]
    else []

/-- What help says about a place. -/
def text (environment : String → Option String) (o : Options) (length : Length) : String :=
  let length := if hasLong o then length else .short
  let isLong := length = .long
  o.about ++ "\n\nUsage: " ++ o.usage ++ "\n" ++
    list "Commands" false (o.commands.map fun c => { term := c.1, about := c.2 }) ++
    list "Arguments" isLong (o.arguments.map fun a => { term := a.1, about := a.2 }) ++
    list "Options" isLong (o.named.map (entry environment length) ++ standing o length)

end PriceOverlay.Cli.Help
