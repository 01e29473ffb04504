import TableGateway.Text.DecimalDigit
import TableGateway.Value.Quoted

/-!
# Arguments of a command line

The words of a command line are options and positional arguments. A long option may be shortened as
long as it stays unambiguous and may carry its value behind an equals sign; short options are single
letters that can be written together, and nothing else can be attached to them. After `--` there
are no more options.
-/

namespace TableGateway.CommandLine

/-- What an option does: it asks for help, or it makes a setting, possibly from a value. The value
is missing if two dashes are attached in its place. -/
inductive Effect (α : Type) where
  | help
  | flag (setting : α)
  | valued (setting : Option String → α)

/-- An option: its names, with their dashes, and what it does. Only options without short names take
a value. -/
structure OptionSpec (α : Type) where
  names : List String
  effect : Effect α

/-- Why the reading of arguments ends early. -/
inductive Stop where
  | help
  | misuse (message : String)
deriving Repr, DecidableEq

/-- An option as it was written. -/
structure Written (α : Type) where
  option : OptionSpec α
  /-- The full name of the option. -/
  name : String
  /-- The text attached to the name. -/
  attached : Option (List Char) := none

/-- A word of the command line. -/
inductive Word (α : Type) where
  | argument (text : String)
  /-- The two dashes after which there are no options. -/
  | separator
  | known (w : Written α)
  /-- Looks like an option but is none. -/
  | unknown (text : String)

namespace OptionSpec

/-- A mistake in the use of an option. -/
def misuse {α : Type} (o : OptionSpec α) (message : String) : Stop :=
  .misuse ("argument " ++ "/".intercalate o.names ++ ": " ++ message)

end OptionSpec

/-- Every name with its option. -/
def namedOptions {α : Type} (options : List (OptionSpec α)) : List (String × OptionSpec α) :=
  options.flatMap fun o => o.names.map fun name => (name, o)

/-- Splits a text at its first equals sign. -/
def splitAssignment (s : List Char) : List Char × Option (List Char) :=
  match s.dropWhile (· ≠ '=') with
  | [] => (s, none)
  | _ :: value => (s.takeWhile (· ≠ '='), some value)

/-- Whether a text is written as a negative number; it may end in a line break. -/
def isNegativeNumber (s : List Char) : Bool :=
  let isNumber (digits : List Char) := digits ≠ [] && digits.all Text.isDigit
  let s := if s.getLast? = some '\n' then s.dropLast else s
  match s with
  | '-' :: rest =>
    isNumber rest ||
      (match rest.dropWhile Text.isDigit with
        | '.' :: fraction => isNumber fraction
        | _ => false)
  | _ => false

/-- The options that a text with one or two dashes may stand for. -/
def candidates {α : Type} (options : List (OptionSpec α)) (s : List Char) : List (Written α) :=
  match s with
  | '-' :: '-' :: _ =>
    let (stem, value) := splitAssignment s
    ((namedOptions options).filter fun o => stem.isPrefixOf o.1.toList).map fun o =>
      { option := o.2, name := o.1, attached := value }
  | _ =>
    (namedOptions options).filterMap fun o =>
      if o.1.toList = s.take 2 then
        some { option := o.2, name := o.1, attached := some (s.drop 2) }
      else if s.isPrefixOf o.1.toList then
        some { option := o.2, name := o.1 }
      else
        none

/-- What a word is, before any `--`. -/
def classify {α : Type} (options : List (OptionSpec α)) (text : String) : Except Stop (Word α) :=
  let s := text.toList
  let (stem, value) := splitAssignment s
  if s.head? ≠ some '-' then .ok (.argument text)
  else match (namedOptions options).lookup text with
    | some o => .ok (.known { option := o, name := text })
    | none =>
      if s.length = 1 then .ok (.argument text)
      else match value, (namedOptions options).lookup (String.ofList stem) with
        | some _, some o => .ok (.known
            { option := o, name := String.ofList stem, attached := value })
        | _, _ =>
          match candidates options s with
          | [w] => .ok (.known w)
          | [] =>
            if isNegativeNumber s || s.contains ' ' then .ok (.argument text)
            else .ok (.unknown text)
          | several => .error (.misuse ("ambiguous option: " ++ text ++ " could match "
              ++ ", ".intercalate (several.map (·.name))))

/-- The words of a command line. -/
def words {α : Type} (options : List (OptionSpec α)) :
    List String → Except Stop (List (Word α))
  | [] => .ok []
  | text :: rest =>
    if text = "--" then .ok (.separator :: rest.map .argument)
    else do
      let word ← classify options text
      return word :: (← words options rest)

/-- The settings made by options and the texts that were left over. -/
structure Settings (α : Type) where
  made : List α := []
  leftover : List String := []

/-- A mistake: text attached to an option that takes no value. -/
def unusedText {α : Type} (o : OptionSpec α) (text : List Char) : Stop :=
  o.misuse ("ignored explicit argument " ++ Value.quotedString (String.ofList text))

/-- Reads the text attached to a short option: the letters of more short options. -/
def cluster {α : Type} (options : List (OptionSpec α)) (o : OptionSpec α) :
    List Char → Except Stop (List (OptionSpec α))
  | [] => .ok [o]
  | letter :: rest =>
    match (namedOptions options).lookup (String.ofList ['-', letter]) with
    | none => .error (unusedText o (letter :: rest))
    | some next => do return o :: (← cluster options next rest)

/-- The options meant by a written option that takes no value. -/
def Written.expand {α : Type} (options : List (OptionSpec α)) (w : Written α) :
    Except Stop (List (OptionSpec α)) :=
  match w.attached with
  | none => .ok [w.option]
  | some text =>
    if text.isEmpty || w.name.startsWith "--" then .error (unusedText w.option text)
    else cluster options w.option text

/-- Makes the settings of options that take no value. -/
def applyFlags {α : Type} : List (OptionSpec α) → Except Stop (List α)
  | [] => .ok []
  | o :: rest =>
    match o.effect with
    | .help => .error .help
    | .flag setting => do return setting :: (← applyFlags rest)
    | .valued _ => .error (o.misuse "expected one argument")

/-- Reads words in turn, of which no positional arguments are expected. -/
def settings {α : Type} (options : List (OptionSpec α)) :
    List (Word α) → Except Stop (Settings α)
  | [] => .ok {}
  | .argument text :: rest | .unknown text :: rest => do
    let s ← settings options rest
    return { s with leftover := text :: s.leftover }
  | .separator :: rest => do
    let s ← settings options rest
    return { s with leftover := "--" :: s.leftover }
  | .known w :: rest =>
    match w.option.effect, w.attached with
    | .valued setting, some text => do
      let s ← settings options rest
      let value := if text = ['-', '-'] then none else some (String.ofList text)
      return { s with made := setting value :: s.made }
    | .valued setting, none =>
      match rest with
      | .argument text :: rest => do
        let s ← settings options rest
        return { s with made := setting (some text) :: s.made }
      | _ => .error (w.option.misuse "expected one argument")
    | _, _ => do
      let made ← applyFlags (← w.expand options)
      let s ← settings options rest
      return { s with made := made ++ s.made }

/-- Finds the command: what stands before it is left over, and what follows is not read. Two dashes
before the command are taken for a part of it. -/
def findCommand {α : Type} (options : List (OptionSpec α)) :
    List (Word α) → List String → Except Stop (Option (List String) × List String)
  | .argument _ :: _, texts => .ok (some texts, [])
  | .separator :: .argument _ :: _, texts => .ok (some texts, [])
  | .separator :: rest, texts => do
    let (command, leftover) ← findCommand options rest (texts.drop 1)
    return (command, "--" :: leftover)
  | .unknown text :: rest, texts => do
    let (command, leftover) ← findCommand options rest (texts.drop 1)
    return (command, text :: leftover)
  | .known w :: rest, texts => do
    let _ ← applyFlags (← w.expand options)
    findCommand options rest (texts.drop 1)
  | [], _ => .ok (none, [])

end TableGateway.CommandLine
