/-!
Command lines as a list of arguments: options with long and short names, values that stand in the
same argument or in the next one, and words. A command is a word after which a level of arguments
of its own begins.
-/

namespace DuplexAudio.CommandLine

/-- One argument, as far as its own characters tell. -/
inductive Argument
  | long (name : List Char) (value : Option (List Char))
  | short (letters : List Char)
  | endOfOptions
  | word
  deriving DecidableEq, Repr

/-- The texts before and after the first equals sign. -/
def splitAtEquals (text : List Char) : List Char × Option (List Char) :=
  match text.dropWhile (· != '=') with
  | [] => (text, none)
  | _ :: value => (text.takeWhile (· != '='), some value)

/-- A single dash is a word. -/
def Argument.ofText (text : String) : Argument :=
  match text.toList with
  | ['-', '-'] => .endOfOptions
  | '-' :: '-' :: rest => .long (splitAtEquals rest).1 (splitAtEquals rest).2
  | '-' :: letter :: letters => .short (letter :: letters)
  | _ => .word

/-- An option that a level knows. -/
structure OptionForm where
  long : String
  short : Option Char := none
  takesValue : Bool := false
  deriving DecidableEq, Repr

inductive UsageFault
  | unknownOption (text : String)
  | repeatedOption (long : String)
  | missingValue (long : String)
  | superfluousValue (long : String)
  | superfluousWord (word : String)
  | missingWord (name : String)
  | missingCommand
  | unknownCommand (word : String)
  | invalidValue (name value : String)
  deriving DecidableEq, Repr

def UsageFault.message : UsageFault → String
  | .unknownOption text => s!"unexpected option {text}"
  | .repeatedOption long => s!"option --{long} is given more than once"
  | .missingValue long => s!"option --{long} needs a value"
  | .superfluousValue long => s!"option --{long} takes no value"
  | .superfluousWord word => s!"unexpected argument {word}"
  | .missingWord name => s!"argument {name} is missing"
  | .missingCommand => "a command is missing"
  | .unknownCommand word => s!"unknown command {word}"
  | .invalidValue name value => s!"invalid value {value} for {name}"

/-- What was read at one level: options with their values, words, and the command with the
arguments after it. -/
structure Level where
  options : List (String × Option String) := []
  words : List String := []
  command : Option (String × List String) := none
  deriving DecidableEq, Repr

namespace Level

/-- The value of an option, if it is given with one. -/
def value? (level : Level) (long : String) : Option String := (level.options.lookup long).join

def isGiven (level : Level) (long : String) : Bool := (level.options.lookup long).isSome

/-- An option may be given once at a level. -/
def give (level : Level) (form : OptionForm) (value : Option String) : Except UsageFault Level :=
  if level.isGiven form.long then .error (.repeatedOption form.long)
  else .ok { level with options := level.options ++ [(form.long, value)] }

/-- Reads the letters after a single dash: options without a value, and at most one with a value,
which the remaining letters are, less one equals sign before them. If no letters remain, the option
is handed back to get its value from the next argument. -/
def giveLetters (level : Level) (forms : List OptionForm) :
    List Char → Except UsageFault (Level × Option OptionForm)
  | [] => .ok (level, none)
  | letter :: letters =>
    match forms.find? (·.short == some letter) with
    | none => .error (.unknownOption (String.ofList ['-', letter]))
    | some form =>
      if form.takesValue then
        match letters with
        | [] => .ok (level, some form)
        | '=' :: value => (level.give form (some (String.ofList value))).map (·, none)
        | value => (level.give form (some (String.ofList value))).map (·, none)
      else do
        let level ← level.give form none
        level.giveLetters forms letters

/-- Reads an option by its long name. -/
def giveLong (level : Level) (forms : List OptionForm) (name : List Char)
    (value : Option (List Char)) : Except UsageFault (Level × Option OptionForm) :=
  match forms.find? (·.long.toList == name) with
  | none => .error (.unknownOption (String.ofList ('-' :: '-' :: name)))
  | some form =>
    match form.takesValue, value with
    | true, some value => (level.give form (some (String.ofList value))).map (·, none)
    | true, none => .ok (level, some form)
    | false, none => (level.give form none).map (·, none)
    | false, some _ => .error (.superfluousValue form.long)

/-- Reads the arguments of one level, where `awaited` is an option whose value comes next. If there
are commands, the first word is one, and the rest belongs to it. -/
def read (forms : List OptionForm) (hasCommands : Bool) (level : Level)
    (awaited : Option OptionForm) : List String → Except UsageFault Level
  | [] =>
    match awaited with
    | some form => .error (.missingValue form.long)
    | none => .ok level
  | argument :: rest =>
    match awaited, Argument.ofText argument with
    | some form, .word => do
      let level ← level.give form (some argument)
      level.read forms hasCommands none rest
    | some form, _ => .error (.missingValue form.long)
    | none, .long name value => do
      let (level, awaited) ← level.giveLong forms name value
      level.read forms hasCommands awaited rest
    | none, .short letters => do
      let (level, awaited) ← level.giveLetters forms letters
      level.read forms hasCommands awaited rest
    | none, .endOfOptions => .ok { level with words := level.words ++ rest }
    | none, .word =>
      if hasCommands then .ok { level with command := some (argument, rest) }
      else { level with words := level.words ++ [argument] }.read forms hasCommands none rest

end Level
end DuplexAudio.CommandLine
