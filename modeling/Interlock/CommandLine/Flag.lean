import Interlock.Number.Integer

/-! # Flags

Flags may stand anywhere between the operands, until a lone `--`. A long flag is written `--name`, a
short one by its letter, and short ones may be joined. A value follows as the next argument, after
an equality sign, or right behind the letter.
-/

namespace Interlock.CommandLine

/-- What a flag takes. -/
inductive FlagKind where
  /-- A truth value; the flag alone means true. -/
  | switch
  | text
  /-- A word, in any base. -/
  | word
  /-- A level, in decimal and of 32 bits. -/
  | level
  /-- A truth value of the logger. -/
  | logSwitch
  /-- A size without a sign, in any base. -/
  | size
  /-- A severity by its name or by its number. -/
  | severity
  /-- Levels of source files, as in `scheduler=2,rule=1`. -/
  | levels
  /-- A line of a source file, as in `scheduler.go:17`. -/
  | place
deriving DecidableEq, Repr

/-- Whether a flag of the kind means true when it stands alone. -/
def FlagKind.isSwitch : FlagKind → Bool
  | .switch | .logSwitch => true
  | _ => false

/-- A flag that a command knows. -/
structure Flag where
  name : String
  kind : FlagKind
  letter : Option Char := none
deriving DecidableEq, Repr

/-- The value of a flag. -/
inductive FlagValue where
  | switch (on : Bool)
  | text (s : String)
  | word (n : Int64)
deriving DecidableEq, Repr

/-- Why arguments are not understood. -/
inductive UsageError where
  | unknownCommand (name path : String) (suggestions : List String)
  | unknownFlag (name : String)
  | unknownLetter (letter : Char) (letters : String)
  | badSyntax (argument : String)
  | missingValue (flag : String)
  | missingValueOfLetter (letter : Char) (letters : String)
  | invalidValue (value : String) (flag : Flag) (reason : String)
  | wrongCount (wanted received : Nat)
  | tooFew (wanted received : Nat)
deriving DecidableEq, Repr

/-- A flag as messages show it. -/
def Flag.shown (f : Flag) : String :=
  match f.letter with
  | some letter => "-" ++ String.singleton letter ++ ", --" ++ f.name
  | none => "--" ++ f.name

/-- The wording of a usage error. -/
def UsageError.message : UsageError → String
  | .unknownCommand name path suggestions =>
    let hint :=
      if suggestions.isEmpty then ""
      else "\n\nDid you mean this?\n" ++ String.join (suggestions.map fun s => "\t" ++ s ++ "\n")
    "unknown command " ++ Text.quote name ++ " for " ++ Text.quote path ++ hint
  | .unknownFlag name => "unknown flag: --" ++ name
  | .unknownLetter letter letters =>
    "unknown shorthand flag: " ++ Text.quoteSingle letter ++ " in -" ++ letters
  | .badSyntax argument => "bad flag syntax: " ++ argument
  | .missingValue flag => "flag needs an argument: --" ++ flag
  | .missingValueOfLetter letter letters =>
    "flag needs an argument: " ++ Text.quoteSingle letter ++ " in -" ++ letters
  | .invalidValue value flag reason =>
    "invalid argument " ++ Text.quote value ++ " for " ++ Text.quote flag.shown ++ " flag: " ++
      reason
  | .wrongCount wanted received =>
    "accepts " ++ toString wanted ++ " arg(s), received " ++ toString received
  | .tooFew wanted received =>
    "requires at least " ++ toString wanted ++ " arg(s), only received " ++ toString received

/-- Reads a truth value. -/
def readSwitch? (text : String) : Option Bool :=
  if text ∈ ["1", "t", "T", "TRUE", "true", "True"] then some true
  else if text ∈ ["0", "f", "F", "FALSE", "false", "False"] then some false
  else none

/-- The fault in a size. -/
def sizeFault? (text : String) : Option String :=
  match Number.readMagnitude text.toList with
  | .error .invalidSyntax => some "parse error"
  | .error .outOfRange => some Number.IntegerError.outOfRange.reason
  | .ok _ =>
    if text.contains '_' && !Number.underscoresWell text.toList then some "parse error" else none

/-- The fault in a severity. -/
def severityFault? (text : String) : Option String :=
  if text.toUpper ∈ ["INFO", "WARNING", "ERROR", "FATAL"] then none
  else match Number.readDecimalIn 32 text.toList with
    | .error cause => some (cause.message "ParseInt" text)
    | .ok _ => none

/-- The fault in levels of source files. -/
def levelsFault? (text : String) : Option String :=
  let malformed := "syntax error: expect comma-separated list of filename=N"
  (text.splitOn ",").findSome? fun entry =>
    match entry.splitOn "=" with
    | [""] => none
    | [file, level] =>
      if file = "" then some malformed
      else match Number.readDecimalIn 32 level.toList with
        | .error _ => some malformed
        | .ok n => if n < 0 then some "negative value for vmodule level" else none
    | _ => some malformed

/-- The fault in a line of a source file. -/
def placeFault? (text : String) : Option String :=
  let malformed := "syntax error: expect file.go:234"
  match text.splitOn ":" with
  | [""] => none
  | [file, line] =>
    if !file.contains '.' then some malformed
    else match Number.readDecimal line.toList with
      | .error _ => some malformed
      | .ok n => if n ≤ 0 then some "negative or zero value for level" else none
  | _ => some malformed

/-- Reads the value of a flag. -/
def Flag.read (f : Flag) (text : String) : Except UsageError FlagValue :=
  let checked (fault : Option String) : Except UsageError FlagValue :=
    match fault with
    | some reason => .error (.invalidValue text f reason)
    | none => .ok (.text text)
  let integer (n : Except Number.IntegerError Int64) : Except UsageError FlagValue :=
    match n with
    | .ok n => .ok (.word n)
    | .error cause => .error (.invalidValue text f (cause.message "ParseInt" text))
  match f.kind with
  | .text => .ok (.text text)
  | .switch =>
    match readSwitch? text with
    | some on => .ok (.switch on)
    | none =>
      .error (.invalidValue text f (Number.IntegerError.invalidSyntax.message "ParseBool" text))
  | .word => integer (Number.readLiteral text.toList)
  | .level => integer (Number.readDecimalIn 32 text.toList)
  | .logSwitch => checked (if (readSwitch? text).isSome then none else some "parse error")
  | .size => checked (sizeFault? text)
  | .severity => checked (severityFault? text)
  | .levels => checked (levelsFault? text)
  | .place => checked (placeFault? text)

/-- Arguments sorted into flags and operands. -/
structure Arguments where
  /-- The flags that were set, the latest first. -/
  settings : List (String × FlagValue) := []
  operands : List String := []
deriving DecidableEq, Repr

namespace Arguments

/-- Sets a flag. -/
def set (a : Arguments) (f : Flag) (text : String) : Except UsageError Arguments :=
  match f.read text with
  | .ok value => .ok { a with settings := (f.name, value) :: a.settings }
  | .error e => .error e

/-- Whether a switch is on. -/
def switch (a : Arguments) (name : String) : Bool :=
  a.settings.lookup name = some (.switch true)

/-- The text of a flag, if it was set. -/
def text? (a : Arguments) (name : String) : Option String :=
  match a.settings.lookup name with
  | some (.text s) => some s
  | _ => none

/-- The number of a flag, if it was set. -/
def word? (a : Arguments) (name : String) : Option Int64 :=
  match a.settings.lookup name with
  | some (.word n) => some n
  | _ => none

end Arguments

/-- A flag whose value is the next argument, and the error if there is none. -/
structure Waiting where
  flag : Flag
  missing : UsageError

/-- The letter that a message shows for an unknown letter. A letter beyond ASCII is cut to its first
octet twice, first as a code point and then as the UTF-8 form of that, which leaves the same letter
for all. -/
def shownLetter (c : Char) : Char :=
  if c.toNat < 0x80 then c else 'Ã'

/-- Reads joined short flags. -/
def readLetters (flags : List Flag) (a : Arguments) :
    List Char → Except UsageError (Arguments × Option Waiting)
  | [] => .ok (a, none)
  | letter :: rest =>
    let letters := String.ofList (letter :: rest)
    match flags.find? (·.letter = some letter) with
    | none =>
      if letters.startsWith "test." then .ok (a, none)
      else .error (.unknownLetter (shownLetter letter) letters)
    | some flag =>
      match rest with
      | '=' :: c :: value => do return (← a.set flag (String.ofList (c :: value)), none)
      | [] =>
        if flag.kind.isSwitch then do return (← a.set flag "true", none)
        else .ok (a, some ⟨flag, .missingValueOfLetter letter letters⟩)
      | c :: more =>
        if flag.kind.isSwitch then
          match a.set flag "true" with
          | .error e => .error e
          | .ok a => readLetters flags a (c :: more)
        else do return (← a.set flag (String.ofList (c :: more)), none)

/-- Reads a long flag from behind its dashes. -/
def readLong (flags : List Flag) (a : Arguments) (argument : String) (body : List Char) :
    Except UsageError (Arguments × Option Waiting) :=
  match body with
  | [] | '-' :: _ | '=' :: _ => .error (.badSyntax argument)
  | body =>
    let (name, rest) := body.span (· ≠ '=')
    let name := String.ofList name
    match flags.find? (·.name = name) with
    | none => .error (.unknownFlag name)
    | some flag =>
      match rest with
      | _ :: value => do return (← a.set flag (String.ofList value), none)
      | [] =>
        if flag.kind.isSwitch then do return (← a.set flag "true", none)
        else .ok (a, some ⟨flag, .missingValue name⟩)

/-- Sorts arguments into flags and operands. -/
def readArguments (flags : List Flag) :
    Option Waiting → Arguments → List String → Except UsageError Arguments
  | none, a, [] => .ok a
  | some w, _, [] => .error w.missing
  | some w, a, value :: rest =>
    match a.set w.flag value with
    | .error e => .error e
    | .ok a => readArguments flags none a rest
  | none, a, argument :: rest =>
    if argument = "--" then .ok { a with operands := a.operands ++ rest }
    else
      let read := match argument.toList with
        | '-' :: '-' :: body => readLong flags a argument body
        | '-' :: letter :: letters => readLetters flags a (letter :: letters)
        | _ => .ok ({ a with operands := a.operands ++ [argument] }, none)
      match read with
      | .error e => .error e
      | .ok (a, waiting) => readArguments flags waiting a rest

/-! ## Arguments before the flags of a command are known -/

/-- Whether an argument looks like a flag whose value is the next argument. -/
def takesNext (flags : List Flag) (argument : String) : Bool :=
  let isSwitch (f : Option Flag) : Bool := (f.map (·.kind.isSwitch)).getD false
  match argument.toList with
  | '-' :: '-' :: name =>
    !name.contains '=' && !isSwitch (flags.find? (·.name = String.ofList name))
  | ['-', letter] =>
    letter ≠ '=' && letter.toNat < 0x80 && !isSwitch (flags.find? (·.letter = some letter))
  | _ => false

/-- The arguments that are no flags and no values of flags. -/
def bareWords (flags : List Flag) : List String → List String
  | [] => []
  | argument :: rest =>
    if argument = "--" then []
    else if takesNext flags argument then
      match rest with
      | _ :: next :: more => bareWords flags (next :: more)
      | _ => []
    else if argument ≠ "" ∧ !argument.startsWith "-" then argument :: bareWords flags rest
    else bareWords flags rest

/-- The arguments without the first bare word that is `word`. -/
def withoutWord (flags : List Flag) (word : String) : List String → List String
  | [] => []
  | argument :: rest =>
    if argument = "--" then argument :: rest
    else if takesNext flags argument then
      match rest with
      | value :: more => argument :: value :: withoutWord flags word more
      | [] => [argument]
    else if argument = word ∧ !argument.startsWith "-" then rest
    else argument :: withoutWord flags word rest

end Interlock.CommandLine
