import Interlock.Number.Integer
import Interlock.Text.Folding

/-! # Registers

A register operand is a contiguous range in one register file. Besides the general files there are
three special registers, each of which is the only one of its file. The module holds the two ways
in which ranges are compared, their assembler spelling and the reader of that spelling.
-/

namespace Interlock

/-- Register files, by what they hold. `other` stands for a file number without a meaning. -/
inductive RegisterFile where
  | none
  | vector
  | accumulation
  | scalar
  | vcc
  | exec
  | m0
  | other (code : UInt8)
deriving DecidableEq, Repr

namespace RegisterFile

/-- The number of a register file. -/
def code : RegisterFile → UInt8
  | .none => 0
  | .vector => 1
  | .accumulation => 2
  | .scalar => 3
  | .vcc => 4
  | .exec => 5
  | .m0 => 6
  | .other n => n

/-- The register file of a number. -/
def ofCode (n : UInt8) : RegisterFile :=
  if n = 0 then .none
  else if n = 1 then .vector
  else if n = 2 then .accumulation
  else if n = 3 then .scalar
  else if n = 4 then .vcc
  else if n = 5 then .exec
  else if n = 6 then .m0
  else .other n

/-- Special files hold a single register, which is named without an index. -/
def isSpecial : RegisterFile → Bool
  | .vcc | .exec | .m0 => true
  | _ => false

/-- The letter in front of an index; files without general registers have none. -/
def letter : RegisterFile → String
  | .vector => "v"
  | .accumulation => "a"
  | .scalar => "s"
  | _ => ""

/-- The general register file that a letter names. -/
def ofLetter? : Char → Option RegisterFile
  | 'v' => some .vector
  | 'a' => some .accumulation
  | 's' => some .scalar
  | _ => Option.none

end RegisterFile

/-- A contiguous range of 32-bit registers in one register file. -/
structure Register where
  file : RegisterFile
  /-- First register of the range. -/
  index : Int64
  /-- Number of registers in the range. -/
  count : Int64
deriving DecidableEq, Repr

/-- What is wrong with a register range. -/
inductive RegisterDefect where
  | noFile
  | negativeIndex (register : Register)
  | nonPositiveCount (register : Register)
deriving DecidableEq, Repr

/-- Why a text is no register operand. -/
inductive OperandError where
  | empty
  | unknownFile (text : String)
  | malformed (text : String)
  | malformedRange (text : String)
  | malformedBound (text bound : String) (cause : Number.IntegerError)
  | emptyRange (text : String)
deriving DecidableEq, Repr

namespace Register

/-- The vector condition code, two registers wide. -/
def vcc : Register := ⟨.vcc, 0, 2⟩

/-- The execution mask, two registers wide. -/
def exec : Register := ⟨.exec, 0, 2⟩

/-- The memory descriptor register. -/
def m0 : Register := ⟨.m0, 0, 1⟩

/-- A range of vector registers. -/
def vector (index count : Int64) : Register := ⟨.vector, index, count⟩

/-- A range of accumulation registers. -/
def accumulation (index count : Int64) : Register := ⟨.accumulation, index, count⟩

/-- A range of scalar registers. -/
def scalar (index count : Int64) : Register := ⟨.scalar, index, count⟩

/-- Index of the last register of a range, in wrapping arithmetic. -/
def last (r : Register) : Int64 := r.index + r.count - 1

/-- Whether two ranges share a register. -/
def overlaps (r o : Register) : Bool :=
  if r.file ≠ o.file ∨ r.file = .none then false
  else if r.file.isSpecial then true
  else r.index ≤ o.last && o.index ≤ r.last

/-- Whether two ranges cover the same registers. -/
def same (r o : Register) : Bool :=
  if r.file ≠ o.file ∨ r.file = .none then false
  else if r.file.isSpecial then true
  else r.index == o.index && r.count == o.count

/-- The assembler spelling of a range. -/
def text (r : Register) : String :=
  match r.file with
  | .vcc => "vcc"
  | .exec => "exec"
  | .m0 => "m0"
  | .none => "<none>"
  | file =>
    if r.count = 1 then file.letter ++ Number.text r.index
    else file.letter ++ "[" ++ Number.text r.index ++ ":" ++ Number.text r.last ++ "]"

/-- The first defect of a range, if it has one. -/
def defect? (r : Register) : Option RegisterDefect :=
  if r.file = .none then some .noFile
  else if r.index < 0 then some (.negativeIndex r)
  else if r.count ≤ 0 then some (.nonPositiveCount r)
  else none

/-- Reads what follows the letter of a general register file: an index, or a range in brackets.
`text` is the whole operand, for messages. -/
def parseBody (text : String) (file : RegisterFile) :
    List Char → Except OperandError Register
  | '[' :: inside =>
    if inside.getLast? ≠ some ']' then .error (.malformedRange text)
    else match inside.dropLast.span (· ≠ ':') with
      | (_, []) => .error (.malformedRange text)
      | (low, _ :: high) =>
        match Number.readDecimal low with
        | .error e => .error (.malformedBound text (String.ofList low) e)
        | .ok first =>
          match Number.readDecimal high with
          | .error e => .error (.malformedBound text (String.ofList high) e)
          | .ok last =>
            if first < 0 ∨ last < first then .error (.emptyRange text)
            else .ok ⟨file, first, last - first + 1⟩
  | body =>
    match Number.readDecimal body with
    | .error _ => .error (.malformed text)
    | .ok index => if index < 0 then .error (.malformed text) else .ok ⟨file, index, 1⟩

/-- Reads an operand whose case and surrounding blanks are already dealt with. -/
def parseFolded : List Char → Except OperandError Register
  | ['v', 'c', 'c'] => .ok vcc
  | ['e', 'x', 'e', 'c'] => .ok exec
  | ['m', '0'] => .ok m0
  | [] => .error .empty
  | letter :: body =>
    let text := String.ofList (letter :: body)
    match RegisterFile.ofLetter? letter with
    | none => .error (.unknownFile text)
    | some file => parseBody text file body

/-- Reads a register operand such as `v4`, `a[0:15]` or `vcc`, in any case and between blanks. -/
def parse (operand : String) : Except OperandError Register :=
  parseFolded (Text.lower (Text.trim operand.toList))

/-- Reads operands one after the other; the first that is none decides the error. -/
def parseAll : List String → Except OperandError (List Register)
  | [] => .ok []
  | operand :: rest =>
    match parse operand with
    | .error e => .error e
    | .ok r =>
      match parseAll rest with
      | .error e => .error e
      | .ok regs => .ok (r :: regs)

end Register

/-- The wording of a register defect. -/
def RegisterDefect.message : RegisterDefect → String
  | .noFile => "register has no kind"
  | .negativeIndex r => "register " ++ r.text ++ " has negative index"
  | .nonPositiveCount r =>
    "register " ++ r.file.letter ++ Number.text r.index ++ " has non-positive count " ++
      Number.text r.count

/-- The wording of an operand error. -/
def OperandError.message : OperandError → String
  | .empty => "empty register operand"
  | .unknownFile text => "unknown register file in " ++ Text.quote text
  | .malformed text => "malformed register " ++ Text.quote text
  | .malformedRange text => "malformed register range " ++ Text.quote text
  | .malformedBound text bound cause =>
    "malformed register range " ++ Text.quote text ++ ": " ++ cause.message "Atoi" bound
  | .emptyRange text => "empty register range " ++ Text.quote text

end Interlock
