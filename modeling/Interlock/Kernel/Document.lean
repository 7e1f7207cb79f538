import Interlock.Instruction
import Interlock.Target
import Interlock.Yaml.Layout
import Interlock.Yaml.Reading

/-! # Kernel documents

A kernel is kept as a document that spells out opcode classes and registers by name. Reading a
kernel is reading the document and then resolving the names; writing it goes the other way. How
documents become texts is up to a format, which is YAML unless another is given.
-/

namespace Interlock

/-- An instruction whose names are not resolved. -/
structure InstructionDocument where
  op : String := ""
  name : RawText := ""
  dst : List String := []
  src : List String := []
  passes : Int64 := 0
  count : Int64 := 0
  comment : RawText := ""
  padding : Bool := false
deriving DecidableEq, Repr

/-- A kernel whose names are not resolved. -/
structure KernelDocument where
  name : RawText := ""
  target : RawText := ""
  instructions : List InstructionDocument := []
deriving DecidableEq, Repr

/-- Why an instruction of a document is none. -/
inductive InstructionError where
  | op (error : Opcode.UnknownName)
  | dst (error : OperandError)
  | src (error : OperandError)
  | defect (defect : InstructionDefect)
deriving DecidableEq, Repr

/-- The wording of an instruction error. -/
def InstructionError.message : InstructionError → String
  | .op error => error.message
  | .dst error => "dst: " ++ error.message
  | .src error => "src: " ++ error.message
  | .defect d => d.message

/-- Why a text is no kernel. -/
inductive KernelError where
  | document (error : Yaml.ReadError)
  | target (error : TargetError)
  | instruction (position : Nat) (error : InstructionError)
deriving DecidableEq, Repr

/-- The wording of a kernel error. -/
def KernelError.message : KernelError → String
  | .document .empty => "empty kernel file"
  | .document error => "failed to parse kernel YAML: " ++ error.message
  | .target error => error.message
  | .instruction position error => "instruction " ++ toString position ++ ": " ++ error.message

namespace InstructionDocument

open Yaml.Reader in
/-- The fields of an instruction. -/
def fields : List (RecordField InstructionDocument) :=
  [.of "op" shownText fun d op => { d with op },
    .of "name" text fun d name => { d with name },
    .of "dst" (list "[]string" shownText) fun d dst => { d with dst },
    .of "src" (list "[]string" shownText) fun d src => { d with src },
    .of "passes" word fun d passes => { d with passes },
    .of "count" word fun d count => { d with count },
    .of "comment" text fun d comment => { d with comment },
    .of "padding" bool fun d padding => { d with padding }]

/-- An instruction as a record. Apart from the class, fields with nothing in them are left out. -/
def value (d : InstructionDocument) : Yaml.Value :=
  .record <|
    [("op", .text d.op)] ++
    (if d.name = "" then [] else [("name", .text d.name)]) ++
    (if d.dst = [] then [] else [("dst", .names d.dst)]) ++
    (if d.src = [] then [] else [("src", .names d.src)]) ++
    (if d.passes = 0 then [] else [("passes", .word (Number.text d.passes))]) ++
    (if d.count = 0 then [] else [("count", .word (Number.text d.count))]) ++
    (if d.comment = "" then [] else [("comment", .text d.comment)]) ++
    (if d.padding then [("padding", .word "true")] else [])

/-- Resolves the names of an instruction and checks it. -/
def resolve (d : InstructionDocument) : Except InstructionError Instruction :=
  match Opcode.parse d.op with
  | .error e => .error (.op e)
  | .ok op =>
    match Register.parseAll d.dst with
    | .error e => .error (.dst e)
    | .ok dst =>
      match Register.parseAll d.src with
      | .error e => .error (.src e)
      | .ok src =>
        let inst : Instruction :=
          { Instruction.new op d.name dst src with
            passes := d.passes
            count := d.count
            comment := d.comment
            padding := d.padding }
        match inst.defect? with
        | some defect => .error (.defect defect)
        | none => .ok inst

/-- Spells out the names of an instruction. -/
def ofInstruction (inst : Instruction) : InstructionDocument where
  op := inst.op.text
  name := inst.name
  dst := inst.dst.map Register.text
  src := inst.src.map Register.text
  passes := inst.passes
  count := inst.count
  comment := inst.comment
  padding := inst.padding

/-- Resolves instructions, the first of which has the given position. -/
def resolveFrom (position : Nat) : List InstructionDocument → Except KernelError (List Instruction)
  | [] => .ok []
  | d :: rest =>
    match d.resolve with
    | .error e => .error (.instruction position e)
    | .ok inst =>
      match resolveFrom (position + 1) rest with
      | .error e => .error e
      | .ok insts => .ok (inst :: insts)

end InstructionDocument

namespace KernelDocument

open Yaml.Reader in
/-- The fields of a kernel. -/
def fields (fuel : Nat) : List (RecordField KernelDocument) :=
  let instruction := record "loader.instructionDoc" InstructionDocument.fields fuel {}
  [.of "name" text fun d name => { d with name },
    .of "target" text fun d target => { d with target },
    .of "instructions" (list "[]loader.instructionDoc" instruction)
      fun d instructions => { d with instructions }]

/-- Reads a kernel document. -/
def read (text : String) : Except Yaml.ReadError KernelDocument :=
  Yaml.readDocument text {} fun fuel =>
    Yaml.Reader.record "loader.kernelDoc" (fields fuel) fuel {}

/-- A kernel as a record. -/
def value (d : KernelDocument) : Yaml.Value :=
  .record <|
    [("name", .text d.name)] ++
    (if d.target = "" then [] else [("target", .text d.target)]) ++
    [("instructions", .list (d.instructions.map InstructionDocument.value))]

/-- Writes a kernel document, indented in steps of two. -/
def write (d : KernelDocument) : String :=
  d.value.render 2

/-- Kernel documents in YAML. -/
def yaml : Yaml.Format KernelDocument where
  read
  write

end KernelDocument

namespace Kernel

/-- Resolves the names of a kernel. A target that is named must be known. -/
def ofDocument (d : KernelDocument) : Except KernelError Kernel :=
  let instructions : Except KernelError Kernel :=
    match InstructionDocument.resolveFrom 0 d.instructions with
    | .error e => .error e
    | .ok instructions => .ok { name := d.name, target := d.target, instructions }
  if d.target = "" then instructions
  else match Target.parse d.target with
    | .error e => .error (.target e)
    | .ok _ => instructions

/-- Spells out the names of a kernel. -/
def toDocument (k : Kernel) : KernelDocument where
  name := k.name
  target := k.target
  instructions := k.instructions.map InstructionDocument.ofInstruction

/-- Reads a kernel. -/
def parse (text : String) (format : Yaml.Format KernelDocument := KernelDocument.yaml) :
    Except KernelError Kernel :=
  match format.read text with
  | .error e => .error (.document e)
  | .ok d => ofDocument d

/-- Writes a kernel. -/
def write (k : Kernel) (format : Yaml.Format KernelDocument := KernelDocument.yaml) : String :=
  format.write k.toDocument

end Kernel

end Interlock
