import AsmListing.Environment
import AsmListing.Indexing
import AsmListing.Text.Basic

/-!
# Registers

Which spellings name the same register, and which registers a line names.
-/

namespace AsmListing

/-!
## Physical registers

In Intel syntax one general-purpose register has a spelling for each of its
widths: `al`, `ax`, `eax` and `rax` are the same register.  `PhysicalRegister`
names what a spelling stands for; all other register classes have one spelling
a register.  The other dialects take every spelling for a register of its own.
-/

/-- A register of an x86-64 processor. -/
inductive PhysicalRegister
  | accumulator
  | base
  | counter
  | data
  | sourceIndex
  | destinationIndex
  | stackPointer
  | framePointer
  | instructionPointer
  /-- One of the general-purpose registers known by a number, `r8` to `r15`. -/
  | general (number : Nat)
  | control (number : Nat)
  | debug (number : Nat)
  | mmx (number : Nat)
  | xmm (number : Nat)
  | ymm (number : Nat)
  /-- The top of the floating-point stack. -/
  | stackTop
  | stack (number : Nat)
  | codeSegment
  | stackSegment
  | dataSegment
  | extraSegment
  | fSegment
  | gSegment
  deriving DecidableEq, Repr

namespace PhysicalRegister

/-- The registers whose spellings hold no number. -/
def named : List (String × PhysicalRegister) :=
  [("rax", accumulator), ("eax", accumulator), ("ax", accumulator), ("ah", accumulator),
    ("al", accumulator), ("rbx", base), ("ebx", base), ("bx", base), ("bh", base), ("bl", base),
    ("rcx", counter), ("ecx", counter), ("cx", counter), ("ch", counter), ("cl", counter),
    ("rdx", data), ("edx", data), ("dx", data), ("dh", data), ("dl", data),
    ("rsi", sourceIndex), ("esi", sourceIndex), ("si", sourceIndex), ("sil", sourceIndex),
    ("rdi", destinationIndex), ("edi", destinationIndex), ("di", destinationIndex),
    ("dil", destinationIndex), ("rsp", stackPointer), ("esp", stackPointer),
    ("sp", stackPointer), ("spl", stackPointer), ("rbp", framePointer), ("ebp", framePointer),
    ("bp", framePointer), ("bpl", framePointer), ("rip", instructionPointer),
    ("eip", instructionPointer), ("ip", instructionPointer), ("cs", codeSegment),
    ("ss", stackSegment), ("ds", dataSegment), ("es", extraSegment), ("fs", fSegment),
    ("gs", gSegment), ("st", stackTop)]

/-- The numbered register classes: what comes before the number, and the
numbers that exist. -/
def numbered : List (Text × List Nat × (Nat → PhysicalRegister)) :=
  [(['c', 'r'], [0, 2, 3, 4, 8], control),
    (['d', 'r'], [0, 1, 2, 3, 6, 7], debug),
    (['m', 'm'], List.range 8, mmx),
    (['x', 'm', 'm'], List.range 16, xmm),
    (['y', 'm', 'm'], List.range 16, ymm),
    (['s', 't'], List.range 8, stack)]

/-- The number of a register, which fits into a byte. -/
def number? (text : Text) : Option Nat :=
  (Text.readNumeral 256 text).toOption

/-- What follows `lead` in a text that starts with it. -/
def afterLead? : Text → Text → Option Text
  | [], text => some text
  | _, [] => none
  | expected :: lead, character :: text =>
    if expected = character then afterLead? lead text else none

/-- The letters that mark a width below the full one. -/
def isWidthMark (character : Char) : Bool :=
  character == 'd' || character == 'w' || character == 'b'

/-- A general-purpose register with a number: the letter `r`, the number and at
most one of the width marks `d`, `w` and `b`. -/
def ofGeneral? : Text → Option PhysicalRegister
  | 'r' :: rest =>
    let digits := Text.trimEnd isWidthMark rest
    if rest.length - digits.length ≤ 1 then
      match number? digits with
      | some number => if 8 ≤ number ∧ number ≤ 15 then some (general number) else none
      | none => none
    else
      none
  | _ => none

/-- A register of one of the numbered classes. -/
def ofNumbered? (spelling : Text) : Option PhysicalRegister :=
  numbered.findSome? fun (lead, numbers, register) =>
    (afterLead? lead spelling).bind fun rest =>
      (number? rest).bind fun number =>
        if numbers.contains number then some (register number) else none

/-- The register that a spelling stands for, if it stands for one. -/
def ofSpelling? (spelling : Text) : Option PhysicalRegister :=
  (named.lookup (String.ofList spelling)).or <|
    (ofGeneral? spelling).or (ofNumbered? spelling)

end PhysicalRegister

/-- Whether two spellings name one register.  In Intel syntax a spelling that
stands for no register names none, not even the same as itself. -/
def Dialect.registerEqual : Dialect → Text → Text → Bool
  | .intel, left, right =>
    match PhysicalRegister.ofSpelling? left, PhysicalRegister.ofSpelling? right with
    | some leftRegister, some rightRegister => leftRegister == rightRegister
    | _, _ => false
  | _, left, right => left == right

/-! ## The registers of each line -/

/-- The register names of each line, in order; a line without registers is not
listed. -/
abbrev RegisterIndex := Numbered (List Text)

namespace RegisterIndex

/-- Lists the registers of a line. -/
def push (index : RegisterIndex) (line : Nat) (registers : List Text) : RegisterIndex :=
  if registers.isEmpty then index else index.insert line registers

/-- How many registers of a line are the given one. -/
def countMatches (index : RegisterIndex) (dialect : Dialect) (line : Nat) (register : Text) : Nat :=
  ((index.get? line).getD []).countP (dialect.registerEqual register)

end RegisterIndex

/-- Whether two names are the same name or name the same register. -/
def Dialect.sameRegister (dialect : Dialect) (left right : Text) : Bool :=
  left == right || dialect.registerEqual left right

/-- Keeps the first name of every register. -/
def dedupRegisters (dialect : Dialect) (registers : List Text) : List Text :=
  registers.foldl
    (fun kept register =>
      if kept.any (dialect.sameRegister · register) then kept else kept ++ [register])
    []

end AsmListing
