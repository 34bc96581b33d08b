import AsmListing.Dialect.Vocabulary

/-!
# Descriptions of mnemonics

One sentence on each of the better known mnemonics of a dialect, and how a
mnemonic is looked up among them.
-/

namespace AsmListing

/-! ## Descriptions of x86-64 mnemonics -/

namespace Description.Intel

/-- Each described mnemonic with one sentence on it. -/
def entries : List (String × String) :=
  [("add", "Add."),
    ("adc", "Add with carry."),
    ("and", "Logical AND."),
    ("call", "Call procedure."),
    ("cdq", "Convert doubleword to quadword."),
    ("cdqe", "Sign-extend EAX into RAX."),
    ("cmov", "Conditional move."),
    ("cmp", "Compare two operands."),
    ("cqo", "Sign-extend RAX into RDX:RAX."),
    ("dec", "Decrement by 1."),
    ("div", "Unsigned divide."),
    ("idiv", "Signed divide."),
    ("imul", "Signed multiply."),
    ("inc", "Increment by 1."),
    ("ja", "Jump if above."),
    ("jae", "Jump if above or equal."),
    ("jb", "Jump if below."),
    ("jbe", "Jump if below or equal."),
    ("je", "Jump if equal."),
    ("jg", "Jump if greater."),
    ("jge", "Jump if greater or equal."),
    ("jl", "Jump if less."),
    ("jle", "Jump if less or equal."),
    ("jmp", "Unconditional jump."),
    ("jne", "Jump if not equal."),
    ("lea", "Load effective address."),
    ("leave", "High level procedure exit."),
    ("mov", "Move."),
    ("movabs", "Move a 64-bit immediate."),
    ("movsx", "Move with sign-extension."),
    ("movsxd", "Move doubleword with sign-extension."),
    ("movzx", "Move with zero-extension."),
    ("mul", "Unsigned multiply."),
    ("neg", "Two's complement negation."),
    ("nop", "No operation."),
    ("not", "One's complement negation."),
    ("or", "Logical inclusive OR."),
    ("pop", "Pop a value from the stack."),
    ("push", "Push a value onto the stack."),
    ("ret", "Return from procedure."),
    ("sar", "Shift arithmetic right."),
    ("shl", "Shift logical left."),
    ("shr", "Shift logical right."),
    ("sub", "Subtract."),
    ("test", "Logical compare."),
    ("ud2", "Undefined instruction."),
    ("xor", "Logical exclusive OR."),
    ("addps", "Add packed single-precision floating-point values."),
    ("addss", "Add scalar single-precision floating-point values."),
    ("addpd", "Add packed double-precision floating-point values."),
    ("addsd", "Add scalar double-precision floating-point values."),
    ("mulps", "Multiply packed single-precision floating-point values."),
    ("mulss", "Multiply scalar single-precision floating-point values."),
    ("movaps", "Move aligned packed single-precision floating-point values."),
    ("movups", "Move unaligned packed single-precision floating-point values."),
    ("movss", "Move or merge scalar single-precision floating-point value."),
    ("movsd", "Move or merge scalar double-precision floating-point value."),
    ("pxor", "Logical exclusive OR of packed integers."),
    ("xorps", "Bitwise logical XOR of packed single-precision floating-point values."),
    ("shufps", "Packed interleave shuffle of single-precision floating-point values."),
    ("vzeroupper", "Zero upper bits of YMM registers.")]

end Description.Intel

/-! ## Descriptions of Arm64 mnemonics -/

namespace Description.Arm64

/-- Each described mnemonic with one sentence on it. -/
def entries : List (String × String) :=
  [("adc", "Add with Carry."),
    ("add", "Add."),
    ("adds", "Add, setting flags."),
    ("adr", "Form PC-relative address."),
    ("adrp", "Form PC-relative address to 4KB page."),
    ("and", "Bitwise AND."),
    ("asr", "Arithmetic Shift Right."),
    ("b", "Branch."),
    ("bfi", "Bitfield Insert."),
    ("bfm", "Bitfield Move."),
    ("bfxil", "Bitfield extract and insert at low end."),
    ("bic", "Bitwise Bit Clear."),
    ("bl", "Branch with Link."),
    ("blr", "Branch with Link to Register."),
    ("br", "Branch to Register."),
    ("brk", "Breakpoint instruction."),
    ("cbnz", "Compare and Branch on Nonzero."),
    ("cbz", "Compare and Branch on Zero."),
    ("ccmn", "Conditional Compare Negative."),
    ("ccmp", "Conditional Compare."),
    ("cls", "Count leading sign bits."),
    ("clz", "Count leading zero bits."),
    ("cmn", "Compare Negative."),
    ("cmp", "Compare."),
    ("csel", "Conditional Select."),
    ("csinc", "Conditional Select Increment."),
    ("csinv", "Conditional Select Invert."),
    ("csneg", "Conditional Select Negation."),
    ("dmb", "Data Memory Barrier."),
    ("dsb", "Data Synchronization Barrier."),
    ("eon", "Bitwise Exclusive OR NOT."),
    ("eor", "Bitwise Exclusive OR."),
    ("extr", "Extract register."),
    ("hint", "Hint instruction."),
    ("isb", "Instruction Synchronization Barrier."),
    ("lsl", "Logical Shift Left."),
    ("lsr", "Logical Shift Right."),
    ("madd", "Multiply-Add."),
    ("mov", "Move."),
    ("movk", "Move wide with keep."),
    ("movn", "Move wide with NOT."),
    ("movz", "Move wide with zero."),
    ("msub", "Multiply-Subtract."),
    ("mul", "Multiply."),
    ("mvn", "Bitwise NOT."),
    ("neg", "Negate."),
    ("nop", "No Operation."),
    ("orn", "Bitwise OR NOT."),
    ("orr", "Bitwise OR."),
    ("rbit", "Reverse Bits."),
    ("ret", "Return from subroutine."),
    ("rev16", "Reverse bytes in 16-bit halfwords."),
    ("rev32", "Reverse bytes in 32-bit words."),
    ("rev64", "Reverse Bytes."),
    ("rev", "Reverse Bytes."),
    ("ror", "Rotate right."),
    ("sbc", "Subtract with Carry."),
    ("sbfm", "Signed Bitfield Move."),
    ("sbfx", "Signed Bitfield Extract."),
    ("sdiv", "Signed Divide."),
    ("smaddl", "Signed Multiply-Add Long."),
    ("smsubl", "Signed Multiply-Subtract Long."),
    ("smulh", "Signed Multiply High."),
    ("sub", "Subtract."),
    ("subs", "Subtract (extended register), setting flags."),
    ("sxtb", "Signed Extend Byte."),
    ("sxth", "Sign Extend Halfword."),
    ("sxtw", "Sign Extend Word."),
    ("tbnz", "Test bit and Branch if Nonzero."),
    ("tbz", "Test bit and Branch if Zero."),
    ("tst", ", setting the condition flags and discarding the result."),
    ("ubfm", "Unsigned Bitfield Move."),
    ("ubfx", "Unsigned Bitfield Extract."),
    ("udiv", "Unsigned Divide."),
    ("umaddl", "Unsigned Multiply-Add Long."),
    ("umsubl", "Unsigned Multiply-Subtract Long."),
    ("umulh", "Unsigned Multiply High."),
    ("uxtb", "Unsigned Extend Byte."),
    ("uxth", "Unsigned Extend Halfword."),
    ("ldnp", "Load Pair of Registers, with non-temporal hint."),
    ("ldp", "Load Pair of Registers."),
    ("ldpsw", "Load Pair of Registers Signed Word."),
    ("ldr", "Load Register."),
    ("ldrb", "Load Register Byte."),
    ("ldrh", "Load Register Halfword."),
    ("ldrsb", "Load Register Signed Byte."),
    ("ldrsh", "Load Register Signed Halfword."),
    ("ldrsw", "Load Register Signed Word."),
    ("ldtr", "Load Register."),
    ("ldtrb", "Load Register Byte."),
    ("ldtrh", "Load Register Halfword."),
    ("ldtrsb", "Load Register Signed Byte."),
    ("ldtrsh", "Load Register Signed Halfword."),
    ("ldtrsw", "Load Register Signed Word."),
    ("ldur", "Load Register."),
    ("ldurb", "Load Register Byte."),
    ("ldurh", "Load Register Halfword."),
    ("ldursb", "Load Register Signed Byte."),
    ("ldursh", "Load Register Signed Halfword."),
    ("ldursw", "Load Register Signed Word."),
    ("stnp", "Store Pair of Registers, with non-temporal hint."),
    ("stp", "Store Pair of Registers."),
    ("str", "Store Register."),
    ("strb", "Store Register Byte."),
    ("strh", "Store Register Halfword."),
    ("sttr", "Store Register."),
    ("sttrb", "Store Register Byte."),
    ("sttrh", "Store Register Halfword."),
    ("stur", "Store Register."),
    ("sturb", "Store Register Byte."),
    ("sturh", "Store Register Halfword."),
    ("fabs", "Floating-point Absolute value."),
    ("fadd", "Floating-point Add."),
    ("fccmp", "Floating-point Conditional quiet Compare."),
    ("fccmpe", "Floating-point Conditional signaling Compare."),
    ("fcmp", "Floating-point quiet Compare."),
    ("fcmpe", "Floating-point signaling Compare."),
    ("fcsel", "Floating-point Conditional Select."),
    ("fcvt", "Floating-point Convert precision."),
    ("fcvtas", "Floating-point Convert to Signed integer, rounding to nearest with ties to Away."),
    ("fcvtau",
      "Floating-point Convert to Unsigned integer, rounding to nearest with ties to Away."),
    ("fcvtms", "Floating-point Convert to Signed integer, rounding toward Minus infinity."),
    ("fcvtmu", "Floating-point Convert to Unsigned integer, rounding toward Minus infinity."),
    ("fcvtns", "Floating-point Convert to Signed integer, rounding to nearest with ties to even."),
    ("fcvtnu",
      "Floating-point Convert to Unsigned integer, rounding to nearest with ties to even."),
    ("fcvtps", "Floating-point Convert to Signed integer, rounding toward Plus infinity."),
    ("fcvtpu", "Floating-point Convert to Unsigned integer, rounding toward Plus infinity."),
    ("fcvtzs", "Floating-point Convert to Signed fixed-point, rounding toward Zero."),
    ("fcvtzu", "Floating-point Convert to Unsigned fixed-point, rounding toward Zero."),
    ("fdiv", "Floating-point Divide."),
    ("fmadd", "Floating-point fused Multiply-Add."),
    ("fmax", "Floating-point Maximum."),
    ("fmaxnm", "Floating-point Maximum Number."),
    ("fmin", "Floating-point Minimum."),
    ("fminnm", "Floating-point Minimum Number."),
    ("fmov", "Floating-point Move register without conversion."),
    ("fmsub", "Floating-point Fused Multiply-Subtract."),
    ("fmul", "Floating-point Multiply."),
    ("fneg", "Floating-point Negate."),
    ("fnmadd", "Floating-point Negated fused Multiply-Add."),
    ("fnmsub", "Floating-point Negated fused Multiply-Subtract."),
    ("fnmul", "Floating-point Multiply-Negate."),
    ("frinta", "Floating-point Round to Integral, to nearest with ties to Away."),
    ("frinti", "Floating-point Round to Integral, using current rounding mode."),
    ("frintm", "Floating-point Round to Integral, toward Minus infinity."),
    ("frintn", "Floating-point Round to Integral, to nearest with ties to even."),
    ("frintp", "Floating-point Round to Integral, toward Plus infinity."),
    ("frintx", "Floating-point Round to Integral exact, using current rounding mode."),
    ("frintz", "Floating-point Round to Integral, toward Zero."),
    ("fsqrt", "Floating-point Square Root."),
    ("fsub", "Floating-point Subtract."),
    ("scvtf", "Signed fixed-point Convert to Floating-point."),
    ("ucvtf", "Unsigned fixed-point Convert to Floating-point."),
    ("dup", "Duplicate vector element to scalar."),
    ("fabd", "Floating-point Absolute Difference."),
    ("facge", "Floating-point Absolute Compare Greater than or Equal."),
    ("facgt", "Floating-point Absolute Compare Greater than."),
    ("faddp", "Floating-point Add Pair of elements."),
    ("fcmeq", "Floating-point Compare Equal."),
    ("fcmge", "Floating-point Compare Greater than or Equal."),
    ("fcmgt", "Floating-point Compare Greater than."),
    ("fcmle", "Floating-point Compare Less than or Equal to zero."),
    ("fcmlt", "Floating-point Compare Less than zero."),
    ("fcvtxn", "Floating-point Convert to lower precision Narrow, rounding to odd."),
    ("fmaxnmp", "Floating-point Maximum Number of Pair of elements."),
    ("fmaxp", "Floating-point Maximum of Pair of elements."),
    ("fminnmp", "Floating-point Minimum Number of Pair of elements."),
    ("fminp", "Floating-point Minimum of Pair of elements."),
    ("fmla", "Floating-point fused Multiply-Add to accumulator."),
    ("fmls", "Floating-point fused Multiply-Subtract from accumulator."),
    ("fmulx", "Floating-point Multiply extended."),
    ("frecpe", "Floating-point Reciprocal Estimate."),
    ("frecps", "Floating-point Reciprocal Step."),
    ("frsqrte", "Floating-point Reciprocal Square Root Estimate."),
    ("frsqrts", "Floating-point Reciprocal Square Root Step."),
    ("fcvtl", "Floating-point Convert to higher precision Long."),
    ("fcvtl2", "Floating-point Convert to higher precision Long."),
    ("fcvtn", "Floating-point Convert to lower precision Narrow."),
    ("fcvtn2", "Floating-point Convert to lower precision Narrow."),
    ("fcvtxn2", "Floating-point Convert to lower precision Narrow, rounding to odd."),
    ("fmaxnmv", "Floating-point Maximum Number across Vector."),
    ("fmaxv", "Floating-point Maximum across Vector."),
    ("fminnmv", "Floating-point Minimum Number across Vector."),
    ("fminv", "Floating-point Minimum across Vector."),
    ("frecpx", "Floating-point Reciprocal exponent."),
    ("ld1", "Load multiple single-element structures to one, two, three, or four registers."),
    ("movi", "Move Immediate."),
    ("st1", "Store multiple single-element structures from one, two, three, or four registers."),
    ("adcs", "Add with Carry, setting flags."),
    ("ands", "Bitwise AND (immediate), setting flags."),
    ("asrv", "Arithmetic Shift Right Variable."),
    ("bics", "Bitwise Bit Clear (shifted register), setting flags."),
    ("cinc", "Conditional Increment."),
    ("cneg", "Conditional Negate."),
    ("cset", "Conditional Set."),
    ("csetm", "Conditional Set Mask."),
    ("lslv", "Logical Shift Left Variable."),
    ("lsrv", "Logical Shift Right Variable."),
    ("negs", "Negate, setting flags."),
    ("rorv", "Rotate Right Variable."),
    ("sbcs", "Subtract with Carry, setting flags."),
    ("fjcvtzs", "Floating-point Javascript Convert to Signed fixed-point, rounding toward Zero."),
    ("fcmla", "Floating-point Complex Multiply Accumulate (by element)."),
    ("fmlal", "Floating-point fused Multiply-Add Long to accumulator (by element)."),
    ("fmlsl", "Floating-point fused Multiply-Subtract Long from accumulator (by element)."),
    ("fcadd", "Floating-point Complex Add.")]

end Description.Arm64

/-! ## Descriptions of WebAssembly mnemonics -/

namespace Description.Wasm

/-- Each described mnemonic with one sentence on it. -/
def entries : List (String × String) :=
  [("if", "Executes a statement if the last item on the stack is true."),
    ("end", "Can be used to end a block, loop, if or else."),
    ("end_function", "Ends function."),
    ("block", "Creates a label that can later be branched out of with a br."),
    ("end_block", "Ends the previous opened block."),
    ("loop", "Creates a label that can later be branched to with a br."),
    ("end_loop", "Ends the previous opened loop label."),
    ("unreachable", "Denotes a point in code that should not be reachable."),
    ("nop", "Does nothing."),
    ("call", "Calls a function."),
    ("call_indirect", "Calls a function in a table."),
    ("drop", "Pops a value from the stack, and discards it."),
    ("select", "Selects one of its first two operands based on a boolean condition."),
    ("get", "Load the value of a variable onto the stack."),
    ("set", "Set the value of a variable."),
    ("tee", "Set the value of a variable and keep the value on the stack."),
    ("load", "Load a number from memory."),
    ("load8_s", "Load a signed 8-bit value from memory."),
    ("load8_u", "Load an unsigned 8-bit value from memory."),
    ("load16_s", "Load a signed 16-bit value from memory."),
    ("load16_u", "Load an unsigned 16-bit value from memory."),
    ("load32_s", "Load a signed 32-bit value from memory."),
    ("load32_u", "Load an unsigned 32-bit value from memory."),
    ("store", "Store a number in memory."),
    ("store8", "Store a 8-bit number in memory."),
    ("store16", "Store a 16-bit number in memory."),
    ("store32", "Store a 32-bit number in memory."),
    ("size", "Get the size of the memory instance."),
    ("grow", "Increase the size of the memory instance."),
    ("const", "Declare a constant number."),
    ("clz", "Count leading zeros in a numbers binary representation."),
    ("ctz", "Count trailing zeros in a numbers binary representation."),
    ("popcnt", "Count the number of '1' in a numbers binary representation."),
    ("add", "Add up two numbers."),
    ("sub", "Subtract one number from another number."),
    ("mul", "Multiply one number by another number."),
    ("div_s", "Divide two signed numbers."),
    ("div_u", "Divide two unsigned numbers."),
    ("rem_s", "Calculate the remainder left over when two signed integers are divided."),
    ("rem_u", "Calculate the remainder left over when two unsigned integers are divided."),
    ("and", "Bitwise and operation."),
    ("or", "Bitwise or operation."),
    ("xor", "Bitwise exclusive or operation."),
    ("shl", "Bitwise shift left operation."),
    ("shr_s", "Bitwise signed shift right operation."),
    ("shr_u", "Bitwise unsigned shift right operation."),
    ("rotl", "Bitwise rotate left operation."),
    ("rotr", "Bitwise rotate right operation."),
    ("abs", "Get the absolute value of a number."),
    ("neg", "Negate a number."),
    ("ceil", "Round up a number."),
    ("floor", "Round down a number."),
    ("trunc", "Discard the fractional part of a number."),
    ("sqrt", "Get the square root of a number."),
    ("div", "Divide two numbers."),
    ("min", "Get the lower of two numbers."),
    ("max", "Get the highest of two numbers."),
    ("copysign", "Copy just the sign bit from one number to another."),
    ("wrap_i64", "Convert (wrap) i64 number to i32 number."),
    ("trunc_f32_s", "Convert (extend) signed 32-bit integer to signed 64-bit integer number."),
    ("trunc_f32_u", "Convert (extend) signed 32-bit integer to signed 64-bit integer number."),
    ("trunc_f64_s", "Convert (extend) signed 32-bit integer to signed 64-bit integer number."),
    ("trunc_f64_u", "Convert (extend) signed 32-bit integer to signed 64-bit integer number."),
    ("extend_i32_s", "Convert (extend) signed 32-bit integer to signed 64-bit integer number."),
    ("extend_i32_u", "Convert (extend) unsigned 32-bit integer to unsigned 64-bit integer number."),
    ("convert_i32_s", "Convert signed 32-bit integer to signed 32-bit floating number."),
    ("convert_i32_u", "Convert unsigned 32-bit integer to unsigned 32-bit floating number."),
    ("convert_i64_s", "Convert signed 64-bit integer to signed 64-bit floating number."),
    ("convert_i64_u", "Convert unsigned 64-bit integer to unsigned 64-bit floating number."),
    ("demote_f64", "Convert (demote) 64-bit floating number to 32-bit floating number."),
    ("promote_f32", "Convert (promote) 32-bit floating number to 64-bit floating number."),
    ("reinterpret_f32",
      "Reinterpret the bytes of 32-bit floating number as 32-bit integer number."),
    ("reinterpret_f64",
      "Reinterpret the bytes of 64-bit floating number as 64-bit integer number."),
    ("reinterpret_i32",
      "Reinterpret the bytes of 32-bit integer number as 32-bit floating number."),
    ("reinterpret_i64",
      "Reinterpret the bytes of 64-bit integer number as 64-bit floating number."),
    ("br_if", "Branch to a loop or block if condition is true."),
    ("br", "Branch to a loop or block."),
    ("br_table", "Branch to a loop or block if condition based on argument."),
    ("return", "Returns from a function.")]

end Description.Wasm

/-! ## Descriptions of LLVM IR mnemonics -/

namespace Description.LlvmIr

/-- Each described mnemonic with one sentence on it. -/
def entries : List (String × String) :=
  [("ret", "Return control flow (and optionally a value) from a function."),
    ("br", "Transfer control flow to a different basic block."),
    ("switch", "Transfer control flow to one of several different places."),
    ("invoke", "Call a function with the possibility of unwinding."),
    ("unreachable", "Marks code that is never executed."),
    ("add", "Integer sum of two operands."),
    ("sub", "Integer difference of two operands."),
    ("mul", "Integer product of two operands."),
    ("udiv", "Unsigned integer quotient of two operands."),
    ("sdiv", "Signed integer quotient of two operands."),
    ("shl", "Shift left."),
    ("lshr", "Logical shift right."),
    ("ashr", "Arithmetic shift right."),
    ("and", "Bitwise logical AND."),
    ("or", "Bitwise logical inclusive OR."),
    ("xor", "Bitwise logical exclusive OR."),
    ("alloca", "Allocate memory on the stack frame of the current function."),
    ("load", "Read from memory."),
    ("store", "Write to memory."),
    ("getelementptr", "Compute the address of a subelement of an aggregate."),
    ("trunc", "Truncate an integer to a smaller type."),
    ("zext", "Zero-extend an integer to a larger type."),
    ("sext", "Sign-extend an integer to a larger type."),
    ("bitcast", "Convert a value to another type without changing any bits."),
    ("icmp", "Compare integers or pointers."),
    ("fcmp", "Compare floating-point values."),
    ("phi", "Select a value depending on the predecessor block."),
    ("select", "Choose one value based on a condition."),
    ("call", "Call a function."),
    ("fadd", "Floating-point sum of two operands."),
    ("fsub", "Floating-point difference of two operands."),
    ("fmul", "Floating-point product of two operands."),
    ("fdiv", "Floating-point quotient of two operands."),
    ("extractelement", "Extract a single scalar element from a vector."),
    ("insertelement", "Insert a scalar element into a vector."),
    ("shufflevector", "Construct a permutation of elements from two vectors.")]

end Description.LlvmIr

/-!
## Looking up the description of a mnemonic

Mnemonics are described whatever the case of their ASCII letters.  An Arm64
mnemonic without a description of its own may be that of a described one with
a condition at its end.
-/

/-- The described mnemonics of each dialect. -/
def Dialect.descriptions : Dialect → List (String × String)
  | .intel => Description.Intel.entries
  | .arm64 => Description.Arm64.entries
  | .wasm => Description.Wasm.entries
  | .llvmIr => Description.LlvmIr.entries

namespace Description

/-- The description of exactly this spelling. -/
def ofSpelling? (dialect : Dialect) (spelling : Text) : Option String :=
  dialect.descriptions.lookup (String.ofList spelling)

/-- What precedes the last characters of a text, if they are `ending`. -/
def dropEnding? (ending text : Text) : Option Text :=
  if ending.isSuffixOf text then some (text.take (text.length - ending.length)) else none

/-- What precedes the first point of an Arm64 mnemonic, if a condition
follows it. -/
def beforePoint? (mnemonic : Text) : Option Text :=
  match mnemonic.dropWhile (· != '.') with
  | [] => none
  | _ :: condition =>
    if Dialect.Arm64.conditionCodes.contains (String.ofList condition) then
      some (mnemonic.takeWhile (· != '.'))
    else
      none

/-- The described Arm64 mnemonic that a condition directly continues. -/
def beforeCondition? (mnemonic : Text) : Option Text :=
  Dialect.Arm64.conditionCodes.findSome? fun code =>
    (dropEnding? code.toList mnemonic).filter fun base =>
      !base.isEmpty && (ofSpelling? .arm64 base).isSome

/-- The description of a mnemonic, if it has one. -/
def lookup? (dialect : Dialect) (mnemonic : Text) : Option String :=
  let spelling := mnemonic.toLower
  (ofSpelling? dialect spelling).or <|
    if dialect = .arm64 then
      ((beforePoint? spelling).or (beforeCondition? spelling)).bind (ofSpelling? dialect)
    else
      none

end Description

end AsmListing
