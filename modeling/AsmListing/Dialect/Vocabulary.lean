import AsmListing.Dialect.Arm64
import AsmListing.Dialect.Intel
import AsmListing.Environment
import AsmListing.Token.Basic

/-!
# The words of the dialects

The vocabularies of the two smaller dialects, and what all four dialects say
about words: the kind of a word, the characters it is made of, and how vector
mnemonics are marked.
-/

namespace AsmListing

/-!
## The vocabulary of WebAssembly

A namespaced operator such as `local.get` is two words: the namespace with its
point, which counts as a register, and the operator.
-/

namespace Dialect.Wasm

/-- The registers. -/
def registers : List String :=
  ["memory.", "local.", "global.", "i32.", "i64.", "f32.", "f64."]

/-- Words that qualify an operand. -/
def qualifiers : List String :=
  ["offset", "align", "eqz", "eq", "ne", "lt_s", "lt_u", "gt_s", "gt_u", "le_s", "le_u", "ge_s",
    "ge_u", "lt", "gt", "le", "ge"]

/-- Ordinary mnemonics. -/
def instructions : List String :=
  ["if", "end", "block", "end_block", "end_loop", "end_function", "loop", "unreachable", "nop",
    "call", "call_indirect", "drop", "select", "get", "set", "tee", "load", "load8_s", "load8_u",
    "load16_s", "load16_u", "load32_s", "load32_u", "store", "store8", "store16", "store32", "size",
    "grow", "const", "clz", "ctz", "popcnt", "add", "sub", "mul", "div_s", "div_u", "rem_s",
    "rem_u", "and", "or", "xor", "shl", "shr_s", "shr_u", "rotl", "rotr", "abs", "neg", "ceil",
    "floor", "trunc", "sqrt", "div", "min", "max", "copysign", "wrap_i64", "trunc_f32_s",
    "trunc_f32_u", "trunc_f64_s", "trunc_f64_u", "extend_i32_s", "extend_i32_u", "convert_i32_s",
    "convert_i32_u", "convert_i64_s", "convert_i64_u", "demote_f64", "promote_f32",
    "reinterpret_f32", "reinterpret_f64", "reinterpret_i32", "reinterpret_i64"]

/-- Mnemonics of conditional branches. -/
def branches : List String :=
  ["br_if"]

/-- Mnemonics of unconditional jumps. -/
def jumps : List String :=
  ["br", "br_table"]

/-- Mnemonics of returns. -/
def returns : List String :=
  ["return"]

/-- The keywords of the dialect. -/
def keywords : KeywordTable :=
  KeywordTable.ofGroups
    [(registers, .register),
      (qualifiers, .qualifier),
      (instructions, .instruction),
      (branches, .branch),
      (jumps, .jump),
      (returns, .ret)]

end Dialect.Wasm

/-!
## The vocabulary of LLVM IR

Type and predicate keywords are qualifiers.  Terminators are ordinary
instructions, so a listing in this dialect has no branches and no jumps.
-/

namespace Dialect.LlvmIr

/-- Words that qualify an operand. -/
def qualifiers : List String :=
  ["to", "new", "float", "double", "i1", "i32", "i16", "i64", "eq", "ne", "ugt", "uge", "ult",
    "ule", "sgt", "sge", "slt", "sle", "false", "true", "oeq", "ogt", "oge", "olt", "ole", "one",
    "ord", "ueq", "une", "uno"]

/-- Ordinary mnemonics. -/
def instructions : List String :=
  ["ret", "br", "switch", "indirectbr", "invoke", "callbr", "resume", "catchswitch", "catchret",
    "cleanupret", "unreachable", "add", "sub", "mul", "udiv", "sdiv", "urem", "srem", "shl", "lshr",
    "ashr", "and", "or", "xor", "extractvalue", "insertvalue", "alloca", "load", "store", "fence",
    "cmpxchg", "atomicrmw", "getelementptr", "trunc", "zext", "sext", "ptrtoint", "inttoptr",
    "bitcast", "addrspacecast", "icmp", "phi", "select", "freeze", "call", "va_arg", "landingpad",
    "catchpad", "cleanuppad"]

/-- Mnemonics of floating-point arithmetic. -/
def floatInstructions : List String :=
  ["fneg", "fadd", "fsub", "fmul", "fdiv", "frem", "fptrunc", "fpext", "fptoui", "fptosi", "uitofp",
    "sitofp", "fcmp"]

/-- Mnemonics of vector instructions. -/
def simdInstructions : List String :=
  ["extractelement", "insertelement", "shufflevector"]

/-- The keywords of the dialect. -/
def keywords : KeywordTable :=
  KeywordTable.ofGroups
    [(qualifiers, .qualifier),
      (instructions, .instruction),
      (floatInstructions, .instruction),
      (simdInstructions, .simd)]

end Dialect.LlvmIr

/-!
## Words of a dialect

Which characters make up a word of a dialect, and what kind of token the word
is.
-/

namespace Dialect

/-- The keywords of each dialect. -/
def keywords : Dialect → KeywordTable
  | .intel => Intel.keywords
  | .arm64 => Arm64.keywords
  | .wasm => Wasm.keywords
  | .llvmIr => LlvmIr.keywords

/-- The kind of token that a word is. -/
def classify (dialect : Dialect) (word : Text) : TokenKind :=
  dialect.keywords.lookup (String.ofList word)

/-- Whether a character continues a word. -/
def isWordChar (dialect : Dialect) (character : Char) : Bool :=
  character.isAlphanum || character == '_' || character == '@' ||
    (character == '.' && dialect != .wasm)

/-- Whether a character that does not continue a word may still end it. -/
def endsWord (dialect : Dialect) (character : Char) : Bool :=
  character == '.' && dialect == .wasm

end Dialect

/-!
## Packed and scalar vector instructions

In Intel syntax the last but one byte of a vector mnemonic tells whether it
works on all lanes (`addps`) or on one (`addss`).  Other dialects do not mark
the difference.
-/

/-- What the last but one byte of a vector mnemonic says. -/
def SimdKind.ofMnemonic (mnemonic : Text) : SimdKind :=
  match mnemonic.bytes.reverse with
  | _ :: mark :: _ =>
    if mark = 'p'.toUInt8 then .packed
    else if mark = 's'.toUInt8 then .scalar
    else .infrastructure
  | _ => .infrastructure

/-- The kind of a vector mnemonic, in a dialect that marks it. -/
def Dialect.simdKind? : Dialect → Text → Option SimdKind
  | .intel, mnemonic => some (SimdKind.ofMnemonic mnemonic)
  | _, _ => none

/-- The kind of a vector mnemonic, or an error in a dialect that does not mark
it. -/
def Dialect.simdKind (dialect : Dialect) (mnemonic : Text) : Except ListingError SimdKind :=
  match dialect.simdKind? mnemonic with
  | some kind => .ok kind
  | none => .error (.unsupportedSimd dialect)

end AsmListing
