import AsmListing.Token.Basic

/-!
# The vocabulary of Arm64

Branches without link, direct or through a register, are jumps, branches with
link are calls, and those on a condition or on the value of a register are
conditional branches.  Scalar floating-point mnemonics count as vector
instructions.
-/

namespace AsmListing.Dialect.Arm64

/-- The registers. -/
def registers : List String :=
  ["x0", "x1", "x2", "x3", "x4", "x5", "x6", "x7", "x8", "x9", "x10", "x11", "x12", "x13", "x14",
    "x15", "x16", "x17", "x18", "x19", "x20", "x21", "x22", "x23", "x24", "x25", "x26", "x27",
    "x28", "x29", "x30", "w0", "w1", "w2", "w3", "w4", "w5", "w6", "w7", "w8", "w9", "w10", "w11",
    "w12", "w13", "w14", "w15", "w16", "w17", "w18", "w19", "w20", "w21", "w22", "w23", "w24",
    "w25", "w26", "w27", "w28", "w29", "w30", "sp", "wsp", "xzr", "wzr", "lr", "fp", "pc", "v0",
    "v1", "v2", "v3", "v4", "v5", "v6", "v7", "v8", "v9", "v10", "v11", "v12", "v13", "v14", "v15",
    "v16", "v17", "v18", "v19", "v20", "v21", "v22", "v23", "v24", "v25", "v26", "v27", "v28",
    "v29", "v30", "v31", "q0", "q1", "q2", "q3", "q4", "q5", "q6", "q7", "q8", "q9", "q10", "q11",
    "q12", "q13", "q14", "q15", "q16", "q17", "q18", "q19", "q20", "q21", "q22", "q23", "q24",
    "q25", "q26", "q27", "q28", "q29", "q30", "q31", "d0", "d1", "d2", "d3", "d4", "d5", "d6", "d7",
    "d8", "d9", "d10", "d11", "d12", "d13", "d14", "d15", "d16", "d17", "d18", "d19", "d20", "d21",
    "d22", "d23", "d24", "d25", "d26", "d27", "d28", "d29", "d30", "d31", "s0", "s1", "s2", "s3",
    "s4", "s5", "s6", "s7", "s8", "s9", "s10", "s11", "s12", "s13", "s14", "s15", "s16", "s17",
    "s18", "s19", "s20", "s21", "s22", "s23", "s24", "s25", "s26", "s27", "s28", "s29", "s30",
    "s31", "h0", "h1", "h2", "h3", "h4", "h5", "h6", "h7", "h8", "h9", "h10", "h11", "h12", "h13",
    "h14", "h15", "h16", "h17", "h18", "h19", "h20", "h21", "h22", "h23", "h24", "h25", "h26",
    "h27", "h28", "h29", "h30", "h31", "b0", "b1", "b2", "b3", "b4", "b5", "b6", "b7", "b8", "b9",
    "b10", "b11", "b12", "b13", "b14", "b15", "b16", "b17", "b18", "b19", "b20", "b21", "b22",
    "b23", "b24", "b25", "b26", "b27", "b28", "b29", "b30", "b31"]

/-- Words that qualify an operand. -/
def qualifiers : List String :=
  ["lsl", "lsr", "asr", "ror", "msl", "uxtb", "uxth", "uxtw", "uxtx", "sxtb", "sxth", "sxtw",
    "sxtx", "eq", "ne", "cs", "hs", "cc", "lo", "mi", "pl", "vs", "vc", "hi", "ls", "ge", "lt",
    "gt", "le", "al", "nv"]

/-- Ordinary mnemonics. -/
def instructions : List String :=
  ["add", "adds", "sub", "subs", "cmp", "cmn", "adc", "adcs", "sbc", "sbcs", "neg", "negs", "madd",
    "msub", "smaddl", "smsubl", "smulh", "umaddl", "umsubl", "umulh", "udiv", "sdiv", "mul", "and",
    "ands", "tst", "orr", "orn", "eor", "eon", "bic", "bics", "mvn", "movn", "movk", "movz", "bfm",
    "ubfm", "sbfm", "extr", "rbit", "rev", "rev16", "rev32", "rev64", "clz", "cls", "lslv", "lsrv",
    "asrv", "rorv", "adr", "adrp", "ldp", "ldpsw", "ldr", "ldrb", "ldrsb", "ldrsw", "ldrsh", "ldrh",
    "ldtr", "ldtrb", "ldtrh", "ldtrsb", "ldtrsh", "ldtrsw", "ldur", "ldurb", "ldursb", "ldursw",
    "ldursh", "ldurh", "ldnp", "stp", "str", "strw", "strb", "strh", "sttr", "sttrb", "sttrh",
    "stur", "sturb", "sturh", "stnp", "csel", "csneg", "csinc", "csinv", "ccmn", "ccmp", "crc32b",
    "crc32h", "crc32w", "crc32x", "crc32cb", "crc32ch", "crc32cw", "crc32cx", "hint", "nop", "brk",
    "udf", "prfm", "prfum", "aese", "aesd", "aesmc", "aesimc", "sha1c", "sha1p", "sha1m", "sha1h",
    "sha1su0", "sha1su1", "sha256h", "sha256h2", "sha256su0", "sha256su1", "sha512h", "sha512h2",
    "sha512su0", "sha512su1", "sm3ss1", "sm3tt1a", "sm3tt1b", "sm3tt2a", "sm3tt2b", "sm3partw1",
    "sm3partw2", "sm4e", "sm4ekey", "rax1", "xar", "bcax", "eor3", "setf8", "setf16", "rmif",
    "ldxr", "ldxrb", "ldxrh", "ldxp", "ldaxr", "ldaxrb", "ldaxrh", "ldaxp", "stxr", "stxrb",
    "stxrh", "stxp", "stlxr", "stlxrb", "stlxrh", "stlxp", "swp", "swpb", "swph", "swpa", "swpab",
    "swpah", "swpal", "swpalb", "swpalh", "swpl", "swplb", "swplh", "ldadd", "ldadda", "ldaddal",
    "ldaddl", "ldaddb", "ldaddab", "ldaddalb", "ldaddlb", "ldaddh", "ldaddah", "ldaddalh",
    "ldaddlh", "ldclr", "ldclra", "ldclral", "ldclrl", "ldclrb", "ldclrab", "ldclralb", "ldclrlb",
    "ldclrh", "ldclrah", "ldclralh", "ldclrlh", "ldeor", "ldeora", "ldeoral", "ldeorl", "ldeorb",
    "ldeorab", "ldeoralb", "ldeorlb", "ldeorh", "ldeorah", "ldeoralh", "ldeorlh", "ldset", "ldseta",
    "ldsetal", "ldsetl", "ldsetb", "ldsetab", "ldsetalb", "ldsetlb", "ldseth", "ldsetah",
    "ldsetalh", "ldsetlh", "ldsmax", "ldsmaxa", "ldsmaxal", "ldsmaxl", "ldsmaxb", "ldsmaxab",
    "ldsmaxalb", "ldsmaxlb", "ldsmaxh", "ldsmaxah", "ldsmaxalh", "ldsmaxlh", "ldsmin", "ldsmina",
    "ldsminal", "ldsminl", "ldsminb", "ldsminab", "ldsminalb", "ldsminlb", "ldsminh", "ldsminah",
    "ldsminalh", "ldsminlh", "ldumax", "ldumaxa", "ldumaxal", "ldumaxl", "ldumaxb", "ldumaxab",
    "ldumaxalb", "ldumaxlb", "ldumaxh", "ldumaxah", "ldumaxalh", "ldumaxlh", "ldumin", "ldumina",
    "lduminal", "lduminl", "lduminb", "lduminab", "lduminalb", "lduminlb", "lduminh", "lduminah",
    "lduminalh", "lduminlh", "cas", "casa", "casal", "casl", "casb", "casab", "casalb", "caslb",
    "cash", "casah", "casalh", "caslh", "casp", "caspa", "caspal", "caspl", "clrex", "ldar",
    "ldarb", "ldarh", "ldlar", "ldlarb", "ldlarh", "ldapr", "ldaprb", "ldaprh", "ldapur", "ldapurb",
    "ldapurh", "ldapursb", "ldapursh", "ldapursw", "stlr", "stlrb", "stlrh", "stllr", "stllrb",
    "stllrh", "stlur", "stlurb", "stlurh", "ldraa", "ldrab", "svc", "hvc", "smc", "msr", "mrs",
    "sys", "sysl", "dcps1", "dcps2", "dcps3", "drps", "hlt", "isb", "sb", "ssbb", "pssbb", "pacia",
    "pacib", "pacda", "pacdb", "autia", "autib", "autda", "autdb", "paciza", "pacizb", "pacdza",
    "pacdzb", "autiza", "autizb", "autdza", "autdzb", "xpaci", "xpacd", "pacga", "paciasp",
    "paciaz", "pacia1716", "pacia171615", "paciasppc", "pacnbiasppc", "pacibsp", "pacibz",
    "pacib1716", "pacib171615", "pacibsppc", "pacnbibsppc", "autiasp", "autiaz", "autia1716",
    "autia171615", "autiasppc", "autiasppcr", "autibsp", "autibz", "autib1716", "autib171615",
    "autibsppc", "autibsppcr", "xpaclri", "pacm", "ldgm", "ldg", "stgm", "stzgm", "stg", "stzg",
    "st2g", "stz2g", "gmi", "irg", "subp", "subps", "mov", "cset", "csetm", "cinc", "cinv", "cneg",
    "mneg", "smnegl", "umnegl", "ubfx", "sbfx", "ubfiz", "sbfiz", "bfi", "bfxil", "dmb", "dsb",
    "yield", "wfe", "wfi", "sev", "sevl", "bti"]

/-- Mnemonics of calls. -/
def calls : List String :=
  ["bl", "blr", "blraa", "blraaz", "blrab", "blrabz"]

/-- Mnemonics of conditional branches. -/
def branches : List String :=
  ["b.eq", "b.ne", "b.hs", "b.lo", "b.mi", "b.pl", "b.vs", "b.vc", "b.hi", "b.ls", "b.ge", "b.lt",
    "b.gt", "b.le", "b.al", "b.nv", "bc.eq", "bc.ne", "bc.hs", "bc.lo", "bc.mi", "bc.pl", "bc.vs",
    "bc.vc", "bc.hi", "bc.ls", "bc.ge", "bc.lt", "bc.gt", "bc.le", "bc.al", "bc.nv", "tbz", "tbnz",
    "cbz", "cbnz"]

/-- Mnemonics of unconditional jumps. -/
def jumps : List String :=
  ["b", "br", "braa", "braaz", "brab", "brabz"]

/-- Mnemonics of returns. -/
def returns : List String :=
  ["eret", "eretaa", "eretab", "ret", "retaa", "retab", "retaasppc", "retabsppc", "retaasppcr",
    "retabsppcr"]

/-- Mnemonics of vector instructions. -/
def simdInstructions : List String :=
  ["st1", "st2", "st3", "st4", "ld1", "ld2", "ld3", "ld4", "ld1r", "ld2r", "ld3r", "ld4r", "shadd",
    "sqadd", "srhadd", "shsub", "sqsub", "uhadd", "uqadd", "urhadd", "uhsub", "uqsub", "addp",
    "addv", "addhn", "addhn2", "raddhn", "raddhn2", "subhn", "subhn2", "rsubhn", "rsubhn2", "cmgt",
    "cmge", "cmlt", "cmle", "cmeq", "cmhi", "cmhs", "cmtst", "sshr", "ssra", "srshr", "srsra",
    "shl", "sqshl", "shrn", "shrn2", "rshrn", "rshrn2", "sqshrn", "sqshrn2", "sqrshrn", "sqrshrn2",
    "sshll", "sshll2", "ushr", "usra", "urshr", "ursra", "sri", "sli", "sqshlu", "uqshl", "sqshrun",
    "sqshrun2", "sqrshrun", "sqrshrun2", "uqshrn", "uqshrn2", "uqrshrn", "uqrshrn2", "ushll",
    "ushll2", "shll", "shll2", "sshl", "srshl", "sqrshl", "ushl", "urshl", "uqrshl", "mla", "mls",
    "pmul", "pmull", "pmull2", "smull", "smull2", "umull", "umull2", "smlal", "smlal2", "umlal",
    "umlal2", "smlsl", "smlsl2", "umlsl", "umlsl2", "sqdmulh", "sqrdmulh", "sqdmull", "sqdmull2",
    "sqdmlal", "sqdmlal2", "sqdmlsl", "sqdmlsl2", "sqrdmlah", "sqrdmlsh", "smax", "smin", "umax",
    "umin", "smaxp", "sminp", "umaxp", "uminp", "smaxv", "sminv", "umaxv", "uminv", "sabd", "uabd",
    "saba", "uaba", "sabdl", "sabdl2", "uabdl", "uabdl2", "sabal", "sabal2", "uabal", "uabal2",
    "abs", "sqabs", "sqneg", "saddl", "saddl2", "saddw", "saddw2", "ssubl", "ssubl2", "ssubw",
    "ssubw2", "uaddl", "uaddl2", "uaddw", "uaddw2", "usubl", "usubl2", "usubw", "usubw2", "saddlp",
    "sadalp", "uaddlp", "uadalp", "saddlv", "uaddlv", "suqadd", "usqadd", "xtn", "xtn2", "sqxtn",
    "sqxtn2", "sqxtun", "sqxtun2", "uqxtn", "uqxtn2", "ins", "ext", "dup", "uzp1", "uzp2", "trn1",
    "trn2", "zip1", "zip2", "tbl", "tbx", "smov", "umov", "movi", "mvni", "bsl", "bit", "bif",
    "not", "cnt", "sdot", "udot", "urecpe", "ursqrte", "fmadd", "fmsub", "fnmadd", "fnmsub",
    "scvtf", "ucvtf", "fcvtzs", "fcvtzu", "fcvtns", "fcvtps", "fcvtms", "fcvtas", "fcvtnu",
    "fcvtmu", "fcvtau", "fcvtpu", "fcvtn", "fcvtn2", "fcvtl", "fcvtl2", "fcvtxn", "fcvtxn2",
    "bfcvt", "fcvt", "fjcvtzs", "fmov", "fabs", "fneg", "fsqrt", "frintn", "frintp", "frintm",
    "frintz", "frinta", "frintx", "frinti", "frint32z", "frint32x", "frint64z", "frint64x", "fcmp",
    "fcmpe", "fccmp", "fccmpe", "fcmeq", "fcmge", "fcmgt", "fcmle", "fcmlt", "fmul", "fdiv", "fadd",
    "fsub", "fmax", "fmin", "fmaxnm", "fminnm", "fnmul", "fmulx", "fabd", "fcsel", "fmla", "fmls",
    "fmlal", "fmlal2", "fmlsl", "fmlsl2", "fcmla", "fcadd", "fmaxnmv", "fminnmv", "fmaxv", "fminv",
    "faddp", "fmaxnmp", "fminnmp", "fmaxp", "fminp", "facge", "facgt", "frecpe", "frecpx", "frecps",
    "frsqrte", "frsqrts"]

/-- The codes of the conditions that may end a mnemonic. -/
def conditionCodes : List String :=
  ["eq", "ne", "cs", "hs", "cc", "lo", "mi", "pl", "vs", "vc", "hi", "ls", "ge", "lt", "gt", "le",
    "al", "nv"]

/-- The keywords of the dialect. -/
def keywords : KeywordTable :=
  KeywordTable.ofGroups
    [(registers, .register),
      (qualifiers, .qualifier),
      (instructions, .instruction),
      (calls, .call),
      (branches, .branch),
      (jumps, .jump),
      (returns, .ret),
      (simdInstructions, .simd)]

end AsmListing.Dialect.Arm64
